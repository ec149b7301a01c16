-- What comes of the use of a console: the instructions that are carried out, in
-- their order. A command that fails carries out none, nor does a load, a reset or a
-- call to the screen.
import Chip8.Proofs.Calls
namespace Chip8

open Instruction

namespace Console

variable {κ σ ρ : Type} [Keypad κ] [Screen σ] [RandomSource ρ]

/-- The instruction that an operation carries out, if any. -/
def deed? (c : Console κ σ ρ) : Operation → Option (Deed κ σ ρ)
  | .command a =>
    match (c.obey a).1, c.tried a with
    | .ok (), .ok i => some ⟨c, i⟩
    | _, _ => none
  | _ => none

/-- The instructions that operations carry out. -/
def deeds (c : Console κ σ ρ) : List Operation → List (Deed κ σ ρ)
  | [] => []
  | op :: rest => (c.deed? op).toList ++ deeds (c.operate op) rest

variable {c : Console κ σ ρ}

theorem deed?_of_error {a : Command} {f : Fault} (h : (c.obey a).1 = .error f) :
    c.deed? (.command a) = none := by
  simp [deed?, h]

theorem deed?_of_ok {a : Command} {i : Instruction} (htried : c.tried a = .ok i)
    (hanswer : (c.obey a).1 = .ok ()) : c.deed? (.command a) = some ⟨c, i⟩ := by
  simp [deed?, hanswer, htried]

/-- A deed was carried out in one way or the other. -/
theorem carried_of_deed {op : Operation} {e : Deed κ σ ρ} (h : c.deed? op = some e) :
    e.before = c ∧ c.Carried e.instruction (c.operate op) := by
  cases op with
  | command a =>
    rcases c.obey_cases a with ⟨f, hanswer, -⟩ | ⟨i, htried, hanswer, -⟩
    · rw [deed?_of_error hanswer] at h
      cases h
    rw [deed?_of_ok htried hanswer] at h
    cases h
    refine ⟨rfl, ?_⟩
    have hobey : c.obey a = (.ok (), c.operate (.command a)) := Prod.ext hanswer rfl
    cases a with
    | step => exact .inl ⟨htried, hobey⟩
    | execute j =>
      obtain ⟨-, rfl⟩ := validate_eq_ok_iff.1 htried
      exact .inr hobey
    | word w =>
      have hword : ofWord w = .ok i := htried
      have hexecute : c.executeWord w = c.execute i := by
        unfold executeWord
        rw [hword]
      exact .inr (hexecute.symm.trans hobey)
  | load | loadFile | reset | screen => cases h

end Console

end Chip8
