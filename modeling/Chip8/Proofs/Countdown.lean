-- What the timers stand at after any use of a console. A timer is set by one kind
-- of instruction, and goes down by one with every other instruction that is carried
-- out, before that instruction takes effect.
import Chip8.Proofs.Deeds
import Chip8.Proofs.Timers
namespace Chip8

open Instruction

/-! ## One timer -/

namespace Timer

variable {κ σ ρ : Type}

/-- What is left of a timer after a deed. -/
def elapse (t : Timer) (left : Nat) (d : Deed κ σ ρ) : Nat :=
  match t.source? d.instruction with
  | some x => (d.before.machine.reg x).toNat
  | none => left - 1

variable {t : Timer}

/-- A timer that is not set goes down to zero, one deed after the other. -/
theorem foldl_elapse_of_unset {ds : List (Deed κ σ ρ)}
    (h : ∀ d ∈ ds, t.source? d.instruction = none) (left : Nat) :
    ds.foldl t.elapse left = left - ds.length := by
  induction ds generalizing left with
  | nil => rfl
  | cons d rest ih =>
    obtain ⟨hd, hrest⟩ := List.forall_mem_cons.1 h
    have hfirst : t.elapse left d = left - 1 := by simp [elapse, hd]
    rw [List.foldl_cons, ih hrest, hfirst, List.length_cons]
    omega

/-- The last deed that set the timer put a value into it, some deeds ago. -/
def LastSet (t : Timer) (ds : List (Deed κ σ ρ)) (v ago : Nat) : Prop :=
  ∃ front d x back, ds = front ++ d :: back ∧ t.source? d.instruction = some x ∧
    (∀ b ∈ back, t.source? b.instruction = none) ∧
    v = (d.before.machine.reg x).toNat ∧ ago = back.length

/-- What came before the timer was set makes no difference to it. -/
theorem LastSet.foldl_elapse {ds : List (Deed κ σ ρ)} {v ago : Nat} (h : t.LastSet ds v ago)
    (left : Nat) : ds.foldl t.elapse left = v - ago := by
  obtain ⟨front, d, x, back, rfl, hd, hback, rfl, rfl⟩ := h
  have hset : t.elapse (front.foldl t.elapse left) d = (d.before.machine.reg x).toNat := by
    simp [elapse, hd]
  rw [List.foldl_append, List.foldl_cons, hset, foldl_elapse_of_unset hback]

end Timer

/-! ## Timers of a console -/

namespace Console

variable {κ σ ρ : Type} [Keypad κ] [Screen σ] [RandomSource ρ] {c c' : Console κ σ ρ}

theorem toNat_timer_of_carried {i : Instruction} (h : c.Carried i c') (t : Timer) :
    (c'.machine.timer t).toNat = t.elapse (c.machine.timer t).toNat ⟨c, i⟩ :=
  h.footprint.timer t

/-- An operation other than a reset that carries out nothing leaves the timers. -/
theorem timer_of_no_deed {op : Operation} (h : c.deed? op = none) (hreset : op ≠ .reset)
    (t : Timer) : (c.operate op).machine.timer t = c.machine.timer t := by
  cases op with
  | command a =>
    rcases c.obey_cases a with ⟨f, -, hmachine⟩ | ⟨i, htried, hanswer, -⟩
    · simp [operate, hmachine]
    · rw [deed?_of_ok htried hanswer] at h
      cases h
  | load values =>
    simp only [operate, load]
    split <;> cases t <;> rfl
  | loadFile file contents => cases contents <;> cases t <;> rfl
  | reset => exact absurd rfl hreset
  | screen call => rfl

/-- Without a reset, nothing but the deeds has to do with a timer. -/
theorem toNat_timer_operations {ops : List Operation} (hresets : ∀ op ∈ ops, op ≠ .reset)
    (t : Timer) :
    ((ops.foldl operate c).machine.timer t).toNat =
      (c.deeds ops).foldl t.elapse (c.machine.timer t).toNat := by
  induction ops generalizing c with
  | nil => rfl
  | cons op rest ih =>
    obtain ⟨hop, hrest⟩ := List.forall_mem_cons.1 hresets
    rw [List.foldl_cons, ih hrest, deeds, List.foldl_append]
    congr 1
    cases hdeed : c.deed? op with
    | none => exact congrArg UInt8.toNat (timer_of_no_deed hdeed hop t)
    | some d =>
      obtain ⟨hbefore, hcarried⟩ := carried_of_deed hdeed
      obtain ⟨before, i⟩ := d
      cases hbefore
      exact toNat_timer_of_carried hcarried t

/-- To read the delay timer never fails. What is read is one less than the timer
stood at, since the timers tick first. -/
theorem obey_getDelay {a : Command} {y : Int} (htried : c.tried a = .ok (getDelay y)) :
    (c.obey a).1 = .ok () ∧
      ((c.obey a).2.machine.reg y).toNat = (c.machine.timer .delay).toNat - 1 := by
  obtain ⟨hanswer, hmachine⟩ := obey_of_perform htried rfl
  refine ⟨hanswer, ?_⟩
  rw [hmachine, Machine.reg_setReg_self]
  exact Machine.toNat_timer_tick c.machine .delay

/-- A timer counts down from the value that was put into it last, or from what it
stood at first, by one for each instruction carried out since, and stops at zero.
Who reads the delay timer by the `j`-th instruction after it was set gets the value
less `j`. -/
theorem timers_count_down (c : Console κ σ ρ) (ops : List Operation)
    (hresets : ∀ op ∈ ops, op ≠ .reset) :
    let e := ops.foldl operate c
    (∀ t : Timer,
      ((∀ d ∈ c.deeds ops, t.source? d.instruction = none) →
        (e.machine.timer t).toNat = (c.machine.timer t).toNat - (c.deeds ops).length) ∧
      ∀ v ago, t.LastSet (c.deeds ops) v ago → (e.machine.timer t).toNat = v - ago) ∧
    ∀ a y, e.tried a = .ok (getDelay y) →
      (e.obey a).1 = .ok () ∧
      ∀ v ago, Timer.delay.LastSet (c.deeds ops) v ago →
        ((e.obey a).2.machine.reg y).toNat = v - (ago + 1) := by
  intro e
  have hcount (t : Timer) := toNat_timer_operations (c := c) hresets t
  refine ⟨fun t => ⟨?_, ?_⟩, ?_⟩
  · intro hunset
    rw [hcount t, Timer.foldl_elapse_of_unset hunset]
  · intro v ago hset
    rw [hcount t, hset.foldl_elapse]
  · intro a y htried
    obtain ⟨hanswer, hread⟩ := obey_getDelay htried
    refine ⟨hanswer, ?_⟩
    intro v ago hset
    rw [hread, hcount .delay, hset.foldl_elapse]
    omega

/-- Both timers are set to 5. A return that fails and a load count for nothing, a
sound that is set in between does not count for the delay either way, and the third
instruction after the delay was set reads 2. -/
theorem delay_is_read_three_instructions_later :
    ∃ c e : Console SilentKeypad Grid Splitting, ∃ ops : List Operation,
      e = ops.foldl operate c ∧ (∀ op ∈ ops, op ≠ .reset) ∧
      Timer.delay.LastSet (c.deeds ops) 5 2 ∧ Timer.sound.LastSet (c.deeds ops) 5 1 ∧
      (e.machine.timer .delay).toNat = 3 ∧ (e.machine.timer .sound).toNat = 4 ∧
      (e.obey (.word 0xF307)).1 = .ok () ∧ ((e.obey (.word 0xF307)).2.machine.reg 3).toNat = 2 := by
  let c := byHand [setConst 0 5]
  let ops : List Operation := [.command (.execute (setDelay 0)), .command (.word 0x00EE),
    .command (.word 0xF018), .load [1, 2], .command (.execute clearScreen)]
  have hresets : ∀ op ∈ ops, op ≠ .reset := by simp [ops]
  let later := (c.execute (setDelay 0)).2
  have hdeeds : c.deeds ops =
      [⟨c, setDelay 0⟩, ⟨(later.executeWord 0x00EE).2, setSound 0⟩,
        ⟨(((later.executeWord 0x00EE).2.executeWord 0xF018).2.load [1, 2]).2, clearScreen⟩] := rfl
  have hdelay : Timer.delay.LastSet (c.deeds ops) 5 2 :=
    ⟨[], _, 0, _, hdeeds, rfl, by simp [Timer.source?], rfl, rfl⟩
  have hsound : Timer.sound.LastSet (c.deeds ops) 5 1 :=
    ⟨[⟨c, setDelay 0⟩], _, 0, _, hdeeds, rfl, by simp [Timer.source?], rfl, rfl⟩
  obtain ⟨htimers, hreads⟩ := timers_count_down c ops hresets
  obtain ⟨hanswer, hread⟩ := hreads (.word 0xF307) 3 rfl
  exact ⟨c, _, ops, rfl, hresets, hdelay, hsound, (htimers .delay).2 5 2 hdelay,
    (htimers .sound).2 5 1 hsound, hanswer, hread 5 2 hdelay⟩

end Console

end Chip8
