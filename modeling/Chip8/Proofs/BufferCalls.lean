-- Calls to a key buffer, one after the other, each with the time that it reads
-- from the clock. While the clock never goes back, a buffer holds its
-- keypresses in the order of time, and what a call answers and leaves depends
-- on the fresh ones only.
import Mathlib.Algebra.Order.Ring.Rat
import Mathlib.Data.List.Basic
import Mathlib.Tactic.Linarith
import Chip8.Proofs.Calls
namespace Chip8

namespace KeyBuffer

/-! ## Calls -/

/-- What can be asked of a key buffer. -/
inductive Act (κ : Type) where
  | push (key : κ)
  | peek
  | pop
  | size
  | clear
deriving DecidableEq, Repr

/-- A call to a key buffer at a time. -/
structure Call (κ τ : Type) where
  act : Act κ
  time : τ
deriving DecidableEq, Repr

/-- What a call answers. -/
inductive Answer (κ : Type) where
  | done
  | seen (key : Option κ)
  | given (key : Option κ)
  | count (n : Nat)
deriving DecidableEq, Repr

/-- Calls under a clock that never goes back. -/
def Chronological {κ : Type} (calls : List (Call κ Rat)) : Prop :=
  calls.Pairwise fun c c' => c.time ≤ c'.time

section
variable {κ τ : Type}

theorem length_lastOf_le {n : Nat} (l : List (Keypress κ τ)) :
    (lastOf (some n) l).length ≤ n := by
  simp only [lastOf, List.length_drop]
  omega

theorem lastOf_suffix (capacity : Option Nat) (l : List (Keypress κ τ)) :
    lastOf capacity l <:+ l := by
  cases capacity with
  | none => exact List.suffix_refl l
  | some n => exact List.drop_suffix _ l

variable [Time τ]

def perform (b : KeyBuffer κ τ) (c : Call κ τ) : Answer κ × KeyBuffer κ τ :=
  match c.act with
  | .push key => (.done, b.push c.time key)
  | .peek => (b.peek c.time).map .seen id
  | .pop => (b.pop c.time).map .given id
  | .size => (b.size c.time).map .count id
  | .clear => (.done, b.clear)

/-- The answer to a call when these are the fresh keypresses. -/
def Call.answer (c : Call κ τ) (fresh : List (Keypress κ τ)) : Answer κ :=
  match c.act with
  | .push _ | .clear => .done
  | .peek => .seen (fresh.getLast?.map (·.key))
  | .pop => .given (fresh.head?.map (·.key))
  | .size => .count fresh.length

/-- The keypresses that a call leaves when these are the fresh ones. -/
def Call.left (c : Call κ τ) (capacity : Option Nat) (fresh : List (Keypress κ τ)) :
    List (Keypress κ τ) :=
  match c.act with
  | .push key => lastOf capacity (fresh ++ [⟨key, c.time⟩])
  | .peek | .size => fresh
  | .pop => fresh.tail
  | .clear => []

variable (b : KeyBuffer κ τ) (c : Call κ τ)

theorem timeout_perform : (b.perform c).2.timeout = b.timeout := by
  unfold perform
  split <;> try rfl
  unfold pop
  simp only [Prod.map]
  split <;> rfl

theorem capacity_perform : (b.perform c).2.capacity = b.capacity := by
  unfold perform
  split <;> try rfl
  unfold pop
  simp only [Prod.map]
  split <;> rfl

theorem timeout_after (calls : List (Call κ τ)) : (after perform b calls).timeout = b.timeout := by
  induction calls generalizing b with
  | nil => rfl
  | cons c rest ih => exact (ih _).trans (timeout_perform b c)

theorem capacity_after (calls : List (Call κ τ)) :
    (after perform b calls).capacity = b.capacity := by
  induction calls generalizing b with
  | nil => rfl
  | cons c rest ih => exact (ih _).trans (capacity_perform b c)

/-- A call on a buffer whose stale keypresses are all in front. -/
theorem perform_of_cleaned (h : (b.cleaned c.time).presses = b.fresh c.time) :
    b.perform c =
      (c.answer (b.fresh c.time), { b with presses := c.left b.capacity (b.fresh c.time) }) := by
  unfold perform Call.answer Call.left
  rw [← h]
  cases c.act with
  | pop =>
    simp only [pop]
    cases hpresses : (b.cleaned c.time).presses with
    | nil => exact congrArg (Answer.given none, { b with presses := · }) hpresses
    | cons p rest => rfl
  | _ => rfl

end

/-! ## Order -/

section
variable {κ : Type} {b : KeyBuffer κ Rat} {c : Call κ Rat} {calls : List (Call κ Rat)}

theorem Fresh.mono {p : Keypress κ Rat} {now later : Rat} (h : now ≤ later)
    (hp : b.Fresh later p) : b.Fresh now p := by
  unfold Fresh at *
  linarith

theorem mem_fresh {p : Keypress κ Rat} {now : Rat} :
    p ∈ b.fresh now ↔ p ∈ b.presses ∧ b.Fresh now p := by
  simp [fresh]

/-- The buffer may be called so: its keypresses are in the order of time and
fit, and none is later than a call. -/
structure Precedes (b : KeyBuffer κ Rat) (calls : List (Call κ Rat)) : Prop where
  sorted : b.presses.Pairwise fun p q => p.time ≤ q.time
  fits : ∀ n ∈ b.capacity, b.presses.length ≤ n
  past : ∀ p ∈ b.presses, ∀ c ∈ calls, p.time ≤ c.time
  chronological : Chronological calls

theorem Precedes.of_empty {timeout : Rat} {capacity : Option Nat} (h : Chronological calls) :
    Precedes ⟨timeout, capacity, []⟩ calls :=
  ⟨.nil, fun _ _ => Nat.zero_le _, nofun, h⟩

theorem dropWhile_not_eq_filter {α : Type} {p : α → Bool} {l : List α}
    (h : l.Pairwise fun a b => p a = true → p b = true) :
    (l.dropWhile fun a => !p a) = l.filter p := by
  induction l with
  | nil => rfl
  | cons a rest ih =>
    obtain ⟨hfirst, hrest⟩ := List.pairwise_cons.1 h
    cases hp : p a with
    | true =>
      rw [List.dropWhile_cons_of_neg (by simp [hp]), List.filter_cons_of_pos hp,
        List.filter_eq_self.2 fun b hb => hfirst b hb hp]
    | false =>
      rw [List.dropWhile_cons_of_pos (by simp [hp]), List.filter_cons_of_neg (by simp [hp]),
        ih hrest]

/-- In the order of time, the stale keypresses are all in front. -/
theorem presses_cleaned (h : b.presses.Pairwise fun p q => p.time ≤ q.time) (now : Rat) :
    (b.cleaned now).presses = b.fresh now := by
  simp only [cleaned, fresh, decide_not]
  refine dropWhile_not_eq_filter (h.imp fun {p q} hle hp => decide_eq_true ?_)
  have hyoung : now - p.time < b.timeout := of_decide_eq_true hp
  show now - q.time < b.timeout
  linarith

theorem fresh_suffix (h : b.presses.Pairwise fun p q => p.time ≤ q.time) (now : Rat) :
    b.fresh now <:+ b.presses := by
  rw [← presses_cleaned h]
  exact List.dropWhile_suffix _

theorem Precedes.perform_eq (h : b.Precedes (c :: calls)) :
    b.perform c =
      (c.answer (b.fresh c.time), { b with presses := c.left b.capacity (b.fresh c.time) }) :=
  perform_of_cleaned b c (presses_cleaned h.sorted c.time)

/-- A call leaves keypresses of before, all of them fresh, and the one that it
makes behind them. -/
theorem Precedes.left_eq (h : b.Precedes (c :: calls)) :
    ∃ kept, kept <:+ b.presses ∧ (∀ p ∈ kept, b.Fresh c.time p) ∧
      ((b.perform c).2.presses = kept ∨
        ∃ key, c.act = .push key ∧ (b.perform c).2.presses = kept ++ [⟨key, c.time⟩]) := by
  have hsuffix := fresh_suffix h.sorted c.time
  have hfresh : ∀ p ∈ b.fresh c.time, b.Fresh c.time p := fun p hp => (mem_fresh.1 hp).2
  have hpart {l : List (Keypress κ Rat)} (hl : l <:+ b.fresh c.time) :
      l <:+ b.presses ∧ ∀ p ∈ l, b.Fresh c.time p :=
    ⟨hl.trans hsuffix, fun p hp => hfresh p (hl.mem hp)⟩
  rw [h.perform_eq]
  cases hact : c.act with
  | push key =>
    simp only [Call.left, hact]
    rcases List.suffix_concat_iff.1 (lastOf_suffix b.capacity _) with hnone | ⟨l, hl, hsuf⟩
    · exact ⟨[], List.nil_suffix, nofun, .inl hnone⟩
    · exact ⟨l, (hpart hsuf).1, (hpart hsuf).2, .inr ⟨key, rfl, hl⟩⟩
  | peek | size =>
    simp only [Call.left, hact]
    exact ⟨_, hsuffix, hfresh, .inl rfl⟩
  | pop =>
    simp only [Call.left, hact]
    exact ⟨_, (hpart (List.tail_suffix _)).1, (hpart (List.tail_suffix _)).2, .inl rfl⟩
  | clear =>
    simp only [Call.left, hact]
    exact ⟨[], List.nil_suffix, nofun, .inl rfl⟩

/-- A call keeps the order of time. -/
theorem Precedes.perform (h : b.Precedes (c :: calls)) : (b.perform c).2.Precedes calls := by
  obtain ⟨hfirst, hrest⟩ := List.pairwise_cons.1 h.chronological
  obtain ⟨kept, hkept, -, hleft⟩ := h.left_eq
  have hsorted := h.sorted.sublist hkept.sublist
  have hpast : ∀ p ∈ kept, p.time ≤ c.time := fun p hp =>
    h.past p (hkept.mem hp) c List.mem_cons_self
  refine ⟨?_, ?_, fun p hp c' hc' => ?_, hrest⟩
  · rcases hleft with hleft | ⟨key, -, hleft⟩
    · rw [hleft]
      exact hsorted
    · rw [hleft]
      refine List.pairwise_append.2 ⟨hsorted, List.pairwise_singleton _ _, fun p hp q hq => ?_⟩
      rw [List.mem_singleton.1 hq]
      exact hpast p hp
  · intro n hn
    rw [capacity_perform] at hn
    rw [h.perform_eq]
    have hroom : (b.fresh c.time).length ≤ n :=
      (fresh_suffix h.sorted c.time).length_le.trans (h.fits n hn)
    cases hact : c.act with
    | push key =>
      simp only [Call.left, hact]
      rw [hn]
      exact length_lastOf_le _
    | peek | size =>
      simp only [Call.left, hact]
      exact hroom
    | pop =>
      simp only [Call.left, hact, List.length_tail]
      omega
    | clear =>
      simp only [Call.left, hact]
      exact Nat.zero_le _
  · have hle : p.time ≤ c.time := by
      rcases hleft with hleft | ⟨key, -, hleft⟩
      · exact hpast p (hleft ▸ hp)
      · rw [hleft, List.mem_append, List.mem_singleton] at hp
        rcases hp with hp | rfl
        · exact hpast p hp
        · exact le_refl _
    exact hle.trans (hfirst c' hc')

theorem Precedes.after {front back : List (Call κ Rat)} (h : b.Precedes (front ++ back)) :
    (after KeyBuffer.perform b front).Precedes back := by
  induction front generalizing b with
  | nil => exact h
  | cons c rest ih => exact ih h.perform

end

end KeyBuffer

end Chip8
