-- A key buffer drops stale keypresses from its front only, and only when it is
-- called. It gives the same answers as one that sweeps them out wherever they
-- stand, so it does not matter how often one looks at it.
import Chip8.Proofs.BufferCalls
namespace Chip8

namespace KeyBuffer

/-! ## The eager buffer -/

/-- Whether an act looks at the keys and takes none. -/
def Act.looks {κ : Type} : Act κ → Bool
  | .peek | .size => true
  | _ => false

/-- Makes a call on a buffer that is swept when a key comes or goes: every
stale keypress is thrown out, wherever it stands, and the oldest one if there
is one too many. A look changes nothing. -/
def performEagerly {κ τ : Type} [Time τ] (b : KeyBuffer κ τ) (c : Call κ τ) :
    Answer κ × KeyBuffer κ τ :=
  let fresh := b.presses.filter fun p => b.Fresh c.time p
  match c.act with
  | .push key =>
    let presses := fresh ++ [⟨key, c.time⟩]
    let overfull := b.capacity.any (· < presses.length)
    (.done, { b with presses := if overfull then presses.tail else presses })
  | .peek => (.seen (fresh.getLast?.map (·.key)), b)
  | .pop => (.given (fresh.head?.map (·.key)), { b with presses := fresh.tail })
  | .size => (.count fresh.length, b)
  | .clear => (.done, { b with presses := [] })

section
variable {κ : Type} {b e : KeyBuffer κ Rat} {c : Call κ Rat} {calls : List (Call κ Rat)}

theorem lastOf_concat {capacity : Option Nat} {l : List (Keypress κ Rat)} (p : Keypress κ Rat)
    (h : ∀ n ∈ capacity, l.length ≤ n) :
    lastOf capacity (l ++ [p]) =
      if capacity.any (· < (l ++ [p]).length) then (l ++ [p]).tail else l ++ [p] := by
  cases capacity with
  | none => rfl
  | some n =>
    have hroom : l.length ≤ n := h n rfl
    simp only [lastOf, Option.any_some, decide_eq_true_eq, List.length_append,
      List.length_singleton]
    split
    · rw [show l.length + 1 - n = 1 by omega, List.drop_one]
    · rw [show l.length + 1 - n = 0 by omega, List.drop_zero]

theorem performEagerly_eq (h : ∀ n ∈ b.capacity, (b.fresh c.time).length ≤ n) :
    b.performEagerly c =
      (c.answer (b.fresh c.time),
        if c.act.looks then b else { b with presses := c.left b.capacity (b.fresh c.time) }) := by
  unfold performEagerly Call.answer Call.left
  cases c.act with
  | push key =>
    simp only [lastOf_concat _ h]
    rfl
  | _ => rfl

/-! ## Agreement -/

/-- Two buffers hold the same fresh keypresses whenever they are called. -/
structure Agrees (b e : KeyBuffer κ Rat) (calls : List (Call κ Rat)) : Prop where
  timeout : e.timeout = b.timeout
  capacity : e.capacity = b.capacity
  fresh : ∀ c ∈ calls, e.fresh c.time = b.fresh c.time

theorem filter_fresh {now later : Rat} (h : now ≤ later) :
    (b.fresh now).filter (fun p => b.Fresh later p) = b.fresh later := by
  simp only [fresh, List.filter_filter]
  refine List.filter_congr fun p _ => ?_
  by_cases hp : b.Fresh later p
  · simp [hp, hp.mono h]
  · simp [hp]

/-- A call has the same answer on both, and they go on to agree. -/
theorem Agrees.perform (hb : b.Precedes (c :: calls)) (h : b.Agrees e (c :: calls)) :
    (b.perform c).1 = (e.performEagerly c).1 ∧
      (b.perform c).2.Agrees (e.performEagerly c).2 calls := by
  have hfresh : e.fresh c.time = b.fresh c.time := h.fresh c List.mem_cons_self
  have hroom : ∀ n ∈ e.capacity, (e.fresh c.time).length ≤ n := by
    rw [h.capacity, hfresh]
    exact fun n hn => (fresh_suffix hb.sorted c.time).length_le.trans (hb.fits n hn)
  rw [hb.perform_eq, performEagerly_eq hroom, hfresh, h.capacity]
  refine ⟨rfl, ?_⟩
  cases hlooks : c.act.looks with
  | false =>
    simp only [Bool.false_eq_true, if_false]
    refine ⟨h.timeout, rfl, fun c' _ => ?_⟩
    rw [h.timeout]
  | true =>
    have hleft : c.left b.capacity (b.fresh c.time) = b.fresh c.time := by
      unfold Call.left
      cases hact : c.act <;> simp [hact, Act.looks] at hlooks ⊢
    simp only [if_true, hleft]
    refine ⟨h.timeout, h.capacity, fun c' hc' => ?_⟩
    have hle := (List.pairwise_cons.1 hb.chronological).1 c' hc'
    exact (h.fresh c' (List.mem_cons_of_mem _ hc')).trans (filter_fresh hle).symm

theorem answers_eq_answers_eager (hb : b.Precedes calls) (h : b.Agrees e calls) :
    answers perform b calls = answers performEagerly e calls := by
  induction calls generalizing b e with
  | nil => rfl
  | cons c rest ih =>
    obtain ⟨hanswer, hagrees⟩ := h.perform hb
    exact congrArg₂ List.cons hanswer (ih hb.perform hagrees)

/-! ## Looks -/

/-- The elements of a list that bear no mark. -/
def unmarked {α : Type} (l : List (α × Bool)) : List α := (l.filter fun a => !a.2).map (·.1)

/-- The eager buffer does not notice that it was looked at. -/
theorem answers_eager_unmarked {marked : List (Call κ Rat × Bool)}
    (h : ∀ a ∈ marked, a.2 = true → a.1.act.looks = true) :
    answers performEagerly e (unmarked marked) =
      unmarked ((answers performEagerly e (marked.map (·.1))).zip (marked.map (·.2))) := by
  induction marked generalizing e with
  | nil => rfl
  | cons a rest ih =>
    obtain ⟨c, mark⟩ := a
    obtain ⟨hfirst, hrest⟩ := List.forall_mem_cons.1 h
    cases mark with
    | false => exact congrArg _ (ih hrest)
    | true =>
      have hsame : (e.performEagerly c).2 = e := by
        have hlooks := hfirst rfl
        unfold performEagerly
        cases hact : c.act <;> simp [hact, Act.looks] at hlooks ⊢
      have hlater := ih (e := (e.performEagerly c).2) hrest
      rw [hsame] at hlater
      show answers performEagerly e (unmarked rest) = unmarked (((e.performEagerly c).1 ::
        answers performEagerly (e.performEagerly c).2 (rest.map (·.1))).zip
          (true :: rest.map (·.2)))
      rw [hsame, hlater]
      rfl

theorem unmarked_sublist {α : Type} (l : List (α × Bool)) : (unmarked l).Sublist (l.map (·.1)) :=
  List.Sublist.map _ List.filter_sublist

/-! ## The buffer under any calls -/

/-- Calls under a clock that never goes back keep the keypresses in the order
of time and within the capacity, and whatever a call leaves of what was there
before is fresh. The answers are those of the eager buffer, and they stay the
same if some looks, here those with a mark, are left out. -/
theorem stale_keys_make_no_difference (timeout : Rat) (capacity : Option Nat)
    (calls : List (Call κ Rat)) (h : Chronological calls) :
    let b : KeyBuffer κ Rat := ⟨timeout, capacity, []⟩
    (∀ front back, calls = front ++ back →
      (after perform b front).presses.Pairwise (fun p q => p.time ≤ q.time) ∧
      ∀ n ∈ capacity, (after perform b front).presses.length ≤ n) ∧
    (∀ front c back, calls = front ++ c :: back →
      ∃ kept, kept <:+ (after perform b front).presses ∧
        (∀ p ∈ kept, c.time - p.time < timeout) ∧
        ((after perform b (front ++ [c])).presses = kept ∨ ∃ key, c.act = .push key ∧
          (after perform b (front ++ [c])).presses = kept ++ [⟨key, c.time⟩])) ∧
    answers perform b calls = answers performEagerly b calls ∧
    ∀ marked : List (Call κ Rat × Bool), marked.map (·.1) = calls →
      (∀ a ∈ marked, a.2 = true → a.1.act.looks = true) →
      answers perform b (unmarked marked) =
        unmarked ((answers perform b calls).zip (marked.map (·.2))) := by
  intro b
  have heager {calls : List (Call κ Rat)} (h : Chronological calls) :
      answers perform b calls = answers performEagerly b calls :=
    answers_eq_answers_eager (.of_empty h) ⟨rfl, rfl, fun _ _ => rfl⟩
  refine ⟨?_, ?_, heager h, ?_⟩
  · rintro front back rfl
    have hpause := (Precedes.of_empty h : b.Precedes _).after
    have hcapacity : (after perform b front).capacity = capacity := capacity_after b front
    exact ⟨hpause.sorted, hcapacity ▸ hpause.fits⟩
  · rintro front c back rfl
    have hpause := (Precedes.of_empty h : b.Precedes _).after
    have htimeout : (after perform b front).timeout = timeout := timeout_after b front
    obtain ⟨kept, hkept, hfresh, hleft⟩ := hpause.left_eq
    rw [after_append]
    exact ⟨kept, hkept, fun p hp => htimeout ▸ hfresh p hp, hleft⟩
  · rintro marked rfl hlooks
    rw [heager h, heager (h.sublist (unmarked_sublist marked)), answers_eager_unmarked hlooks]

/-- The first key is stale when it is looked at, and the second one is given
whether or not anybody looks. -/
theorem stale_key_makes_no_difference :
    let b : KeyBuffer Int Rat := ⟨1, some 2, []⟩
    let calls : List (Call Int Rat) :=
      [⟨.push 5, 0⟩, ⟨.push 6, 1 / 2⟩, ⟨.peek, 1⟩, ⟨.pop, 5 / 4⟩, ⟨.push 7, 3 / 2⟩, ⟨.size, 3⟩]
    Chronological calls ∧ answers perform b calls = answers performEagerly b calls ∧
      answers perform b (calls.eraseIdx 2) = [.done, .done, .given (some 6), .done, .count 0] := by
  intro b calls
  have hcalls : Chronological calls := by
    unfold Chronological
    decide +kernel
  obtain ⟨-, -, heager, hunmarked⟩ := stale_keys_make_no_difference 1 (some 2) calls hcalls
  refine ⟨hcalls, heager, ?_⟩
  have h := hunmarked (calls.zip [false, false, true, false, false, false]) rfl (by decide)
  exact h.trans (by decide +kernel)

end

end KeyBuffer

end Chip8
