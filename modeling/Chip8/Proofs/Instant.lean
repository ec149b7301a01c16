-- Time that passes up to an instant at which something is due. All of it
-- happens then, and of the keys pressed at the instant those are in the buffer
-- that fit.
import Mathlib.Data.List.TakeWhile
import Chip8.Proofs.KeyboardCalls
namespace Chip8

/-! ## Pushes at one time -/

namespace KeyBuffer

section
variable {κ τ : Type}

/-- What was dropped before makes no difference to what is dropped in the end. -/
theorem lastOf_append (capacity : Option Nat) (l m : List (Keypress κ τ)) :
    lastOf capacity (lastOf capacity l ++ m) = lastOf capacity (l ++ m) := by
  cases capacity with
  | none => rfl
  | some n =>
    simp only [lastOf, List.length_append, List.length_drop, List.drop_append, List.drop_drop]
    congr 2 <;> omega

theorem lastOf_nil (capacity : Option Nat) : lastOf capacity ([] : List (Keypress κ τ)) = [] := by
  cases capacity <;> simp [lastOf]

theorem lastOf_ne_nil {capacity : Option Nat} {l : List (Keypress κ τ)} (hroom : capacity ≠ some 0)
    (hl : l ≠ []) : lastOf capacity l ≠ [] := by
  cases capacity with
  | none => exact hl
  | some n =>
    have hn : n ≠ 0 := fun hzero => hroom (congrArg some hzero)
    have hpos := List.length_pos_iff.2 hl
    intro hnil
    have hlength := congrArg List.length hnil
    simp only [lastOf, List.length_drop, List.length_nil] at hlength
    omega

end

variable {κ : Type} {b : KeyBuffer κ Rat} {now : Rat}

theorem cleaned_of_fresh (h : ∀ p ∈ b.presses, b.Fresh now p) : b.cleaned now = b := by
  have hnone : b.presses.dropWhile (fun p => ¬ b.Fresh now p) = b.presses := by
    rw [List.dropWhile_eq_self_iff]
    intro hl
    simpa using h _ (List.getElem_mem hl)
  unfold cleaned
  rw [hnone]

theorem cleaned_of_stale (h : ∀ p ∈ b.presses, ¬ b.Fresh now p) :
    b.cleaned now = { b with presses := [] } := by
  have hall : b.presses.dropWhile (fun p => ¬ b.Fresh now p) = [] :=
    List.dropWhile_eq_nil_iff.2 fun p hp => decide_eq_true (h p hp)
  unfold cleaned
  rw [hall]

/-- The first fresh key is the one that is taken. -/
theorem pop_of_stale_front {stale rest : List (Keypress κ Rat)} {p : Keypress κ Rat}
    (hpresses : b.presses = stale ++ p :: rest) (hstale : ∀ q ∈ stale, ¬ b.Fresh now q)
    (hp : b.Fresh now p) : b.pop now = (some p.key, { b with presses := rest }) := by
  have hclean : b.presses.dropWhile (fun q => ¬ b.Fresh now q) = p :: rest := by
    rw [hpresses, List.dropWhile_append_of_pos fun q hq => decide_eq_true (hstale q hq),
      List.dropWhile_cons_of_neg (by simpa using hp)]
  unfold pop cleaned
  simp only [hclean]

theorem push_of_fresh (h : ∀ p ∈ b.presses, b.Fresh now p) (key : κ) :
    b.push now key = { b with presses := lastOf b.capacity (b.presses ++ [⟨key, now⟩]) } := by
  unfold push
  rw [cleaned_of_fresh h]

theorem fresh_of_time_eq (hyoung : 0 < b.timeout) {p : Keypress κ Rat} (hp : p.time = now) :
    b.Fresh now p := by
  show now - p.time < b.timeout
  linarith

end KeyBuffer

/-- Whether an event closes the input. -/
def KeyEvent.closes {κ : Type} : KeyEvent κ → Bool
  | .close => true
  | _ => false

namespace Keyboard

open KeyBuffer (lastOf lastOf_append lastOf_nil)

variable {κ : Type}

/-! ## Up to an instant -/

/-- The keys that are due to be pressed at a time. -/
def pressedAt (events : List (Rat × KeyEvent κ)) (t : Rat) : List (Keypress κ Rat) :=
  (pressedKeys (events.filter (·.1 = t))).map (⟨·, t⟩)

theorem pressedAt_append (front back : List (Rat × KeyEvent κ)) (t : Rat) :
    pressedAt (front ++ back) t = pressedAt front t ++ pressedAt back t := by
  simp only [pressedAt, pressedKeys, List.filter_append, List.filterMap_append, List.map_append]

theorem pressedAt_singleton (e : KeyEvent κ) (t : Rat) :
    pressedAt [(t, e)] t = (e.key?.map (⟨·, t⟩)).toList := by
  cases e <;> simp [pressedAt, pressedKeys, KeyEvent.key?]

theorem pressedAt_eq_nil {events : List (Rat × KeyEvent κ)} {t : Rat}
    (h : ∀ e ∈ events, e.1 ≠ t) : pressedAt events t = [] := by
  unfold pressedAt
  rw [List.filter_eq_nil_iff.2 fun e he => by simpa using h e he]
  rfl

/-- A keyboard has come to a time at which nothing happened before, its buffer
being empty: what was due by then has happened. -/
structure Reached (k : Keyboard κ Rat) (t : Rat) (k' : Keyboard κ Rat) : Prop where
  now : k'.now = t
  pending : k'.pending = k.pending.filter (t < ·.1)
  buffer : k'.buffer = { k.buffer with presses := lastOf k.buffer.capacity (pressedAt k.pending t) }
  closed : k'.closed = true ↔ k.closed = true ∨ ∃ e ∈ k.pending, e.1 ≤ t ∧ e.2.closes = true

theorem Reached.pressedAt {k k' : Keyboard κ Rat} {t t' : Rat} (h : k.Reached t k') (hlt : t < t') :
    pressedAt k'.pending t' = Keyboard.pressedAt k.pending t' := by
  unfold Keyboard.pressedAt
  rw [h.pending, List.filter_filter]
  refine congrArg (fun l => (pressedKeys l).map _) (List.filter_congr fun e _ => ?_)
  by_cases he : e.1 = t' <;> simp [he, hlt]

theorem Reached.filter_pending {k k' : Keyboard κ Rat} {t t' : Rat} (h : k.Reached t k')
    (hlt : t < t') : k'.pending.filter (t' < ·.1) = k.pending.filter (t' < ·.1) := by
  rw [h.pending, List.filter_filter]
  refine List.filter_congr fun e _ => ?_
  by_cases he : t' < e.1 <;> simp [he, hlt.trans]

theorem Reached.trans {k k' k'' : Keyboard κ Rat} {t t' : Rat} (h : k.Reached t k')
    (h' : k'.Reached t' k'') (hlt : t < t') : k.Reached t' k'' := by
  refine ⟨h'.now, h'.pending.trans (h.filter_pending hlt), ?_, ?_⟩
  · rw [h'.buffer, h.buffer, h.pressedAt hlt]
  · rw [h'.closed, h.closed, h.pending]
    constructor
    · rintro ((hclosed | ⟨e, he, hdue, hclose⟩) | ⟨e, he, hdue, hclose⟩)
      · exact .inl hclosed
      · exact .inr ⟨e, he, hdue.trans hlt.le, hclose⟩
      · exact .inr ⟨e, (List.mem_filter.1 he).1, hdue, hclose⟩
    · rintro (hclosed | ⟨e, he, hdue, hclose⟩)
      · exact .inl (.inl hclosed)
      · rcases le_or_gt e.1 t with hfirst | hlater
        · exact .inl (.inr ⟨e, he, hfirst, hclose⟩)
        · exact .inr ⟨e, List.mem_filter.2 ⟨he, decide_eq_true hlater⟩, hdue, hclose⟩

/-- What happens at a time pushes the key that it presses, and closes the input
if it is a close. -/
theorem perform_at {k : Keyboard κ Rat} (e : KeyEvent κ) (hyoung : 0 < k.buffer.timeout)
    (htimes : ∀ p ∈ k.buffer.presses, p.time = k.now)
    (hfits : lastOf k.buffer.capacity k.buffer.presses = k.buffer.presses) :
    (perform k e).now = k.now ∧
      (perform k e).buffer = { k.buffer with
        presses := lastOf k.buffer.capacity (k.buffer.presses ++ pressedAt [(k.now, e)] k.now) } ∧
      ((perform k e).closed = true ↔ k.closed = true ∨ e.closes = true) := by
  rw [pressedAt_singleton]
  cases e with
  | press key =>
    exact ⟨rfl, KeyBuffer.push_of_fresh
      (fun p hp => KeyBuffer.fresh_of_time_eq hyoung (htimes p hp)) key,
      by simp [perform, KeyEvent.closes]⟩
  | close | window =>
    refine ⟨rfl, ?_, by simp [perform, KeyEvent.closes]⟩
    simp only [KeyEvent.key?, Option.map_none, Option.toList_none, List.append_nil, hfits]
    rfl

/-- What is due at a time has happened, at a keyboard whose buffer held keys of
that time only. -/
structure Happened (k : Keyboard κ Rat) (events : List (Rat × KeyEvent κ)) (t : Rat)
    (k' : Keyboard κ Rat) : Prop where
  now : k'.now ≤ t
  pending : k'.pending = events.filter (t < ·.1)
  buffer : k'.buffer = { k.buffer with
    presses := lastOf k.buffer.capacity (k.buffer.presses ++ pressedAt events t) }
  closed : k'.closed = true ↔ k.closed = true ∨ ∃ e ∈ events, e.1 ≤ t ∧ e.2.closes = true

theorem happened_of_late {k : Keyboard κ Rat} {events : List (Rat × KeyEvent κ)} {t : Rat}
    (hlate : ∀ e ∈ events, t < e.1) (hnow : k.now ≤ t)
    (hfits : lastOf k.buffer.capacity k.buffer.presses = k.buffer.presses) :
    k.Happened events t { k with pending := events } := by
  refine ⟨hnow, ?_, ?_, .inl, ?_⟩
  · exact (List.filter_eq_self.2 fun e he => decide_eq_true (hlate e he)).symm
  · rw [pressedAt_eq_nil fun e he => (hlate e he).ne', List.append_nil, hfits]
  · rintro (hclosed | ⟨e, he, hdue, -⟩)
    · exact hclosed
    · exact absurd hdue (not_le.2 (hlate e he))

/-- Events that are due at a time happen before the others. -/
theorem Happened.cons {k k' : Keyboard κ Rat} {events : List (Rat × KeyEvent κ)} {t : Rat}
    {e : KeyEvent κ} (hyoung : 0 < k.buffer.timeout)
    (htimes : ∀ p ∈ k.buffer.presses, p.time = k.now)
    (hfits : lastOf k.buffer.capacity k.buffer.presses = k.buffer.presses) (ht : k.now = t)
    (h : (perform k e).Happened events t k') : k.Happened ((t, e) :: events) t k' := by
  subst ht
  obtain ⟨-, hbuffer, hclosed⟩ := perform_at e hyoung htimes hfits
  refine ⟨h.now, ?_, ?_, ?_⟩
  · rw [h.pending, List.filter_cons_of_neg (by simp)]
  · rw [h.buffer, hbuffer]
    simp only
    rw [lastOf_append, List.append_assoc, ← pressedAt_append]
    rfl
  · rw [h.closed, hclosed]
    simp [or_assoc]

theorem performDue_at {k : Keyboard κ Rat} {t : Rat} {l : List (Rat × KeyEvent κ)}
    (hsorted : l.Pairwise fun e e' => e.1 ≤ e'.1) (hahead : ∀ e ∈ l, t ≤ e.1) (hnow : k.now ≤ t)
    (hyoung : 0 < k.buffer.timeout) (htimes : ∀ p ∈ k.buffer.presses, p.time = t)
    (hfits : lastOf k.buffer.capacity k.buffer.presses = k.buffer.presses) :
    k.Happened l t (performDue k t l) := by
  induction l generalizing k with
  | nil => exact happened_of_late nofun hnow hfits
  | cons event rest ih =>
    obtain ⟨due, e⟩ := event
    obtain ⟨hfirst, hrest⟩ := List.pairwise_cons.1 hsorted
    have hdue : t ≤ due := hahead _ List.mem_cons_self
    unfold performDue
    split
    case isFalse hlate =>
      have hlater := lt_of_not_ge hlate
      exact happened_of_late
        (List.forall_mem_cons.2 ⟨hlater, fun e he => hlater.trans_le (hfirst e he)⟩) hnow hfits
    case isTrue hle =>
      obtain rfl : due = t := le_antisymm hle hdue
      rw [Time.later_of_le hnow]
      -- after the event, the buffer still holds keys of this time only
      let moved : Keyboard κ Rat := { k with now := due }
      obtain ⟨hnow', hbuffer', -⟩ := perform_at (k := moved) e hyoung htimes hfits
      have htimes' : ∀ p ∈ (perform moved e).buffer.presses, p.time = due := by
        rw [hbuffer']
        intro p hp
        rcases List.mem_append.1 ((KeyBuffer.lastOf_suffix _ _).mem hp) with hp | hp
        · exact htimes p hp
        · obtain ⟨key, -, rfl⟩ := List.mem_map.1 hp
          rfl
      have hfits' : lastOf (perform moved e).buffer.capacity (perform moved e).buffer.presses =
          (perform moved e).buffer.presses := by
        rw [hbuffer']
        simpa using lastOf_append k.buffer.capacity _ []
      have hdone := ih hrest (fun e he => hahead e (List.mem_cons_of_mem _ he)) hnow'.le
        (by rw [hbuffer']; exact hyoung) htimes' hfits'
      have hboth := Happened.cons (k := moved) hyoung htimes hfits rfl hdone
      exact ⟨hboth.now, hboth.pending, hboth.buffer, hboth.closed⟩

/-- Time that passes up to the first event, or not that far, comes to its end. -/
theorem reached_advance {k : Keyboard κ Rat} {t : Rat}
    (hsorted : k.pending.Pairwise fun e e' => e.1 ≤ e'.1) (hahead : ∀ e ∈ k.pending, t ≤ e.1)
    (hnow : k.now ≤ t) (hyoung : 0 < k.buffer.timeout) (hempty : k.buffer.presses = []) :
    k.Reached t (k.advance (t - k.now)) := by
  have htarget : k.now + (t - k.now) = t := add_sub_cancel k.now t
  have hdone := performDue_at hsorted hahead hnow hyoung (by simp [hempty])
    (by rw [hempty, lastOf_nil])
  have hbuffer := hdone.buffer
  rw [hempty, List.nil_append] at hbuffer
  unfold advance
  rw [htarget]
  exact ⟨Time.later_of_le hdone.now, hdone.pending, hbuffer, hdone.closed⟩

end Keyboard

end Chip8
