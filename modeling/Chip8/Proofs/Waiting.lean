-- Waits for a key up to a deadline. Time passes from one event to the next,
-- until a key is pressed or the deadline has come.
import Mathlib.Data.List.MinMax
import Chip8.Proofs.Instant
namespace Chip8

namespace Keyboard

open KeyBuffer (lastOf lastOf_nil lastOf_ne_nil)

section
variable {κ : Type}

/-! ## First events -/

/-- The time of the first event of a kind that is due, if there is one. -/
def firstDue (k : Keyboard κ Rat) (q : KeyEvent κ → Bool) : WithTop Rat :=
  ((k.pending.filter (q ·.2)).map (·.1)).minimum

def firstPress (k : Keyboard κ Rat) : WithTop Rat := k.firstDue (·.key?.isSome)

def firstClose (k : Keyboard κ Rat) : WithTop Rat := k.firstDue (·.closes)

variable {k k' : Keyboard κ Rat} {t : Rat} {q : KeyEvent κ → Bool}

theorem firstDue_le {e : Rat × KeyEvent κ} (he : e ∈ k.pending) (hq : q e.2 = true) :
    k.firstDue q ≤ (e.1 : WithTop Rat) :=
  List.minimum_le_of_mem' (List.mem_map_of_mem (List.mem_filter.2 ⟨he, hq⟩))

theorem exists_of_firstDue_eq (h : k.firstDue q = (t : WithTop Rat)) :
    ∃ e ∈ k.pending, q e.2 = true ∧ e.1 = t := by
  obtain ⟨e, he, rfl⟩ := List.mem_map.1 (List.minimum_eq_coe_iff.1 h).1
  exact ⟨e, (List.mem_filter.1 he).1, (List.mem_filter.1 he).2, rfl⟩

/-- Time that passes before an event does not change when it is due. -/
theorem Reached.firstDue (h : k.Reached t k') (hlate : (t : WithTop Rat) < k.firstDue q) :
    k'.firstDue q = k.firstDue q := by
  unfold Keyboard.firstDue
  rw [h.pending, List.filter_filter]
  refine congrArg (fun l => (List.map _ l).minimum) (List.filter_congr fun e he => ?_)
  cases hq : q e.2 with
  | false => rfl
  | true =>
    have hlt := WithTop.coe_lt_coe.1 (hlate.trans_le (firstDue_le he hq))
    simp [hlt]

theorem pressedAt_of_late (hlate : (t : WithTop Rat) < k.firstPress) :
    pressedAt k.pending t = [] := by
  have hnone : ∀ e ∈ k.pending.filter (·.1 = t), e.2.key? = none := by
    intro e he
    obtain ⟨hmem, htime⟩ := List.mem_filter.1 he
    by_contra hkey
    have hle := firstDue_le hmem (q := (·.key?.isSome)) (Option.isSome_iff_ne_none.2 hkey)
    rw [of_decide_eq_true htime] at hle
    exact absurd hle (not_le.2 hlate)
  unfold pressedAt pressedKeys
  rw [List.filterMap_eq_nil_iff.2 hnone]
  rfl

theorem pressedAt_firstPress (h : k.firstPress = (t : WithTop Rat)) :
    pressedAt k.pending t ≠ [] := by
  obtain ⟨e, he, hpress, rfl⟩ := exists_of_firstDue_eq h
  obtain ⟨key, hkey⟩ := Option.isSome_iff_exists.1 hpress
  have hmem : key ∈ pressedKeys (k.pending.filter (·.1 = e.1)) :=
    List.mem_filterMap.2 ⟨e, List.mem_filter.2 ⟨he, decide_eq_true rfl⟩, hkey⟩
  exact List.ne_nil_of_mem (List.mem_map_of_mem hmem)

/-! ## Keyboards that are waited at -/

/-- Nothing is there to be taken, and a press or a close is to come, unless the
input is closed already. -/
structure Waiting (k : Keyboard κ Rat) : Prop where
  sorted : k.pending.Pairwise fun e e' => e.1 ≤ e'.1
  ahead : ∀ e ∈ k.pending, k.now ≤ e.1
  young : 0 < k.buffer.timeout
  room : k.buffer.capacity ≠ some 0
  stale : ∀ p ∈ k.buffer.presses, ¬ k.buffer.Fresh k.now p
  hope : k.closed = true ∨ ∃ e ∈ k.pending, e.2.key?.isSome = true ∨ e.2.closes = true

/-- Before the first press there is nothing to be taken. -/
theorem Reached.waiting (h : k.Reached t k') (hk : k.Waiting)
    (hlate : (t : WithTop Rat) < k.firstPress) : k'.Waiting := by
  refine ⟨?_, ?_, ?_, ?_, ?_, ?_⟩
  · rw [h.pending]
    exact hk.sorted.sublist List.filter_sublist
  · intro e he
    rw [h.pending] at he
    rw [h.now]
    exact (of_decide_eq_true (List.mem_filter.1 he).2).le
  · rw [h.buffer]
    exact hk.young
  · rw [h.buffer]
    exact hk.room
  · rw [h.buffer, pressedAt_of_late hlate, lastOf_nil]
    exact nofun
  · rw [h.closed, h.pending]
    rcases hk.hope with hclosed | ⟨e, he, hkind⟩
    · exact .inl (.inl hclosed)
    · rcases le_or_gt e.1 t with hdue | hlater
      · refine .inl (.inr ⟨e, he, hdue, hkind.resolve_left fun hpress => ?_⟩)
        exact absurd (WithTop.coe_le_coe.2 hdue) (not_le.2 (hlate.trans_le (firstDue_le he hpress)))
      · exact .inr ⟨e, List.mem_filter.2 ⟨he, decide_eq_true hlater⟩, hkind⟩

/-! ## One wait without a look -/

theorem Waiting.pass_to_deadline (h : k.Waiting) (hempty : k.buffer.presses = [])
    (hnow : k.now < t) (hlate : ∀ e ∈ k.pending, t < e.1) :
    ∃ k', k.pass (some (t - k.now)) = some k' ∧ k.Reached t k' := by
  have hlimit : k.now + (t - k.now) = t := add_sub_cancel k.now t
  have hreached := reached_advance h.sorted (fun e he => (hlate e he).le) hnow.le h.young hempty
  have hnext : k.nextDue? (some (t - k.now)) = none := by
    unfold nextDue?
    rw [Option.filter_eq_none_iff]
    intro due hdue
    obtain ⟨e, he, rfl⟩ := Option.map_eq_some_iff.1 hdue
    simpa [dueWithin, hlimit] using hlate e (List.mem_of_mem_head? he)
  unfold pass
  rw [hnext]
  exact ⟨_, rfl, hreached⟩

/-- Time passes to the next event, or to the deadline if that is before it. -/
theorem Waiting.exists_pass (h : k.Waiting) (hempty : k.buffer.presses = []) (hnow : k.now < t) :
    ∃ t' ≤ t, (∀ e ∈ k.pending, t' ≤ e.1) ∧ (t' = t ∨ ∃ e ∈ k.pending, e.1 = t') ∧
      ∃ k', k.pass (some (t - k.now)) = some k' ∧ k.Reached t' k' := by
  by_cases hlate : ∀ e ∈ k.pending, t < e.1
  · exact ⟨t, le_rfl, fun e he => (hlate e he).le, .inl rfl, h.pass_to_deadline hempty hnow hlate⟩
  · obtain ⟨e, he, hdue⟩ : ∃ e ∈ k.pending, e.1 ≤ t := by simpa using hlate
    obtain ⟨event, rest, hpending⟩ := List.exists_cons_of_ne_nil (List.ne_nil_of_mem he)
    have hmem : event ∈ k.pending := hpending ▸ List.mem_cons_self
    have hfirst : ∀ e' ∈ k.pending, event.1 ≤ e'.1 := by
      have hsorted := h.sorted
      rw [hpending] at hsorted ⊢
      simpa using (List.pairwise_cons.1 hsorted).1
    have hspan := Time.later_of_le (sub_nonneg.2 (h.ahead event hmem))
    have hlimit : k.now + (t - k.now) = t := add_sub_cancel k.now t
    have hle : event.1 ≤ t := (hfirst e he).trans hdue
    refine ⟨event.1, hle, hfirst, .inr ⟨event, hmem, rfl⟩, _, ?_,
      reached_advance h.sorted hfirst (h.ahead event hmem) h.young hempty⟩
    unfold pass nextDue?
    simp [hpending, dueWithin, hlimit, hle, Option.filter, hspan]

theorem Waiting.pop (h : k.Waiting) :
    k.buffer.pop k.now = (none, { k.buffer with presses := [] }) := by
  unfold KeyBuffer.pop
  rw [KeyBuffer.cleaned_of_stale h.stale]

theorem Waiting.exists_turn (h : k.Waiting) (hnow : k.now < t) (fuel : Nat) :
    ∃ t' ≤ t, (∀ e ∈ k.pending, t' ≤ e.1) ∧ (t' = t ∨ ∃ e ∈ k.pending, e.1 = t') ∧
      ∃ k', popUntil pass (some t) (fuel + 1) k = popUntil pass (some t) fuel k' ∧
        k.Reached t' k' := by
  have hclean : Waiting { k with buffer := { k.buffer with presses := [] } } :=
    ⟨h.sorted, h.ahead, h.young, h.room, nofun, h.hope⟩
  obtain ⟨t', hle, hfirst, hstop, k', hpass, hreached⟩ := hclean.exists_pass rfl hnow
  refine ⟨t', hle, hfirst, hstop, k', ?_, hreached.now, hreached.pending, hreached.buffer,
    hreached.closed⟩
  have hlimit : ¬ t - k.now ≤ 0 := by linarith
  rw [popUntil, h.pop]
  simp only [Option.map_some, Option.any_some, hlimit, decide_false, Bool.false_eq_true, if_false]
  rw [hpass]

/-- A wait goes on to the first press, or to the deadline if that is before it.
Each turn uses up an event, or is the one to the deadline. -/
theorem Waiting.exists_popUntil {deadline : Rat} {fuel : Nat} (h : k.Waiting)
    (hnow : k.now < deadline) (hfuel : k.pending.length + 2 ≤ fuel) (hle : t ≤ deadline)
    (hfirst : (t : WithTop Rat) ≤ k.firstPress)
    (hstop : t = deadline ∨ k.firstPress = (t : WithTop Rat)) :
    ∃ k' fuel',
      popUntil pass (some deadline) fuel k = popUntil pass (some deadline) (fuel' + 1) k' ∧
        k.Reached t k' := by
  induction fuel generalizing k with
  | zero => omega
  | succ fuel ih =>
    obtain ⟨t', hle', hahead, hstop', k', hturn, hreached⟩ := h.exists_turn hnow fuel
    have hearly : t' ≤ t := by
      rcases hstop with rfl | hpress
      · exact hle'
      · obtain ⟨e, he, -, rfl⟩ := exists_of_firstDue_eq hpress
        exact hahead e he
    -- a turn that stops before `t` has used up an event, and no press
    rcases hearly.lt_or_eq with hlt | rfl
    · have hlate : (t' : WithTop Rat) < k.firstPress :=
        (WithTop.coe_lt_coe.2 hlt).trans_le hfirst
      obtain ⟨e, he, htime⟩ := hstop'.resolve_left (hlt.trans_le hle).ne
      have hused : k'.pending.length < k.pending.length := by
        rw [hreached.pending, List.length_filter_lt_length_iff_exists]
        exact ⟨e, he, by simp [htime]⟩
      have hpress := hreached.firstDue hlate
      obtain ⟨k'', fuel', hrest, hreached'⟩ := ih (hreached.waiting h hlate)
        (by rw [hreached.now]; exact hlt.trans_le hle) (by omega)
        (by rw [firstPress, hpress]; exact hfirst) (by rw [firstPress, hpress]; exact hstop)
      exact ⟨k'', fuel', hturn.trans hrest, hreached.trans hreached' hlt⟩
    · obtain ⟨fuel', rfl⟩ : ∃ fuel', fuel = fuel' + 1 := ⟨fuel - 1, by omega⟩
      exact ⟨k', fuel', hturn, hreached⟩

theorem length_add_two_le_popTurns (k : Keyboard κ Rat) :
    k.pending.length + 2 ≤ k.popTurns := by
  unfold popTurns
  omega

/-- A wait within which a key is pressed takes the oldest one of that time. -/
theorem Waiting.popWithin_key {poll : Rat} (h : k.Waiting) (hpoll : 0 < poll)
    (hpress : k.firstPress = (t : WithTop Rat)) (hle : t ≤ k.now + poll) :
    ∃ p rest k', lastOf k.buffer.capacity (Keyboard.pressedAt k.pending t) = p :: rest ∧
      k.Reached t k' ∧ k.popWithin pass (some poll) =
        (.key p.key, { k' with buffer := { k.buffer with presses := rest } }) := by
  obtain ⟨k', fuel', hrun, hreached⟩ := h.exists_popUntil
    (lt_add_of_pos_right _ hpoll) k.length_add_two_le_popTurns hle hpress.ge (.inr hpress)
  obtain ⟨p, rest, hkeys⟩ :=
    List.exists_cons_of_ne_nil (lastOf_ne_nil h.room (pressedAt_firstPress hpress))
  have hfresh : ∀ p ∈ k'.buffer.presses, k'.buffer.Fresh k'.now p := by
    intro p hp
    refine KeyBuffer.fresh_of_time_eq (by rw [hreached.buffer]; exact h.young) ?_
    rw [hreached.buffer] at hp
    obtain ⟨key, -, rfl⟩ := List.mem_map.1 ((KeyBuffer.lastOf_suffix _ _).mem hp)
    exact hreached.now.symm
  refine ⟨p, rest, k', hkeys, hreached, ?_⟩
  unfold popWithin
  rw [Option.map_some, hrun, popUntil, KeyBuffer.pop, KeyBuffer.cleaned_of_fresh hfresh]
  simp only [hreached.buffer, hkeys]

theorem Waiting.popWithin_timedOut {poll : Rat} (h : k.Waiting) (hpoll : 0 < poll)
    (hlate : ((k.now + poll : Rat) : WithTop Rat) < k.firstPress) :
    ∃ k', k.popWithin pass (some poll) = (.timedOut, k') ∧ k.Reached (k.now + poll) k' := by
  obtain ⟨k', fuel', hrun, hreached⟩ := h.exists_popUntil
    (lt_add_of_pos_right _ hpoll) k.length_add_two_le_popTurns le_rfl hlate.le (.inl rfl)
  have hwaiting := hreached.waiting h hlate
  refine ⟨{ k' with buffer := { k'.buffer with presses := [] } }, ?_, hreached.now,
    hreached.pending, ?_, hreached.closed⟩
  · unfold popWithin
    rw [Option.map_some, hrun, popUntil, hwaiting.pop]
    simp [hreached.now]
  · rw [pressedAt_of_late hlate, lastOf_nil, hreached.buffer]

end

end Keyboard

end Chip8
