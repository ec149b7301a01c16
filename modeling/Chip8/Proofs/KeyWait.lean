-- How a wait for a key ends at a keypad that can be closed. A key that is in
-- the buffer is taken at once. Otherwise the wait goes on to the first press,
-- unless a look at the close comes before it.
import Mathlib.Data.Rat.Floor
import Mathlib.Tactic.Ring
import Chip8.Proofs.Waiting
namespace Chip8

namespace Keyboard

open KeyBuffer (lastOf lastOf_nil)

/-! ## Looks at the close -/

/-- The first of the looks after a time, one with each poll, that does not come
before a close. -/
def lookAfter (t poll s : Rat) : Rat := t + (max 1 ⌈(s - t) / poll⌉ : Int) * poll

section
variable {t poll s : Rat} (hpoll : 0 < poll)
include hpoll

theorem isLeast_lookAfter :
    IsLeast {u | s ≤ u ∧ ∃ j : Nat, 1 ≤ j ∧ u = t + j * poll} (lookAfter t poll s) := by
  constructor
  · have hceil : (s - t) / poll ≤ (max 1 ⌈(s - t) / poll⌉ : Int) :=
      (Int.le_ceil _).trans (Int.cast_le.2 (le_max_right _ _))
    have hpos : (1 : Int) ≤ max 1 ⌈(s - t) / poll⌉ := le_max_left _ _
    refine ⟨?_, (max 1 ⌈(s - t) / poll⌉).toNat, by omega, ?_⟩
    · have hspan := (div_le_iff₀ hpoll).1 hceil
      unfold lookAfter
      linarith
    · have hnat : ((max 1 ⌈(s - t) / poll⌉).toNat : Int) = max 1 ⌈(s - t) / poll⌉ :=
        Int.toNat_of_nonneg (by omega)
      unfold lookAfter
      exact_mod_cast congrArg (fun n : Int => t + n * poll) hnat.symm
  · rintro u ⟨hs, j, hj, rfl⟩
    have hceil : ⌈(s - t) / poll⌉ ≤ (j : Int) := by
      refine Int.ceil_le.2 ((div_le_iff₀ hpoll).2 ?_)
      push_cast
      linarith
    have hmax : ((max 1 ⌈(s - t) / poll⌉ : Int) : Rat) ≤ j := by
      exact_mod_cast max_le (by exact_mod_cast hj) hceil
    unfold lookAfter
    linarith [mul_le_mul_of_nonneg_right hmax hpoll.le]

theorem le_lookAfter : t + poll ≤ lookAfter t poll s := by
  obtain ⟨-, j, hj, hlook⟩ := (isLeast_lookAfter hpoll (t := t) (s := s)).1
  have hone : (1 : Rat) ≤ j := by exact_mod_cast hj
  rw [hlook]
  linarith [mul_le_mul_of_nonneg_right hone hpoll.le]

theorem lookAfter_of_le (h : s ≤ t + poll) : lookAfter t poll s = t + poll :=
  le_antisymm ((isLeast_lookAfter hpoll).2 ⟨h, 1, le_rfl, by simp⟩) (le_lookAfter hpoll)

/-- A look before the close makes no difference to when the close is seen. -/
theorem lookAfter_add (h : t + poll < s) : lookAfter (t + poll) poll s = lookAfter t poll s := by
  obtain ⟨hs, j, hj, hlook⟩ := (isLeast_lookAfter hpoll (t := t) (s := s)).1
  obtain ⟨hs', j', hj', hlook'⟩ := (isLeast_lookAfter hpoll (t := t + poll) (s := s)).1
  refine le_antisymm ?_ ((isLeast_lookAfter hpoll).2 ⟨hs', j' + 1, by omega, ?_⟩)
  · obtain ⟨i, rfl⟩ : ∃ i, j = i + 1 := ⟨j - 1, by omega⟩
    have hi : 1 ≤ i := by
      by_contra hzero
      obtain rfl : i = 0 := by omega
      rw [hlook] at hs
      simp at hs
      linarith
    refine (isLeast_lookAfter hpoll).2 ⟨hs, i, hi, ?_⟩
    rw [hlook]
    push_cast
    ring
  · rw [hlook']
    push_cast
    ring

end

/-- The time when a wait that looks at the close with each poll sees it. -/
def closeSeen {κ : Type} (k : Keyboard κ Rat) (poll : Rat) : WithTop Rat :=
  k.firstClose.map (lookAfter k.now poll)

/-! ## Waits with looks -/

/-- A wait has come to an end at a time, with these keys left. -/
structure EndedAt {κ : Type} (k : Keyboard κ Rat) (t : Rat) (left : List (Keypress κ Rat))
    (k' : Keyboard κ Rat) : Prop where
  now : k'.now = t
  pending : k'.pending = k.pending.filter (t < ·.1)
  buffer : k'.buffer = { k.buffer with presses := left }

/-- How a wait at a keyboard ends that has no key yet: with the oldest key of
the first time at which keys are pressed, unless the close is seen before. -/
structure Ends (k : Keyboard Int Rat) (poll : Rat) (reason : String)
    (result : Except Fault Int × Keyboard Int Rat) : Prop where
  key : k.firstPress ≤ k.closeSeen poll → ∃ (t : Rat) (p : Keypress Int Rat) (rest : _),
    k.firstPress = t ∧ lastOf k.buffer.capacity (pressedAt k.pending t) = p :: rest ∧
      result.1 = .ok p.key ∧ k.EndedAt t rest result.2
  closed : k.closeSeen poll < k.firstPress → ∃ t : Rat,
    k.closeSeen poll = t ∧ result.1 = .error (.inputClosed reason) ∧ k.EndedAt t [] result.2

section
variable {k k' : Keyboard Int Rat} {poll t : Rat} {reason : String}

theorem le_closeSeen (hpoll : 0 < poll) :
    ((k.now + poll : Rat) : WithTop Rat) ≤ k.closeSeen poll := by
  unfold closeSeen
  cases k.firstClose with
  | top => exact le_top
  | coe s => exact WithTop.coe_le_coe.2 (le_lookAfter hpoll)

theorem closeSeen_of_le (hpoll : 0 < poll)
    (h : k.firstClose ≤ ((k.now + poll : Rat) : WithTop Rat)) :
    k.closeSeen poll = ((k.now + poll : Rat) : WithTop Rat) := by
  obtain ⟨s, hs⟩ := WithTop.ne_top_iff_exists.1 (ne_top_of_le_ne_top WithTop.coe_ne_top h)
  rw [← hs] at h
  unfold closeSeen
  rw [← hs, WithTop.map_coe, lookAfter_of_le hpoll (WithTop.coe_le_coe.1 h)]

theorem Reached.closeSeen (h : k.Reached (k.now + poll) k') (hpoll : 0 < poll)
    (hlate : ((k.now + poll : Rat) : WithTop Rat) < k.firstClose) :
    k'.closeSeen poll = k.closeSeen poll := by
  have hfirst : k'.firstClose = k.firstClose := h.firstDue hlate
  unfold Keyboard.closeSeen
  rw [hfirst, h.now]
  cases hclose : k.firstClose with
  | top => rfl
  | coe s =>
    rw [hclose] at hlate
    exact congrArg WithTop.some (lookAfter_add hpoll (WithTop.coe_lt_coe.1 hlate))

theorem Reached.closed_iff (h : k.Reached t k') (hopen : k.closed = false) :
    k'.closed = true ↔ k.firstClose ≤ (t : WithTop Rat) := by
  rw [h.closed, hopen]
  constructor
  · rintro (hclosed | ⟨e, he, hdue, hcloses⟩)
    · cases hclosed
    · exact (firstDue_le he hcloses).trans (WithTop.coe_le_coe.2 hdue)
  · intro hdue
    obtain ⟨s, hs⟩ := WithTop.ne_top_iff_exists.1 (ne_top_of_le_ne_top WithTop.coe_ne_top hdue)
    obtain ⟨e, he, hcloses, rfl⟩ := exists_of_firstDue_eq hs.symm
    rw [← hs] at hdue
    exact .inr ⟨e, he, WithTop.coe_le_coe.1 hdue, hcloses⟩

theorem Reached.endedAt {u : Rat} {left : List (Keypress Int Rat)} {last : Keyboard Int Rat}
    (h : k.Reached t k') (hlt : t < u) (hend : k'.EndedAt u left last) : k.EndedAt u left last := by
  refine ⟨hend.now, hend.pending.trans (h.filter_pending hlt), ?_⟩
  rw [hend.buffer, h.buffer]

/-- A wait that goes on after a poll ends as it would have without it. -/
theorem Reached.ends {result : Except Fault Int × Keyboard Int Rat}
    (h : k.Reached (k.now + poll) k') (hpoll : 0 < poll)
    (hpress : ((k.now + poll : Rat) : WithTop Rat) < k.firstPress)
    (hclose : ((k.now + poll : Rat) : WithTop Rat) < k.firstClose)
    (hends : Ends k' poll reason result) : Ends k poll reason result := by
  have hfirst : k'.firstPress = k.firstPress := h.firstDue hpress
  have hseen := h.closeSeen hpoll hclose
  refine ⟨fun hle => ?_, fun hlt => ?_⟩
  · obtain ⟨u, p, rest, htime, hkeys, hresult, hend⟩ := hends.key (by rwa [hfirst, hseen])
    rw [hfirst] at htime
    have hlater : k.now + poll < u := by
      rw [htime] at hpress
      exact WithTop.coe_lt_coe.1 hpress
    rw [h.pressedAt hlater, h.buffer] at hkeys
    exact ⟨u, p, rest, htime, hkeys, hresult, h.endedAt hlater hend⟩
  · obtain ⟨u, htime, hresult, hend⟩ := hends.closed (by rwa [hfirst, hseen])
    have hlater : k.now + poll < u := by
      have hlook := le_closeSeen hpoll (k := k')
      rw [htime, h.now] at hlook
      have := WithTop.coe_le_coe.1 hlook
      linarith
    rw [hseen] at htime
    exact ⟨u, htime, hresult, h.endedAt hlater hend⟩

/-- Keys that are pressed before the first poll is over end the wait. -/
theorem Waiting.ends_with_key {fuel : Nat} (h : k.Waiting) (hpoll : 0 < poll)
    (hopen : k.closed = false) (hearly : k.firstPress ≤ ((k.now + poll : Rat) : WithTop Rat)) :
    Ends k poll reason
      (awaitKey pass (fun k => (k.closed, k)) reason (some poll) (fuel + 1) k) := by
  obtain ⟨t, htime⟩ := WithTop.ne_top_iff_exists.1 (ne_top_of_le_ne_top WithTop.coe_ne_top hearly)
  have hle : t ≤ k.now + poll := WithTop.coe_le_coe.1 (htime ▸ hearly)
  obtain ⟨p, rest, k', hkeys, hreached, hpop⟩ := h.popWithin_key hpoll htime.symm hle
  rw [awaitKey]
  simp only [hopen, hpop]
  refine ⟨fun _ => ⟨t, p, rest, htime.symm, hkeys, rfl, hreached.now, hreached.pending, rfl⟩,
    fun hlt => ?_⟩
  exact absurd (hlt.trans_le hearly) (not_lt.2 (le_closeSeen hpoll))

theorem Waiting.ends_with_close {fuel : Nat} (h : k.Waiting) (hpoll : 0 < poll)
    (hopen : k.closed = false) (hlate : ((k.now + poll : Rat) : WithTop Rat) < k.firstPress)
    (hclose : k.firstClose ≤ ((k.now + poll : Rat) : WithTop Rat)) :
    Ends k poll reason
      (awaitKey pass (fun k => (k.closed, k)) reason (some poll) (fuel + 2) k) := by
  obtain ⟨k', hpop, hreached⟩ := h.popWithin_timedOut hpoll hlate
  have hseen := closeSeen_of_le hpoll hclose
  rw [awaitKey]
  simp only [hopen, hpop]
  rw [awaitKey]
  simp only [(hreached.closed_iff hopen).2 hclose]
  refine ⟨fun hle => absurd hle (not_le.2 (hseen ▸ hlate)),
    fun _ => ⟨_, hseen, rfl, hreached.now, hreached.pending, ?_⟩⟩
  rw [hreached.buffer, pressedAt_of_late hlate, lastOf_nil]

/-- A wait for a key ends, with a key or because the input was closed. Each poll
brings the clock nearer to the last event. -/
theorem Waiting.ends {n fuel : Nat} (h : k.Waiting) (hpoll : 0 < poll) (hopen : k.closed = false)
    (hlast : ∀ e ∈ k.pending, e.1 ≤ k.now + n * poll) (hfuel : n + 2 ≤ fuel) :
    Ends k poll reason (awaitKey pass (fun k => (k.closed, k)) reason (some poll) fuel k) := by
  induction fuel generalizing k n with
  | zero => omega
  | succ fuel ih =>
    rcases le_or_gt k.firstPress ((k.now + poll : Rat) : WithTop Rat) with hearly | hlate
    · exact h.ends_with_key hpoll hopen hearly
    rcases le_or_gt k.firstClose ((k.now + poll : Rat) : WithTop Rat) with hclose | hlater
    · obtain ⟨fuel, rfl⟩ : ∃ f, fuel = f + 1 := ⟨fuel - 1, by omega⟩
      exact h.ends_with_close hpoll hopen hlate hclose
    obtain ⟨k', hpop, hreached⟩ := h.popWithin_timedOut hpoll hlate
    have hwaiting := hreached.waiting h hlate
    have hopen' : k'.closed = false := Bool.eq_false_iff.2 fun hclosed =>
      absurd ((hreached.closed_iff hopen).1 hclosed) (not_le.2 hlater)
    have hpending {e : Rat × KeyEvent Int} (he : e ∈ k'.pending) :
        k.now + poll < e.1 ∧ e.1 ≤ k.now + n * poll := by
      rw [hreached.pending, List.mem_filter] at he
      exact ⟨of_decide_eq_true he.2, hlast e he.1⟩
    -- something is still to come, so this was not the last poll
    obtain ⟨e, he, -⟩ := hwaiting.hope.resolve_left (by simp [hopen'])
    obtain ⟨m, rfl⟩ : ∃ m, n = m + 1 := by
      refine Nat.exists_eq_succ_of_ne_zero fun hzero => ?_
      obtain ⟨hlt, hle⟩ := hpending he
      rw [hzero] at hle
      push_cast at hle
      linarith
    rw [awaitKey]
    simp only [hopen, hpop]
    refine hreached.ends hpoll hlate hlater
      (ih (n := m) hwaiting hopen' (fun e he => ?_) (by omega))
    have hle := (hpending he).2
    rw [hreached.now]
    push_cast at hle
    linarith

theorem le_stepsToCover (hsorted : k.pending.Pairwise fun e e' => e.1 ≤ e'.1) (hpoll : 0 < poll)
    {e : Rat × KeyEvent Int} (he : e ∈ k.pending) :
    e.1 ≤ k.now + Time.stepsToCover k.remainingSpan poll * poll := by
  obtain ⟨front, last, hlast⟩ :=
    (List.eq_nil_or_concat k.pending).resolve_left (List.ne_nil_of_mem he)
  rw [List.concat_eq_append] at hlast
  have hle : e.1 ≤ last.1 := by
    rw [hlast, List.pairwise_append] at hsorted
    rw [hlast, List.mem_append, List.mem_singleton] at he
    rcases he with he | rfl
    · exact hsorted.2.2 e he last List.mem_cons_self
    · exact le_rfl
  have hspan : k.remainingSpan = last.1 - k.now := by
    unfold remainingSpan
    rw [hlast, List.getLast?_concat]
  have hsteps : (last.1 - k.now) / poll ≤ (Time.stepsToCover (last.1 - k.now) poll : Nat) := by
    show _ ≤ (((if 0 < poll then ((last.1 - k.now) / poll).ceil.toNat else 0 : Nat)) : Rat)
    rw [if_pos hpoll]
    refine Rat.le_ceil.trans ?_
    exact_mod_cast Int.self_le_toNat _
  have hcover := (div_le_iff₀ hpoll).1 hsteps
  rw [hspan]
  linarith

end

end Keyboard

/-! ## Waits at a keypad -/

/-- At a keypad that can be closed, each look is one at the close. -/
theorem BufferedKeypad.wait_of_closable (k : Keyboard Int Rat) (poll : Option Rat) :
    BufferedKeypad.wait ⟨k, true, poll⟩ =
      Prod.map id (⟨·, true, poll⟩)
        (Keyboard.awaitKey Keyboard.pass (fun k => (k.closed, k))
          "Input closed while waiting for a key" poll (k.awaitTurns poll) k) := by
  unfold wait waitBy
  simp only [Bool.true_and]
  rfl

/-- A wait at a keypad that can be closed, with events to come in the order of
time. If the input is closed, the wait is called off and nothing changes. Else,
the oldest fresh key is taken if there is one. Otherwise a key comes or the
input is closed, and the wait ends with what is seen first; a key wins a tie. -/
theorem BufferedKeypad.wait_ends_with_what_comes_first (b : BufferedKeypad Int Rat) {poll : Rat}
    (hclosable : b.closable = true) (hpoll : b.poll = some poll) (hpos : 0 < poll)
    (hyoung : 0 < b.keyboard.buffer.timeout) (hroom : b.keyboard.buffer.capacity ≠ some 0)
    (hsorted : b.keyboard.pending.Pairwise fun e e' => e.1 ≤ e'.1)
    (hahead : ∀ e ∈ b.keyboard.pending, b.keyboard.now ≤ e.1) :
    let reason := "Input closed while waiting for a key"
    (b.keyboard.closed = true → b.wait = (.error (.inputClosed reason), b)) ∧
    (b.keyboard.closed = false →
      (∀ (stale rest : List (Keypress Int Rat)) (p : Keypress Int Rat),
        b.keyboard.buffer.presses = stale ++ p :: rest →
        (∀ q ∈ stale, ¬ b.keyboard.buffer.Fresh b.keyboard.now q) →
        b.keyboard.buffer.Fresh b.keyboard.now p →
        b.wait = (.ok p.key, { b with
          keyboard := { b.keyboard with
            buffer := { b.keyboard.buffer with presses := rest } } })) ∧
      ((∀ q ∈ b.keyboard.buffer.presses, ¬ b.keyboard.buffer.Fresh b.keyboard.now q) →
        (∃ e ∈ b.keyboard.pending, e.2.key?.isSome = true ∨ e.2.closes = true) →
        b.keyboard.Ends poll reason (b.wait.1, b.wait.2.keyboard))) := by
  intro reason
  obtain ⟨k, closable, poll'⟩ := b
  obtain rfl : closable = true := hclosable
  obtain rfl : poll' = some poll := hpoll
  have hwait := wait_of_closable k (some poll)
  have hturns : Time.stepsToCover k.remainingSpan poll + 2 ≤ k.awaitTurns (some poll) := by
    unfold Keyboard.awaitTurns
    simp only
    omega
  obtain ⟨fuel, hfuel⟩ : ∃ fuel, k.awaitTurns (some poll) = fuel + 1 :=
    ⟨_, (Nat.succ_pred_eq_of_pos (by omega)).symm⟩
  refine ⟨fun hclosed => ?_, fun hopen => ⟨fun stale rest p hpresses hstale hp => ?_,
    fun hstale hcome => ?_⟩⟩
  · have hclosed' : k.closed = true := hclosed
    rw [hwait, hfuel, Keyboard.awaitKey]
    simp only [hclosed']
    rfl
  · have hopen' : k.closed = false := hopen
    have hpop : k.popWithin Keyboard.pass (some poll) = (.key p.key, { k with
        buffer := { k.buffer with presses := rest } }) := by
      unfold Keyboard.popWithin Keyboard.popTurns
      rw [Keyboard.popUntil, KeyBuffer.pop_of_stale_front hpresses hstale hp]
    rw [hwait, hfuel, Keyboard.awaitKey]
    simp only [hopen', hpop]
    rfl
  · rw [hwait]
    exact Keyboard.Waiting.ends ⟨hsorted, hahead, hyoung, hroom, hstale, .inr hcome⟩ hpos hopen
      (fun e he => Keyboard.le_stepsToCover hsorted hpos he) hturns

/-- The close comes first, but it is seen only when keys are pressed as well.
There is room for the last one of them. -/
theorem BufferedKeypad.wait_ends_with_key_in_tie :
    let pending : List (Rat × KeyEvent Int) := [(1 / 2, .close), (1, .press 5), (1, .press 6)]
    let b : BufferedKeypad Int Rat :=
      ⟨{ Keyboard.idle 0 ⟨1, some 1, []⟩ with pending }, true, some 1⟩
    b.keyboard.firstPress = (1 : Rat) ∧ b.keyboard.closeSeen 1 = (1 : Rat) ∧
      b.wait.1 = .ok 6 ∧ b.wait.2.keyboard.now = 1 ∧ b.wait.2.keyboard.buffer.presses = [] := by
  intro pending b
  have hpress : b.keyboard.firstPress = (1 : Rat) := by decide +kernel
  have hclose : b.keyboard.closeSeen 1 = (1 : Rat) := by decide +kernel
  have hends := ((b.wait_ends_with_what_comes_first rfl rfl (by decide +kernel) (by decide +kernel)
    (by decide) (by decide +kernel) (by decide +kernel)).2 rfl).2 nofun
      ⟨(1, .press 5), by decide +kernel, .inl rfl⟩
  obtain ⟨t, p, rest, htime, hkeys, hkey, hend⟩ := hends.key (by rw [hpress, hclose])
  obtain rfl : 1 = t := WithTop.coe_injective (hpress.symm.trans htime)
  have hlast : KeyBuffer.lastOf (some 1) (Keyboard.pressedAt pending 1) = [⟨6, 1⟩] := by
    decide +kernel
  obtain ⟨rfl, rfl⟩ := List.cons.inj (hkeys.symm.trans hlast)
  exact ⟨hpress, hclose, hkey, hend.now, congrArg KeyBuffer.presses hend.buffer⟩

end Chip8
