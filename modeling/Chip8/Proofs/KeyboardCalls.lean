-- What happens at a keyboard, as calls to its buffer. Time that passes pushes
-- the keys that are due, and a wait is a row of pops with such pushes between
-- them, of which only the last one hands over a key.
import Chip8.Keypad.Device
import Chip8.Proofs.Delivery
namespace Chip8

theorem Time.le_later (a b : Rat) : a ≤ Time.later a b := by
  unfold Time.later
  split <;> linarith

theorem Time.later_of_le {a b : Rat} (h : a ≤ b) : Time.later a b = b := by
  unfold Time.later
  split <;> linarith

/-- The key of an event that presses one. -/
def KeyEvent.key? {κ : Type} : KeyEvent κ → Option κ
  | .press key => some key
  | _ => none

namespace Keyboard

open KeyBuffer (Act Call Chronological givenKeys givenKeys_append pushedKeys pushedKeys_append)

/-! ## Calls between two moments -/

/-- The keys that events press. -/
def pressedKeys {κ τ : Type} (events : List (τ × KeyEvent κ)) : List κ :=
  events.filterMap fun e => e.2.key?

/-- What is asked of a buffer, pushes and pops apart. -/
def asked {κ τ : Type} (calls : List (Call κ τ)) : List (Act κ) :=
  (calls.map (·.act)).filter fun
    | .push _ | .pop => false
    | _ => true

/-- Between two moments of a keyboard, these calls were made to its buffer and
these keys were handed over. The pushes among them are the presses that were
due, and beside pushes and pops there are no calls but `acts`. -/
structure Makes {κ : Type} (k : Keyboard κ Rat) (calls : List (Call κ Rat)) (acts : List (Act κ))
    (keys : List κ) (k' : Keyboard κ Rat) : Prop where
  clock : k.now ≤ k'.now
  during : ∀ c ∈ calls, k.now ≤ c.time ∧ c.time ≤ k'.now
  chronological : Chronological calls
  buffer : k'.buffer = after KeyBuffer.perform k.buffer calls
  given : givenKeys (answers KeyBuffer.perform k.buffer calls) = keys
  acts : asked calls = acts
  events : ∃ happened, k.pending = happened ++ k'.pending ∧
    pushedKeys calls = pressedKeys happened

namespace Makes

variable {κ : Type} {k k' k'' : Keyboard κ Rat} {calls calls' : List (Call κ Rat)}
variable {acts acts' : List (Act κ)} {keys keys' : List κ}

/-- Time may pass without any call. -/
theorem none (hclock : k.now ≤ k'.now) (hbuffer : k'.buffer = k.buffer)
    (hpending : k'.pending = k.pending) : k.Makes [] [] [] k' :=
  ⟨hclock, nofun, .nil, hbuffer, rfl, rfl, [], hpending.symm, rfl⟩

/-- A call that brings no key may be made at any moment. -/
theorem call (k : Keyboard κ Rat) (act : Act κ) (hact : ∀ key, act ≠ .push key) :
    k.Makes [⟨act, k.now⟩] (asked [⟨act, k.now⟩])
      (k.buffer.perform ⟨act, k.now⟩).1.given?.toList
      { k with buffer := (k.buffer.perform ⟨act, k.now⟩).2 } := by
  refine ⟨le_rfl, ?_, List.pairwise_singleton _ _, rfl, ?_, rfl, [], rfl, ?_⟩
  · simp
  · simp only [answers, givenKeys, List.filterMap_cons, List.filterMap_nil]
    cases (k.buffer.perform ⟨act, k.now⟩).1.given? <;> rfl
  · cases act
    case push key => exact absurd rfl (hact key)
    all_goals rfl

theorem trans (h : k.Makes calls acts keys k') (h' : k'.Makes calls' acts' keys' k'') :
    k.Makes (calls ++ calls') (acts ++ acts') (keys ++ keys') k'' := by
  obtain ⟨happened, hpending, hpushed⟩ := h.events
  obtain ⟨happened', hpending', hpushed'⟩ := h'.events
  refine ⟨h.clock.trans h'.clock, fun c hc => ?_, ?_, ?_, ?_, ?_, happened ++ happened', ?_, ?_⟩
  · rcases List.mem_append.1 hc with hc | hc
    · exact ⟨(h.during c hc).1, (h.during c hc).2.trans h'.clock⟩
    · exact ⟨h.clock.trans (h'.during c hc).1, (h'.during c hc).2⟩
  · exact List.pairwise_append.2 ⟨h.chronological, h'.chronological, fun c hc c' hc' =>
      (h.during c hc).2.trans (h'.during c' hc').1⟩
  · rw [after_append, ← h.buffer]
    exact h'.buffer
  · rw [answers_append, ← h.buffer, givenKeys_append, h.given, h'.given]
  · rw [← h.acts, ← h'.acts, asked, List.map_append, List.filter_append]
    rfl
  · rw [hpending, hpending', List.append_assoc]
  · rw [pushedKeys_append, hpushed, hpushed']
    exact List.filterMap_append.symm

end Makes

/-! ## Time that passes -/

section
variable {κ : Type}

theorem exists_makes_perform (k : Keyboard κ Rat) (t : Rat) (e : KeyEvent κ)
    (rest : List (Rat × KeyEvent κ)) :
    ∃ calls, Makes { k with pending := (t, e) :: rest } calls [] []
      { perform { k with now := Time.later k.now t } e with pending := rest } := by
  have hclock := Time.le_later k.now t
  cases e with
  | press key =>
    refine ⟨[⟨.push key, Time.later k.now t⟩], hclock, ?_, List.pairwise_singleton _ _, rfl, rfl,
      rfl, [(t, .press key)], rfl, rfl⟩
    intro c hc
    rw [List.mem_singleton.1 hc]
    exact ⟨hclock, le_rfl⟩
  | close => exact ⟨[], hclock, nofun, .nil, rfl, rfl, rfl, [(t, .close)], rfl, rfl⟩
  | window event =>
    exact ⟨[], hclock, nofun, .nil, rfl, rfl, rfl, [(t, .window event)], rfl, rfl⟩

theorem exists_makes_performDue (k : Keyboard κ Rat) (target : Rat)
    (l : List (Rat × KeyEvent κ)) :
    ∃ calls, Makes { k with pending := l } calls [] [] (performDue k target l) := by
  induction l generalizing k with
  | nil => exact ⟨[], .none le_rfl rfl rfl⟩
  | cons event rest ih =>
    obtain ⟨t, e⟩ := event
    unfold performDue
    split
    · obtain ⟨calls, hfirst⟩ := exists_makes_perform k t e rest
      obtain ⟨calls', hrest⟩ := ih (perform { k with now := Time.later k.now t } e)
      exact ⟨calls ++ calls', hfirst.trans hrest⟩
    · exact ⟨[], .none le_rfl rfl rfl⟩

theorem exists_makes_advance (k : Keyboard κ Rat) (span : Rat) :
    ∃ calls, k.Makes calls [] [] (k.advance span) := by
  obtain ⟨calls, h⟩ := exists_makes_performDue k (k.now + span) k.pending
  have hlate : (performDue k (k.now + span) k.pending).Makes [] [] [] (k.advance span) :=
    .none (Time.le_later _ _) rfl rfl
  exact ⟨calls ++ [], h.trans hlate⟩

theorem exists_makes_pass {k k' : Keyboard κ Rat} {limit : Option Rat}
    (h : k.pass limit = some k') : ∃ calls, k.Makes calls [] [] k' := by
  unfold pass at h
  split at h
  · cases h
    exact exists_makes_advance _ _
  · cases h
  · cases h
    exact exists_makes_advance _ _

/-! ## Waits -/

/-- The key that a wait ends with. -/
def Waited.key? : Waited κ → Option κ
  | .key taken => some taken
  | _ => none

theorem exists_makes_popUntil (deadline : Option Rat) (fuel : Nat) (k : Keyboard κ Rat) :
    ∃ calls, k.Makes calls [] (popUntil pass deadline fuel k).1.key?.toList
      (popUntil pass deadline fuel k).2 := by
  induction fuel generalizing k with
  | zero => exact ⟨[], .none le_rfl rfl rfl⟩
  | succ fuel ih =>
    have hpop := Makes.call k .pop nofun
    unfold popUntil
    split
    · rename_i key buffer hkey
      simp only [KeyBuffer.perform, hkey] at hpop
      exact ⟨_, hpop⟩
    · rename_i buffer hkey
      simp only [KeyBuffer.perform, hkey] at hpop
      simp only
      split
      · exact ⟨_, hpop⟩
      · split
        · exact ⟨_, hpop⟩
        · rename_i k' hpass
          obtain ⟨calls, htime⟩ := exists_makes_pass hpass
          obtain ⟨calls', hrest⟩ := ih k'
          exact ⟨_, (hpop.trans htime).trans hrest⟩

end

/-- A look whether the input was closed leaves the keys alone, and no integer
stands for a missing key. -/
theorem exists_makes_awaitKey (closable : Bool) (reason : String) (poll : Option Rat) (fuel : Nat)
    (k : Keyboard Int Rat) :
    ∃ calls, k.Makes calls []
      (awaitKey pass (fun k => (closable && k.closed, k)) reason poll fuel k).1.toOption.toList
      (awaitKey pass (fun k => (closable && k.closed, k)) reason poll fuel k).2 := by
  induction fuel generalizing k with
  | zero => exact ⟨[], .none le_rfl rfl rfl⟩
  | succ fuel ih =>
    unfold awaitKey
    cases hclosed : closable && k.closed with
    | true => exact ⟨[], .none le_rfl rfl rfl⟩
    | false =>
      obtain ⟨calls, hpop⟩ := exists_makes_popUntil (poll.map (k.now + ·)) k.popTurns k
      simp only
      split
      · rename_i key k' hkey
        rw [show popUntil _ _ _ _ = _ from hkey] at hpop
        exact ⟨calls, hpop⟩
      · rename_i k' hkey
        rw [show popUntil _ _ _ _ = _ from hkey] at hpop
        obtain ⟨calls', hrest⟩ := ih k'
        exact ⟨_, hpop.trans hrest⟩
      · rename_i k' hkey
        rw [show popUntil _ _ _ _ = _ from hkey] at hpop
        exact ⟨calls, hpop⟩

end Keyboard

theorem BufferedKeypad.exists_makes_wait (b : BufferedKeypad Int Rat) :
    ∃ calls, b.keyboard.Makes calls [] b.wait.1.toOption.toList b.wait.2.keyboard := by
  unfold wait waitBy
  exact Keyboard.exists_makes_awaitKey _ _ _ _ _

end Chip8
