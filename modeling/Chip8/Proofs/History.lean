-- The history of a run at a steady rate: all that it does, in order. It goes on
-- for some turns, each of which carries out an instruction, until a last turn
-- ends it.
import Chip8.Run.Runner
import Mathlib.Order.Defs.Unbundled
namespace Chip8

/-! ## What a run does -/

/-- Something that a run asks of its host. -/
inductive RunEvent (ε τ : Type) where
  | asked (stop : Bool)
  | stepped (before : ε) (answer : Except Fault Unit)
  | read (now : τ)
  | refreshed
  | framed
  | counted (steps : Nat)
  | slept (span : τ)
  | told (n : Notice)

namespace Ending

/-- What a run leaves behind. -/
def left {ε : Type} : Ending ε → ε
  | stopped _ e | failed _ e | going _ e => e

def map {ε δ : Type} (f : ε → δ) : Ending ε → Ending δ
  | stopped steps e => stopped steps (f e)
  | failed fault e => failed fault (f e)
  | going steps e => going steps (f e)

theorem left_map {ε δ : Type} (f : ε → δ) (ending : Ending ε) :
    (ending.map f).left = f ending.left := by
  cases ending <;> rfl

end Ending

namespace Host

/-- The same host, with a record of what is asked of it. -/
def recorded {ε τ : Type} (h : Host ε τ) : Host (ε × List (RunEvent ε τ)) τ where
  now := fun (e, log) => ((h.now e).1, (h.now e).2, log ++ [.read (h.now e).1])
  shouldStop := fun (e, log) =>
    ((h.shouldStop e).1, (h.shouldStop e).2, log ++ [.asked (h.shouldStop e).1])
  step := fun (e, log) => ((h.step e).1, (h.step e).2, log ++ [.stepped e (h.step e).1])
  refresh := fun (e, log) => (h.refresh e, log ++ [.refreshed])
  onFrame := fun (e, log) => (h.onFrame e, log ++ [.framed])
  status := fun steps (e, log) => (h.status steps e, log ++ [.counted steps])
  sleep := fun span (e, log) => (h.sleep span e, log ++ [.slept span])
  pc := fun (e, _) => h.pc e
  tell := fun n (e, log) => (h.tell n e, log ++ [.told n])

theorem recorded_shouldStop {ε τ : Type} (h : Host ε τ) {stop : Bool} {e asked : ε}
    (hstop : h.shouldStop e = (stop, asked))
    (log : List (RunEvent ε τ)) :
    h.recorded.shouldStop (e, log) = (stop, asked, log ++ [.asked stop]) := by
  simp only [recorded, hstop]

theorem recorded_step {ε τ : Type} (h : Host ε τ) {answer : Except Fault Unit} {e done : ε}
    (hstep : h.step e = (answer, done))
    (log : List (RunEvent ε τ)) :
    h.recorded.step (e, log) = (answer, done, log ++ [.stepped e answer]) := by
  simp only [recorded, hstep]

/-- All that a run does. -/
def history {ε τ : Type} [Time τ] (h : Host ε τ) (r : Rates τ) (limit : Nat) (e : ε) :
    List (RunEvent ε τ) :=
  (h.recorded.run r limit (e, [])).left.2

end Host

/-! ## Turns that go on -/

/-- How a turn waits for the next one. -/
inductive Rest (τ : Type) where
  | slept (span : τ)
  /-- It is late, so the clock is read instead. -/
  | late (now : τ)

def Rest.event {ε τ : Type} : Rest τ → RunEvent ε τ
  | slept span => .slept span
  | late now => .read now

/-- A turn that goes on, by what happens in it. -/
structure Lap (ε τ : Type) where
  before : ε
  /-- What the clock shows after the instruction. -/
  read : τ
  /-- Whether the screen is shown. -/
  shows : Bool
  /-- What the clock shows when nothing is left to do. -/
  ready : τ
  rest : Rest τ

section
variable {ε τ : Type}

/-- What happens in a turn, with the number of steps behind it. -/
def Lap.events (l : Lap ε τ) (steps : Nat) : List (RunEvent ε τ) :=
  [.asked false, .stepped l.before (.ok ()), .read l.read] ++
    (if l.shows then [.refreshed, .framed] else []) ++
    [.counted steps, .read l.ready, l.rest.event]

/-- The pace behind a turn that goes on. -/
structure Lap.Fits [Time τ] (l : Lap ε τ) (r : Rates τ) (p p' : Pace τ) : Prop where
  steps : p'.steps = p.steps + 1
  due : l.shows ↔ r.frame ≤ l.read - p.shown
  shown : p'.shown = if l.shows then l.read else p.shown

/-- What happens in turns one after the other, of which the first one has so
many steps before it. -/
def lapEvents (steps : Nat) : List (Lap ε τ) → List (RunEvent ε τ)
  | [] => []
  | l :: rest => l.events (steps + 1) ++ lapEvents (steps + 1) rest

/-- The reading at which the screen was shown last, or the one at the start. -/
def shownAfter (start : τ) (laps : List (Lap ε τ)) : τ :=
  ((laps.filter Lap.shows).map Lap.read).getLast?.getD start

theorem shownAfter_cons (start : τ) (l : Lap ε τ) (rest : List (Lap ε τ)) :
    shownAfter start (l :: rest) = shownAfter (if l.shows then l.read else start) rest := by
  unfold shownAfter
  by_cases hshows : l.shows
  · simp [hshows, List.getLast?_cons]
  · simp [hshows]

/-- The screen is shown in exactly the turns in which this is due. -/
def OnTime [Time τ] (frame start : τ) (laps : List (Lap ε τ)) : Prop :=
  ∀ front l back, laps = front ++ l :: back →
    (l.shows ↔ frame ≤ l.read - shownAfter start front)

theorem OnTime.cons [Time τ] {frame start : τ} {l : Lap ε τ} {rest : List (Lap ε τ)}
    (hl : l.shows ↔ frame ≤ l.read - start)
    (hrest : OnTime frame (if l.shows then l.read else start) rest) :
    OnTime frame start (l :: rest) := by
  intro front l' back h
  cases front with
  | nil =>
    cases h
    exact hl
  | cons first front =>
    cases h
    rw [shownAfter_cons]
    exact hrest front l' back rfl

end

/-! ## Turns that end a run -/

/-- What the last turn of a run does, and how the run ends. -/
inductive Closing {ε τ : Type} (h : Host ε τ) (steps : Nat) :
    Ending ε → List (RunEvent ε τ) → Prop where
  | stopped {before after : ε} (hstop : h.shouldStop before = (true, after)) :
      Closing h steps (.stopped steps (h.refresh after)) [.asked true, .refreshed]
  | closed {before after : ε} {reason : String}
      (hstep : h.step before = (.error (.inputClosed reason), after)) :
      Closing h steps (.stopped steps (h.refresh (h.tell (.inputClosed steps) after)))
        [.asked false, .stepped before (.error (.inputClosed reason)),
          .told (.inputClosed steps), .refreshed]
  | halted {before after : ε} {f : Fault} (hstep : h.step before = (.error f, after))
      (hopen : ∀ reason, f ≠ .inputClosed reason) (hprogram : f.isProgramFault) :
      Closing h steps (.failed f (h.tell (.halted steps (h.pc after) f) after))
        [.asked false, .stepped before (.error f), .told (.halted steps (h.pc after) f)]
  | broken {before after : ε} {f : Fault} (hstep : h.step before = (.error f, after))
      (hprogram : ¬ f.isProgramFault) :
      Closing h steps (.failed f after) [.asked false, .stepped before (.error f)]

/-- Where nobody asks to stop, a run is stopped by a closed input. -/
theorem Closing.closed_of_stopped {ε τ : Type} {h : Host ε τ} {steps steps' : Nat} {e : ε}
    {closing : List (RunEvent ε τ)} (hclosing : Closing h steps (.stopped steps' e) closing)
    (hasked : ∀ x, (h.shouldStop x).1 = false) :
    ∃ before reason, .stepped before (.error (.inputClosed reason)) ∈ closing := by
  cases hclosing with
  | stopped hstop => cases (hasked _).symm.trans (congrArg Prod.fst hstop)
  | closed hstep => exact ⟨_, _, .tail _ (.head _)⟩

namespace Host

variable {ε τ : Type} [Time τ] (h : Host ε τ) {r : Rates τ} {p p' : Pace τ} {e e' : ε}

/-! ## One turn -/

theorem shown_showFrame (r : Rates τ) (shown : τ) (e : ε) :
    (h.showFrame r shown e).1 =
      if r.frame ≤ (h.now e).1 - shown then (h.now e).1 else shown := by
  unfold showFrame
  by_cases hdue : r.frame ≤ (h.now e).1 - shown
  · simp [hdue]
  · simp [hdue]

theorem recorded_showFrame (r : Rates τ) (shown : τ) (e : ε) (log : List (RunEvent ε τ)) :
    h.recorded.showFrame r shown (e, log) =
      ((h.showFrame r shown e).1, (h.showFrame r shown e).2,
        log ++ .read (h.now e).1 ::
          if r.frame ≤ (h.now e).1 - shown then [.refreshed, .framed] else []) := by
  unfold showFrame
  by_cases hdue : r.frame ≤ (h.now e).1 - shown
  · simp [recorded, hdue]
  · simp [recorded, hdue]

theorem recorded_rest (due : τ) (e : ε) (log : List (RunEvent ε τ)) :
    ∃ ready rest, h.recorded.rest due (e, log) =
      ((h.rest due e).1, (h.rest due e).2, log ++ [.read ready, Rest.event rest]) := by
  unfold rest
  by_cases hearly : 0 < due - (h.now e).1
  · exact ⟨(h.now e).1, .slept (due - (h.now e).1), by simp [recorded, hearly, Rest.event]⟩
  · exact ⟨(h.now e).1, .late (h.now (h.now e).2).1, by simp [recorded, hearly, Rest.event]⟩

theorem afterStep_eq (r : Rates τ) (p : Pace τ) (e : ε) :
    h.afterStep r p e =
      let frame := h.showFrame r p.shown e
      let rest := h.rest (p.due + r.period) (h.status (p.steps + 1) frame.2)
      .next ⟨p.steps + 1, rest.1, frame.1⟩ rest.2 := rfl

theorem exists_lap_afterStep (r : Rates τ) (p : Pace τ) (before e : ε)
    (log : List (RunEvent ε τ)) :
    ∃ (l : Lap ε τ) (p' : Pace τ) (e' : ε), l.Fits r p p' ∧ h.afterStep r p e = .next p' e' ∧
      h.recorded.afterStep r p (e, log ++ [.asked false, .stepped before (.ok ())]) =
        .next p' (e', log ++ l.events p'.steps) := by
  have hstatus (steps : Nat) (x : ε) (log' : List (RunEvent ε τ)) :
      h.recorded.status steps (x, log') = (h.status steps x, log' ++ [.counted steps]) := rfl
  have hframe := h.recorded_showFrame r p.shown e
    (log ++ [.asked false, .stepped before (.ok ())])
  obtain ⟨ready, rest, hrest⟩ := h.recorded_rest (p.due + r.period)
    (h.status (p.steps + 1) (h.showFrame r p.shown e).2)
    ((h.recorded.showFrame r p.shown (e, log ++ [.asked false, .stepped before (.ok ())])).2.2 ++
      [.counted (p.steps + 1)])
  refine ⟨⟨before, (h.now e).1, decide (r.frame ≤ (h.now e).1 - p.shown), ready, rest⟩, _, _,
    ⟨?_, decide_eq_true_iff, ?_⟩, h.afterStep_eq r p e, ?_⟩
  · rfl
  · simp only [shown_showFrame, decide_eq_true_eq]
  · rw [afterStep_eq]
    simp only [hframe, hstatus] at hrest ⊢
    rw [hrest]
    simp [Lap.events]

/-- How a turn ends a run: it is stopped, its input is closed, or a step fails. -/
inductive Ends (h : Host ε τ) (p : Pace τ) (e : ε) : Ending ε → Prop where
  | stopped {asked : ε} (hstop : h.shouldStop e = (true, asked)) :
      Ends h p e (.stopped p.steps (h.refresh asked))
  | closed {asked done : ε} {reason : String} (hstop : h.shouldStop e = (false, asked))
      (hstep : h.step asked = (.error (.inputClosed reason), done)) :
      Ends h p e (.stopped p.steps (h.refresh (h.tell (.inputClosed p.steps) done)))
  | failed {asked done : ε} {f : Fault} (hstop : h.shouldStop e = (false, asked))
      (hstep : h.step asked = (.error f, done)) (hopen : ∀ reason, f ≠ .inputClosed reason) :
      Ends h p e (.failed f
        (if f.isProgramFault then h.tell (.halted p.steps (h.pc done) f) done else done))

section
variable {h} {ending : Ending ε}

theorem Ends.turn_eq (hends : h.Ends p e ending) : h.turn r p e = .ended ending := by
  unfold turn
  cases hends with
  | stopped hstop =>
    rw [hstop]
    rfl
  | closed hstop hstep =>
    simp only [hstop, hstep]
    rfl
  | failed hstop hstep hopen => simp only [hstop, hstep]

theorem turn_of_ok {asked done : ε} (hstop : h.shouldStop e = (false, asked))
    (hstep : h.step asked = (.ok (), done)) : h.turn r p e = h.afterStep r p done := by
  unfold turn
  simp only [hstop, hstep]

/-- A turn carries out a step or ends the run. -/
theorem turn_cases {ε τ : Type} (h : Host ε τ) (p : Pace τ) (e : ε) :
    (∃ asked done, h.shouldStop e = (false, asked) ∧ h.step asked = (.ok (), done)) ∨
      ∃ ending, h.Ends p e ending := by
  rcases hstop : h.shouldStop e with ⟨stop, asked⟩
  cases stop with
  | true => exact .inr ⟨_, .stopped hstop⟩
  | false =>
    rcases hstep : h.step asked with ⟨answer, done⟩
    cases answer with
    | ok _ => exact .inl ⟨asked, done, rfl, hstep⟩
    | error f =>
      by_cases hclosed : ∃ reason, f = .inputClosed reason
      · obtain ⟨reason, rfl⟩ := hclosed
        exact .inr ⟨_, .closed hstop hstep⟩
      · exact .inr ⟨_, .failed hstop hstep fun reason hf => hclosed ⟨reason, hf⟩⟩

theorem next_of_turn (hturn : h.turn r p e = .next p' e') :
    ∃ asked done, h.shouldStop e = (false, asked) ∧ h.step asked = (.ok (), done) ∧
      h.afterStep r p done = .next p' e' := by
  obtain ⟨asked, done, hstop, hstep⟩ | ⟨ending, hends⟩ := h.turn_cases p e
  · exact ⟨asked, done, hstop, hstep, (turn_of_ok hstop hstep).symm.trans hturn⟩
  · cases hends.turn_eq.symm.trans hturn

theorem ends_of_turn (hturn : h.turn r p e = .ended ending) : h.Ends p e ending := by
  obtain ⟨asked, done, hstop, hstep⟩ | ⟨ending', hends⟩ := h.turn_cases p e
  · have hnext := (turn_of_ok hstop hstep).symm.trans hturn
    rw [afterStep_eq] at hnext
    cases hnext
  · cases hends.turn_eq.symm.trans hturn
    exact hends

end

/-- A turn that goes on is a lap, whose events are recorded. -/
theorem exists_lap (hturn : h.turn r p e = .next p' e') (log : List (RunEvent ε τ)) :
    ∃ l : Lap ε τ, l.Fits r p p' ∧
      h.recorded.turn r p (e, log) = .next p' (e', log ++ l.events p'.steps) := by
  obtain ⟨asked, done, hstop, hstep, hnext⟩ := next_of_turn hturn
  obtain ⟨l, q, e'', hfits, hgoes, hlog⟩ := h.exists_lap_afterStep r p asked done log
  cases hgoes.symm.trans hnext
  have hasked := h.recorded_shouldStop hstop log
  have hdone := h.recorded_step hstep (log ++ [.asked false])
  rw [List.append_assoc] at hdone
  exact ⟨l, hfits, (turn_of_ok hasked hdone).trans hlog⟩

/-- A turn that ends the run closes its record. -/
theorem exists_closing {ending : Ending ε} (hturn : h.turn r p e = .ended ending)
    (log : List (RunEvent ε τ)) :
    ∃ closing, Closing h p.steps ending closing ∧
      h.recorded.turn r p (e, log) = .ended (ending.map fun e => (e, log ++ closing)) := by
  cases ends_of_turn hturn with
  | stopped hstop =>
    have hasked := h.recorded_shouldStop hstop log
    refine ⟨_, .stopped hstop, (Ends.stopped hasked).turn_eq.trans ?_⟩
    simp [recorded, Ending.map]
  | closed hstop hstep =>
    have hasked := h.recorded_shouldStop hstop log
    have hdone := h.recorded_step hstep (log ++ [.asked false])
    refine ⟨_, .closed hstep, (Ends.closed hasked hdone).turn_eq.trans ?_⟩
    simp [recorded, Ending.map]
  | failed hstop hstep hopen =>
    rename_i f
    have hasked := h.recorded_shouldStop hstop log
    have hdone := h.recorded_step hstep (log ++ [.asked false])
    by_cases hprogram : f.isProgramFault
    · rw [if_pos hprogram]
      refine ⟨_, .halted hstep hopen hprogram, (Ends.failed hasked hdone hopen).turn_eq.trans ?_⟩
      simp [recorded, Ending.map, hprogram]
    · rw [if_neg hprogram]
      refine ⟨_, .broken hstep hprogram, (Ends.failed hasked hdone hopen).turn_eq.trans ?_⟩
      simp [Ending.map, hprogram]

/-! ## All turns -/

/-- A run goes on for some turns. -/
inductive Goes (h : Host ε τ) (r : Rates τ) : Pace τ → ε → Nat → Pace τ → ε → Prop where
  | none (p : Pace τ) (e : ε) : Goes h r p e 0 p e
  | next {p p' p'' : Pace τ} {e e' e'' : ε} {n : Nat} (first : h.turn r p e = .next p' e')
      (rest : Goes h r p' e' n p'' e'') : Goes h r p e (n + 1) p'' e''

theorem turns_of_next (hturn : h.turn r p e = .next p' e') (limit : Nat) :
    h.turns r (limit + 1) p e = h.turns r limit p' e' := by
  rw [turns, hturn]

theorem turns_of_ended {ending : Ending ε} (hturn : h.turn r p e = .ended ending) (limit : Nat) :
    h.turns r (limit + 1) p e = ending := by
  rw [turns, hturn]

/-- A run goes on for as many turns as are allowed, or until a turn ends it. -/
theorem exists_goes (h : Host ε τ) (r : Rates τ) (limit : Nat) (p : Pace τ) (e : ε) :
    ∃ n p' e', h.Goes r p e n p' e' ∧
      ((n = limit ∧ h.turns r limit p e = .going p'.steps e') ∨
        (n < limit ∧ h.turn r p' e' = .ended (h.turns r limit p e))) := by
  induction limit generalizing p e with
  | zero => exact ⟨0, p, e, .none p e, .inl ⟨rfl, rfl⟩⟩
  | succ limit ih =>
    cases hturn : h.turn r p e with
    | ended ending =>
      rw [h.turns_of_ended hturn]
      exact ⟨0, p, e, .none p e, .inr ⟨Nat.succ_pos _, hturn⟩⟩
    | next p1 e1 =>
      obtain ⟨n, p', e', hgoes, hend⟩ := ih p1 e1
      rw [h.turns_of_next hturn]
      refine ⟨n + 1, p', e', .next hturn hgoes, ?_⟩
      rcases hend with ⟨rfl, hlast⟩ | ⟨hlt, hlast⟩
      · exact .inl ⟨rfl, hlast⟩
      · exact .inr ⟨Nat.succ_lt_succ hlt, hlast⟩

/-- Behind some turns a run goes on as from there. -/
theorem Goes.turns_eq {n : Nat} (hgoes : h.Goes r p e n p' e') (more : Nat) :
    h.turns r (n + more) p e = h.turns r more p' e' := by
  induction hgoes with
  | none p e => rw [Nat.zero_add]
  | next first _ ih =>
    rw [Nat.add_right_comm, h.turns_of_next first]
    exact ih

/-- Each turn that goes on is one more step. -/
theorem Goes.steps_eq {n : Nat} (hgoes : h.Goes r p e n p' e') : p'.steps = p.steps + n := by
  induction hgoes with
  | none => rfl
  | next first _ ih =>
    obtain ⟨l, hfits, -⟩ := h.exists_lap first []
    rw [ih, hfits.steps]
    omega

/-- Turns that go on are laps, on time, whose events are recorded. -/
theorem Goes.exists_laps {n : Nat} (hgoes : h.Goes r p e n p' e')
    (log : List (RunEvent ε τ)) :
    ∃ laps : List (Lap ε τ), laps.length = n ∧ OnTime r.frame p.shown laps ∧
      h.recorded.Goes r p (e, log) n p' (e', log ++ lapEvents p.steps laps) := by
  induction hgoes generalizing log with
  | none p e =>
    refine ⟨[], rfl, ?_, ?_⟩
    · rintro front l back hnil
      simp at hnil
    · simp only [lapEvents, List.append_nil]
      exact .none _ _
  | next first _ ih =>
    obtain ⟨l, hfits, hfirst⟩ := h.exists_lap first log
    obtain ⟨laps, hlength, htime, hrest⟩ := ih (log ++ l.events _)
    refine ⟨l :: laps, ?_, .cons hfits.due (hfits.shown ▸ htime), .next hfirst ?_⟩
    · rw [List.length_cons, hlength]
    · rw [lapEvents, ← List.append_assoc, ← hfits.steps]
      exact hrest

/-- The history of a run that a turn ends: laps on time, and what the last turn
does. -/
theorem exists_history_of_goes {n limit : Nat} {ending : Ending ε}
    (hgoes : h.Goes r ⟨0, (h.now e).1, (h.now e).1⟩ (h.now e).2 n p' e')
    (hlast : h.turn r p' e' = .ended ending) (hlimit : n < limit) :
    ∃ (laps : List (Lap ε τ)) (closing : List (RunEvent ε τ)), laps.length = n ∧
      h.history r limit e = .read (h.now e).1 :: lapEvents 0 laps ++ closing ∧
      OnTime r.frame (h.now e).1 laps ∧ Closing h n ending closing := by
  obtain ⟨laps, hlength, htime, hrecorded⟩ := hgoes.exists_laps h [.read (h.now e).1]
  obtain ⟨closing, hclosing, hclosed⟩ := h.exists_closing hlast
    ([.read (h.now e).1] ++ lapEvents 0 laps)
  obtain ⟨more, rfl⟩ := Nat.exists_eq_add_of_lt hlimit
  have hrun : h.recorded.run r (n + (more + 1)) (e, []) = _ :=
    (hrecorded.turns_eq h.recorded (more + 1)).trans (h.recorded.turns_of_ended hclosed more)
  rw [hgoes.steps_eq, Nat.zero_add] at hclosing
  refine ⟨laps, closing, hlength, ?_, htime, hclosing⟩
  exact (congrArg (fun ending => ending.left.2) hrun).trans
    (congrArg Prod.snd (Ending.left_map _ ending))

/-- The history of a run: laps on time, and then what the last turn does, if the
run comes to it. -/
theorem exists_history (h : Host ε τ) (r : Rates τ) (limit : Nat) (e : ε) :
    ∃ (start : τ) (laps : List (Lap ε τ)) (closing : List (RunEvent ε τ)),
      h.history r limit e = .read start :: lapEvents 0 laps ++ closing ∧
      OnTime r.frame start laps ∧
      ((∃ e', h.run r limit e = .going laps.length e' ∧ laps.length = limit ∧ closing = []) ∨
        Closing h laps.length (h.run r limit e) closing) := by
  obtain ⟨n, p', e', hgoes, ⟨rfl, hlast⟩ | ⟨hlt, hlast⟩⟩ :=
    h.exists_goes r limit ⟨0, (h.now e).1, (h.now e).1⟩ (h.now e).2
  · obtain ⟨laps, rfl, htime, hrecorded⟩ := hgoes.exists_laps h [.read (h.now e).1]
    have hgoing := hrecorded.turns_eq h.recorded 0
    rw [hgoes.steps_eq, Nat.zero_add] at hlast
    refine ⟨(h.now e).1, laps, [], ?_, htime, .inl ⟨e', hlast, rfl, rfl⟩⟩
    rw [List.append_nil]
    exact congrArg (fun ending => ending.left.2) hgoing
  · obtain ⟨laps, closing, rfl, hhistory, htime, hclosing⟩ :=
      h.exists_history_of_goes hgoes hlast hlt
    exact ⟨(h.now e).1, laps, closing, hhistory, htime, .inr hclosing⟩

/-! ## What every request goes along with -/

/-- Whatever is asked of a host between two steps, except to sleep, it goes along
a relation. -/
structure Chores (h : Host ε τ) (R : ε → ε → Prop) : Prop where
  now : ∀ e, R e (h.now e).2
  refresh : ∀ e, R e (h.refresh e)
  onFrame : ∀ e, R e (h.onFrame e)
  status : ∀ steps e, R e (h.status steps e)
  tell : ∀ n e, R e (h.tell n e)

/-- Whatever is asked of a host between two steps, it goes along a relation. -/
structure Idles (h : Host ε τ) (R : ε → ε → Prop) : Prop extends h.Chores R where
  sleep : ∀ span e, R e (h.sleep span e)

/-- Whatever is asked of a host, except to sleep, it goes along a relation. -/
structure Works (h : Host ε τ) (R : ε → ε → Prop) : Prop extends h.Chores R where
  shouldStop : ∀ e, R e (h.shouldStop e).2
  step : ∀ e, R e (h.step e).2

/-- Whatever is asked of a host at all, it goes along a relation. -/
structure Follows (h : Host ε τ) (R : ε → ε → Prop) : Prop extends h.Idles R, h.Works R

section
variable {ε τ : Type} {h : Host ε τ} {R : ε → ε → Prop} {p : Pace τ} {e x y : ε} {stop : Bool}

theorem Works.asked (hR : h.Works R) (hstop : h.shouldStop e = (stop, x)) : R e x := by
  have hasked := hR.shouldStop e
  rw [hstop] at hasked
  exact hasked

variable [IsPreorder ε R]

theorem Works.stepped (hR : h.Works R) {answer : Except Fault Unit}
    (hstop : h.shouldStop e = (stop, x)) (hstep : h.step x = (answer, y)) : R e y := by
  have hdone := hR.step x
  rw [hstep] at hdone
  exact trans_of R (hR.asked hstop) hdone

theorem Works.ends (hR : h.Works R) {ending : Ending ε} (hends : h.Ends p e ending) :
    R e ending.left := by
  cases hends with
  | stopped hstop => exact trans_of R (hR.asked hstop) (hR.refresh _)
  | closed hstop hstep =>
    exact trans_of R (hR.stepped hstop hstep) (trans_of R (hR.tell _ _) (hR.refresh _))
  | failed hstop hstep hopen =>
    refine trans_of R (hR.stepped hstop hstep) ?_
    show R _ (if _ then _ else _)
    split
    · exact hR.tell _ _
    · exact refl_of R _

end

section
variable {h} {R : ε → ε → Prop} [IsPreorder ε R]

theorem Chores.showFrame (hR : h.Chores R) (shown : τ) (e : ε) :
    R e (h.showFrame r shown e).2 := by
  unfold Host.showFrame
  have hnow := hR.now e
  simp only
  split
  · exact trans_of R hnow (trans_of R (hR.refresh _) (hR.onFrame _))
  · exact hnow

theorem Idles.rest (hR : h.Idles R) (due : τ) (e : ε) : R e (h.rest due e).2 := by
  unfold Host.rest
  have hnow := hR.now e
  simp only
  split
  · exact trans_of R hnow (hR.sleep _ _)
  · exact trans_of R hnow (hR.now _)

/-- The part of a turn that follows a step is one more step in the count. -/
theorem Idles.exists_afterStep (hR : h.Idles R) (r : Rates τ) (p : Pace τ) (e : ε) :
    ∃ p' e', h.afterStep r p e = .next p' e' ∧ p'.steps = p.steps + 1 ∧ R e e' := by
  refine ⟨_, _, h.afterStep_eq r p e, rfl, ?_⟩
  exact trans_of R (hR.showFrame _ _) (trans_of R (hR.status _ _) (hR.rest _ _))

theorem Follows.turn (hR : h.Follows R) (hturn : h.turn r p e = .next p' e') : R e e' := by
  obtain ⟨asked, done, hstop, hstep, hnext⟩ := next_of_turn hturn
  obtain ⟨q, e'', hnext', -, hafter⟩ := hR.exists_afterStep r p done
  cases hnext'.symm.trans hnext
  exact trans_of R (hR.stepped hstop hstep) hafter

theorem Follows.goes {n : Nat} (hR : h.Follows R) (hgoes : h.Goes r p e n p' e') : R e e' := by
  induction hgoes with
  | none p e => exact refl_of R e
  | next first _ ih => exact trans_of R (hR.turn first) ih

/-- Whatever happened before, the last thing that a stopped run does is to show
the screen. -/
theorem Follows.stopped (hR : h.Follows R) {limit steps : Nat}
    (hrun : h.run r limit e = .stopped steps e') : ∃ last, R e last ∧ e' = h.refresh last := by
  obtain ⟨n, p1, e1, hgoes, ⟨-, hend⟩ | ⟨-, hend⟩⟩ :=
    h.exists_goes r limit ⟨0, (h.now e).1, (h.now e).1⟩ (h.now e).2
  · cases hrun.symm.trans hend
  have hbefore := trans_of R (hR.now e) (hR.goes hgoes)
  rw [show h.turns r limit _ _ = _ from hrun] at hend
  cases ends_of_turn hend with
  | stopped hstop => exact ⟨_, trans_of R hbefore (hR.asked hstop), rfl⟩
  | closed hstop hstep =>
    exact ⟨_, trans_of R hbefore (trans_of R (hR.stepped hstop hstep) (hR.tell _ _)), rfl⟩

end

end Host

/-- A clock that is one second on at each look, and a run that nobody stops. -/
def ticking : Surroundings Nat Rat where
  now w := (w, w + 1)
  shouldStop w := (false, w)
  onFrame := id
  status _ := id
  sleep _ := id

section
variable {κ σ ρ : Type} [Keypad κ] [Screen σ] [RandomSource ρ] {c d : Console κ σ ρ}
  {r : Rates Rat} {p : Pace Rat} {w : Nat}

/-- A turn that shows the screen and is late. The clock is read for the screen, at
the end of the turn, and once more for the next one. -/
theorem turn_ticking_of_ok (hstep : c.step = (.ok (), d)) (hdue : r.frame ≤ w - p.shown)
    (hlate : ¬ (0 : Rat) < p.due + r.period - (w + 1 : Nat)) :
    ticking.host.turn r p (c, w) =
      .next ⟨p.steps + 1, (w + 2 : Nat), w⟩ (d.refresh, w + 3) := by
  have hdone : ticking.host.step (c, w) = (.ok (), d, w) := by
    show (c.step.1, c.step.2, w) = _
    rw [hstep]
  have hframe : ticking.host.showFrame r p.shown (d, w) = ((w : Rat), d.refresh, w + 1) :=
    if_pos hdue
  have hrest : ticking.host.rest (p.due + r.period) (d.refresh, w + 1) =
      (((w + 2 : Nat) : Rat), d.refresh, w + 3) := if_neg hlate
  rw [Host.turn_of_ok rfl hdone, Host.afterStep_eq, hframe]
  exact congrArg (fun x : Rat × _ => Turn.next ⟨p.steps + 1, x.1, w⟩ x.2) hrest

theorem turn_ticking_of_closed {reason : String}
    (hstep : c.step = (.error (.inputClosed reason), d)) :
    ticking.host.turn r p (c, w) =
      .ended (.stopped p.steps ((d.tell [.inputClosed p.steps]).refresh, w)) := by
  have hclosed : ticking.host.step (c, w) = (.error (.inputClosed reason), d, w) := by
    show (c.step.1, c.step.2, w) = _
    rw [hstep]
  exact (Host.Ends.closed rfl hclosed).turn_eq

end

end Chip8
