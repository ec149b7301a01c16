-- What a run shows and what it leaves behind. The screen is shown whenever that
-- is due and once more at the end, so a run that was stopped leaves its last
-- picture on it. A closed input leaves the machine in front of the wait.
import Mathlib.Tactic.NormNum
import Chip8.Proofs.Atomicity
import Chip8.Proofs.Canvas
import Chip8.Proofs.History
import Chip8.Session.Play
import Chip8.Session.Watch
namespace Chip8

/-! ## Hosts of a console -/

section
variable {κ σ ρ ε τ : Type}

/-- The parts of a console that a run is about: its machine and its screen. -/
def Console.face (c : Console κ σ ρ) : Machine × σ := (c.machine, c.devices.screen)

variable [Keypad κ] [Screen σ] [RandomSource ρ]

/-- A host runs a console that can be seen in it. A step and a refresh are
those of the console, and whatever else is asked leaves its face alone. -/
structure Host.Plays (h : Host ε τ) (view : ε → Console κ σ ρ) : Prop where
  answer : ∀ e, (h.step e).1 = (view e).step.1
  step : ∀ e, (view (h.step e).2).face = (view e).step.2.face
  refresh : ∀ e, (view (h.refresh e)).face = (view e).refresh.face
  now : ∀ e, (view (h.now e).2).face = (view e).face
  shouldStop : ∀ e, (view (h.shouldStop e).2).face = (view e).face
  onFrame : ∀ e, (view (h.onFrame e)).face = (view e).face
  status : ∀ steps e, (view (h.status steps e)).face = (view e).face
  sleep : ∀ span e, (view (h.sleep span e)).face = (view e).face
  tell : ∀ n e, (view (h.tell n e)).face = (view e).face

/-- Surroundings cannot touch the console. -/
theorem Surroundings.plays_host {ω : Type} (s : Surroundings ω τ) :
    s.host.Plays (Prod.fst : Console κ σ ρ × ω → Console κ σ ρ) where
  answer _ := rfl
  step _ := rfl
  refresh _ := rfl
  now _ := rfl
  shouldStop _ := rfl
  onFrame _ := rfl
  status _ _ := rfl
  sleep _ _ := rfl
  tell _ _ := rfl

end

/-- Logging does not touch the console either, and a window looks at its events
when it is asked whether to stop. -/
theorem Session.plays_host : Session.host.Plays Desk.console where
  answer _ := rfl
  step _ := rfl
  refresh _ := rfl
  now _ := rfl
  shouldStop _ := rfl
  onFrame _ := rfl
  status _ _ := rfl
  sleep _ _ := rfl
  tell _ _ := rfl

/-- Nor does what a planned run writes down. -/
theorem Watched.plays_host {plan : Plan} (hplan : plan.frameProblem = none) :
    (Watched.host plan).Plays fun w => w.desk.console := by
  have hstep (w : Watched) : (Watched.host plan).step w =
      ((w.desk.act w.desk.now Console.step).1,
        { w with desk := (w.desk.act w.desk.now Console.step).2 }) := by
    unfold host
    rw [hplan]
    simp only
    split
    · rename_i h
      cases h
    · rfl
  constructor
  case answer => exact fun w => congrArg Prod.fst (hstep w)
  case step =>
    intro w
    rw [hstep]
    rfl
  case onFrame =>
    intro w
    show (if plan.countsFrames then { w with frames := _ } else w).desk.console.face = _
    split <;> rfl
  case status =>
    intro steps w
    show (w.status steps).desk.console.face = _
    unfold status
    split
    · rfl
    · dsimp only
      split <;> rfl
  case sleep =>
    intro span w
    show (if plan.sleepAdvances then Watched.advance _ span else _).desk.console.face = _
    split <;> rfl
  case tell => exact fun _ _ => rfl
  all_goals exact fun _ => rfl

/-! ## The calls of a run -/

section
variable {κ σ ρ ε τ : Type} [Screen σ]

/-- A console whose screen can come about from that of another one by calls. -/
def Console.Onward (c c' : Console κ σ ρ) : Prop :=
  ∃ calls, c'.devices.screen = after Screen.answer c.devices.screen calls

theorem Console.onward_of_face {c c' : Console κ σ ρ} (h : c'.face = c.face) : c.Onward c' :=
  ⟨[], congrArg Prod.snd h⟩

theorem Console.Onward.trans {c c' c'' : Console κ σ ρ} (h : c.Onward c') (h' : c'.Onward c'') :
    c.Onward c'' := by
  obtain ⟨front, hfront⟩ := h
  obtain ⟨back, hback⟩ := h'
  refine ⟨front ++ back, ?_⟩
  rw [hback, hfront, after_append]

variable {h : Host ε τ} {view : ε → Console κ σ ρ}

instance : IsPreorder ε fun e e' => (view e).Onward (view e') where
  refl _ := Console.onward_of_face rfl
  trans _ _ _ := Console.Onward.trans

variable [Keypad κ] [RandomSource ρ]

theorem Host.Plays.follows (hplays : h.Plays view) :
    h.Follows fun e e' => (view e).Onward (view e') where
  now e := Console.onward_of_face (hplays.now e)
  shouldStop e := Console.onward_of_face (hplays.shouldStop e)
  step e := by
    obtain ⟨calls, hcalls⟩ := (view e).exists_calls_obey .step
    exact ⟨calls, (congrArg Prod.snd (hplays.step e)).trans hcalls⟩
  refresh e := ⟨[.refresh], congrArg Prod.snd (hplays.refresh e)⟩
  onFrame e := Console.onward_of_face (hplays.onFrame e)
  status steps e := Console.onward_of_face (hplays.status steps e)
  sleep span e := Console.onward_of_face (hplays.sleep span e)
  tell n e := Console.onward_of_face (hplays.tell n e)

/-- All that a stopped run did to the screen is to call it, and the last call
showed it. -/
theorem Host.Plays.screen_of_stopped [Time τ] (hplays : h.Plays view) {r : Rates τ}
    {limit steps : Nat} {e e' : ε} (hrun : h.run r limit e = .stopped steps e') :
    ∃ calls, (view e').devices.screen =
      Screen.refresh (after Screen.answer (view e).devices.screen calls) := by
  obtain ⟨last, ⟨calls, hcalls⟩, rfl⟩ := hplays.follows.stopped hrun
  refine ⟨calls, (congrArg Prod.snd (hplays.refresh last)).trans ?_⟩
  rw [← hcalls]
  rfl

/-- What a closed input leaves: the machine as it was in front of the wait. -/
theorem Host.Plays.machine_of_closed (hplays : h.Plays view) {before after : ε} {reason : String}
    (hstep : h.step before = (.error (.inputClosed reason), after)) (n : Notice) :
    (view (h.refresh (h.tell n after))).machine = (view before).machine ∧
      ∃ x, (view before).machine.Holds (.waitKey x) := by
  have hanswer := hplays.answer before
  have hafter := hplays.step before
  rw [hstep] at hanswer hafter
  have hclosed : (view before).step = (.error (.inputClosed reason), (view before).step.2) :=
    Prod.ext hanswer.symm rfl
  obtain ⟨x, keypad, hwait, -⟩ := waits_of_closed (Console.finish_eq_error hclosed).1
  refine ⟨?_, x, hwait⟩
  calc (view (h.refresh (h.tell n after))).machine
      = (view (h.tell n after)).machine := congrArg Prod.fst (hplays.refresh _)
    _ = (view after).machine := congrArg Prod.fst (hplays.tell n after)
    _ = (view before).step.2.machine := congrArg Prod.fst hafter
    _ = (view before).machine := (Console.spared_of_step hclosed).machine

/-- A picture window that is left by a stopped run shows its pixels. -/
theorem Host.Plays.shows_of_stopped [Time τ] {view : ε → Console κ Canvas ρ}
    (hplays : h.Plays view) {r : Rates τ} {limit steps : Nat} {e e' : ε}
    (hrun : h.run r limit e = .stopped steps e') :
    (view e).devices.screen.Akin (view e').devices.screen ∧
      ∃ image, (view e').devices.screen.Shows image := by
  obtain ⟨calls, hscreen⟩ := hplays.screen_of_stopped hrun
  have hakin := Canvas.akin_after (view e).devices.screen calls
  rw [hscreen]
  exact ⟨hakin.trans (Canvas.akin_refresh _), _, Canvas.shows_refresh _⟩

end

/-- The program `6001 F10A` in a window that is asked to close: the first step is
carried out, and the second one waits for a key that does not come. -/
theorem exists_close_at_second_step {σ : Type} [Screen σ] (screen : σ) :
    ∃ c c1 d : Console (WindowKeypad Int Rat) σ Splitting, ∃ reason,
      c.devices.screen = screen ∧ c.step = (.ok (), c1) ∧
      c1.refresh.step = (.error (.inputClosed reason), d) ∧ d.machine.pc = 0x202 := by
  let keyboard : Keyboard Int Rat := { Keyboard.idle 0 ⟨1, none, []⟩ with inbox := [.quit] }
  let c : Console (WindowKeypad Int Rat) σ Splitting :=
    (Console.new ⟨⟨keyboard, none⟩, screen, ⟨⟨0, 0⟩⟩⟩).loadBytes [0x60, 0x01, 0xF1, 0x0A]
  let c1 := (c.execute (.setConst 0 1)).2
  have hset : c.machine.upcoming = .ok (.setConst 0 1) :=
    Machine.upcoming_load (k := 0) rfl rfl (by decide) (by decide)
      (by decide : Instruction.ofFields? (.ofBytes 0x60 0x01) = some (.setConst 0 1))
  have hwait : c1.refresh.machine.upcoming = .ok (.waitKey 1) :=
    Machine.upcoming_load (k := 2) rfl rfl (by decide) (by decide)
      (by decide : Instruction.ofFields? (.ofBytes 0xF1 0x0A) = some (.waitKey 1))
  refine ⟨c, c1, (c1.refresh.execute (.waitKey 1)).2, "Window closed while waiting for a key",
    rfl, ?_, ?_, rfl⟩
  · rw [Console.step_eq_execute hset]
    rfl
  · rw [Console.step_eq_execute hwait]
    rfl

/-! ## The whole run -/

/-- A run shows the screen in exactly the turns in which this is due, and tells
of each time. When it is stopped, or its input is closed, it shows the screen
once more, and when it fails it does not. So the screen that a stopped run
leaves was shown last of all, and a picture window shows its pixels. A closed
input stops the run at a wait for a key, and the machine that is left is the one
in front of the wait. -/
theorem run_shows_what_is_due_and_what_is_left {ε τ : Type} [Time τ] (h : Host ε τ) (r : Rates τ)
    (limit : Nat) (e : ε) :
    ∃ (start : τ) (laps : List (Lap ε τ)) (closing : List (RunEvent ε τ)),
      h.history r limit e = .read start :: lapEvents 0 laps ++ closing ∧
      OnTime r.frame start laps ∧
      ((∃ e', h.run r limit e = .going laps.length e' ∧ laps.length = limit ∧ closing = []) ∨
        Closing h laps.length (h.run r limit e) closing) ∧
      (∀ {κ σ ρ : Type} [Keypad κ] [Screen σ] [RandomSource ρ] (view : ε → Console κ σ ρ),
        h.Plays view →
        (∀ steps e', h.run r limit e = .stopped steps e' →
          ∃ calls, (view e').devices.screen =
            Screen.refresh (after Screen.answer (view e).devices.screen calls)) ∧
        (∀ before reason, .stepped before (.error (.inputClosed reason)) ∈ closing →
          ∃ e', h.run r limit e = .stopped laps.length e' ∧
            (view e').machine = (view before).machine ∧
            ∃ x, (view before).machine.Holds (.waitKey x))) ∧
      (∀ {κ ρ : Type} [Keypad κ] [RandomSource ρ] (view : ε → Console κ Canvas ρ),
        h.Plays view → ∀ steps e', h.run r limit e = .stopped steps e' →
          (view e).devices.screen.Akin (view e').devices.screen ∧
          ∃ image, (view e').devices.screen.Shows image) := by
  obtain ⟨start, laps, closing, hhistory, htime, hend⟩ := h.exists_history r limit e
  refine ⟨start, laps, closing, hhistory, htime, hend, ?_, ?_⟩
  · intro κ σ ρ _ _ _ view hplays
    refine ⟨fun steps e' hrun => hplays.screen_of_stopped hrun, fun before reason hmem => ?_⟩
    obtain ⟨e', -, -, rfl⟩ | hclosing := hend
    · simp at hmem
    · generalize h.run r limit e = ending at hclosing ⊢
      cases hclosing with
      | stopped => simp at hmem
      | closed hstep =>
        simp at hmem
        obtain ⟨rfl, rfl⟩ := hmem
        exact ⟨_, rfl, hplays.machine_of_closed hstep _⟩
      | halted hstep hopen =>
        simp at hmem
        exact absurd hmem.2.symm (hopen reason)
      | broken hstep hprogram =>
        simp at hmem
        rw [← hmem.2] at hprogram
        exact absurd rfl hprogram
  · intro κ ρ _ _ view hplays steps e' hrun
    exact hplays.shows_of_stopped hrun

/-- The run of `6001 F10A` in a window that is asked to close: the first step
was shown on time, the second one waits for a key that does not come. -/
theorem closed_window_shows_its_last_picture :
    ∃ (c : Console (WindowKeypad Int Rat) Canvas Splitting) (e' : _ × Nat)
      (start : Rat) (laps : List (Lap _ Rat)) (closing : List (RunEvent _ Rat)) (image : Image),
      AnyScreen.ofScale .usual 1 "amber" = .ok (.canvas c.devices.screen) ∧
      ticking.host.history ⟨1 / 120, 1 / 60⟩ 5 (c, 0) =
        .read start :: lapEvents 0 laps ++ closing ∧
      laps.length = 1 ∧ ticking.host.run ⟨1 / 120, 1 / 60⟩ 5 (c, 0) = .stopped 1 e' ∧
      e'.1.machine.pc = 0x202 ∧ (∃ x, e'.1.machine.Holds (.waitKey x)) ∧
      Image.inRoom .usual e'.1.devices.screen.grid 1 c.devices.screen.scheme = .ok image ∧
      e'.1.devices.screen.window.rows = image.rows := by
  obtain ⟨canvas, hcanvas⟩ : ∃ canvas, AnyScreen.ofScale .usual 1 "amber" = .ok (.canvas canvas) :=
    Canvas.exists_ofScale rfl (by decide) (by decide) ⟨by decide, fun _ => by decide⟩
  obtain ⟨hplatform, -, hscale, -⟩ := Canvas.ofScale_eq_ok hcanvas (by decide) (by decide)
  obtain ⟨c, c1, d, closes, rfl, hstep, hclosed, hpc⟩ := exists_close_at_second_step canvas
  let h : Host (Console (WindowKeypad Int Rat) Canvas Splitting × Nat) Rat := ticking.host
  let r : Rates Rat := ⟨1 / 120, 1 / 60⟩
  have hfirst : h.turn r ⟨0, 0, 0⟩ (c, 1) = .next ⟨1, (3 : Nat), (1 : Nat)⟩ (c1.refresh, 4) :=
    turn_ticking_of_ok hstep (by norm_num [r]) (by norm_num [r])
  have hrun : h.run r 5 (c, 0) = _ :=
    (h.turns_of_next hfirst 4).trans (h.turns_of_ended (turn_ticking_of_closed hclosed) 3)
  obtain ⟨start, laps, closing, hhistory, -, hend, hconsole, hwindow⟩ :=
    run_shows_what_is_due_and_what_is_left h r 5 (c, 0)
  obtain ⟨hakin, image, hshows⟩ := hwindow Prod.fst ticking.plays_host _ _ hrun
  have hshape := Canvas.shape_ofScale hcanvas (by decide) (by decide) hakin
  obtain rfl := Except.ok.inj (hshows.inRoom.symm.trans (Canvas.inRoom_eq_image _))
  have himage := hshows.inRoom
  rw [hakin.platform.trans hplatform, hakin.scale.trans hscale, hakin.scheme] at himage
  rw [hrun] at hend
  obtain ⟨_, hgoing, -⟩ | hclosing := hend
  · cases hgoing
  obtain ⟨before, reason, hmem⟩ := hclosing.closed_of_stopped fun _ => rfl
  obtain ⟨e', hrun', hmachine, x, hx⟩ := (hconsole Prod.fst ticking.plays_host).2 before reason hmem
  obtain ⟨hlength, hsame⟩ := Ending.stopped.inj (hrun.symm.trans hrun')
  refine ⟨c, _, start, laps, closing, _, hcanvas, hhistory, hlength.symm, hrun, hpc, ⟨x, ?_⟩,
    himage, hshows.rows hshape⟩
  rw [hsame, hmachine]
  exact hx

end Chip8
