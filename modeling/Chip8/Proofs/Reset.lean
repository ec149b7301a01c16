-- A reset forgets what was done with a console. What is left is the program
-- that was loaded last and the size of the screen, so the console goes on like
-- a new one.
import Chip8.Keypad.Any
import Chip8.Proofs.Indistinct
import Chip8.Proofs.OnGrid
namespace Chip8

open Instruction

/-! ## The program that was loaded last -/

namespace Operation

/-- The program that an operation loads. A load that fails loads none. -/
def loaded? : Operation → Option (List UInt8)
  | .load values => Console.bytes? values
  | .loadFile _ (.ok program) => some program
  | _ => none

/-- The program that the last load gave that succeeded, empty if there is none. -/
def lastLoaded (ops : List Operation) : List UInt8 := (ops.filterMap loaded?).getLastD []

end Operation

namespace Console

section
variable {κ σ ρ : Type} [Keypad κ] [Screen σ] [RandomSource ρ]

theorem program_operate (c : Console κ σ ρ) (op : Operation) :
    (c.operate op).program = op.loaded?.getD c.program := by
  cases op with
  | command a => exact program_obey c a
  | load values =>
    show (c.load values).2.program = (bytes? values).getD c.program
    unfold load
    cases bytes? values <;> rfl
  | loadFile file contents => cases contents <;> rfl
  | reset => rfl
  | screen call => rfl

theorem program_operations (c : Console κ σ ρ) (ops : List Operation) :
    (ops.foldl operate c).program = (ops.filterMap Operation.loaded?).getLastD c.program := by
  induction ops generalizing c with
  | nil => rfl
  | cons op rest ih =>
    rw [List.foldl_cons, ih, program_operate]
    cases h : op.loaded? with
    | none => rw [List.filterMap_cons_none h]; rfl
    | some p => rw [List.filterMap_cons_some h, List.getLastD_cons]; rfl

end

/-- Bytes given as numbers are bytes. -/
theorem bytes?_toNat (program : List UInt8) :
    bytes? (program.map fun b => (b.toNat : Int)) = some program := by
  induction program with
  | nil => rfl
  | cons b rest ih =>
    unfold bytes? at ih ⊢
    have hb := b.toNat_lt
    rw [List.map_cons, List.mapM_cons, ih, if_pos (by omega)]
    simp

theorem load_toNat {κ σ ρ : Type} (c : Console κ σ ρ) (program : List UInt8) :
    c.load (program.map fun b => (b.toNat : Int)) = (.ok (), c.loadBytes program) := by
  unfold load
  rw [bytes?_toNat]

end Console

/-- Memory after a load at power-on: the font, the program as far as it fits,
and zeros. -/
theorem Machine.byteAt_initial_load (program : List UInt8) (a : Nat) :
    (initial.load program).byteAt a =
      if a < programStart then fontData[a]?.getD 0
      else if a < memorySize then program[a - programStart]?.getD 0 else 0 := by
  by_cases ha : a < memorySize
  case neg =>
    have hstart : ¬ a < programStart := by
      unfold memorySize at ha
      unfold programStart
      omega
    rw [if_neg hstart, if_neg ha]
    unfold byteAt
    rw [Vector.getElem?_eq_none (by omega)]
    rfl
  have hinitial : initial.byteAt a = fontData[a]?.getD 0 := by
    unfold initial byteAt
    rw [Vector.getElem?_eq_getElem ha, Option.getD_some, getElem_overlay _ _ _ _ ha,
      if_pos (show fontStart ≤ a from Nat.zero_le a), Vector.getElem_replicate]
    rfl
  unfold load
  rw [byteAt_writeBytes _ _ _ _ ha, hinitial, if_pos ha]
  by_cases hstart : a < programStart
  · rw [if_neg (by omega), if_pos hstart]
  · -- behind the font everything was zero
    have hzero : fontData[a]? = none := by
      refine List.getElem?_eq_none (show 0x50 ≤ a from ?_)
      unfold programStart at hstart
      omega
    have hkept : a - programStart < maxProgramSize := by
      unfold maxProgramSize
      omega
    rw [if_pos (by omega), if_neg hstart, hzero, List.getElem?_take, if_pos hkept]
    rfl

/-! ## Screens of one kind -/

namespace AnyScreen

/-- Screens of one kind and of one size. -/
inductive SameKind : AnyScreen → AnyScreen → Prop where
  | sparse (s s' : SparseScreen) : SameKind (.sparse s) (.sparse s')
  | grid {g g' : Grid} (h : g.SameSize g') : SameKind (.grid g) (.grid g')
  | panel {p p' : Panel} (h : p.grid.SameSize p'.grid) : SameKind (.panel p) (.panel p')
  | canvas {c c' : Canvas} (h : c.grid.SameSize c'.grid) : SameKind (.canvas c) (.canvas c')
  | hidden {g g' : Grid} {why : Refusal} (h : g.SameSize g') :
      SameKind (.hidden g why) (.hidden g' why)

theorem SameKind.refl (s : AnyScreen) : s.SameKind s := by
  cases s with
  | sparse s => exact .sparse s s
  | grid g => exact .grid ⟨rfl, rfl⟩
  | panel p => exact .panel ⟨rfl, rfl⟩
  | canvas c => exact .canvas ⟨rfl, rfl⟩
  | hidden g why => exact .hidden ⟨rfl, rfl⟩

theorem SameKind.trans {s s' s'' : AnyScreen} (h : s.SameKind s') (h' : s'.SameKind s'') :
    s.SameKind s'' := by
  cases h with
  | sparse s => cases h' with | sparse => exact .sparse _ _
  | grid h => cases h' with | grid h' => exact .grid (h.trans h')
  | panel h => cases h' with | panel h' => exact .panel (h.trans h')
  | canvas h => cases h' with | canvas h' => exact .canvas (h.trans h')
  | hidden h => cases h' with | hidden h' => exact .hidden (h.trans h')

theorem sameSize_answer (g : Grid) (call : ScreenCall) : (Screen.answer g call).2.SameSize g := by
  cases call with
  | set x y bit => exact Grid.sameSize_set g x y bit
  | get | clear | refresh => exact ⟨rfl, rfl⟩

theorem sameKind_answer (s : AnyScreen) (call : ScreenCall) :
    SameKind (Screen.answer s call).2 s := by
  cases s with
  | sparse s => cases call <;> exact .sparse _ _
  | grid g =>
    rw [embeds_gridded.answer]
    exact .grid (sameSize_answer g call)
  | panel p =>
    rw [embeds_panel.answer]
    refine .panel ?_
    rw [← Panel.embeds_grid.answer]
    exact sameSize_answer p.grid call
  | canvas c =>
    rw [embeds_canvas.answer]
    refine .canvas ?_
    rw [← Canvas.embeds_grid.answer]
    exact sameSize_answer c.grid call
  | hidden g why =>
    rw [(embeds_hidden why).answer]
    exact .hidden (sameSize_answer g call)

theorem sameKind_after (s : AnyScreen) (calls : List ScreenCall) :
    SameKind (after Screen.answer s calls) s := by
  induction calls generalizing s with
  | nil => exact .refl s
  | cons call rest ih => exact (ih _).trans (s.sameKind_answer call)

theorem get_clear (s : AnyScreen) (x y : Int) : Screen.get (Screen.clear s) x y = 0 := by
  have hgrid (g : Grid) : g.clear.get x y = 0 := by
    unfold Grid.get Grid.clear
    rw [Grid.lit_blank]
    rfl
  cases s with
  | sparse s => exact SparseScreen.get_empty x y
  | grid g => exact hgrid g
  | panel p => exact hgrid p.grid
  | canvas c => exact hgrid c.grid
  | hidden g why => exact hgrid g

theorem indistinct_of_sparse {s s' : SparseScreen} (h : ∀ x y, s.get x y = s'.get x y) :
    Indistinct s s' := by
  intro calls
  induction calls generalizing s s' with
  | nil => exact h
  | cons call rest ih =>
    refine ih fun p q => ?_
    cases call with
    | set x y bit =>
      show (s.set x y bit).get p q = (s'.set x y bit).get p q
      rw [SparseScreen.get_set, SparseScreen.get_set, h]
    | clear => rfl
    | get | refresh => exact h p q

theorem eq_of_pixels {g g' : Grid} (hsize : g.SameSize g')
    (h : ∀ x y, g.get x y = g'.get x y) : g = g' := by
  refine Grid.ext_lit hsize fun p q _ => ?_
  have hpixel := h p q
  unfold Grid.get at hpixel
  cases hlit : g.lit p q <;> cases hlit' : g'.lit p q <;> simp [hlit, hlit'] at hpixel ⊢

/-- Screens of one kind and size are told apart by their pixels only. -/
theorem SameKind.indistinct {s s' : AnyScreen} (h : s.SameKind s')
    (hpixels : ∀ x y, Screen.get s x y = Screen.get s' x y) : Indistinct s s' := by
  cases h with
  | sparse s s' => exact embeds_sparse.indistinct_iff.2 (indistinct_of_sparse hpixels)
  | grid hsize =>
    rw [eq_of_pixels hsize hpixels]
    exact .refl _
  | @panel p p' hsize =>
    refine embeds_panel.indistinct_iff.2 (Panel.embeds_grid.indistinct_iff.1 ?_)
    rw [eq_of_pixels hsize hpixels]
    exact .refl _
  | @canvas c c' hsize =>
    refine embeds_canvas.indistinct_iff.2 (Canvas.embeds_grid.indistinct_iff.1 ?_)
    rw [eq_of_pixels hsize hpixels]
    exact .refl _
  | hidden hsize =>
    rw [eq_of_pixels hsize hpixels]
    exact .refl _

end AnyScreen

/-! ## Keypads that stay as they are -/

/-- To read a keypad leaves it as it is. -/
structure Keypad.Steady {κ : Type} [Keypad κ] (keypad : κ) : Prop where
  peek : (Keypad.peek keypad).2 = keypad
  wait : (Keypad.wait keypad).2 = keypad

theorem SilentKeypad.steady (k : SilentKeypad) : Keypad.Steady k := ⟨rfl, rfl⟩

theorem HeldKeypad.steady (k : HeldKeypad) : Keypad.Steady k := ⟨rfl, rfl⟩

theorem Keypad.Steady.keypadAfter {κ : Type} [Keypad κ] {keypad : κ} (h : Steady keypad)
    (i : Instruction) : i.keypadAfter keypad = keypad := by
  cases i
  case skipKeyPressed | skipKeyNotPressed => exact h.peek
  case waitKey => exact h.wait
  all_goals rfl

/-! ## Instructions that draw no random number -/

section
variable {κ σ ρ : Type} [Keypad κ] [Screen σ] [RandomSource ρ]

/-- Other random numbers make no difference to them. -/
theorem effect_withRandom {i : Instruction} (hi : ∀ x nn, i ≠ rand x nn) (m : Machine)
    (d : Devices κ σ ρ) (random : ρ) :
    effect i m { d with random } = ((effect i m d).1, { (effect i m d).2 with random }) := by
  cases i
  case rand x nn => exact absurd rfl (hi x nn)
  case draw x y n =>
    show drawSprite m x y n { d with random } =
      ((drawSprite m x y n d).1, { (drawSprite m x y n d).2 with random })
    unfold drawSprite
    cases m.checkAtIndex n <;> rfl
  case waitKey x =>
    show takeKey m x { d with random } = ((takeKey m x d).1, { (takeKey m x d).2 with random })
    unfold takeKey
    simp only
    split
    · rfl
    · split <;> rfl
  all_goals rfl

end

namespace Console

variable {κ σ ρ : Type} [Keypad κ] [Screen σ] [RandomSource ρ]

def withRandom {κ σ ρ : Type} (c : Console κ σ ρ) (random : ρ) : Console κ σ ρ :=
  { c with devices := { c.devices with random } }

theorem step_withRandom {c : Console κ σ ρ}
    (hrand : ∀ x nn, c.machine.upcoming ≠ .ok (rand x nn)) (random : ρ) :
    (c.withRandom random).step = (c.step.1, c.step.2.withRandom random) := by
  have houtcome : Chip8.step c.machine { c.devices with random } =
      ((Chip8.step c.machine c.devices).1, { (Chip8.step c.machine c.devices).2 with random }) := by
    unfold Chip8.step
    rw [Machine.upcoming_tick]
    cases hi : c.machine.upcoming with
    | error f => rfl
    | ok i => exact effect_withRandom (fun x nn h => hrand x nn (h ▸ hi)) _ _ random
  show ((c.withRandom random).tell c.stepNotices).finish
    (Chip8.step c.machine { c.devices with random }) = _
  rw [houtcome]
  unfold step
  obtain ⟨result, devices⟩ := Chip8.step c.machine c.devices
  cases result <;> rfl

/-- A keypad that stays as it is stays so through every operation. -/
theorem keypad_obey {c : Console κ σ ρ} (h : Keypad.Steady c.devices.keypad) (a : Command) :
    (c.obey a).2.devices.keypad = c.devices.keypad := by
  obtain ⟨notices, hobey⟩ := c.exists_obey_eq a
  rw [hobey, devices_finish]
  cases c.tried a with
  | error f => rfl
  | ok i => exact (keypad_effect i _ c.devices).trans (h.keypadAfter i)

theorem keypad_operate {c : Console κ σ ρ} (h : Keypad.Steady c.devices.keypad) (op : Operation) :
    (c.operate op).devices.keypad = c.devices.keypad := by
  cases op with
  | command a => exact keypad_obey h a
  | load values =>
    show (c.load values).2.devices.keypad = c.devices.keypad
    unfold load
    split <;> rfl
  | loadFile file contents => cases contents <;> rfl
  | reset => rfl
  | screen call => rfl

theorem keypad_operations {c : Console κ σ ρ} (h : Keypad.Steady c.devices.keypad)
    (ops : List Operation) : (ops.foldl operate c).devices.keypad = c.devices.keypad := by
  induction ops generalizing c with
  | nil => rfl
  | cons op rest ih =>
    have hfirst := keypad_operate h op
    rw [List.foldl_cons, ih (by rw [hfirst]; exact h), hfirst]

/-- Consoles in the same condition but for their random numbers and what cannot
be told from the pixels. The keypad is one that stays as it is. -/
structure Resembles (c e : Console κ σ ρ) : Prop where
  machine : e.machine = c.machine
  keypad : e.devices.keypad = c.devices.keypad
  steady : Keypad.Steady c.devices.keypad
  screen : Indistinct c.devices.screen e.devices.screen

variable {c e : Console κ σ ρ}

theorem Resembles.step (h : c.Resembles e)
    (hrand : ∀ x nn, c.machine.upcoming ≠ .ok (rand x nn)) :
    e.step.1 = c.step.1 ∧ c.step.2.Resembles e.step.2 := by
  -- with the random numbers of the other one, the console would look like it
  have hlooks : c.LooksLike (e.withRandom c.devices.random) := ⟨h.machine, h.keypad, rfl, h.screen⟩
  obtain ⟨hanswer, hnext⟩ := hlooks.step
  rw [step_withRandom (by rwa [h.machine])] at hanswer hnext
  have hkeypad : c.step.2.devices.keypad = c.devices.keypad := keypad_obey h.steady .step
  refine ⟨hanswer, hnext.machine, hnext.devices.keypad, ?_, hnext.devices.screen⟩
  rw [hkeypad]
  exact h.steady

theorem Resembles.afterSteps (h : c.Resembles e) {n : Nat}
    (hrand : ∀ j < n, ∀ x nn, (c.afterSteps j).machine.upcoming ≠ .ok (rand x nn)) :
    ∀ j ≤ n, (c.afterSteps j).Resembles (e.afterSteps j) := by
  intro j
  induction j with
  | zero => exact fun _ => h
  | succ j ih =>
    intro hj
    exact ((ih (Nat.le_of_succ_le hj)).step (hrand j hj)).2

/-! ## A reset -/

/-- A console has the same kind of screen for ever. -/
theorem sameKind_operations {κ ρ : Type} [Keypad κ] [RandomSource ρ] (c : Console κ AnyScreen ρ)
    (ops : List Operation) : (ops.foldl operate c).devices.screen.SameKind c.devices.screen := by
  obtain ⟨calls, hcalls⟩ := c.exists_calls_operations ops
  rw [hcalls]
  exact AnyScreen.sameKind_after _ calls

theorem machine_reset_operations (devices : Devices κ σ ρ) (ops : List Operation) :
    (ops.foldl operate (Console.new devices)).reset.machine =
      Machine.initial.load (Operation.lastLoaded ops) := by
  show Machine.initial.load (ops.foldl operate (Console.new devices)).program = _
  rw [program_operations]
  rfl

theorem resembles_reset {κ ρ : Type} [Keypad κ] [RandomSource ρ] {keypad : κ}
    (hsteady : Keypad.Steady keypad) {screen blank : AnyScreen} (hkind : screen.SameKind blank)
    (hblank : ∀ x y, Screen.get blank x y = 0) (random random' : ρ) (ops : List Operation) :
    (ops.foldl operate (Console.new ⟨keypad, screen, random⟩)).reset.Resembles
      ((Console.new ⟨keypad, blank, random'⟩).loadBytes (Operation.lastLoaded ops)) := by
  let used := ops.foldl operate (Console.new ⟨keypad, screen, random⟩)
  have hkeypad : used.reset.devices.keypad = keypad := keypad_operations hsteady ops
  have hcleared : used.reset.devices.screen.SameKind used.devices.screen :=
    AnyScreen.sameKind_answer used.devices.screen .clear
  have hscreen := hcleared.trans ((sameKind_operations _ ops).trans hkind)
  refine ⟨(machine_reset_operations _ ops).symm, hkeypad.symm, ?_, hscreen.indistinct fun x y => ?_⟩
  · rw [hkeypad]
    exact hsteady
  · rw [hblank]
    exact AnyScreen.get_clear _ x y

/-- Whatever was done with a console, a reset leaves the machine of a new one
with the program that was loaded last, and no pixel is lit. If the keypad stays
as it is, the console then does step by step what a new one does, as long as no
random number is drawn. -/
theorem reset_forgets_the_past {κ ρ : Type} [Keypad κ] [RandomSource ρ] (keypad : κ)
    (screen blank : AnyScreen) (random random' : ρ) (ops : List Operation)
    (hkind : screen.SameKind blank) (hblank : ∀ x y, Screen.get blank x y = 0) :
    let p := Operation.lastLoaded ops
    let c := (ops.foldl operate (Console.new ⟨keypad, screen, random⟩)).reset
    let started := (Console.new ⟨keypad, blank, random'⟩).load (p.map fun b => b.toNat)
    let e := started.2
    started.1 = .ok () ∧ c.machine = e.machine ∧
    c.machine.stack = .empty ∧ c.machine.delay = 0 ∧ c.machine.sound = 0 ∧
    (∀ a, c.machine.byteAt a =
      if a < programStart then fontData[a]?.getD 0
      else if a < memorySize then p[a - programStart]?.getD 0 else 0) ∧
    (∀ x y, Screen.get c.devices.screen x y = 0) ∧
    (Keypad.Steady keypad → ∀ n,
      (∀ j < n, ∀ x nn, (c.afterSteps j).machine.upcoming ≠ .ok (rand x nn)) →
      (∀ j ≤ n, (c.afterSteps j).machine = (e.afterSteps j).machine ∧
        ∀ x y, Screen.get (c.afterSteps j).devices.screen x y =
          Screen.get (e.afterSteps j).devices.screen x y) ∧
      ∀ j < n, (c.afterSteps j).step.1 = (e.afterSteps j).step.1) := by
  intro p c started e
  have hstarted : started = (.ok (), (Console.new ⟨keypad, blank, random'⟩).loadBytes p) :=
    load_toNat _ p
  have he : e = (Console.new ⟨keypad, blank, random'⟩).loadBytes p := congrArg Prod.snd hstarted
  have hmachine : c.machine = Machine.initial.load p := machine_reset_operations _ ops
  refine ⟨congrArg Prod.fst hstarted, ?_, ?_, ?_, ?_, ?_, fun x y => AnyScreen.get_clear _ x y,
    fun hsteady n hrand => ?_⟩
  · rw [hmachine, he]
    rfl
  · rw [hmachine]
    rfl
  · rw [hmachine]
    rfl
  · rw [hmachine]
    rfl
  · rw [hmachine]
    exact Machine.byteAt_initial_load p
  · have hresembles : c.Resembles e := by
      rw [he]
      exact resembles_reset hsteady hkind hblank random random' ops
    have hrun := hresembles.afterSteps hrand
    refine ⟨fun j hj => ⟨(hrun j hj).machine.symm, (hrun j hj).screen.get⟩, fun j hj => ?_⟩
    exact ((hrun j (Nat.le_of_lt hj)).step (hrand j hj)).1.symm

/-- A longer program, a load that fails, a pixel off the grid and a call leave
nothing behind. The return that comes second then fails on both consoles. -/
theorem reset_forgets_a_longer_program :
    ∃ c e : Console HeldKeypad AnyScreen Splitting,
      c = (([.load [1, 2, 3, 4, 5, 6, 7, 8], .screen (.set 70 5 1),
        .load [0xA2, 0x34, 0x00, 0xEE], .load [300], .command (.word 0x2300), .command .step] :
          List Operation).foldl operate (Console.new ⟨⟨7⟩, .sparse .empty, ⟨⟨1, 2⟩⟩⟩)).reset ∧
      e = ((Console.new ⟨⟨7⟩, .sparse .empty, ⟨⟨3, 4⟩⟩⟩).load [0xA2, 0x34, 0x00, 0xEE]).2 ∧
      c.machine = e.machine ∧ c.machine.byteAt 0x204 = 0 ∧
      Screen.get c.devices.screen 70 5 = 0 ∧
      (c.afterSteps 1).machine = (e.afterSteps 1).machine ∧
      (c.afterSteps 1).step.1 = .error .stackUnderflow := by
  let ops : List Operation := [.load [1, 2, 3, 4, 5, 6, 7, 8], .screen (.set 70 5 1),
    .load [0xA2, 0x34, 0x00, 0xEE], .load [300], .command (.word 0x2300), .command .step]
  let c : Console HeldKeypad AnyScreen Splitting :=
    (ops.foldl operate (Console.new ⟨⟨7⟩, .sparse .empty, ⟨⟨1, 2⟩⟩⟩)).reset
  let e : Console HeldKeypad AnyScreen Splitting :=
    ((Console.new ⟨⟨7⟩, .sparse .empty, ⟨⟨3, 4⟩⟩⟩).load [0xA2, 0x34, 0x00, 0xEE]).2
  have hlast : Operation.lastLoaded ops = [0xA2, 0x34, 0x00, 0xEE] := by decide
  have hblank (x y : Int) : Screen.get (AnyScreen.sparse .empty) x y = 0 :=
    SparseScreen.get_empty x y
  obtain ⟨-, hmachine, -, -, -, hbytes, hpixels, hsteps⟩ :=
    reset_forgets_the_past (⟨7⟩ : HeldKeypad) (.sparse .empty) (.sparse .empty)
      (⟨⟨1, 2⟩⟩ : Splitting) ⟨⟨3, 4⟩⟩ ops (.refl _) hblank
  rw [hlast] at hmachine hbytes hsteps
  have hfirst : e.machine.upcoming = .ok (setIndex 0x234) :=
    Machine.upcoming_load (k := 0) rfl rfl (by decide) (by decide) (by decide)
  have hafter : e.afterSteps 1 = (e.execute (setIndex 0x234)).2 :=
    congrArg Prod.snd (step_eq_execute hfirst)
  have hsecond : (e.afterSteps 1).machine.upcoming = .ok ret := by
    rw [hafter]
    exact Machine.upcoming_load (k := 2) rfl rfl (by decide) (by decide) (by decide)
  have hrand (j : Nat) (hj : j < 2) (hmachine : (c.afterSteps j).machine = (e.afterSteps j).machine)
      (x nn : Int) : (c.afterSteps j).machine.upcoming ≠ .ok (rand x nn) := by
    rw [hmachine]
    obtain rfl | rfl : j = 0 ∨ j = 1 := by omega
    · exact fun h => nomatch hfirst.symm.trans h
    · exact fun h => nomatch hsecond.symm.trans h
  have hnext : (c.afterSteps 1).machine = (e.afterSteps 1).machine := by
    refine ((hsteps (HeldKeypad.steady _) 1 fun j hj => ?_).1 1 (Nat.le_refl 1)).1
    obtain rfl : j = 0 := by omega
    exact hrand 0 (by decide) hmachine
  have hanswer : (c.afterSteps 1).step.1 = (e.afterSteps 1).step.1 := by
    refine (hsteps (HeldKeypad.steady _) 2 fun j hj => ?_).2 1 (by decide)
    obtain rfl | rfl : j = 0 ∨ j = 1 := by omega
    · exact hrand 0 hj hmachine
    · exact hrand 1 hj hnext
  refine ⟨c, e, rfl, rfl, hmachine, hbytes 0x204, hpixels 70 5, hnext, hanswer.trans ?_⟩
  rw [step_eq_execute hsecond, hafter]
  rfl

end Console

end Chip8
