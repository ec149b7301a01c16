-- Screens that cannot be told apart by their pixels, and consoles with such
-- screens: whatever they carry out, they do the same. To show a screen changes
-- nothing of it.
import Chip8.Proofs.Window
import Chip8.Screen.Any
namespace Chip8

open Instruction

/-! ## Screens -/

/-- Screens whose pixels agree, now and after any calls. -/
def Indistinct {σ : Type} [Screen σ] (s s' : σ) : Prop :=
  ∀ calls x y, Screen.get (after Screen.answer s calls) x y =
    Screen.get (after Screen.answer s' calls) x y

namespace Indistinct

variable {σ : Type} [Screen σ] {s s' s'' : σ}

theorem refl (s : σ) : Indistinct s s := fun _ _ _ => rfl

theorem symm (h : Indistinct s s') : Indistinct s' s := fun calls x y => (h calls x y).symm

theorem trans (h : Indistinct s s') (h' : Indistinct s' s'') : Indistinct s s'' :=
  fun calls x y => (h calls x y).trans (h' calls x y)

theorem get (h : Indistinct s s') (x y : Int) : Screen.get s x y = Screen.get s' x y := h [] x y

theorem answer (h : Indistinct s s') (call : ScreenCall) :
    Indistinct (Screen.answer s call).2 (Screen.answer s' call).2 :=
  fun calls => h (call :: calls)

end Indistinct

section
variable {σ σ' : Type} [Screen σ] [Screen σ'] {f : σ → σ'}

theorem Embeds.indistinct_iff (h : Embeds f) {s s' : σ} :
    Indistinct (f s) (f s') ↔ Indistinct s s' := by
  unfold Indistinct
  simp only [h.after, h.get]

end

/-- Screens whose pixels are left alone by a refresh, as all screens are meant
to be. -/
class QuietRefresh (σ : Type) [Screen σ] : Prop where
  indistinct : ∀ s : σ, Indistinct (Screen.refresh s) s

instance : QuietRefresh SparseScreen := ⟨.refl⟩

instance : QuietRefresh Grid := ⟨.refl⟩

instance : QuietRefresh Panel := ⟨fun p => Panel.embeds_grid.indistinct_iff.1 (.refl p.grid)⟩

theorem Canvas.embeds_grid : Embeds Canvas.grid where
  get _ _ _ := rfl
  answer c call := by cases call <;> rfl

instance : QuietRefresh Canvas := ⟨fun c => Canvas.embeds_grid.indistinct_iff.1 (.refl c.grid)⟩

namespace AnyScreen

theorem embeds_sparse : Embeds sparse where
  get _ _ _ := rfl
  answer s call := by cases call <;> rfl

theorem embeds_gridded : Embeds grid where
  get _ _ _ := rfl
  answer s call := by cases call <;> rfl

theorem embeds_panel : Embeds panel where
  get _ _ _ := rfl
  answer s call := by cases call <;> rfl

theorem embeds_canvas : Embeds canvas where
  get _ _ _ := rfl
  answer s call := by cases call <;> rfl

theorem embeds_hidden (why : Refusal) : Embeds (hidden · why) where
  get _ _ _ := rfl
  answer s call := by cases call <;> rfl

instance : QuietRefresh AnyScreen where
  indistinct
    | .sparse s => embeds_sparse.indistinct_iff.2 (QuietRefresh.indistinct s)
    | .grid g => embeds_gridded.indistinct_iff.2 (QuietRefresh.indistinct g)
    | .panel p => embeds_panel.indistinct_iff.2 (QuietRefresh.indistinct p)
    | .canvas c => embeds_canvas.indistinct_iff.2 (QuietRefresh.indistinct c)
    | .hidden g why => (embeds_hidden why).indistinct_iff.2 (QuietRefresh.indistinct g)

end AnyScreen

/-! ## Devices -/

section
variable {κ σ ρ : Type} [Screen σ]

/-- Devices that differ in what cannot be told from the pixels of the screen. -/
structure Devices.LooksLike (d d' : Devices κ σ ρ) : Prop where
  keypad : d'.keypad = d.keypad
  random : d'.random = d.random
  screen : Indistinct d.screen d'.screen

theorem Devices.LooksLike.refl (d : Devices κ σ ρ) : d.LooksLike d := ⟨rfl, rfl, .refl _⟩

theorem Devices.LooksLike.symm {d d' : Devices κ σ ρ} (h : d.LooksLike d') : d'.LooksLike d :=
  ⟨h.keypad.symm, h.random.symm, h.screen.symm⟩

theorem Devices.LooksLike.trans {d d' d'' : Devices κ σ ρ} (h : d.LooksLike d')
    (h' : d'.LooksLike d'') : d.LooksLike d'' :=
  ⟨h'.keypad.trans h.keypad, h'.random.trans h.random, h.screen.trans h'.screen⟩

/-- Outcomes that are the same but for such a difference. -/
structure SameLook (outcome outcome' : Except Fault Machine × Devices κ σ ρ) : Prop where
  result : outcome'.1 = outcome.1
  devices : outcome.2.LooksLike outcome'.2

theorem Indistinct.plot {s s' : σ} (h : Indistinct s s') (hit : Bool) (cell : Int × Int × Int) :
    ∃ t t' hit', plot (s, hit) cell = (t, hit') ∧ plot (s', hit) cell = (t', hit') ∧
      Indistinct t t' := by
  obtain ⟨x, y, bit⟩ := cell
  refine ⟨_, _, _, rfl, ?_, h.answer (.set x y (bitXor (Screen.get s x y) bit))⟩
  unfold Chip8.plot
  simp only [h.get]
  rfl

theorem Indistinct.foldl_plot {s s' : σ} (h : Indistinct s s') (hit : Bool)
    (cells : List (Int × Int × Int)) :
    ∃ t t' hit', cells.foldl Chip8.plot (s, hit) = (t, hit') ∧
      cells.foldl Chip8.plot (s', hit) = (t', hit') ∧ Indistinct t t' := by
  induction cells generalizing s s' hit with
  | nil => exact ⟨s, s', hit, rfl, rfl, h⟩
  | cons cell rest ih =>
    obtain ⟨t, t', hit', hplot, hplot', hscreen⟩ := h.plot hit cell
    rw [List.foldl_cons, List.foldl_cons, hplot, hplot']
    exact ih hscreen hit'

variable {d d' : Devices κ σ ρ}

theorem Devices.LooksLike.drawSprite (h : d.LooksLike d') (m : Machine) (x y n : Int) :
    SameLook (drawSprite m x y n d) (drawSprite m x y n d') := by
  unfold Chip8.drawSprite
  cases m.checkAtIndex n with
  | error f => exact ⟨rfl, h⟩
  | ok address =>
    obtain ⟨t, t', hit, hblit, hblit', hscreen⟩ := h.screen.foldl_plot false
      (spriteCells (m.reg x).toNat (m.reg y).toNat (m.bytesAt m.index.toNat n.toNat))
    simp only [blit, hblit, hblit']
    exact ⟨rfl, h.keypad, h.random, hscreen⟩

theorem Devices.LooksLike.takeKey [Keypad κ] (h : d.LooksLike d') (m : Machine) (x : Int) :
    SameLook (takeKey m x d) (takeKey m x d') := by
  obtain ⟨keypad, screen, random⟩ := d
  obtain ⟨_, screen', _⟩ := d'
  obtain ⟨rfl, rfl, hscreen⟩ := h
  unfold Chip8.takeKey
  simp only
  split
  · exact ⟨rfl, rfl, rfl, hscreen⟩
  · split <;> exact ⟨rfl, rfl, rfl, hscreen⟩

variable [Keypad κ] [RandomSource ρ]

/-- An instruction reads no more of a screen than its pixels. -/
theorem Devices.LooksLike.effect (h : d.LooksLike d') (i : Instruction) (m : Machine) :
    SameLook (effect i m d) (effect i m d') := by
  cases i
  case draw x y n => exact h.drawSprite m x y n
  case waitKey x => exact h.takeKey m x
  case clearScreen => exact ⟨rfl, h.keypad, h.random, h.screen.answer .clear⟩
  all_goals
    -- the others do not touch the screen, nor look at it
    obtain ⟨keypad, screen, random⟩ := d
    obtain ⟨_, screen', _⟩ := d'
    obtain ⟨rfl, rfl, hscreen⟩ := h
    exact ⟨rfl, rfl, rfl, hscreen⟩

end

/-! ## Consoles -/

namespace Console

variable {κ σ ρ : Type} [Screen σ] {c e : Console κ σ ρ}

/-- Consoles in the same condition, as far as that can be told from their
pixels. What they were told does not matter. -/
structure LooksLike (c e : Console κ σ ρ) : Prop where
  machine : e.machine = c.machine
  devices : c.devices.LooksLike e.devices

theorem LooksLike.refl (c : Console κ σ ρ) : c.LooksLike c := ⟨rfl, .refl _⟩

theorem LooksLike.symm (h : c.LooksLike e) : e.LooksLike c := ⟨h.machine.symm, h.devices.symm⟩

theorem LooksLike.trans {f : Console κ σ ρ} (h : c.LooksLike e) (h' : e.LooksLike f) :
    c.LooksLike f :=
  ⟨h'.machine.trans h.machine, h.devices.trans h'.devices⟩

theorem looksLike_refresh [QuietRefresh σ] (c : Console κ σ ρ) : c.LooksLike c.refresh :=
  ⟨rfl, rfl, rfl, (QuietRefresh.indistinct c.devices.screen).symm⟩

theorem LooksLike.finish (h : c.LooksLike e)
    {outcome outcome' : Except Fault Machine × Devices κ σ ρ} (hsame : SameLook outcome outcome') :
    (e.finish outcome').1 = (c.finish outcome).1 ∧
      (c.finish outcome).2.LooksLike (e.finish outcome').2 := by
  obtain ⟨result, devices⟩ := outcome
  obtain ⟨result', devices'⟩ := outcome'
  obtain ⟨rfl, hdevices⟩ : result' = result ∧ devices.LooksLike devices' :=
    ⟨hsame.result, hsame.devices⟩
  cases result' with
  | ok m => exact ⟨rfl, rfl, hdevices⟩
  | error f => exact ⟨rfl, h.machine, hdevices⟩

variable [Keypad κ] [RandomSource ρ]

theorem LooksLike.step (h : c.LooksLike e) :
    e.step.1 = c.step.1 ∧ c.step.2.LooksLike e.step.2 := by
  have htold : (c.tell c.stepNotices).LooksLike (e.tell e.stepNotices) := ⟨h.machine, h.devices⟩
  refine htold.finish ?_
  rw [h.machine]
  unfold Chip8.step
  cases c.machine.tick.upcoming with
  | error f => exact ⟨rfl, h.devices⟩
  | ok i => exact h.devices.effect i _

end Console

end Chip8
