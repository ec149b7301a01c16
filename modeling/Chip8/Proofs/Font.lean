-- The font outlasts any use of the console that stores nothing over it, and so
-- does every glyph that an index is set to.
import Chip8.Proofs.Calls
namespace Chip8

open Instruction

/-! ## The font in memory -/

namespace Machine

variable {m m' : Machine}

/-- Memory begins with the font. -/
def HasFont (m : Machine) : Prop :=
  ∀ k (h : k < fontData.length), m.byteAt (fontStart + k) = fontData[k]

theorem length_fontData : fontData.length = 0x50 := rfl

theorem bytesAt_eq_iff {address : Nat} {bytes : List UInt8} :
    m.bytesAt address bytes.length = bytes ↔
      ∀ k (h : k < bytes.length), m.byteAt (address + k) = bytes[k] := by
  constructor
  · intro h k hk
    have hbyte := congrArg (·[k]?) h
    simpa [bytesAt, hk] using hbyte
  · intro h
    refine List.ext_getElem (by simp [bytesAt]) fun k _ hk => ?_
    simpa [bytesAt] using h k hk

theorem hasFont_iff : m.HasFont ↔ m.bytesAt fontStart 0x50 = fontData :=
  (@bytesAt_eq_iff m fontStart fontData).symm

theorem HasFont.of_byteAt (h : m.HasFont) (hsame : ∀ a < 0x50, m'.byteAt a = m.byteAt a) :
    m'.HasFont := by
  intro k hk
  rw [hsame (fontStart + k) (by unfold fontStart; rw [length_fontData] at hk; omega)]
  exact h k hk

theorem hasFont_initial : initial.HasFont := by
  intro k hk
  have hlt : fontStart + k < memorySize := by
    rw [length_fontData] at hk
    unfold fontStart memorySize
    omega
  unfold initial byteAt
  rw [Vector.getElem?_eq_getElem hlt, Option.getD_some, getElem_overlay _ _ _ _ hlt,
    if_pos (Nat.le_add_right _ _), Nat.add_sub_cancel_left, List.getElem?_eq_getElem hk]
  rfl

/-- Programs are put behind the font, whatever their length. -/
theorem HasFont.load (h : m.HasFont) (program : List UInt8) : (m.load program).HasFont := by
  refine h.of_byteAt fun a ha => byteAt_writeBytes_of_outside (.inl ?_)
  unfold programStart
  omega

/-- The rows of a hexadecimal digit. -/
def glyph (digit : Nat) : List UInt8 := (fontData.drop (digit * glyphSize)).take glyphSize

theorem HasFont.bytesAt_glyph (h : m.HasFont) {digit : Nat} (hdigit : digit ≤ 15) :
    m.bytesAt (fontStart + digit * glyphSize) glyphSize = glyph digit := by
  have hend : digit * glyphSize + glyphSize ≤ fontData.length := by
    rw [length_fontData]
    unfold glyphSize
    omega
  unfold glyph
  refine List.ext_getElem (by simp [bytesAt]; omega) fun k hk _ => ?_
  have hlt : k < glyphSize := by simpa [bytesAt] using hk
  have hbyte := h (digit * glyphSize + k) (by omega)
  simpa [bytesAt, Nat.add_assoc] using hbyte

end Machine

/-! ## Use of a console -/

/-- An operation that stores bytes over the font: it carries out one of the two
instructions that write memory, with the index before the end of the font. -/
def Operation.StoresOverFont {κ σ ρ : Type} [Keypad κ] [Screen σ] [RandomSource ρ]
    (c : Console κ σ ρ) (op : Operation) : Prop :=
  ∃ a i x, op = .command a ∧ c.tried a = .ok i ∧ (i = storeDigits x ∨ i = dumpRegisters x) ∧
    c.machine.index.toNat < 0x50 ∧ (c.obey a).1 = .ok ()

namespace Console

variable {κ σ ρ : Type} [Keypad κ] [Screen σ] [RandomSource ρ] {c : Console κ σ ρ}

/-- None of some operations stores over the font when its turn comes. -/
def SparesFont (c : Console κ σ ρ) (ops : List Operation) : Prop :=
  ∀ front op back, ops = front ++ op :: back → ¬ op.StoresOverFont (front.foldl operate c)

theorem sparesFont_nil (c : Console κ σ ρ) : c.SparesFont [] := by
  intro front op back h
  cases front <;> cases h

theorem sparesFont_cons {op : Operation} {rest : List Operation} :
    c.SparesFont (op :: rest) ↔ ¬ op.StoresOverFont c ∧ (c.operate op).SparesFont rest := by
  constructor
  · intro h
    refine ⟨h [] op rest rfl, ?_⟩
    rintro front next back rfl
    exact h (op :: front) next back rfl
  · rintro ⟨hop, hrest⟩ front next back h
    cases front with
    | nil =>
      cases h
      exact hop
    | cons first front =>
      cases h
      exact hrest front next back rfl

theorem SparesFont.of_prefix {front ops : List Operation} (h : c.SparesFont ops)
    (hfront : front <+: ops) : c.SparesFont front := by
  obtain ⟨more, rfl⟩ := hfront
  rintro first op back rfl
  exact h first op (back ++ more) (by simp)

/-- What is not stored from before the end of the font does not reach it, since
nothing is stored before the index. -/
theorem hasFont_obey (h : c.machine.HasFont) (a : Command)
    (hspares : ¬ Operation.StoresOverFont c (.command a)) : (c.obey a).2.machine.HasFont := by
  rcases c.obey_cases a with ⟨f, -, hsame⟩ | ⟨i, htried, hanswer, hperform⟩
  · rw [hsame]
    exact h
  · refine h.of_byteAt fun k hk => byteAt_of_effect (legal_of_tried htried) hperform ?_
    show k < c.machine.index.toNat ∨ c.machine.index.toNat + i.stored ≤ k
    by_cases hstores : ∃ x, i = storeDigits x ∨ i = dumpRegisters x
    · obtain ⟨x, hx⟩ := hstores
      have hbehind : ¬ c.machine.index.toNat < 0x50 := fun hlow =>
        hspares ⟨a, i, x, rfl, htried, hx, hlow, hanswer⟩
      omega
    · have hnothing : i.stored = 0 := by
        cases i
        case storeDigits x => exact absurd ⟨x, .inl rfl⟩ hstores
        case dumpRegisters x => exact absurd ⟨x, .inr rfl⟩ hstores
        all_goals rfl
      omega

theorem hasFont_operate (h : c.machine.HasFont) (op : Operation)
    (hspares : ¬ op.StoresOverFont c) : (c.operate op).machine.HasFont := by
  cases op with
  | command a => exact hasFont_obey h a hspares
  | load values =>
    show (c.load values).2.machine.HasFont
    unfold load
    split
    · exact h
    · exact h.load _
  | loadFile file contents =>
    cases contents with
    | error r => exact h
    | ok program => exact h.load program
  | reset => exact Machine.hasFont_initial.load c.program
  | screen call => exact h

theorem hasFont_operations (h : c.machine.HasFont) {ops : List Operation}
    (hspares : c.SparesFont ops) : (ops.foldl operate c).machine.HasFont := by
  induction ops generalizing c with
  | nil => exact h
  | cons op rest ih =>
    obtain ⟨hop, hrest⟩ := sparesFont_cons.1 hspares
    exact ih (hasFont_operate h op hop) hrest

/-! ## Glyphs -/

/-- The index of a glyph is far from the bound of 16 bits. -/
theorem toNat_glyph_index (v : UInt8) :
    (fontStart + v.toNat * glyphSize).toUInt16.toNat = fontStart + v.toNat * glyphSize := by
  have hv := v.toNat_lt
  show (fontStart + v.toNat * glyphSize) % 0x10000 = _
  unfold fontStart glyphSize
  omega

/-- Sixteen rows from the index of a glyph on are in memory. -/
theorem obey_draw {b : Command} {y z n : Int} (htried : c.tried b = .ok (draw y z n))
    {v : UInt8} (hindex : c.machine.index.toNat = fontStart + v.toNat * glyphSize) :
    (c.obey b).1 = .ok () := by
  obtain ⟨-, hn⟩ := legal_of_tried htried (.n, n) (by simp [operands])
  have hrange : (c.machine.tick.advance.index.toNat : Int) + n ≤ memorySize := by
    have hv := v.toNat_lt
    show (c.machine.index.toNat : Int) + n ≤ memorySize
    rw [hindex]
    unfold fontStart glyphSize memorySize
    simp only [Operand.limit] at hn
    omega
  have hdraw : ∃ m d, perform (draw y z n) c.machine.tick c.devices = (.ok m, d) :=
    ⟨_, _, drawSprite_eq_ok_iff.2 ⟨hrange, _, rfl, rfl, rfl⟩⟩
  obtain ⟨m, d, hdraw⟩ := hdraw
  exact (obey_of_perform htried hdraw).1

/-- The font outlasts every use of a console that stores nothing over it. So
whatever came before, the index of a digit leads to its glyph, and from the
index of any value on a sprite can be drawn. -/
theorem font_outlasts_use (devices : Devices κ σ ρ) (ops : List Operation)
    (hspares : (Console.new devices).SparesFont ops) {front : List Operation}
    (hfront : front <+: ops) :
    let c := front.foldl operate (Console.new devices)
    c.machine.bytesAt fontStart 0x50 = fontData ∧
    ∀ a x, c.tried a = .ok (setIndexToGlyph x) →
      let e := (c.obey a).2
      (c.obey a).1 = .ok () ∧ e.machine.reg x = c.machine.reg x ∧
      ((c.machine.reg x).toNat ≤ 15 →
        e.machine.bytesAt e.machine.index.toNat glyphSize =
          Machine.glyph (c.machine.reg x).toNat) ∧
      ∀ b y z n, e.tried b = .ok (draw y z n) → (e.obey b).1 = .ok () := by
  intro c
  have hstart : (Console.new devices).machine.HasFont := Machine.hasFont_initial
  have hfont : c.machine.HasFont := hasFont_operations hstart (hspares.of_prefix hfront)
  refine ⟨Machine.hasFont_iff.1 hfont, fun a x htried => ?_⟩
  obtain ⟨hanswer, hmachine⟩ := obey_of_perform htried rfl
  have hindex : (c.obey a).2.machine.index.toNat =
      fontStart + (c.machine.reg x).toNat * glyphSize := by
    rw [hmachine]
    exact toNat_glyph_index _
  refine ⟨hanswer, ?_, fun hdigit => ?_, fun b y z n hdraw => obey_draw hdraw hindex⟩
  · rw [hmachine]
    rfl
  · rw [hindex, hmachine]
    exact hfont.bytesAt_glyph hdigit

/-- A program of 4000 bytes, of which some do not fit, and three digits that are
stored at `300` leave the glyph of the digit A in its place. -/
theorem glyph_outlasts_a_long_program :
    ∃ c : Console SilentKeypad Grid Splitting,
      c = ([.loadFile "long" (.ok (List.replicate 4000 0xFF)), .command (.word 0xA300),
        .command (.word 0xF033), .command (.word 0x600A)] : List Operation).foldl operate
          (Console.new .untouched) ∧
      c.machine.bytesAt fontStart 0x50 = fontData ∧
      (c.obey (.word 0xF029)).2.machine.bytesAt
        (c.obey (.word 0xF029)).2.machine.index.toNat glyphSize = [0xF0, 0x90, 0xF0, 0x90, 0x90] ∧
      ((c.obey (.word 0xF029)).2.obey (.word 0xD00F)).1 = .ok () := by
  let start : Console SilentKeypad Grid Splitting := Console.new .untouched
  let ops : List Operation := [.loadFile "long" (.ok (List.replicate 4000 0xFF)),
    .command (.word 0xA300), .command (.word 0xF033), .command (.word 0x600A)]
  have hspares : start.SparesFont ops := by
    refine sparesFont_cons.2 ⟨?_, sparesFont_cons.2 ⟨?_, sparesFont_cons.2 ⟨?_,
      sparesFont_cons.2 ⟨?_, sparesFont_nil _⟩⟩⟩⟩
    · rintro ⟨a, i, x, h, -⟩
      cases h
    · rintro ⟨a, i, x, h, htried, hi, -⟩
      cases h
      have hword : ofWord 0xA300 = .ok (setIndex 0x300) := rfl
      cases hword.symm.trans htried
      rcases hi with hi | hi <;> cases hi
    · rintro ⟨a, i, x, -, -, -, hlow, -⟩
      exact absurd hlow (by decide)
    · rintro ⟨a, i, x, h, htried, hi, -⟩
      cases h
      have hword : ofWord 0x600A = .ok (setConst 0 10) := rfl
      cases hword.symm.trans htried
      rcases hi with hi | hi <;> cases hi
  obtain ⟨hfont, hglyph⟩ := font_outlasts_use .untouched ops hspares List.prefix_rfl
  obtain ⟨-, -, hbytes, hdraw⟩ := hglyph (.word 0xF029) 0 rfl
  exact ⟨_, rfl, hfont, hbytes (by decide), hdraw (.word 0xD00F) 0 0 15 rfl⟩

end Console

end Chip8
