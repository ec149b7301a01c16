-- What it means that there is room: the bytes of a table can be counted in a
-- word, and the platform holds them unless there are none. An image is laid out
-- in steps, and there is room for each of them where there is room for the last.
import Mathlib.Algebra.Order.BigOperators.Group.List
import Mathlib.Algebra.Order.Ring.Nat
import Chip8.Picture.Image
import Chip8.Proofs.Outcome
import Chip8.Request.Values
namespace Chip8

/-! ## Tables -/

/-- The bytes of a table with these sides, an empty side counted as one. -/
def Room.bytes (sides : List Nat) : Nat := (sides.map (max 1)).prod

/-- A platform has room for a table with these sides. -/
structure Platform.HasRoom (p : Platform) (sides : List Nat) : Prop where
  counted : Room.bytes sides < 2 ^ 63
  held : 0 ∉ sides → p.holds (Room.bytes sides) = true

namespace Room

variable {p : Platform} {sides sides' : List Nat}

theorem bytes_cons (side : Nat) (rest : List Nat) :
    bytes (side :: rest) = max 1 side * bytes rest := by
  unfold bytes
  rw [List.map_cons, List.prod_cons]

theorem one_le_bytes (sides : List Nat) : 1 ≤ bytes sides := by
  apply List.one_le_prod_of_one_le
  intro a ha
  obtain ⟨side, -, rfl⟩ := List.mem_map.1 ha
  exact le_max_left 1 side

theorem bytes_le_bytes (h : List.Forall₂ (· ≤ ·) sides sides') : bytes sides ≤ bytes sides' := by
  apply List.Forall₂.prod_le_prod'
  rw [List.forall₂_map_left_iff, List.forall₂_map_right_iff]
  exact h.imp fun _ _ hle => max_le_max_left 1 hle

theorem le_bytes {side : Nat} (h : side ∈ sides) : side ≤ bytes sides := by
  induction sides with
  | nil => cases h
  | cons first rest ih =>
    rw [bytes_cons]
    rcases List.mem_cons.1 h with rfl | hmem
    · exact (le_max_right 1 side).trans (Nat.le_mul_of_pos_right _ (one_le_bytes rest))
    · exact (ih hmem).trans (Nat.le_mul_of_pos_left _ (le_max_left 1 first))

theorem zero_mem_of_le (h : List.Forall₂ (· ≤ ·) sides sides') (hempty : 0 ∈ sides') :
    0 ∈ sides := by
  induction h with
  | nil => cases hempty
  | @cons side side' rest rest' hle _ ih =>
    rcases List.mem_cons.1 hempty with rfl | hmem
    · rw [Nat.le_zero.1 hle]
      exact List.mem_cons_self
    · exact List.mem_cons_of_mem _ (ih hmem)

/-- Where there is room for a table, there is room for one with shorter sides. -/
theorem hasRoom_mono (h : List.Forall₂ (· ≤ ·) sides sides') (hroom : p.HasRoom sides') :
    p.HasRoom sides := by
  have hle := bytes_le_bytes h
  exact ⟨hle.trans_lt hroom.counted, fun hfull =>
    p.holds_of_le hle (hroom.held fun hempty => hfull (zero_mem_of_le h hempty))⟩

/-! ## Checks -/

theorem fitsWord_natCast (n : Nat) : Text.fitsWord n = true ↔ n < 2 ^ 63 := by
  unfold Text.fitsWord
  rw [Bool.and_eq_true, decide_eq_true_eq, decide_eq_true_eq]
  omega

theorem cells_eq (sides : List Nat) {n : Nat} (hn : 0 < n) (hword : n < 2 ^ 63) :
    cells n (sides.map Int.ofNat) =
      if n * bytes sides < 2 ^ 63 then .ok ↑(n * bytes sides) else .error .tooManyPixels := by
  induction sides generalizing n with
  | nil =>
    have hbytes : n * bytes [] = n := mul_one n
    rw [hbytes, if_pos hword]
    rfl
  | cons side rest ih =>
    rw [List.map_cons, cells, if_neg (by simp), bytes_cons]
    by_cases hzero : side = 0
    · subst hzero
      rw [max_eq_left (by decide), one_mul]
      exact ih hn hword
    · have hside : 1 ≤ side := by omega
      have hproduct : (n : Int) * Int.ofNat side = ↑(n * side) := by simp
      rw [max_eq_right hside, ← mul_assoc, if_neg (by simpa using hzero), hproduct]
      by_cases hfits : n * side < 2 ^ 63
      · rw [if_pos ((fitsWord_natCast _).2 hfits)]
        exact ih (Nat.mul_pos hn hside) hfits
      · have hlarge : ¬ n * side * bytes rest < 2 ^ 63 := fun h =>
          hfits ((Nat.le_mul_of_pos_right _ (one_le_bytes rest)).trans_lt h)
        rw [if_neg hlarge, if_neg (mt (fitsWord_natCast _).1 hfits)]

theorem check_eq_ok_iff {cell : String} :
    check p (sides.map Int.ofNat) cell = .ok () ↔ p.HasRoom sides := by
  have hcells := cells_eq sides Nat.one_pos (by decide)
  simp only [one_mul] at hcells
  have hempty : (0 : Int) ∈ sides.map Int.ofNat ↔ 0 ∈ sides := by simp
  unfold check
  rw [show (1 : Int) = (1 : Nat) from rfl, hcells]
  by_cases hcounted : bytes sides < 2 ^ 63
  · simp only [if_pos hcounted, Int.toNat_natCast, hempty]
    split
    · rename_i hheld
      exact iff_of_true rfl ⟨hcounted, hheld.resolve_left⟩
    · rename_i hnone
      refine iff_of_false nofun fun h => hnone ?_
      exact or_iff_not_imp_left.2 h.held
  · rw [if_neg hcounted]
    exact iff_of_false nofun fun h => hcounted h.counted

/-! ## Images -/

theorem stretched_eq_ok_iff {side n : Nat} {v : Int} :
    stretched side n = .ok v ↔ side * n < 2 ^ 63 ∧ v = ↑(side * n) := by
  unfold stretched
  have hlength : (side : Int) * n = ↑(side * n) := (Int.natCast_mul side n).symm
  simp only [hlength]
  by_cases hfits : side * n < 2 ^ 63
  · rw [if_pos ((fitsWord_natCast _).2 hfits)]
    exact ⟨fun h => ⟨hfits, (Except.ok.inj h).symm⟩, fun h => congrArg _ h.2.symm⟩
  · rw [if_neg (mt (fitsWord_natCast _).1 hfits)]
    refine iff_of_false (fun h => ?_) fun h => hfits h.1
    split at h <;> cases h

/-- Where there is room for the image with squares, there is room for the tables that it
is made of. -/
theorem hasRoom_of_stretched {height width components n : Nat} (hn : 0 < n)
    (h : p.HasRoom [height * n, width * n, components]) :
    p.HasRoom [height, width, components] ∧ p.HasRoom [height * n, width, components] := by
  have hlong (side : Nat) : side ≤ side * n := Nat.le_mul_of_pos_right side hn
  constructor
  · exact hasRoom_mono (.cons (hlong height) (.cons (hlong width) (.cons le_rfl .nil))) h
  · exact hasRoom_mono (.cons le_rfl (.cons (hlong width) (.cons le_rfl .nil))) h

/-- There is room for an image in a scale if the scale fits a word and there is room for
the table of its pixels. -/
theorem checkScaled_eq_ok_iff {height width components : Nat} {scale : Int} :
    checkScaled p height width components scale = .ok () ↔
      scale < 2 ^ 63 ∧
        p.HasRoom [height * Image.side scale, width * Image.side scale, components] := by
  have hcheck {a b c : Nat} : check p [a, b, c] "uint8" = .ok () ↔ p.HasRoom [a, b, c] :=
    @check_eq_ok_iff p [a, b, c] _
  unfold checkScaled
  rw [bind_eq_ok_iff]
  by_cases hscale : scale ≤ 1
  · have hside : Image.side scale = 1 := by
      unfold Image.side
      omega
    rw [hside, mul_one, mul_one, if_pos hscale, ← hcheck]
    constructor
    · rintro ⟨⟨⟩, h, -⟩
      exact ⟨by omega, h⟩
    · rintro ⟨-, h⟩
      exact ⟨(), h, rfl⟩
  · obtain ⟨n, rfl⟩ := Int.eq_ofNat_of_zero_le (a := scale) (by omega)
    have hside : Image.side n = n := by
      unfold Image.side
      omega
    rw [hside, if_neg hscale]
    by_cases hword : n < 2 ^ 63
    · rw [(fitsWord_natCast n).2 hword]
      simp only [Bool.not_true, Bool.false_eq_true, if_false, bind_eq_ok_iff, stretched_eq_ok_iff]
      constructor
      · rintro ⟨-, -, _, ⟨-, rfl⟩, -, -, _, ⟨-, rfl⟩, hlast⟩
        exact ⟨by omega, hcheck.1 hlast⟩
      · rintro ⟨-, hlast⟩
        obtain ⟨hpixels, hcolumns⟩ := hasRoom_of_stretched (by omega) hlast
        have hfits {side : Nat} (h : side ∈ [height * n, width * n, components]) :
            side < 2 ^ 63 := (le_bytes h).trans_lt hlast.counted
        exact ⟨(), hcheck.2 hpixels, _, ⟨hfits (by simp), rfl⟩, (), hcheck.2 hcolumns, _,
          ⟨hfits (by simp), rfl⟩, hcheck.2 hlast⟩
    · rw [Bool.eq_false_iff.2 (mt (fitsWord_natCast n).1 hword)]
      refine iff_of_false ?_ fun h => hword (by omega)
      rintro ⟨-, -, h⟩
      cases h

/-- In a word, the rows of the usual screen in this scale would count as none. -/
example : checkScaled .usual 32 64 3 (2 ^ 59) = .error .tooManyPixels := rfl

end Room

end Chip8
