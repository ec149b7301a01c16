-- The bytes of memory that an instruction reads or writes from the index on.
-- Where one of them is outside memory, the instruction fails, and only there. A
-- sprite without rows has no bytes at all, and it fails nevertheless if it would
-- begin beyond the end of memory.
import Chip8.Proofs.Failure
import Chip8.Proofs.Footprint
namespace Chip8

open Instruction Machine

/-! ## Ranges -/

/-- Some byte of a range is outside memory. -/
def Outside (address : Int) (length : Nat) : Prop :=
  ∃ a : Int, address ≤ a ∧ a < address + length ∧ ¬ (0 ≤ a ∧ a ≤ 0xFFF)

/-- A range without bytes that begins before memory or beyond its end. -/
def Adrift (address : Int) (length : Nat) : Prop := length = 0 ∧ (address < 0 ∨ 4096 < address)

theorem outside_or_adrift_iff {address : Int} {length : Nat} :
    Outside address length ∨ Adrift address length ↔
      address < 0 ∨ memorySize < address + length := by
  have hsize : memorySize = 4096 := rfl
  constructor
  · rintro (⟨a, hfirst, hlast, hout⟩ | ⟨rfl, hadrift⟩)
    · omega
    · omega
  · intro h
    by_cases hempty : length = 0
    · exact .inr ⟨hempty, by omega⟩
    · left
      rcases h with hbefore | hbehind
      · exact ⟨address, by omega, by omega, by omega⟩
      · exact ⟨address + length - 1, by omega, by omega, by omega⟩

theorem checkRange_eq_error_iff_outside {address : Int} {length : Nat} {f : Fault} :
    checkRange address length = .error f ↔
      (Outside address length ∨ Adrift address length) ∧ f = .memoryAccess address length := by
  rw [checkRange_eq_error_iff, outside_or_adrift_iff]

theorem checkRange_eq_ok_iff_inside {address a : Int} {length : Nat} :
    checkRange address length = .ok a ↔
      ¬ (Outside address length ∨ Adrift address length) ∧ a = address := by
  rw [checkRange_eq_ok_iff, outside_or_adrift_iff]
  omega

/-! ## The bytes of an instruction -/

namespace Instruction

/-- An instruction reads the byte at an address. -/
def ReadsByte (i : Instruction) (m : Machine) (a : Nat) : Prop :=
  match i with
  | draw _ _ n => ∃ row : Nat, row < n ∧ a = m.index.toNat + row
  | loadRegisters x => ∃ k : Fin registerCount, (k : Int) ≤ x ∧ a = m.index.toNat + k
  | _ => False

/-- An instruction writes the byte at an address. -/
def WritesByte (i : Instruction) (m : Machine) (a : Nat) : Prop :=
  match i with
  | storeDigits _ => ∃ digit : Fin 3, a = m.index.toNat + digit
  | dumpRegisters x => ∃ k : Fin registerCount, (k : Int) ≤ x ∧ a = m.index.toNat + k
  | _ => False

section
variable {i : Instruction} {m : Machine} {a : Nat} {x : Int}

theorem exists_register_iff (hx : Fits .x x) :
    (∃ k : Fin registerCount, (k : Int) ≤ x ∧ a = m.index.toNat + k) ↔
      m.index.toNat ≤ a ∧ a < m.index.toNat + (x + 1) := by
  have hlast : x ≤ 15 := hx.2
  constructor
  · rintro ⟨k, hk, rfl⟩
    omega
  · rintro ⟨hfirst, hend⟩
    have hk : a - m.index.toNat < registerCount := by
      show a - m.index.toNat < 16
      omega
    exact ⟨⟨a - m.index.toNat, hk⟩, by simp only; omega, by simp only; omega⟩

theorem writesByte_iff (hi : i.Legal) :
    i.WritesByte m a ↔ m.index.toNat ≤ a ∧ a < m.index.toNat + i.stored := by
  cases i
  case storeDigits x =>
    simp only [WritesByte, stored]
    constructor
    · rintro ⟨digit, rfl⟩
      omega
    · rintro ⟨hfirst, hend⟩
      exact ⟨⟨a - m.index.toNat, by omega⟩, by simp only; omega⟩
  case dumpRegisters x => exact exists_register_iff (hi _ List.mem_cons_self)
  all_goals
    simp only [WritesByte, stored, false_iff]
    omega

/-- An instruction has its bytes from the index on, as many as it reaches. -/
theorem readsByte_or_writesByte_iff {n : Int} (hi : i.Legal) (hreach : i.reach? = some n) :
    i.ReadsByte m a ∨ i.WritesByte m a ↔ m.index.toNat ≤ a ∧ a < m.index.toNat + n := by
  rw [writesByte_iff hi]
  cases i
  case draw x y height =>
    cases hreach
    simp only [ReadsByte, stored]
    constructor
    · rintro (⟨row, hrow, rfl⟩ | hnone)
      · omega
      · omega
    · rintro ⟨hfirst, hend⟩
      exact .inl ⟨a - m.index.toNat, by omega, by omega⟩
  case loadRegisters x =>
    cases hreach
    have hread := exists_register_iff (m := m) (a := a) (hi _ List.mem_cons_self)
    simp only [ReadsByte, stored, hread]
    omega
  case storeDigits x | dumpRegisters x =>
    cases hreach
    simp only [ReadsByte, stored, false_or]
  all_goals cases hreach

end

end Instruction

/-! ## Nothing else is read or written -/

namespace Machine

/-- The machine with other bytes in memory. -/
def withMemory (m : Machine) (memory : Vector UInt8 memorySize) : Machine := { m with memory }

theorem checkAtIndex_withMemory (m : Machine) (memory : Vector UInt8 memorySize) (n : Int) :
    (m.withMemory memory).checkAtIndex n = m.checkAtIndex n := rfl

theorem bytesAt_congr {m m' : Machine} {address length : Nat}
    (h : ∀ k < length, m'.byteAt (address + k) = m.byteAt (address + k)) :
    m'.bytesAt address length = m.bytesAt address length := by
  unfold bytesAt
  apply List.map_congr_left
  intro k hk
  exact h k (List.mem_range.1 hk)

end Machine

section
variable {κ σ ρ : Type} [Keypad κ] [Screen σ] [RandomSource ρ]
variable {i : Instruction} {n : Int} {m : Machine}

/-- Two outcomes that are the same but for what is in memory. -/
def SameButMemory (outcome outcome' : Except Fault Machine × Devices κ σ ρ) : Prop :=
  outcome.2 = outcome'.2 ∧
    ∀ memory, outcome.1.map (·.withMemory memory) = outcome'.1.map (·.withMemory memory)

/-- Bytes that an instruction does not read make no difference to it. -/
theorem effect_withMemory (hi : i.Legal) (hreach : i.reach? = some n)
    {memory : Vector UInt8 memorySize}
    (hsame : ∀ a, i.ReadsByte m a → (m.withMemory memory).byteAt a = m.byteAt a)
    (d : Devices κ σ ρ) :
    SameButMemory (effect i (m.withMemory memory) d) (effect i m d) := by
  have hindex : (m.withMemory memory).index = m.index := rfl
  cases i
  case draw x y height =>
    have hrows : (m.withMemory memory).bytesAt m.index.toNat height.toNat =
        m.bytesAt m.index.toNat height.toNat := by
      apply bytesAt_congr
      intro row hrow
      exact hsame _ ⟨row, by omega, rfl⟩
    simp only [effect, drawSprite, checkAtIndex_withMemory]
    cases m.checkAtIndex height with
    | error f => exact ⟨rfl, fun _ => rfl⟩
    | ok address =>
      simp only [hindex, hrows]
      exact ⟨rfl, fun _ => rfl⟩
  case loadRegisters x =>
    have hcount : (countUpTo x : Int) = x + 1 := countUpTo_of_fits (hi _ List.mem_cons_self)
    have hlast : x ≤ 15 := (hi _ List.mem_cons_self).2
    have hbytes : (m.withMemory memory).bytesAt m.index.toNat (countUpTo x) =
        m.bytesAt m.index.toNat (countUpTo x) := by
      apply bytesAt_congr
      intro k hk
      have hlt : k < registerCount := by
        show k < 16
        omega
      exact hsame _ ⟨⟨k, hlt⟩, by simp only; omega, rfl⟩
    refine ⟨rfl, fun blank => ?_⟩
    simp only [effect, checkAtIndex_withMemory, hindex, hbytes]
    cases m.checkAtIndex (countUpTo x) <;> rfl
  case storeDigits x =>
    refine ⟨rfl, fun blank => ?_⟩
    simp only [effect, checkAtIndex_withMemory]
    cases m.checkAtIndex 3 <;> rfl
  case dumpRegisters x =>
    refine ⟨rfl, fun blank => ?_⟩
    simp only [effect, checkAtIndex_withMemory]
    cases m.checkAtIndex (countUpTo x) <;> rfl
  all_goals cases hreach

end

/-! ## When such an instruction fails -/

/-- An instruction would go astray from the index on: one of its bytes is outside
memory, or it draws no row at all, beyond the end of memory. -/
inductive Astray (i : Instruction) (m : Machine) : Prop where
  | byte {a : Nat} (h : i.ReadsByte m a ∨ i.WritesByte m a) (ha : 0xFFF < a)
  | empty {x y : Int} (hi : i = draw x y 0) (hindex : 0x1000 < m.index.toNat)

section
variable {i : Instruction} {n : Int} {m : Machine}

theorem astray_iff (hi : i.Legal) (hreach : i.reach? = some n) :
    Astray i m ↔ memorySize < m.index.toNat + n := by
  have hsize : memorySize = 4096 := rfl
  constructor
  · intro h
    cases h with
    | byte h ha =>
      have hend := ((readsByte_or_writesByte_iff hi hreach).1 h).2
      omega
    | empty hdraw hindex =>
      subst hdraw
      cases hreach
      omega
  · intro hend
    by_cases hrows : 0 < n
    · -- the last byte lies behind memory
      refine .byte (a := (m.index.toNat + n - 1).toNat) ?_ (by omega)
      exact (readsByte_or_writesByte_iff hi hreach).2 ⟨by omega, by omega⟩
    · cases i
      case draw x y height =>
        cases hreach
        have hheight : 0 ≤ n := (hi (.n, n) (by simp [operands])).1
        obtain rfl : n = 0 := by omega
        exact .empty rfl (by omega)
      case dumpRegisters x | loadRegisters x =>
        cases hreach
        have hx : 0 ≤ x := (hi _ List.mem_cons_self).1
        omega
      case storeDigits x =>
        cases hreach
        omega
      all_goals cases hreach

variable {κ σ ρ : Type} [Keypad κ]

theorem failure_iff_of_reach (hi : i.Legal) (hreach : i.reach? = some n) {d d' : Devices κ σ ρ}
    {f : Fault} :
    Failure m d i f d' ↔ Astray i m ∧ f = .memoryAccess m.index.toNat n ∧ d' = d := by
  rw [astray_iff hi hreach]
  constructor
  · intro h
    cases h with
    | reach hsome hend =>
      cases hsome.symm.trans hreach
      exact ⟨hend, rfl, rfl⟩
    | pop | push | wait | key => cases hreach
  · rintro ⟨hend, rfl, rfl⟩
    exact .reach hreach hend

end

namespace Console

theorem finish_sameButMemory {κ σ ρ : Type} {c : Console κ σ ρ} {m' : Machine}
    {outcome outcome' : Except Fault Machine × Devices κ σ ρ}
    (h : SameButMemory outcome outcome') {memory : Vector UInt8 memorySize}
    (hm : m'.withMemory memory = c.machine.withMemory memory) :
    let e := ({ c with machine := m' } : Console κ σ ρ)
    (e.finish outcome).1 = (c.finish outcome').1 ∧
    (e.finish outcome).2.devices = (c.finish outcome').2.devices ∧
    (e.finish outcome).2.machine.withMemory memory =
      (c.finish outcome').2.machine.withMemory memory := by
  obtain ⟨answer, devices⟩ := outcome
  obtain ⟨answer', devices'⟩ := outcome'
  obtain ⟨hdevices, hanswers⟩ := h
  have hmachines := hanswers memory
  cases answer with
  | error f =>
    cases answer' with
    | error f' =>
      cases hmachines
      exact ⟨rfl, hdevices, hm⟩
    | ok => cases hmachines
  | ok m1 =>
    cases answer' with
    | error => cases hmachines
    | ok m2 => exact ⟨rfl, hdevices, Except.ok.inj hmachines⟩

variable {κ σ ρ : Type} [Keypad κ] [Screen σ] [RandomSource ρ]
variable {c : Console κ σ ρ} {i : Instruction} {n : Int}

theorem execute_eq_of_legal (hi : i.Legal) :
    c.execute i =
      (c.tell (c.executeNotices i)).finish (effect i c.machine.tick.advance c.devices) := by
  have hvalid := validate_eq_ok_iff.2 ⟨hi, rfl⟩
  unfold execute Chip8.execute
  rw [hvalid]
  rfl

theorem execute_eq_error_iff_astray (hi : i.Legal) (hreach : i.reach? = some n) {f : Fault} :
    (∃ c', c.execute i = (.error f, c')) ↔
      Astray i c.machine ∧ f = .memoryAccess c.machine.index.toNat n := by
  have hastray : Astray i c.machine.tick.advance ↔ Astray i c.machine := by
    rw [astray_iff hi hreach, astray_iff hi hreach]
    rfl
  rw [execute_eq_of_legal hi]
  constructor
  · rintro ⟨c', h⟩
    have hfail := failure_of_effect hi (finish_eq_error h).1
    obtain ⟨hout, hf, -⟩ := (failure_iff_of_reach hi hreach).1 hfail
    exact ⟨hastray.1 hout, hf⟩
  · rintro ⟨hout, rfl⟩
    have hfail := (failure_iff_of_reach hi hreach (d := c.devices)).2 ⟨hastray.2 hout, rfl, rfl⟩
    exact ⟨_, congrArg _ (hfail.effect_eq hi)⟩

/-- An instruction that has bytes from the index on fails if and only if one of
them is outside memory, or if it is a sprite without rows beyond the end of
memory. It fails with its range then, and it does so whether it was given by hand
or fetched. It changes no other bytes, and bytes that it does not read make no
difference to it. A range by itself is refused likewise: for one of its bytes, or
if it is empty and begins before memory or beyond its end. -/
theorem access_fails_outside_memory :
    (∀ (address : Int) (length : Nat),
      (∀ f, checkRange address length = .error f ↔
        (Outside address length ∨ Adrift address length) ∧ f = .memoryAccess address length) ∧
      ∀ a, checkRange address length = .ok a ↔
        ¬ (Outside address length ∨ Adrift address length) ∧ a = address) ∧
    ∀ (c : Console κ σ ρ) (i : Instruction) (n : Int), i.Legal → i.reach? = some n →
      (∀ f, (∃ c', c.execute i = (.error f, c')) ↔
        Astray i c.machine ∧ f = .memoryAccess c.machine.index.toNat n) ∧
      (c.machine.Holds i → ∀ f, (∃ c', c.step = (.error f, c')) ↔
        Astray i c.machine ∧ f = .memoryAccess c.machine.index.toNat n) ∧
      (∀ c', c.Carried i c' → ∀ a, ¬ i.WritesByte c.machine a →
        c'.machine.byteAt a = c.machine.byteAt a) ∧
      ∀ memory, (∀ a, i.ReadsByte c.machine a →
          (c.machine.withMemory memory).byteAt a = c.machine.byteAt a) →
        let e := ({ c with machine := c.machine.withMemory memory } : Console κ σ ρ)
        (e.execute i).1 = (c.execute i).1 ∧
        (e.execute i).2.devices = (c.execute i).2.devices ∧
        (e.execute i).2.machine.withMemory memory = (c.execute i).2.machine.withMemory memory := by
  refine ⟨fun address length => ⟨fun f => checkRange_eq_error_iff_outside,
    fun a => checkRange_eq_ok_iff_inside⟩, fun c i n hi hreach => ⟨fun f => ?_, ?_, ?_, ?_⟩⟩
  · exact execute_eq_error_iff_astray hi hreach
  · intro hholds f
    rw [step_eq_execute (Machine.upcoming_eq_ok_iff.2 hholds)]
    exact execute_eq_error_iff_astray hi hreach
  · intro c' hcarried a hunwritten
    rw [writesByte_iff hi] at hunwritten
    exact hcarried.footprint.memory a (by omega)
  · intro memory hsame e
    have hoff := effect_withMemory (m := c.machine.tick.advance) hi hreach hsame c.devices
    rw [execute_eq_of_legal hi, execute_eq_of_legal hi]
    exact finish_sameButMemory (c := c.tell (c.executeNotices i)) hoff rfl

/-- At the last byte of memory, one register can be loaded and two cannot be
dumped. What is at the front of memory makes no difference. -/
theorem second_register_falls_outside_memory :
    ∃ c : Console SilentKeypad Grid Splitting,
      c.machine.index.toNat = 0xFFF ∧ c.machine.Holds (dumpRegisters 1) ∧
      (∃ c', c.execute (dumpRegisters 1) = (.error (.memoryAccess 0xFFF 2), c')) ∧
      (∃ c', c.step = (.error (.memoryAccess 0xFFF 2), c')) ∧
      (∃ c', c.Carried (loadRegisters 0) c' ∧
        c'.machine.byteAt 0xFFF = c.machine.byteAt 0xFFF) ∧
      ∃ e : Console SilentKeypad Grid Splitting,
        e.machine = c.machine.withMemory (c.machine.memory.set 0 7) ∧
        (e.execute (loadRegisters 0)).1 = (c.execute (loadRegisters 0)).1 := by
  let c := ((loaded [0xAF, 0xFF, 0xF1, 0x55]).execute (setIndex 0xFFF)).2
  let e := { c with machine := c.machine.withMemory (c.machine.memory.set 0 7) }
  have hindex : c.machine.index.toNat = 0xFFF := by decide
  have hholds : c.machine.Holds (dumpRegisters 1) := Machine.upcoming_eq_ok_iff.1
    (Machine.upcoming_load (k := 2) rfl rfl (by decide) (by decide) (by decide))
  have hastray : Astray (dumpRegisters 1) c.machine := by
    refine .byte (a := 0x1000) (.inr ⟨1, by decide, ?_⟩) (by decide)
    rw [hindex]
    rfl
  have hloaded : c.Carried (loadRegisters 0) (c.execute (loadRegisters 0)).2 := .inr rfl
  have hsame : ∀ a, (loadRegisters 0).ReadsByte c.machine a →
      (c.machine.withMemory (c.machine.memory.set 0 7)).byteAt a = c.machine.byteAt a := by
    rintro a ⟨k, -, rfl⟩
    have hfront : 0 ≠ c.machine.index.toNat + (k : Nat) := by omega
    unfold Machine.byteAt Machine.withMemory
    rw [Vector.getElem?_set_ne _ hfront]
  obtain ⟨hdumped, hfetched, -, -⟩ :=
    access_fails_outside_memory.2 c (dumpRegisters 1) 2 (by decide) rfl
  obtain ⟨-, -, hkept, hblind⟩ :=
    access_fails_outside_memory.2 c (loadRegisters 0) 1 (by decide) rfl
  rw [hindex] at hdumped hfetched
  exact ⟨c, hindex, hholds, (hdumped (.memoryAccess 0xFFF 2)).2 ⟨hastray, rfl⟩,
    (hfetched hholds (.memoryAccess 0xFFF 2)).2 ⟨hastray, rfl⟩,
    ⟨_, hloaded, hkept _ hloaded 0xFFF id⟩, e, rfl, (hblind _ hsame).1⟩

/-- A sprite without rows has no byte that could be outside memory. Beyond the end
of memory, it is refused nevertheless, and so is every empty range there. -/
theorem sprite_without_rows_fails_beyond_memory :
    let c := byHand [setIndex 0xFFF, setConst 0 2, addToIndex 0]
    c.machine.index.toNat = 0x1001 ∧
    (∀ a, ¬ ((draw 0 0 0).ReadsByte c.machine a ∨ (draw 0 0 0).WritesByte c.machine a)) ∧
    (c.execute (draw 0 0 0)).1 = .error (.memoryAccess 0x1001 0) ∧
    ¬ Outside 0x1001 0 ∧ checkRange 0x1001 0 = .error (.memoryAccess 0x1001 0) := by
  refine ⟨by decide, ?_, rfl, ?_, rfl⟩
  · rintro a (⟨row, hrow, -⟩ | hwrites)
    · omega
    · exact hwrites
  · rintro ⟨a, hfirst, hlast, -⟩
    omega

end Console

end Chip8
