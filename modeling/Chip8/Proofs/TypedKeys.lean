-- The texts that name keys. A key is typed as one digit: a hexadecimal one, small
-- or capital, or a decimal one of another script. A listener pushes the keys that
-- are typed so, and nothing for any other raw key.
import Chip8.Proofs.KeyCodes
namespace Chip8

/-! ## Digits -/

namespace Text

/-- A decimal digit of some script stands as many places behind its zero as it
is worth. -/
def DecimalDigit (c : Char) (v : Nat) : Prop := v < 10 ∧ ∃ start ∈ digitZeros, c.toNat = start + v

/-- No digit belongs to two scripts. -/
theorem digitZeros_apart :
    ∀ a ∈ digitZeros, ∀ b ∈ digitZeros, a = b ∨ a + 10 ≤ b ∨ b + 10 ≤ a := by
  decide +kernel

theorem decimalDigit?_eq_some_iff {c : Char} {v : Nat} :
    decimalDigit? c = some v ↔ DecimalDigit c v := by
  constructor
  · intro h
    obtain ⟨start, hfind, rfl⟩ := Option.map_eq_some_iff.1 h
    have hstart := List.mem_of_find?_eq_some hfind
    have hplace := List.find?_some hfind
    simp only [decide_eq_true_eq] at hplace
    exact ⟨by omega, start, hstart, by omega⟩
  · rintro ⟨hv, start, hstart, hc⟩
    unfold decimalDigit?
    rw [Option.map_eq_some_iff]
    cases hfind : digitZeros.find? fun first => first ≤ c.toNat ∧ c.toNat < first + 10 with
    | none =>
      have hnone := List.find?_eq_none.1 hfind start hstart
      simp at hnone
      omega
    | some first =>
      have hfirst := List.mem_of_find?_eq_some hfind
      have hplace := List.find?_some hfind
      simp only [decide_eq_true_eq] at hplace
      rcases digitZeros_apart first hfirst start hstart with rfl | hapart
      · exact ⟨first, rfl, by omega⟩
      · omega

theorem decimalDigit_iff_of_ascii {c : Char} (h : c.toNat < 128) {v : Nat} :
    DecimalDigit c v ↔ v < 10 ∧ c.toNat = 48 + v := by
  rw [← decimalDigit?_eq_some_iff, decimalDigit?_of_lt (by omega)]
  split
  · simp only [Option.some.injEq]
    omega
  · simp only [reduceCtorEq, false_iff]
    omega

end Text

/-- A hexadecimal digit, small or capital. -/
def HexDigit (c : Char) (v : Nat) : Prop :=
  v < 16 ∧ (c = Nat.digitChar v ∨ c = (Nat.digitChar v).toUpper)

/-- A decimal digit of a script other than that of ASCII. -/
def ForeignDigit (c : Char) (v : Nat) : Prop := 128 ≤ c.toNat ∧ Text.DecimalDigit c v

section
variable {c : Char} {v : Nat}

theorem hexDigit_iff :
    HexDigit c v ↔
      (v < 10 ∧ c.toNat = 48 + v) ∨ (10 ≤ v ∧ v < 16 ∧ (c.toNat = 87 + v ∨ c.toNat = 55 + v)) := by
  have hsmall : ∀ v < 16, (Nat.digitChar v).toNat = if v < 10 then 48 + v else 87 + v := by decide
  have hlarge : ∀ v < 16, (Nat.digitChar v).toUpper.toNat = if v < 10 then 48 + v else 55 + v := by
    decide
  unfold HexDigit
  rw [← Char.toNat_inj, ← Char.toNat_inj]
  by_cases hv : v < 16
  · rw [hsmall v hv, hlarge v hv]
    by_cases hten : v < 10
    · rw [if_pos hten, if_pos hten]
      omega
    · rw [if_neg hten, if_neg hten]
      omega
  · omega

theorem letterDigit?_eq_some_iff :
    letterDigit? c = some v ↔ 10 ≤ v ∧ v < 16 ∧ (c.toNat = 87 + v ∨ c.toNat = 55 + v) := by
  have hsmall : 'a' ≤ c ∧ c ≤ 'f' ↔ 97 ≤ c.toNat ∧ c.toNat ≤ 102 := Iff.rfl
  have hlarge : 'A' ≤ c ∧ c ≤ 'F' ↔ 65 ≤ c.toNat ∧ c.toNat ≤ 70 := Iff.rfl
  have ha : 'a'.toNat = 97 := rfl
  have hA : 'A'.toNat = 65 := rfl
  unfold letterDigit?
  simp only [hsmall, hlarge, ha, hA]
  by_cases h : 97 ≤ c.toNat ∧ c.toNat ≤ 102
  · simp only [h, and_self, if_true, Option.some.injEq]
    omega
  · by_cases h' : 65 ≤ c.toNat ∧ c.toNat ≤ 70
    · simp only [h, h', and_self, if_true, if_false, Option.some.injEq]
      omega
    · simp only [h, h', if_false, reduceCtorEq, false_iff]
      omega

theorem keyOfChar?_eq_some_iff : keyOfChar? c = some v ↔ HexDigit c v ∨ ForeignDigit c v := by
  have hletter := @letterDigit?_eq_some_iff c v
  have hdecimal (w : Nat) := @Text.decimalDigit?_eq_some_iff c w
  rw [hexDigit_iff]
  unfold keyOfChar? ForeignDigit
  by_cases hascii : c.toNat < 128
  · have hfar : ¬ 128 ≤ c.toNat := by omega
    simp only [Text.decimalDigit_iff_of_ascii hascii] at hdecimal
    cases h : Text.decimalDigit? c with
    | some w =>
      have hw := (hdecimal w).1 h
      simp only [hfar, false_and, or_false, Option.some.injEq]
      omega
    | none =>
      have hv := hdecimal v
      rw [h] at hv
      simp only [reduceCtorEq, false_iff] at hv
      simp only [hfar, false_and, or_false, hletter]
      omega
  · have hfar : 128 ≤ c.toNat := by omega
    cases h : Text.decimalDigit? c with
    | some w =>
      rw [← hdecimal, h]
      simp only [hfar, true_and, Option.some.injEq]
      omega
    | none =>
      rw [← hdecimal, h]
      simp only [reduceCtorEq, and_false, or_false, hletter]
      omega

theorem HexDigit.not_foreign (h : HexDigit c v) {w : Nat} : ¬ ForeignDigit c w := by
  rintro ⟨hfar, -⟩
  rw [hexDigit_iff] at h
  omega

end

section
variable {s : String} {c : Char} {v : Nat}

theorem eq_singleton_iff : s = String.singleton c ↔ s.toList = [c] := by
  rw [← String.toList_inj, String.toList_singleton]

theorem keyOfText?_eq_some_iff :
    keyOfText? s = some v ↔ ∃ c, s = String.singleton c ∧ (HexDigit c v ∨ ForeignDigit c v) := by
  simp only [eq_singleton_iff]
  unfold keyOfText?
  split
  · rename_i c hc
    rw [keyOfChar?_eq_some_iff, hc]
    simp
  · rename_i hnone
    simp only [reduceCtorEq, false_iff]
    rintro ⟨c, hc, -⟩
    exact hnone c hc

/-- Hexadecimal digits alone decide on the key of a text, unless it is a digit of
another script. -/
theorem named_by_hexDigit_iff :
    (∀ v, keyOfText? s = some v ↔ ∃ c, s = String.singleton c ∧ HexDigit c v) ↔
      ∀ c v, s = String.singleton c → ¬ ForeignDigit c v := by
  constructor
  · intro hnamed c v hc hforeign
    have hkey : keyOfText? s = some v := keyOfText?_eq_some_iff.2 ⟨c, hc, .inr hforeign⟩
    obtain ⟨c', hc', hhex⟩ := (hnamed v).1 hkey
    have hsame := eq_singleton_iff.1 hc
    rw [eq_singleton_iff.1 hc'] at hsame
    cases hsame
    exact hhex.not_foreign hforeign
  · intro hplain v
    rw [keyOfText?_eq_some_iff]
    constructor
    · rintro ⟨c, hc, hhex | hforeign⟩
      · exact ⟨c, hc, hhex⟩
      · cases hplain c v hc hforeign
    · rintro ⟨c, hc, hhex⟩
      exact ⟨c, hc, .inl hhex⟩

end

/-! ## What a listener pushes -/

namespace Reading

section
variable {ρ τ : Type}

/-- The raw keys that are read. A failure of the reader is the end of them, and so
is a raw key of which it cannot be told whether it asks to quit. -/
def heard (asks : ρ → Except Text.ValueProblem Bool) : List (Reading ρ τ) → List ρ
  | [] => []
  | .key raw :: rest =>
    match asks raw with
    | .ok _ => raw :: heard asks rest
    | .error _ => []
  | .pause _ :: rest | .nothing :: rest => heard asks rest
  | .failure _ :: _ => []

variable {κ : Type} [RawSymbol ρ] [KeyCode κ]

/-- The key that a raw key presses, unless it asks to quit. -/
def pressed? (asks : ρ → Except Text.ValueProblem Bool) (raw : ρ) : Option κ :=
  match asks raw with
  | .ok false => (RawSymbol.key? raw).map fun v => KeyCode.ofKey v
  | _ => none

/-- The pushes of the keys that are read, each with the time when it is read. -/
def pushes [Time τ] (asks : ρ → Except Text.ValueProblem Bool) (now : τ) :
    List (Reading ρ τ) → List (KeyBuffer.Call κ τ)
  | [] => []
  | .pause span :: rest => pushes asks (Time.later now (now + span)) rest
  | .key raw :: rest =>
    match asks raw with
    | .ok _ => (pressed? asks raw).toList.map (fun key => ⟨.push key, now⟩) ++ pushes asks now rest
    | .error _ => []
  | .nothing :: rest => pushes asks now rest
  | .failure _ :: _ => []

theorem pushedKeys_pushes [Time τ] (asks : ρ → Except Text.ValueProblem Bool) (now : τ)
    (readings : List (Reading ρ τ)) :
    KeyBuffer.pushedKeys (pushes asks now readings : List (KeyBuffer.Call κ τ)) =
      (heard asks readings).filterMap (pressed? asks) := by
  induction readings generalizing now with
  | nil => rfl
  | cons r rest ih =>
    cases r with
    | pause span => exact ih _
    | nothing => exact ih now
    | failure shown => rfl
    | key raw =>
      unfold pushes heard
      cases asks raw with
      | error p => rfl
      | ok quits =>
        simp only
        rw [KeyBuffer.pushedKeys_append, ih, List.filterMap_cons]
        cases (pressed? asks raw : Option κ) <;> rfl

end

end Reading

namespace Listener

variable {ρ κ τ : Type} [RawSymbol ρ] [KeyCode κ] [Time τ]

/-- To accept a raw key is to push the key that it presses, or to close the
input. -/
theorem keyboard_accept (l : Listener ρ κ τ) {asks : ρ → Except Text.ValueProblem Bool} {raw : ρ}
    {quits : Bool} (h : asks raw = .ok quits) :
    (l.accept quits raw).keyboard =
      { l.keyboard with
        buffer := after KeyBuffer.perform l.keyboard.buffer
          ((Reading.pressed? asks raw).toList.map fun key => ⟨.push key, l.keyboard.now⟩)
        closed := l.keyboard.closed || quits } := by
  unfold accept rawEvent? Reading.pressed?
  rw [h]
  cases quits with
  | true => simp [tell, Keyboard.perform]
  | false => cases RawSymbol.key? raw <;> simp [Keyboard.perform, after, KeyBuffer.perform]

theorem isQuit_accept (l : Listener ρ κ τ) (quits : Bool) (raw : ρ) :
    (l.accept quits raw).isQuit = l.isQuit := by
  unfold accept
  cases quits with
  | true => rfl
  | false => cases (rawEvent? false raw : Option (KeyEvent κ)) <;> rfl

theorem read_nameless {l : Listener ρ κ τ} {raw : ρ} (hstays : l.isQuit raw = .ok false)
    (hnone : RawSymbol.key? raw = none) (rest : List (Reading ρ τ)) :
    l.read (.key raw :: rest) = l.read rest := by
  have haccept : l.accept false raw = l := by
    unfold accept rawEvent?
    rw [hnone]
    rfl
  conv_lhs => unfold read
  rw [hstays]
  simp only
  rw [haccept]

/-- All that a listener does to the buffer is to push the keys that it reads. -/
theorem buffer_read {l : Listener ρ κ τ} (hrest : l.keyboard.AtRest)
    (readings : List (Reading ρ τ)) :
    (l.read readings).2.keyboard.buffer = after KeyBuffer.perform l.keyboard.buffer
      (Reading.pushes l.isQuit l.keyboard.now readings) := by
  induction readings generalizing l with
  | nil => rfl
  | cons r rest ih =>
    cases r with
    | pause span =>
      have hlater := hrest.advance span
      have hmoment : (l.keyboard.advance span).AtRest := by
        rw [hlater]
        exact ⟨hrest.pending, hrest.inbox⟩
      have hbuffer := ih (l := { l with keyboard := l.keyboard.advance span }) hmoment
      rw [hlater] at hbuffer
      unfold read
      rw [hlater]
      exact hbuffer
    | nothing => exact ih hrest
    | failure shown => rfl
    | key raw =>
      unfold read Reading.pushes
      cases hquit : l.isQuit raw with
      | error p => rfl
      | ok quits =>
        have hkeyboard := l.keyboard_accept hquit
        have hstill : (l.accept quits raw).keyboard.AtRest := by
          rw [hkeyboard]
          exact ⟨hrest.pending, hrest.inbox⟩
        have hbuffer := ih hstill
        rw [isQuit_accept, hkeyboard] at hbuffer
        rw [after_append]
        exact hbuffer

end Listener

/-- A text names a key if and only if it is a single digit, hexadecimal or of
another script, and the key is what the digit is worth. So hexadecimal digits alone
decide on the key exactly if the text is no digit of another script. What is no
text names none. A raw key that names none and is no quit key makes no difference to a
listener. All that a listener does to the buffer is to push the keys that are
named by what it reads, but for quit keys, in this order. -/
theorem single_digits_name_keys {ρ κ τ : Type} [RawSymbol ρ] [KeyCode κ] [Time τ] (s : String)
    (l : Listener ρ κ τ) :
    (∀ v, keyOfText? s = some v ↔
      ∃ c, s = String.singleton c ∧ (HexDigit c v ∨ ForeignDigit c v)) ∧
    ((∀ v, keyOfText? s = some v ↔ ∃ c, s = String.singleton c ∧ HexDigit c v) ↔
      ∀ c v, s = String.singleton c → ¬ ForeignDigit c v) ∧
    (∀ (raw : Text.Value) (v : Nat), RawSymbol.key? raw = some v ↔
      ∃ s, raw = .text s ∧ keyOfText? s = some v) ∧
    (∀ raw rest, l.isQuit raw = .ok false → RawSymbol.key? raw = none →
      l.read (.key raw :: rest) = l.read rest) ∧
    (l.stopped = false → l.keyboard.AtRest →
      let pushes : List (KeyBuffer.Call κ τ) := Reading.pushes l.isQuit l.keyboard.now l.readings
      l.listen.2.keyboard.buffer = after KeyBuffer.perform l.keyboard.buffer pushes ∧
      KeyBuffer.pushedKeys pushes =
        (Reading.heard l.isQuit l.readings).filterMap (Reading.pressed? l.isQuit)) := by
  refine ⟨fun v => keyOfText?_eq_some_iff, named_by_hexDigit_iff, ?_, ?_, ?_⟩
  · intro raw v
    constructor
    · intro h
      obtain ⟨s, hs, hkey⟩ := Option.bind_eq_some_iff.1 h
      cases raw with
      | text t =>
        cases hs
        exact ⟨_, rfl, hkey⟩
      | _ => cases hs
    · rintro ⟨s, rfl, hkey⟩
      exact hkey
  · intro raw rest hstays hnone
    exact Listener.read_nameless hstays hnone rest
  · intro hstopped hrest pushes
    have hlisten : l.listen = l.read l.readings := by
      unfold Listener.listen
      rw [hstopped]
      rfl
    rw [hlisten]
    exact ⟨Listener.buffer_read hrest l.readings,
      Reading.pushedKeys_pushes l.isQuit l.keyboard.now l.readings⟩

/-- Of a number, a digit, a letter beyond F, a capital and two digits at once, the
listener pushes two keys. -/
theorem digit_and_capital_are_pushed :
    (∃ c, "F" = String.singleton c ∧ HexDigit c 15) ∧
    ∃ (l : Listener Text.Value Int Rat) (others : List (Reading Text.Value Rat)),
      others = [.key (.text "7"), .pause 1, .key (.text "g"), .key (.text "F"), .key (.text "10")] ∧
      l.readings = .key (.whole 5) :: others ∧ l.keyboard.buffer.presses = [] ∧
      l.read l.readings = l.read others ∧
      l.listen.2.keyboard.buffer.presses = [⟨7, 0⟩, ⟨15, 1⟩] := by
  let others : List (Reading Text.Value Rat) :=
    [.key (.text "7"), .pause 1, .key (.text "g"), .key (.text "F"), .key (.text "10")]
  let l : Listener Text.Value Int Rat :=
    { keyboard := .idle 0 ⟨10, none, []⟩, isQuit := fun _ => .ok false, stopped := false
      running := true, readings := .key (.whole 5) :: others, journal := [] }
  have hplain : ∀ c v, "F" = String.singleton c → ¬ ForeignDigit c v := by
    intro c v hc hforeign
    have hlist : ['F'] = [c] := eq_singleton_iff.1 hc
    cases hlist
    exact absurd hforeign.1 (by decide)
  obtain ⟨-, hnamed, -, hnameless, hpushes⟩ := single_digits_name_keys "F" l
  obtain ⟨hbuffer, -⟩ := hpushes rfl (Keyboard.atRest_idle 0 ⟨10, none, []⟩)
  refine ⟨(hnamed.2 hplain 15).1 (by decide), l, others, rfl, rfl, rfl,
    hnameless (.whole 5) others rfl rfl, ?_⟩
  rw [hbuffer]
  decide +kernel

/-- The digit three of Arabic is the key 3, and it is no hexadecimal digit. -/
theorem arabic_three_is_a_key :
    keyOfText? "\u0663" = some 3 ∧ ∀ c v, "\u0663" = String.singleton c → ¬ HexDigit c v := by
  refine ⟨by decide +kernel, ?_⟩
  intro c v hc hhex
  have hlist : ['\u0663'] = [c] := eq_singleton_iff.1 hc
  cases hlist
  have hplace : '\u0663'.toNat = 1635 := rfl
  rw [hexDigit_iff] at hhex
  omega

end Chip8
