-- A terminal and a window read the same keyboard alike. Of all key codes, they
-- disagree about the capital letters A to F only, which a window does not know.
import Chip8.Keypad.Terminal
import Chip8.Proofs.Delivery
namespace Chip8

/-! ## Characters -/

namespace Text

/-- All digits but the ten of ASCII stand beyond the first 256 characters. -/
theorem decimalDigit?_of_lt {c : Char} (h : c.toNat < 256) :
    decimalDigit? c = if 48 ≤ c.toNat ∧ c.toNat ≤ 57 then some (c.toNat - 48) else none := by
  have hrest : ∀ first ∈ digitZeros.tail, 256 ≤ first := by decide
  have hnone :
      (digitZeros.tail.find? fun first => first ≤ c.toNat ∧ c.toNat < first + 10) = none := by
    refine List.find?_eq_none.2 fun first hfirst => ?_
    have hfar := hrest first hfirst
    simp
    omega
  have hzeros : digitZeros = 48 :: digitZeros.tail := rfl
  unfold decimalDigit?
  rw [hzeros, List.find?_cons, hnone]
  by_cases hdigit : 48 ≤ c.toNat ∧ c.toNat ≤ 57
  · have hfirst : decide (48 ≤ c.toNat ∧ c.toNat < 48 + 10) = true := decide_eq_true (by omega)
    rw [hfirst, if_pos hdigit]
    rfl
  · have hfirst : decide (48 ≤ c.toNat ∧ c.toNat < 48 + 10) = false := decide_eq_false (by omega)
    rw [hfirst, if_neg hdigit]
    rfl

end Text

theorem keyOfText?_toString (c : Char) : keyOfText? c.toString = keyOfChar? c := by
  simp [keyOfText?]

/-- Beside the capitals, a character of a code names the key of the window. -/
theorem keyOfChar?_of_lt {c : Char} (h : c.toNat < 256)
    (hcapital : ¬ (65 ≤ c.toNat ∧ c.toNat ≤ 70)) :
    (keyOfChar? c).map Int.ofNat = windowKey? c.toNat := by
  have hsmall : 'a' ≤ c ∧ c ≤ 'f' ↔ 97 ≤ c.toNat ∧ c.toNat ≤ 102 := Iff.rfl
  have hlarge : 'A' ≤ c ∧ c ≤ 'F' ↔ 65 ≤ c.toNat ∧ c.toNat ≤ 70 := Iff.rfl
  have hdigits : (48 : Int) ≤ c.toNat ∧ (c.toNat : Int) ≤ 57 ↔ 48 ≤ c.toNat ∧ c.toNat ≤ 57 := by
    omega
  have hletters : (97 : Int) ≤ c.toNat ∧ (c.toNat : Int) ≤ 102 ↔ 97 ≤ c.toNat ∧ c.toNat ≤ 102 := by
    omega
  have ha : 'a'.toNat = 97 := rfl
  unfold keyOfChar? letterDigit? windowKey?
  rw [Text.decimalDigit?_of_lt h]
  simp only [hsmall, hlarge, hdigits, hletters, hcapital, if_false]
  by_cases hdigit : 48 ≤ c.toNat ∧ c.toNat ≤ 57
  · simp only [hdigit, and_self, if_true, Option.map_some, Int.ofNat_eq_natCast]
    rw [Int.ofNat_sub hdigit.1]
    rfl
  by_cases hletter : 97 ≤ c.toNat ∧ c.toNat ≤ 102
  · simp only [hdigit, hletter, and_self, if_true, if_false, ha, Option.map_some,
      Int.ofNat_eq_natCast, Option.some.injEq]
    omega
  · simp only [hdigit, hletter, if_false, Option.map_none]

namespace Terminal

theorem isQuit_toString (c : Char) : isQuit (.text c.toString) = isQuitCode c.toNat := by
  have htext (d : Char) : RawKey.text c.toString = .text d.toString ↔ c.toNat = d.toNat := by
    simp [← Char.toNat_inj]
  have hq : RawKey.text c.toString = .text "q" ↔ c.toNat = 113 := htext 'q'
  have hescape : RawKey.text c.toString = .text "\x1b" ↔ c.toNat = 27 := htext (Char.ofNat 27)
  rw [Bool.eq_iff_iff]
  simp only [isQuit, quitKeys, isQuitCode, List.contains_iff_mem, List.mem_cons, List.not_mem_nil,
    or_false, hq, hescape, Bool.or_eq_true, beq_iff_eq]
  omega

end Terminal

/-! ## Codes -/

section
variable {κ : Type} [KeyCode κ]

/-- What a pressed key of a window does at the keyboard. -/
def windowEvent? (code : Int) : Option (KeyEvent κ) :=
  if isQuitCode code then some .close
  else (windowKey? code).map fun key => .press (KeyCode.ofKey key)

theorem handle_keyDown {τ : Type} [Time τ] (k : Keyboard κ τ) (code : Int) :
    WindowKeypad.handle k (.keyDown code) = (windowEvent? code).elim k k.perform := by
  unfold windowEvent?
  simp only [WindowKeypad.handle]
  cases isQuitCode code with
  | true => rfl
  | false => cases windowKey? code <;> rfl

/-- Terminal and window take a code for the same, unless it is that of a capital
letter from A to F. -/
theorem Terminal.event?_eq {code : Int} (h : ¬ (65 ≤ code ∧ code ≤ 70)) :
    (event? code : Option (KeyEvent κ)) = windowEvent? code := by
  by_cases hrange : code < 0 ∨ 0xFF < code
  · -- neither knows codes beyond those of characters
    have hkey : windowKey? code = none := by
      unfold windowKey?
      rw [if_neg (by omega), if_neg (by omega)]
    have hquit : isQuitCode code = false := by
      simp only [isQuitCode, Bool.or_eq_false_iff, beq_eq_false_iff_ne]
      omega
    unfold event? rawKey? windowEvent?
    rw [if_pos hrange, hkey, hquit]
    rfl
  · obtain ⟨n, rfl⟩ : ∃ n : Nat, code = n := ⟨code.toNat, by omega⟩
    have hcode : (Char.ofNat n).toNat = n := by
      unfold Char.ofNat
      rw [dif_pos (Or.inl (by omega : n < 0xD800))]
      rfl
    have hkey := keyOfChar?_of_lt (c := Char.ofNat n) (by omega) (by omega)
    have hquit := isQuit_toString (Char.ofNat n)
    rw [hcode] at hkey hquit
    unfold event? rawKey? windowEvent?
    rw [if_neg hrange]
    have hraw : RawSymbol.key? (RawKey.text (Char.ofNat n).toString) = keyOfChar? (Char.ofNat n) :=
      keyOfText?_toString _
    show rawEvent? (isQuit (.text (Char.ofNat n).toString))
      (RawKey.text (Char.ofNat n).toString) = _
    unfold rawEvent?
    rw [hquit, hraw, ← hkey]
    cases isQuitCode n with
    | true => rfl
    | false => cases keyOfChar? (Char.ofNat n) <;> rfl

end

/-! ## Bursts of codes -/

/-- Codes that are typed at one moment, some time after the ones before. -/
structure Burst (τ : Type) where
  pause : τ
  codes : List Int
deriving DecidableEq, Repr

namespace Burst

variable {κ τ : Type}

/-- All codes of some bursts, one after the other. -/
def typed (bursts : List (Burst τ)) : List Int := bursts.flatMap codes

/-- What a terminal reads. -/
def readings (bursts : List (Burst τ)) : List (Reading RawKey τ) :=
  bursts.flatMap fun b => .pause b.pause :: b.codes.map Terminal.reading

variable [KeyCode κ] [Time τ]

/-- The key that a code presses. -/
def pressed? (code : Int) : Option κ :=
  if isQuitCode code then none else (windowKey? code).map KeyCode.ofKey

/-- The pushes of the keys that some bursts press, each with the time of its
burst. -/
def pushes (now : τ) : List (Burst τ) → List (KeyBuffer.Call κ τ)
  | [] => []
  | b :: rest =>
    let now := Time.later now (now + b.pause)
    (b.codes.filterMap pressed?).map (fun key => ⟨.push key, now⟩) ++ pushes now rest

theorem pushedKeys_pushes (now : τ) (bursts : List (Burst τ)) :
    KeyBuffer.pushedKeys (pushes now bursts : List (KeyBuffer.Call κ τ)) =
      (typed bursts).filterMap pressed? := by
  induction bursts generalizing now with
  | nil => rfl
  | cons b rest ih =>
    have hburst (keys : List κ) (now : τ) : KeyBuffer.pushedKeys
        (keys.map fun key => (⟨.push key, now⟩ : KeyBuffer.Call κ τ)) = keys := by
      unfold KeyBuffer.pushedKeys
      rw [List.filterMap_map]
      exact List.filterMap_some
    unfold pushes typed
    rw [KeyBuffer.pushedKeys_append, hburst, ih, List.flatMap_cons, List.filterMap_append]
    rfl

end Burst

/-! ## A keyboard that hears of codes -/

namespace Keyboard

variable {κ τ : Type} [KeyCode κ] [Time τ]

/-- Nothing is going to happen at the keyboard by itself. -/
structure AtRest (k : Keyboard κ τ) : Prop where
  pending : k.pending = []
  inbox : k.inbox = []

/-- The keyboard after codes that are handled at once. -/
def hear (k : Keyboard κ τ) (codes : List Int) : Keyboard κ τ :=
  codes.foldl (fun k code => WindowKeypad.handle k (.keyDown code)) k

def hearAll (k : Keyboard κ τ) (bursts : List (Burst τ)) : Keyboard κ τ :=
  bursts.foldl (fun k b => (k.advance b.pause).hear b.codes) k

/-- The keyboard after codes that wait in a window until it is pumped. -/
def pumpAll (k : Keyboard κ τ) (bursts : List (Burst τ)) : Keyboard κ τ :=
  bursts.foldl (fun k b => WindowKeypad.pump
    (b.codes.foldl (fun k code => k.perform (.window (.keyDown code))) (k.advance b.pause))) k

variable {k : Keyboard κ τ}

omit [KeyCode κ] [Time τ] in
theorem atRest_idle (now : τ) (buffer : KeyBuffer κ τ) : (idle now buffer).AtRest := ⟨rfl, rfl⟩

omit [KeyCode κ] in
theorem AtRest.advance (h : k.AtRest) (span : τ) :
    k.advance span = { k with now := Time.later k.now (k.now + span) } := by
  obtain ⟨now, pending, buffer, closed, inbox⟩ := k
  obtain rfl : pending = [] := h.pending
  rfl

/-- To handle a code is to push the key that it presses, or to close the input. -/
theorem handle_keyDown_eq (k : Keyboard κ τ) (code : Int) :
    WindowKeypad.handle k (.keyDown code) =
      { k with
        buffer := after KeyBuffer.perform k.buffer
          ((Burst.pressed? code).toList.map fun key => ⟨.push key, k.now⟩)
        closed := k.closed || isQuitCode code } := by
  unfold Burst.pressed?
  simp only [WindowKeypad.handle]
  cases isQuitCode code with
  | true => simp
  | false => cases windowKey? code <;> simp [after, KeyBuffer.perform]

theorem hear_eq (k : Keyboard κ τ) (codes : List Int) :
    k.hear codes =
      { k with
        buffer := after KeyBuffer.perform k.buffer
          ((codes.filterMap Burst.pressed?).map fun key => ⟨.push key, k.now⟩)
        closed := k.closed || codes.any isQuitCode } := by
  induction codes generalizing k with
  | nil => simp [hear]
  | cons code rest ih =>
    show (WindowKeypad.handle k (.keyDown code)).hear rest = _
    have hkeys : (code :: rest).filterMap Burst.pressed? =
        ((Burst.pressed? code).toList ++ rest.filterMap Burst.pressed? : List κ) := by
      rw [List.filterMap_cons]
      cases (Burst.pressed? code : Option κ) <;> rfl
    rw [ih, handle_keyDown_eq, hkeys, List.map_append, after_append, List.any_cons, Bool.or_assoc]

/-- What some bursts do to a keyboard at rest. -/
structure Heard (k : Keyboard κ τ) (bursts : List (Burst τ)) (k' : Keyboard κ τ) : Prop where
  buffer : k'.buffer = after KeyBuffer.perform k.buffer (Burst.pushes k.now bursts)
  closed : k'.closed = (k.closed || (Burst.typed bursts).any isQuitCode)

theorem AtRest.burst (h : k.AtRest) (b : Burst τ) : ((k.advance b.pause).hear b.codes).AtRest := by
  rw [hear_eq, h.advance]
  exact ⟨h.pending, h.inbox⟩

theorem AtRest.heard (h : k.AtRest) (bursts : List (Burst τ)) :
    k.Heard bursts (k.hearAll bursts) := by
  induction bursts generalizing k with
  | nil => exact ⟨rfl, (Bool.or_false _).symm⟩
  | cons b rest ih =>
    have hrest := ih (h.burst b)
    constructor
    · show (((k.advance b.pause).hear b.codes).hearAll rest).buffer = _
      rw [hrest.buffer, hear_eq, h.advance, Burst.pushes, after_append]
    · show (((k.advance b.pause).hear b.codes).hearAll rest).closed = _
      rw [hrest.closed, hear_eq, h.advance]
      unfold Burst.typed
      rw [List.flatMap_cons, List.any_append, ← Bool.or_assoc]

omit [KeyCode κ] in
theorem perform_keyDowns (k : Keyboard κ τ) (codes : List Int) :
    codes.foldl (fun k code => k.perform (.window (.keyDown code))) k =
      { k with inbox := k.inbox ++ codes.map .keyDown } := by
  induction codes generalizing k with
  | nil => simp
  | cons code rest ih =>
    rw [List.foldl_cons, ih]
    simp [perform]

/-- A window that is pumped handles its codes as if they came now. -/
theorem AtRest.pump (h : k.AtRest) (codes : List Int) :
    WindowKeypad.pump (codes.foldl (fun k code => k.perform (.window (.keyDown code))) k) =
      k.hear codes := by
  obtain ⟨now, pending, buffer, closed, inbox⟩ := k
  obtain rfl : inbox = [] := h.inbox
  rw [perform_keyDowns]
  unfold WindowKeypad.pump hear
  simp only [List.nil_append]
  exact List.foldl_map

theorem AtRest.pumpAll (h : k.AtRest) (bursts : List (Burst τ)) :
    k.pumpAll bursts = k.hearAll bursts := by
  induction bursts generalizing k with
  | nil => rfl
  | cons b rest ih =>
    have hmoment : (k.advance b.pause).AtRest := by
      rw [h.advance]
      exact ⟨h.pending, h.inbox⟩
    have hpump := hmoment.pump b.codes
    have hrest := ih (h.burst b)
    unfold Keyboard.pumpAll hearAll at hrest ⊢
    rw [List.foldl_cons, List.foldl_cons, hpump, hrest]

end Keyboard

/-! ## A listener -/

namespace Listener

variable {κ τ : Type} [KeyCode κ] [Time τ]

/-- A listener at a terminal. -/
def atTerminal (keyboard : Keyboard κ τ) (readings : List (Reading RawKey τ)) :
    Listener RawKey κ τ :=
  { keyboard, readings, isQuit := fun raw => .ok (Terminal.isQuit raw), stopped := false
    running := true, journal := [] }

/-- The listener somewhat later. -/
def later (l : Listener RawKey κ τ) (keyboard : Keyboard κ τ) (journal : List Notice) :
    Listener RawKey κ τ :=
  { l with keyboard, journal }

variable {l : Listener RawKey κ τ}

theorem exists_accept_eq (l : Listener RawKey κ τ) (quits : Bool) (raw : RawKey) :
    ∃ journal, l.accept quits raw =
      l.later ((rawEvent? quits raw).elim l.keyboard l.keyboard.perform) journal := by
  unfold accept
  cases quits with
  | true => exact ⟨_, rfl⟩
  | false =>
    refine ⟨l.journal, ?_⟩
    cases (rawEvent? false raw : Option (KeyEvent κ)) <;> rfl

/-- A listener does with a code what a window does with it. -/
theorem exists_read_code (hquit : l.isQuit = fun raw => .ok (Terminal.isQuit raw)) {code : Int}
    (hcode : ¬ (65 ≤ code ∧ code ≤ 70)) (rest : List (Reading RawKey τ)) :
    ∃ journal, l.read (Terminal.reading code :: rest) =
      (l.later (WindowKeypad.handle l.keyboard (.keyDown code)) journal).read rest := by
  have hevent := @Terminal.event?_eq κ _ code hcode
  rw [handle_keyDown, ← hevent]
  unfold Terminal.event? Terminal.reading
  cases Terminal.rawKey? code with
  | none => exact ⟨l.journal, rfl⟩
  | some raw =>
    obtain ⟨journal, haccept⟩ := l.exists_accept_eq (Terminal.isQuit raw) raw
    refine ⟨journal, ?_⟩
    show l.read (.key raw :: rest) = _
    rw [read, hquit]
    show (l.accept (Terminal.isQuit raw) raw).read rest = _
    rw [haccept]
    rfl

theorem exists_read_codes (hquit : l.isQuit = fun raw => .ok (Terminal.isQuit raw))
    {codes : List Int} (hcodes : ∀ code ∈ codes, ¬ (65 ≤ code ∧ code ≤ 70))
    (rest : List (Reading RawKey τ)) :
    ∃ journal, l.read (codes.map Terminal.reading ++ rest) =
      (l.later (l.keyboard.hear codes) journal).read rest := by
  induction codes generalizing l with
  | nil => exact ⟨l.journal, rfl⟩
  | cons code codes ih =>
    obtain ⟨hfirst, hothers⟩ := List.forall_mem_cons.1 hcodes
    obtain ⟨journal, hread⟩ := exists_read_code hquit hfirst (codes.map Terminal.reading ++ rest)
    obtain ⟨journal', hreads⟩ :=
      @ih (l.later (WindowKeypad.handle l.keyboard (.keyDown code)) journal) hquit hothers
    exact ⟨journal', hread.trans hreads⟩

theorem exists_read_bursts (hquit : l.isQuit = fun raw => .ok (Terminal.isQuit raw))
    {bursts : List (Burst τ)} (hcodes : ∀ code ∈ Burst.typed bursts, ¬ (65 ≤ code ∧ code ≤ 70))
    (rest : List (Reading RawKey τ)) :
    ∃ journal, l.read (Burst.readings bursts ++ rest) =
      (l.later (l.keyboard.hearAll bursts) journal).read rest := by
  induction bursts generalizing l with
  | nil => exact ⟨l.journal, rfl⟩
  | cons b bursts ih =>
    have hfirst (code : Int) (h : code ∈ b.codes) := hcodes code (List.mem_append_left _ h)
    have hothers (code : Int) (h : code ∈ Burst.typed bursts) :=
      hcodes code (List.mem_append_right _ h)
    obtain ⟨journal, hread⟩ :=
      exists_read_codes (l := l.later (l.keyboard.advance b.pause) l.journal) hquit hfirst
        (Burst.readings bursts ++ rest)
    obtain ⟨journal', hreads⟩ :=
      @ih (l.later ((l.keyboard.advance b.pause).hear b.codes) journal) hquit hothers
    refine ⟨journal', ?_⟩
    show l.read (.pause b.pause :: (b.codes.map Terminal.reading ++ Burst.readings bursts) ++
      rest) = _
    rw [List.cons_append, List.append_assoc]
    exact hread.trans hreads

/-- Behind some bursts, a listener at a terminal goes on with a keyboard that
has heard of them. -/
theorem exists_listen_eq (k : Keyboard κ τ) {bursts : List (Burst τ)}
    (hcodes : ∀ code ∈ Burst.typed bursts, ¬ (65 ≤ code ∧ code ≤ 70))
    (rest : List (Reading RawKey τ)) :
    ∃ l : Listener RawKey κ τ, l.keyboard = k.hearAll bursts ∧
      (atTerminal k (Burst.readings bursts ++ rest)).listen = l.read rest := by
  let l := atTerminal k (Burst.readings bursts ++ rest)
  obtain ⟨journal, hread⟩ := exists_read_bursts (l := l) rfl hcodes rest
  exact ⟨_, rfl, hread⟩

end Listener

/-! ## The two of them -/

/-- Whatever codes are typed, but for the capitals A to F, a listener at a
terminal and a window that is pumped from time to time push the same keys in the
same order and are asked to quit alike. A code that asks to quit pushes no key,
and those behind it are pushed as ever. If the codes come at the same times, the
keyboards are the same in the end. If the reader fails, the keys before are
pushed, and that counts as a wish to quit. -/
theorem terminal_and_window_read_alike {κ τ : Type} [KeyCode κ] [Time τ] (now : τ)
    (buffer : KeyBuffer κ τ) (bursts pumped : List (Burst τ))
    (hsame : Burst.typed pumped = Burst.typed bursts)
    (hcodes : ∀ code ∈ Burst.typed bursts, ¬ (65 ≤ code ∧ code ≤ 70)) :
    let idle : Keyboard κ τ := .idle now buffer
    let heard := (Listener.atTerminal idle (Burst.readings bursts)).listen
    let window := idle.pumpAll pumped
    let keys : List κ := (Burst.typed bursts).filterMap fun code =>
      if isQuitCode code then none else (windowKey? code).map KeyCode.ofKey
    heard.1 = .ok () ∧
    heard.2.keyboard.buffer = after KeyBuffer.perform buffer (Burst.pushes now bursts) ∧
    window.buffer = after KeyBuffer.perform buffer (Burst.pushes now pumped) ∧
    KeyBuffer.pushedKeys (Burst.pushes now bursts) = keys ∧
    KeyBuffer.pushedKeys (Burst.pushes now pumped) = keys ∧
    heard.2.keyboard.closed = (Burst.typed bursts).any isQuitCode ∧
    window.closed = (Burst.typed bursts).any isQuitCode ∧
    (pumped = bursts → window = heard.2.keyboard) ∧
    ∀ shown rest, let failed := (Listener.atTerminal idle
        (Burst.readings bursts ++ .failure shown :: rest)).listen
      failed.1 = .ok () ∧
      failed.2.keyboard.buffer = after KeyBuffer.perform buffer (Burst.pushes now bursts) ∧
      failed.2.keyboard.closed = true ∧ failed.2.readings = rest := by
  intro idle heard window keys
  have hrest : idle.AtRest := Keyboard.atRest_idle now buffer
  have hheard := hrest.heard bursts
  have hwindow : window = idle.hearAll pumped := hrest.pumpAll pumped
  have hpumped := hrest.heard pumped
  rw [← hwindow] at hpumped
  obtain ⟨l, hl, hlisten⟩ := Listener.exists_listen_eq idle hcodes []
  rw [List.append_nil] at hlisten
  have hkeyboard : heard.2.keyboard = idle.hearAll bursts := by
    show (Listener.atTerminal idle (Burst.readings bursts)).listen.2.keyboard = _
    rw [hlisten]
    exact hl
  refine ⟨?_, ?_, hpumped.buffer, Burst.pushedKeys_pushes now bursts, ?_, ?_, ?_, ?_, ?_⟩
  · show (Listener.atTerminal idle (Burst.readings bursts)).listen.1 = _
    rw [hlisten]
    rfl
  · rw [hkeyboard]
    exact hheard.buffer
  · rw [Burst.pushedKeys_pushes, hsame]
    rfl
  · rw [hkeyboard]
    exact hheard.closed
  · rw [← hsame]
    exact hpumped.closed
  · rintro rfl
    exact hwindow.trans hkeyboard.symm
  · intro shown rest failed
    obtain ⟨l, hl, hlisten⟩ := Listener.exists_listen_eq idle hcodes (.failure shown :: rest)
    have hfailed : failed = l.read (.failure shown :: rest) := hlisten
    rw [hfailed]
    refine ⟨rfl, ?_, rfl, rfl⟩
    show l.keyboard.buffer = _
    rw [hl]
    exact hheard.buffer

/-- The letter q between the keys 1, A and B, beside codes that are no keys. The
window is pumped later than the terminal is read. -/
theorem keys_behind_a_quit_key_are_read :
    ∃ (heard : Listener RawKey Int Rat) (window : Keyboard Int Rat),
      heard = (Listener.atTerminal (.idle 0 ⟨10, none, []⟩)
        (Burst.readings [⟨0, [49, 113, 300]⟩, ⟨1 / 2, [97, -1, 98]⟩])).listen.2 ∧
      window = (Keyboard.idle 0 ⟨10, none, []⟩).pumpAll
        [⟨1, [49, 113, 300, 97]⟩, ⟨0, [-1, 98]⟩] ∧
      heard.keyboard.buffer.presses.map (·.key) = [1, 10, 11] ∧
      window.buffer.presses.map (·.key) = [1, 10, 11] ∧
      heard.keyboard.closed = true ∧ window.closed = true := by
  let bursts : List (Burst Rat) := [⟨0, [49, 113, 300]⟩, ⟨1 / 2, [97, -1, 98]⟩]
  let pumped : List (Burst Rat) := [⟨1, [49, 113, 300, 97]⟩, ⟨0, [-1, 98]⟩]
  obtain ⟨-, hheard, hwindow, -, -, hclosed, hclosed', -, -⟩ :=
    terminal_and_window_read_alike (0 : Rat) (⟨10, none, []⟩ : KeyBuffer Int Rat) bursts pumped rfl
      (by decide)
  refine ⟨_, _, rfl, rfl, ?_, ?_, hclosed, hclosed'⟩
  · rw [hheard]
    decide +kernel
  · rw [hwindow]
    decide +kernel

end Chip8
