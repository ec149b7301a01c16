-- What becomes of the keys that are pushed into a buffer. Each key is given the
-- number of its push, which the buffer does not look at. Then the keys that
-- come out are some of those that went in, in their order, and every other one
-- is still there or was lost for a reason.
import Mathlib.Data.List.Sublists
import Chip8.Proofs.BufferCalls
namespace Chip8

/-! ## Other keys in a buffer -/

def Keypress.map {κ κ' τ : Type} (f : κ → κ') (p : Keypress κ τ) : Keypress κ' τ :=
  ⟨f p.key, p.time⟩

namespace KeyBuffer

section
variable {κ κ' τ : Type} (f : κ → κ')

def Act.map : Act κ → Act κ'
  | .push key => .push (f key)
  | .peek => .peek
  | .pop => .pop
  | .size => .size
  | .clear => .clear

def Call.map (c : Call κ τ) : Call κ' τ := ⟨c.act.map f, c.time⟩

def Answer.map : Answer κ → Answer κ'
  | .done => .done
  | .seen key => .seen (key.map f)
  | .given key => .given (key.map f)
  | .count n => .count n

/-- The buffer with its keys exchanged for others. -/
def map (b : KeyBuffer κ τ) : KeyBuffer κ' τ :=
  ⟨b.timeout, b.capacity, b.presses.map (Keypress.map f)⟩

theorem map_lastOf (capacity : Option Nat) (l : List (Keypress κ τ)) :
    (lastOf capacity l).map (Keypress.map f) = lastOf capacity (l.map (Keypress.map f)) := by
  cases capacity <;> simp [lastOf]

variable [Time τ] (b : KeyBuffer κ τ) (c : Call κ τ)

theorem map_cleaned (now : τ) : (b.map f).cleaned now = (b.cleaned now).map f := by
  simp only [map, cleaned, List.dropWhile_map]
  rfl

/-- A buffer does not look at its keys. -/
theorem perform_map :
    (b.map f).perform (c.map f) = ((b.perform c).1.map f, (b.perform c).2.map f) := by
  obtain ⟨act, time⟩ := c
  cases act with
  | push key =>
    simp only [perform, Call.map, Act.map, push, map_cleaned]
    simp [map, map_lastOf, Keypress.map, Answer.map]
  | peek =>
    simp only [perform, Call.map, Act.map, peek, map_cleaned]
    simp [map, Keypress.map, Answer.map, Function.comp_def]
  | pop =>
    simp only [perform, Call.map, Act.map, pop, map_cleaned]
    cases hpresses : (b.cleaned time).presses <;>
      simp [map, hpresses, Keypress.map, Answer.map]
  | size =>
    simp only [perform, Call.map, Act.map, size, map_cleaned]
    simp [map, Answer.map]
  | clear => rfl

theorem answers_map (calls : List (Call κ τ)) :
    answers perform (b.map f) (calls.map (Call.map f)) =
      (answers perform b calls).map (Answer.map f) := by
  induction calls generalizing b with
  | nil => rfl
  | cons c rest ih =>
    simp only [List.map_cons, answers, perform_map, ih]

theorem after_map (calls : List (Call κ τ)) :
    after perform (b.map f) (calls.map (Call.map f)) = (after perform b calls).map f := by
  induction calls generalizing b with
  | nil => rfl
  | cons c rest ih =>
    simp only [List.map_cons, after_cons, perform_map, ih]

end

/-! ## Keys that go in and keys that come out -/

section
variable {κ τ : Type}

/-- The key that a call brings. -/
def Call.pushed? (c : Call κ τ) : Option κ :=
  match c.act with
  | .push key => some key
  | _ => none

/-- The key that an answer hands over. -/
def Answer.given? : Answer κ → Option κ
  | .given key => key
  | _ => none

theorem pushed?_eq_some {c : Call κ τ} {key : κ} (h : c.pushed? = some key) :
    c.act = .push key := by
  unfold Call.pushed? at h
  split at h
  · rename_i hact
    cases h
    exact hact
  · cases h

/-- The keys that go into a buffer. -/
def pushedKeys (calls : List (Call κ τ)) : List κ := calls.filterMap Call.pushed?

/-- The keys that come out of it. -/
def givenKeys (answers : List (Answer κ)) : List κ := answers.filterMap Answer.given?

theorem pushedKeys_append (front back : List (Call κ τ)) :
    pushedKeys (front ++ back) = pushedKeys front ++ pushedKeys back := List.filterMap_append

theorem givenKeys_append (front back : List (Answer κ)) :
    givenKeys (front ++ back) = givenKeys front ++ givenKeys back := List.filterMap_append

theorem givenKeys_map {κ' : Type} (f : κ → κ') (answers : List (Answer κ)) :
    givenKeys (answers.map (Answer.map f)) = (givenKeys answers).map f := by
  unfold givenKeys
  rw [List.filterMap_map, List.map_filterMap]
  refine List.filterMap_congr fun answer _ => ?_
  cases answer <;> rfl

variable [Time τ] (b : KeyBuffer κ τ) (c : Call κ τ)

theorem cleaned_sublist (now : τ) : (b.cleaned now).presses.Sublist b.presses :=
  (List.dropWhile_suffix _).sublist

/-- What a call hands over and leaves was there before or is brought by it. -/
theorem given_append_left_sublist :
    ((b.perform c).1.given?.toList ++ (b.perform c).2.presses.map (·.key)).Sublist
      (b.presses.map (·.key) ++ c.pushed?.toList) := by
  have hclean := (b.cleaned_sublist c.time).map (·.key)
  unfold perform Call.pushed?
  cases c.act with
  | push key =>
    have hlast : (lastOf b.capacity ((b.cleaned c.time).presses ++ [⟨key, c.time⟩])).Sublist _ :=
      (lastOf_suffix _ _).sublist
    refine (hlast.map (·.key)).trans ?_
    rw [List.map_append]
    exact hclean.append_right [key]
  | peek | size =>
    refine List.Sublist.trans ?_ (List.sublist_append_left _ [])
    exact hclean
  | pop =>
    refine List.Sublist.trans ?_ (List.sublist_append_left _ [])
    simp only [pop]
    cases hpresses : (b.cleaned c.time).presses with
    | nil =>
      show ((b.cleaned c.time).presses.map (·.key)).Sublist _
      exact hclean
    | cons p rest =>
      rw [hpresses] at hclean
      exact hclean
  | clear => exact List.nil_sublist _

/-- The keys that come out are some of those that were in the buffer or went
in, in their order. -/
theorem givenKeys_sublist (calls : List (Call κ τ)) :
    (givenKeys (answers perform b calls)).Sublist (b.presses.map (·.key) ++ pushedKeys calls) := by
  induction calls generalizing b with
  | nil => exact List.nil_sublist _
  | cons c rest ih =>
    have hfirst := b.given_append_left_sublist c
    have hgiven : givenKeys (answers perform b (c :: rest)) =
        (b.perform c).1.given?.toList ++ givenKeys (answers perform (b.perform c).2 rest) :=
      givenKeys_append [_] _ |>.trans (by cases h : (b.perform c).1.given? <;> simp [givenKeys, h])
    have hpushed : pushedKeys (c :: rest) = c.pushed?.toList ++ pushedKeys rest := by
      cases h : c.pushed? <;> simp [pushedKeys, h]
    rw [hgiven, hpushed, ← List.append_assoc]
    refine ((ih (b.perform c).2).append_left _).trans ?_
    rw [← List.append_assoc]
    exact hfirst.append_right _

end

/-! ## Numbered keys -/

/-- The calls with each key numbered by the place of its push. -/
def numbered {κ τ : Type} (calls : List (Call κ τ)) : List (Call (Nat × κ) τ) :=
  calls.zipIdx.map fun (c, i) => c.map (i, ·)

section
variable {κ : Type} {calls : List (Call κ Rat)} {i : Nat}

theorem getElem?_numbered :
    (numbered calls)[i]? = calls[i]?.map (Call.map (i, ·)) := by
  simp [numbered, List.getElem?_zipIdx, Function.comp_def]

theorem numbered_eq_cons {c : Call κ Rat} (hc : calls[i]? = some c) :
    (numbered calls)[i]? = some (c.map (i, ·)) ∧
      (numbered calls).drop i = c.map (i, ·) :: (numbered calls).drop (i + 1) := by
  have hget : (numbered calls)[i]? = some (c.map (i, ·)) := by
    rw [getElem?_numbered, hc]
    rfl
  obtain ⟨hlt, hcall⟩ := List.getElem?_eq_some_iff.1 hget
  exact ⟨hget, by rw [List.drop_eq_getElem_cons hlt, hcall]⟩

theorem push_of_numbered {c : Call κ Rat} {key : Nat × κ} (h : (c.map (i, ·)).act = .push key) :
    c.act = .push key.2 ∧ key.1 = i := by
  unfold Call.map at h
  cases hact : c.act <;> simp only [hact, Act.map, reduceCtorEq, Act.push.injEq] at h
  rw [← h]
  exact ⟨rfl, rfl⟩

theorem map_snd_numbered : (numbered calls).map (Call.map Prod.snd) = calls := by
  refine List.ext_getElem? fun i => ?_
  rw [List.getElem?_map, getElem?_numbered]
  cases calls[i]? with
  | none => rfl
  | some c =>
    obtain ⟨act, time⟩ := c
    cases act <;> rfl

theorem chronological_numbered (h : Chronological calls) : Chronological (numbered calls) := by
  have htimes : (numbered calls).map (·.time) = calls.map (·.time) := by
    refine List.ext_getElem? fun i => ?_
    rw [List.getElem?_map, List.getElem?_map, getElem?_numbered]
    cases calls[i]? <;> rfl
  unfold Chronological at h ⊢
  rw [← List.pairwise_map (f := Call.time) (R := (· ≤ ·))] at h ⊢
  rwa [htimes]

end

section
variable {κ : Type} (timeout : Rat) (capacity : Option Nat) (calls : List (Call κ Rat))

/-- An empty buffer for numbered keys after the first calls. -/
def heldBefore (j : Nat) : KeyBuffer (Nat × κ) Rat :=
  after perform ⟨timeout, capacity, []⟩ ((numbered calls).take j)

/-- The key of a push is in the buffer when a call is made. -/
def Holds (i j : Nat) : Prop := ∃ p ∈ (heldBefore timeout capacity calls j).presses, p.key.1 = i

/-- What the calls answer, with the numbers of the keys. -/
def numberedAnswers : List (Answer (Nat × κ)) :=
  answers perform ⟨timeout, capacity, []⟩ (numbered calls)

/-- What has become of the key of push `i`. -/
inductive Fate (i : Nat) : Prop where
  /-- It is still in the buffer. -/
  | stored (h : Holds timeout capacity calls i calls.length)
  /-- A call has handed it over. -/
  | given {j : Nat} {key : κ}
    (h : (numberedAnswers timeout capacity calls)[j]? = some (.given (some (i, key))))
  /-- The buffer was cleared while it was there. -/
  | cleared {j : Nat} {c : Call κ Rat} (hij : i < j) (hc : calls[j]? = some c)
    (hact : c.act = .clear) (hheld : Holds timeout capacity calls i j)
  /-- It was there when a call found it too old. -/
  | stale {j : Nat} {c c' : Call κ Rat} (hij : i < j) (hc : calls[i]? = some c)
    (hc' : calls[j]? = some c') (hold : timeout ≤ c'.time - c.time)
    (hheld : Holds timeout capacity calls i j)
  /-- It was there when another key came to a buffer full of fresh ones. -/
  | displaced {j n : Nat} {c : Call κ Rat} {key : κ} (hij : i < j) (hc : calls[j]? = some c)
    (hact : c.act = .push key) (hn : capacity = some n)
    (hfull : ((heldBefore timeout capacity calls j).fresh c.time).length = n)
    (hheld : Holds timeout capacity calls i j)
  /-- There is no room for any key. -/
  | refused (h : capacity = some 0)

end

/-- All keys are accounted for: those that were handed over, and every other
one. -/
structure Accounted {κ : Type} (timeout : Rat) (capacity : Option Nat)
    (calls : List (Call κ Rat)) : Prop where
  /-- The numbers are labels only: without them, the calls are answered so. -/
  answered : (numberedAnswers timeout capacity calls).map (Answer.map Prod.snd) =
    answers perform ⟨timeout, capacity, []⟩ calls
  /-- And without them, these keys are in the buffer. -/
  held : ∀ j, (heldBefore timeout capacity calls j).map Prod.snd =
    after perform ⟨timeout, capacity, []⟩ (calls.take j)
  /-- The keys handed over are some of those that were pushed, in their order. -/
  inOrder : (givenKeys (numberedAnswers timeout capacity calls)).Sublist
    (pushedKeys (numbered calls))
  /-- None of them is handed over twice. -/
  once : ((givenKeys (numberedAnswers timeout capacity calls)).map (·.1)).Pairwise (· < ·)
  /-- They were pushed before, and were not too old when they were handed over. -/
  young : ∀ {i j : Nat} {key : κ},
    (numberedAnswers timeout capacity calls)[j]? = some (.given (some (i, key))) →
      ∃ c c', i < j ∧ calls[i]? = some c ∧ c.act = .push key ∧ calls[j]? = some c' ∧
        c'.time - c.time < timeout
  fates : ∀ {i : Nat} {c : Call κ Rat} {key : κ}, calls[i]? = some c → c.act = .push key →
    Fate timeout capacity calls i

/-! ## Why a key leaves -/

section
variable {κ : Type} {b : KeyBuffer κ Rat} {c : Call κ Rat} {calls : List (Call κ Rat)}

/-- A keypress that a call does not leave was too old, cleared, handed over or
displaced by another one. -/
theorem Precedes.leaves (h : b.Precedes (c :: calls)) {p : Keypress κ Rat} (hp : p ∈ b.presses)
    (hgone : p ∉ (b.perform c).2.presses) :
    ¬ b.Fresh c.time p ∨ c.act = .clear ∨ (b.perform c).1 = .given (some p.key) ∨
      ∃ key n, c.act = .push key ∧ b.capacity = some n ∧ (b.fresh c.time).length = n := by
  by_cases hyoung : b.Fresh c.time p
  case neg => exact .inl hyoung
  have hfresh : p ∈ b.fresh c.time := mem_fresh.2 ⟨hp, hyoung⟩
  rw [h.perform_eq] at hgone ⊢
  cases hact : c.act with
  | push key =>
    refine .inr (.inr (.inr ⟨key, ?_⟩))
    simp only [Call.left, hact] at hgone
    cases hcap : b.capacity with
    | none =>
      rw [hcap] at hgone
      exact absurd (List.mem_append_left _ hfresh) hgone
    | some n =>
      refine ⟨n, rfl, rfl, le_antisymm ?_ ?_⟩
      · exact (fresh_suffix h.sorted c.time).length_le.trans (h.fits n hcap)
      · by_contra hroom
        rw [hcap, lastOf, List.length_append, List.length_singleton,
          show (b.fresh c.time).length + 1 - n = 0 by omega, List.drop_zero] at hgone
        exact hgone (List.mem_append_left _ hfresh)
  | peek | size =>
    simp only [Call.left, hact] at hgone
    exact absurd hfresh hgone
  | pop =>
    refine .inr (.inr (.inl ?_))
    simp only [Call.left, hact] at hgone
    simp only [Call.answer, hact]
    cases hl : b.fresh c.time with
    | nil => simp [hl] at hfresh
    | cons q rest =>
      rw [hl] at hfresh hgone
      rcases List.mem_cons.1 hfresh with rfl | hrest
      · rfl
      · exact absurd hrest hgone
  | clear => exact .inr (.inl rfl)

theorem Precedes.push_mem (h : b.Precedes (c :: calls)) {key : κ} (hact : c.act = .push key)
    (hcap : b.capacity ≠ some 0) : ⟨key, c.time⟩ ∈ (b.perform c).2.presses := by
  rw [h.perform_eq]
  simp only [Call.left, hact]
  cases hn : b.capacity with
  | none => exact List.mem_append_right _ List.mem_cons_self
  | some n =>
    have hpos : n ≠ 0 := fun hzero => hcap (hzero ▸ hn)
    rw [lastOf, List.drop_append_of_le_length (by simp; omega)]
    exact List.mem_append_right _ List.mem_cons_self

theorem Precedes.given_mem (h : b.Precedes (c :: calls)) {key : κ}
    (hgiven : (b.perform c).1 = .given (some key)) : ∃ p ∈ b.fresh c.time, p.key = key := by
  rw [h.perform_eq] at hgiven
  unfold Call.answer at hgiven
  cases hact : c.act <;> simp only [hact, reduceCtorEq] at hgiven
  case pop =>
    simp only [Answer.given.injEq, Option.map_eq_some_iff] at hgiven
    obtain ⟨p, hp, rfl⟩ := hgiven
    exact ⟨p, List.mem_of_head? hp, rfl⟩

end

/-! ## The way of a key -/

section
variable {κ : Type} {timeout : Rat} {capacity : Option Nat} {calls : List (Call κ Rat)} {i j : Nat}

theorem heldBefore_succ {c : Call κ Rat} (hc : calls[j]? = some c) :
    heldBefore timeout capacity calls (j + 1) =
      ((heldBefore timeout capacity calls j).perform (c.map (j, ·))).2 := by
  unfold heldBefore
  rw [List.take_add_one, (numbered_eq_cons hc).1, after_append]
  rfl

theorem getElem?_numberedAnswers {c : Call κ Rat} (hc : calls[j]? = some c) :
    (numberedAnswers timeout capacity calls)[j]? =
      some ((heldBefore timeout capacity calls j).perform (c.map (j, ·))).1 := by
  obtain ⟨hget, hdrop⟩ := numbered_eq_cons hc
  obtain ⟨hlt, -⟩ := List.getElem?_eq_some_iff.1 hget
  have hsplit := answers_append perform ⟨timeout, capacity, []⟩
    ((numbered calls).take j) ((numbered calls).drop j)
  rw [List.take_append_drop, hdrop] at hsplit
  have hlength : (answers perform (⟨timeout, capacity, []⟩ : KeyBuffer (Nat × κ) Rat)
      ((numbered calls).take j)).length = j := by
    rw [length_answers, List.length_take]
    omega
  unfold numberedAnswers
  rw [hsplit, List.getElem?_append_right (by omega), hlength, Nat.sub_self]
  rfl

variable (h : Chronological calls)
include h

variable (timeout capacity) in
/-- Whatever calls are still to be made, the buffer may be called so. -/
theorem precedes_heldBefore {c : Call κ Rat} (hc : calls[j]? = some c) :
    ∃ rest, (heldBefore timeout capacity calls j).Precedes (c.map (j, ·) :: rest) := by
  have hstart : Precedes (⟨timeout, capacity, []⟩ : KeyBuffer (Nat × κ) Rat)
      ((numbered calls).take j ++ (numbered calls).drop j) := by
    rw [List.take_append_drop]
    exact .of_empty (chronological_numbered h)
  have hpause := hstart.after
  rw [(numbered_eq_cons hc).2] at hpause
  exact ⟨_, hpause⟩

/-- Every key in the buffer came with the push of its number. -/
theorem push_of_mem_heldBefore (hj : j ≤ calls.length) {p : Keypress (Nat × κ) Rat}
    (hp : p ∈ (heldBefore timeout capacity calls j).presses) :
    p.key.1 < j ∧ calls[p.key.1]? = some ⟨.push p.key.2, p.time⟩ := by
  induction j with
  | zero => simp [heldBefore] at hp
  | succ j ih =>
    have hc : calls[j]? = some calls[j] := List.getElem?_eq_getElem hj
    obtain ⟨rest, hprecedes⟩ := precedes_heldBefore timeout capacity h hc
    obtain ⟨kept, hkept, -, hleft⟩ := hprecedes.left_eq
    have hold (hpk : p ∈ kept) :
        p.key.1 < j + 1 ∧ calls[p.key.1]? = some ⟨.push p.key.2, p.time⟩ := by
      obtain ⟨hlt, hpush⟩ := ih (Nat.le_of_succ_le hj) (hkept.mem hpk)
      exact ⟨Nat.lt_succ_of_lt hlt, hpush⟩
    rw [heldBefore_succ hc] at hp
    rcases hleft with hleft | ⟨key, hact, hleft⟩
    · exact hold (hleft ▸ hp)
    · rw [hleft, List.mem_append, List.mem_singleton] at hp
      rcases hp with hp | rfl
      · exact hold hp
      · obtain ⟨hpush, hnumber⟩ := push_of_numbered hact
        refine ⟨Nat.lt_succ_of_le hnumber.le, ?_⟩
        show calls[key.1]? = some ⟨.push key.2, calls[j].time⟩
        rw [hnumber, hc, ← hpush]

/-- A key that is in the buffer is still there after the next call, or has met
its fate. -/
theorem holds_succ {c : Call κ Rat} (hc : calls[j]? = some c)
    (hheld : Holds timeout capacity calls i j) :
    Holds timeout capacity calls i (j + 1) ∨ Fate timeout capacity calls i := by
  obtain ⟨p, hp, rfl⟩ := hheld
  have hlt : j < calls.length := (List.getElem?_eq_some_iff.1 hc).1
  obtain ⟨hij, hpush⟩ := push_of_mem_heldBefore h hlt.le hp
  obtain ⟨rest, hprecedes⟩ := precedes_heldBefore timeout capacity h hc
  by_cases hgone : p ∈ (heldBefore timeout capacity calls (j + 1)).presses
  case pos => exact .inl ⟨p, hgone, rfl⟩
  rw [heldBefore_succ hc] at hgone
  have htimeout : (heldBefore timeout capacity calls j).timeout = timeout := timeout_after _ _
  have hcapacity : (heldBefore timeout capacity calls j).capacity = capacity := capacity_after _ _
  refine .inr ?_
  rcases hprecedes.leaves hp hgone with hstale | hclear | hgiven | ⟨key, n, hact, hn, hfull⟩
  · have hold : timeout ≤ c.time - p.time := by
      have hnot : ¬ c.time - p.time < (heldBefore timeout capacity calls j).timeout := hstale
      rw [htimeout] at hnot
      exact not_lt.1 hnot
    exact .stale hij hpush hc hold ⟨p, hp, rfl⟩
  · refine .cleared hij hc ?_ ⟨p, hp, rfl⟩
    cases hact : c.act <;> simp [Call.map, Act.map, hact] at hclear
    rfl
  · exact .given ((getElem?_numberedAnswers hc).trans (congrArg some hgiven))
  · exact .displaced hij hc (push_of_numbered hact).1 (hcapacity ▸ hn) hfull ⟨p, hp, rfl⟩

theorem fate_of_push {c : Call κ Rat} {key : κ} (hc : calls[i]? = some c)
    (hact : c.act = .push key) : Fate timeout capacity calls i := by
  by_cases hcap : capacity = some 0
  · exact .refused hcap
  have hlt : i < calls.length := (List.getElem?_eq_some_iff.1 hc).1
  -- from its push on, the key is in the buffer until its fate comes
  have hway : ∀ j, i + 1 ≤ j → j ≤ calls.length →
      Holds timeout capacity calls i j ∨ Fate timeout capacity calls i := by
    intro j hij
    induction j, hij using Nat.le_induction with
    | base =>
      intro _
      obtain ⟨rest, hprecedes⟩ := precedes_heldBefore timeout capacity h hc
      have hcapacity : (heldBefore timeout capacity calls i).capacity ≠ some 0 :=
        fun hzero => hcap ((capacity_after _ _).symm.trans hzero)
      have hpush : (c.map (i, ·)).act = .push (i, key) := by simp [Call.map, hact, Act.map]
      have hmem := hprecedes.push_mem hpush hcapacity
      rw [← heldBefore_succ hc] at hmem
      exact .inl ⟨_, hmem, rfl⟩
    | succ j _ ih =>
      intro hj
      rcases ih (Nat.le_of_succ_le hj) with hheld | hfate
      · exact holds_succ h (List.getElem?_eq_getElem hj) hheld
      · exact .inr hfate
  exact (hway calls.length hlt le_rfl).elim .stored id

theorem push_of_given {key : κ}
    (hgiven : (numberedAnswers timeout capacity calls)[j]? = some (.given (some (i, key)))) :
    ∃ c c', i < j ∧ calls[i]? = some c ∧ c.act = .push key ∧ calls[j]? = some c' ∧
      c'.time - c.time < timeout := by
  obtain ⟨hlt, -⟩ := List.getElem?_eq_some_iff.1 hgiven
  have hj : j < calls.length := by
    simpa [numberedAnswers, length_answers, numbered] using hlt
  have hc : calls[j]? = some calls[j] := List.getElem?_eq_getElem hj
  obtain ⟨rest, hprecedes⟩ := precedes_heldBefore timeout capacity h hc
  rw [getElem?_numberedAnswers hc] at hgiven
  obtain ⟨p, hp, hkey⟩ := hprecedes.given_mem (Option.some.inj hgiven)
  obtain ⟨hmem, hyoung⟩ := mem_fresh.1 hp
  obtain ⟨hij, hpush⟩ := push_of_mem_heldBefore h hj.le hmem
  have htimeout : (heldBefore timeout capacity calls j).timeout = timeout := timeout_after _ _
  have hage : calls[j].time - p.time < (heldBefore timeout capacity calls j).timeout := hyoung
  rw [htimeout] at hage
  rw [hkey] at hij hpush
  exact ⟨_, _, hij, hpush, rfl, hc, hage⟩

omit h in
theorem pushedKeys_numbered_pairwise :
    (pushedKeys (numbered calls)).Pairwise fun a b => a.1 < b.1 := by
  have hplaces : calls.zipIdx.Pairwise fun a b => a.2 < b.2 := by
    rw [← List.pairwise_map, List.zipIdx_map_snd]
    exact List.pairwise_lt_range'
  unfold pushedKeys numbered
  rw [List.pairwise_filterMap, List.pairwise_map]
  refine hplaces.imp fun {a b} hlt key hkey key' hkey' => ?_
  rw [(push_of_numbered (pushed?_eq_some hkey)).2, (push_of_numbered (pushed?_eq_some hkey')).2]
  exact hlt

/-- Calls under a clock that never goes back account for all keys. -/
theorem accounted : Accounted timeout capacity calls := by
  have hgiven := givenKeys_sublist (⟨timeout, capacity, []⟩ : KeyBuffer (Nat × κ) Rat)
    (numbered calls)
  refine ⟨?_, fun j => ?_, hgiven, ?_, push_of_given h, fate_of_push h⟩
  · have hmap := answers_map Prod.snd (⟨timeout, capacity, []⟩ : KeyBuffer (Nat × κ) Rat)
      (numbered calls)
    rw [map_snd_numbered] at hmap
    exact hmap.symm
  · have hmap := after_map Prod.snd (⟨timeout, capacity, []⟩ : KeyBuffer (Nat × κ) Rat)
      ((numbered calls).take j)
    rw [List.map_take, map_snd_numbered] at hmap
    exact hmap.symm
  · exact List.pairwise_map.2 (pushedKeys_numbered_pairwise.sublist hgiven)

end

end KeyBuffer

end Chip8
