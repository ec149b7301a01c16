-- The pace of a run. At the head of each turn the time at which it is due is what
-- the clock shows. So turns are never less than a period apart, and a turn that
-- took too long moves all later ones.
import Mathlib.Algebra.Order.Field.Rat
import Mathlib.Tactic.Linarith
import Chip8.Proofs.History
import Chip8.Proofs.Run
import Chip8.Screen.Grid
namespace Chip8

namespace Host

/-! ## The work of a turn -/

section
variable {ε τ : Type} [Time τ]

/-- All that a turn does before it waits for the next one, if it goes on. -/
def work (h : Host ε τ) (r : Rates τ) (p : Pace τ) (e : ε) : Option ε :=
  match h.shouldStop e with
  | (true, _) => none
  | (false, asked) =>
    match h.step asked with
    | (.error _, _) => none
    | (.ok (), done) => some (h.status (p.steps + 1) (h.showFrame r p.shown done).2)

variable {h : Host ε τ} {r : Rates τ} {p p' p'' : Pace τ} {e e' e'' w : ε}

theorem work_of_ok {asked done : ε} (hstop : h.shouldStop e = (false, asked))
    (hstep : h.step asked = (.ok (), done)) :
    h.work r p e = some (h.status (p.steps + 1) (h.showFrame r p.shown done).2) := by
  unfold work
  simp only [hstop, hstep]

theorem exists_work (hturn : h.turn r p e = .next p' e') : ∃ w, h.work r p e = some w := by
  obtain ⟨asked, done, hstop, hstep, -⟩ := next_of_turn hturn
  exact ⟨_, work_of_ok hstop hstep⟩

/-- Behind its work, a turn only rests. -/
theorem turn_of_work (hwork : h.work r p e = some w) :
    ∃ shown, h.turn r p e =
      .next ⟨p.steps + 1, (h.rest (p.due + r.period) w).1, shown⟩
        (h.rest (p.due + r.period) w).2 := by
  unfold work at hwork
  rcases hstop : h.shouldStop e with ⟨_ | _, asked⟩
  · rcases hstep : h.step asked with ⟨_ | _, done⟩
    · simp [hstop, hstep] at hwork
    · simp only [hstop, hstep, Option.some.injEq] at hwork
      rw [turn_of_ok hstop hstep, afterStep_eq, ← hwork]
      exact ⟨_, rfl⟩
  · simp [hstop] at hwork

theorem Works.work {R : ε → ε → Prop} [IsPreorder ε R] (hR : h.Works R)
    (hwork : h.work r p e = some w) : R e w := by
  obtain ⟨shown, hturn⟩ := turn_of_work hwork
  obtain ⟨asked, done, hstop, hstep, -⟩ := next_of_turn hturn
  cases (work_of_ok hstop hstep).symm.trans hwork
  exact trans_of R (hR.stepped hstop hstep) (trans_of R (hR.showFrame _ _) (hR.status _ _))

/-! ## The turns of a run -/

theorem Goes.concat {n : Nat} (hgoes : h.Goes r p e n p' e')
    (hlast : h.turn r p' e' = .next p'' e'') : h.Goes r p e (n + 1) p'' e'' := by
  induction hgoes with
  | none p e => exact .next hlast (.none _ _)
  | next first _ ih => exact .next first (ih hlast)

/-- A run takes one way only: what goes on for longer comes by. -/
theorem Goes.behind {m n : Nat} (hgoes : h.Goes r p e m p' e')
    (hlonger : h.Goes r p e (m + n) p'' e'') : h.Goes r p' e' n p'' e'' := by
  induction hgoes with
  | none p e =>
    rw [Nat.zero_add] at hlonger
    exact hlonger
  | next first _ ih =>
    rw [Nat.add_right_comm] at hlonger
    cases hlonger with
    | next first' rest' =>
      cases first.symm.trans first'
      exact ih rest'

/-- Turn `i` of a run begins, with so many turns behind it. -/
def Begins (h : Host ε τ) (r : Rates τ) (start : ε) (i : Nat) (p : Pace τ) (e : ε) : Prop :=
  h.Goes r ⟨0, (h.now start).1, (h.now start).1⟩ (h.now start).2 i p e

end

/-! ## Hosts with a clock -/

/-- A host with a clock that everything but reading it can move on. To sleep moves
it by just the time that is asked for. -/
structure Timed {ε : Type} (h : Host ε Rat) (clock : ε → Rat) : Prop where
  reads : ∀ e, (h.now e).1 = clock e
  now : ∀ e, clock (h.now e).2 = clock e
  shouldStop : ∀ e, clock e ≤ clock (h.shouldStop e).2
  step : ∀ e, clock e ≤ clock (h.step e).2
  refresh : ∀ e, clock e ≤ clock (h.refresh e)
  onFrame : ∀ e, clock e ≤ clock (h.onFrame e)
  status : ∀ steps e, clock e ≤ clock (h.status steps e)
  tell : ∀ n e, clock e ≤ clock (h.tell n e)
  sleep : ∀ {span : Rat} (e : ε), 0 < span → clock (h.sleep span e) = clock e + span

section
variable {ε : Type} {h : Host ε Rat} {clock : ε → Rat} {r : Rates Rat} {p p' : Pace Rat}
variable {e e' w : ε}

instance : IsPreorder ε fun e e' => clock e ≤ clock e' where
  refl _ := le_refl _
  trans _ _ _ := le_trans

theorem Timed.works (ht : h.Timed clock) : h.Works fun e e' => clock e ≤ clock e' where
  now e := (ht.now e).ge
  shouldStop := ht.shouldStop
  step := ht.step
  refresh := ht.refresh
  onFrame := ht.onFrame
  status := ht.status
  tell := ht.tell

/-- A rest ends when the next turn is due, or at once if that is over. -/
theorem Timed.rest (ht : h.Timed clock) (due : Rat) (w : ε) :
    (h.rest due w).1 = max due (clock w) ∧ clock (h.rest due w).2 = max due (clock w) := by
  unfold Host.rest
  simp only [ht.reads]
  by_cases hearly : 0 < due - clock w
  · have hdue : max due (clock w) = due := max_eq_left (by linarith)
    rw [if_pos hearly, ht.sleep _ hearly, ht.now, hdue]
    exact ⟨rfl, by linarith⟩
  · have hdue : max due (clock w) = clock w := max_eq_right (by linarith)
    simp only [if_neg hearly, ht.reads, ht.now, hdue, and_self]

/-- If a turn is due at its head, the next one is so too. -/
theorem Timed.turn (ht : h.Timed clock) (hdue : p.due = clock e) (hwork : h.work r p e = some w) :
    ∃ p' e', h.turn r p e = .next p' e' ∧ p'.due = clock e' ∧
      clock e' = max (clock e + r.period) (clock w) := by
  obtain ⟨shown, hturn⟩ := turn_of_work hwork
  obtain ⟨hnext, hclock⟩ := ht.rest (p.due + r.period) w
  refine ⟨_, _, hturn, hnext.trans hclock.symm, ?_⟩
  rw [hclock, hdue]

/-- As many periods pass as there are turns, or more. -/
theorem Timed.goes (ht : h.Timed clock) {n : Nat} (hgoes : h.Goes r p e n p' e')
    (hdue : p.due = clock e) : p'.due = clock e' ∧ clock e + n * r.period ≤ clock e' := by
  induction hgoes with
  | none p e => exact ⟨hdue, by simp⟩
  | @next p p' _ e e' _ n first _ ih =>
    obtain ⟨w, hwork⟩ := exists_work first
    obtain ⟨p1, e1, hturn, hhead, hclock⟩ := ht.turn hdue hwork
    cases hturn.symm.trans first
    obtain ⟨hlast, hlate⟩ := ih hhead
    have hlater := le_max_left (clock e + r.period) (clock w)
    refine ⟨hlast, ?_⟩
    push_cast
    linarith

theorem Timed.due_of_begins (ht : h.Timed clock) {i : Nat} (hbegins : h.Begins r e i p e') :
    p.due = clock e' :=
  (ht.goes hbegins ((ht.reads e).trans (ht.now e).symm)).1

/-! ## Sleep -/

/-- All sleep in a history is for some time, and not for longer than this. -/
def SleepsUpTo (most : Rat) (log : List (RunEvent ε Rat)) : Prop :=
  ∀ span, .slept span ∈ log → 0 < span ∧ span ≤ most

/-- No sleep is added to the record of a host. -/
def Awake (x y : ε × List (RunEvent ε Rat)) : Prop :=
  ∀ span, .slept span ∈ y.2 → .slept span ∈ x.2

instance : IsPreorder (ε × List (RunEvent ε Rat)) Awake where
  refl _ _ := id
  trans _ _ _ h h' span hmem := h span (h' span hmem)

theorem SleepsUpTo.awake {most : Rat} {x y : ε × List (RunEvent ε Rat)} (hx : SleepsUpTo most x.2)
    (h : Awake x y) : SleepsUpTo most y.2 :=
  fun span hmem => hx span (h span hmem)

theorem works_recorded (h : Host ε Rat) : h.recorded.Works Awake := by
  constructor
  case toChores => constructor <;> simp [recorded, Awake]
  all_goals simp [recorded, Awake]

theorem Timed.recorded (ht : h.Timed clock) : h.recorded.Timed (clock ∘ Prod.fst) where
  reads _ := ht.reads _
  now _ := ht.now _
  shouldStop _ := ht.shouldStop _
  step _ := ht.step _
  refresh _ := ht.refresh _
  onFrame _ := ht.onFrame _
  status _ _ := ht.status _ _
  tell _ _ := ht.tell _ _
  sleep _ := ht.sleep _

variable {x x' : ε × List (RunEvent ε Rat)}

theorem Timed.sleepsUpTo_rest (ht : h.Timed clock) {due most : Rat}
    (hsoon : due - clock x.1 ≤ most) (hx : SleepsUpTo most x.2) :
    SleepsUpTo most (h.recorded.rest due x).2.2 := by
  unfold Host.rest
  by_cases hearly : 0 < due - clock x.1
  · intro span hmem
    simp [Host.recorded, ht.reads, hearly] at hmem
    rcases hmem with hmem | rfl
    · exact hx span hmem
    · exact ⟨hearly, hsoon⟩
  · intro span hmem
    simp [Host.recorded, ht.reads, hearly] at hmem
    exact hx span hmem

theorem Timed.sleepsUpTo_turn (ht : h.Timed clock) (hdue : p.due = clock x.1)
    (hturn : h.recorded.turn r p x = .next p' x') (hx : SleepsUpTo r.period x.2) :
    SleepsUpTo r.period x'.2 := by
  obtain ⟨w, hwork⟩ := exists_work hturn
  obtain ⟨shown, hrest⟩ := turn_of_work hwork
  cases hrest.symm.trans hturn
  have hlater : clock x.1 ≤ clock w.1 := ht.recorded.works.work hwork
  refine ht.sleepsUpTo_rest ?_ (hx.awake (h.works_recorded.work hwork))
  linarith

theorem Timed.sleepsUpTo_goes (ht : h.Timed clock) {n : Nat}
    (hgoes : h.recorded.Goes r p x n p' x') (hdue : p.due = clock x.1)
    (hx : SleepsUpTo r.period x.2) : SleepsUpTo r.period x'.2 := by
  induction hgoes with
  | none p x => exact hx
  | next first _ ih =>
    obtain ⟨w, hwork⟩ := exists_work first
    obtain ⟨p1, x1, hturn, hhead, -⟩ := ht.recorded.turn hdue hwork
    cases hturn.symm.trans first
    exact ih hhead (ht.sleepsUpTo_turn hdue first hx)

theorem Timed.sleepsUpTo_history (ht : h.Timed clock) (limit : Nat) (e : ε) :
    SleepsUpTo r.period (h.history r limit e) := by
  obtain ⟨n, p, x, hgoes, hend⟩ :=
    h.recorded.exists_goes r limit ⟨0, (h.now e).1, (h.now e).1⟩ ((h.now e).2, [.read (h.now e).1])
  have hx : SleepsUpTo r.period x.2 :=
    ht.sleepsUpTo_goes hgoes ((ht.reads e).trans (ht.now e).symm) (by simp [SleepsUpTo])
  unfold history
  rcases hend with ⟨-, hgoing⟩ | ⟨-, hlast⟩
  · rw [show h.recorded.run r limit (e, []) = _ from hgoing]
    exact hx
  · exact hx.awake (h.works_recorded.ends (ends_of_turn hlast))

end

end Host

/-! ## The pace -/

/-- A run at a rate keeps its pace, however long its turns take. A turn begins a
period behind the one before, or when the work of that one ends, if this is
later. So as many periods lie between two turns as there are turns from one to
the other, or more. Behind a turn that took too long this holds from where its
work ended, and nothing is caught up with. All sleep is for some time, and never
for more than a period. -/
theorem run_keeps_its_pace {ε : Type} (h : Host ε Rat) (clock : ε → Rat) (ht : h.Timed clock)
    (rate : Rat) (hrate : 0 < rate) (frame : Rat) (e : ε) :
    let P := 1 / rate
    let r : Rates Rat := ⟨P, frame⟩
    Host.period rate = .ok P ∧
    (∃ p x, h.Begins r e 0 p x ∧ clock x = clock e) ∧
    (∀ i p x w, h.Begins r e i p x → h.work r p x = some w →
      ∃ p' x', h.Begins r e (i + 1) p' x' ∧ clock x' = max (clock x + P) (clock w)) ∧
    (∀ i n p x p' x', h.Begins r e i p x → h.Begins r e (i + n) p' x' →
      clock x + n * P ≤ clock x') ∧
    (∀ i n p x w p' x', h.Begins r e i p x → h.work r p x = some w →
      h.Begins r e (i + 1 + n) p' x' → clock w + n * P ≤ clock x') ∧
    ∀ limit span, .slept span ∈ h.history r limit e → 0 < span ∧ span ≤ P := by
  intro P r
  have hspaced {i n : Nat} {p p' : Pace Rat} {x x' : ε} (hx : h.Begins r e i p x)
      (hx' : h.Begins r e (i + n) p' x') : clock x + n * P ≤ clock x' :=
    (ht.goes (hx.behind hx') (ht.due_of_begins hx)).2
  have hlaw {i : Nat} {p : Pace Rat} {x w : ε} (hx : h.Begins r e i p x)
      (hwork : h.work r p x = some w) :
      ∃ p' x', h.Begins r e (i + 1) p' x' ∧ clock x' = max (clock x + P) (clock w) := by
    obtain ⟨p', x', hturn, -, hclock⟩ := ht.turn (ht.due_of_begins hx) hwork
    exact ⟨p', x', hx.concat hturn, hclock⟩
  refine ⟨if_neg fun hzero => absurd hrate (not_lt.mpr hzero.1), ⟨_, _, .none _ _, ht.now e⟩,
    fun _ _ _ _ => hlaw, fun _ _ _ _ _ _ => hspaced, ?_,
    fun limit => ht.sleepsUpTo_history limit e⟩
  intro i n p x w p' x' hx hwork hx'
  obtain ⟨p1, x1, hnext, hclock⟩ := hlaw hx hwork
  have hbehind := hspaced hnext hx'
  have hlater := le_max_right (clock x + P) (clock w)
  linarith

/-- A clock that moves only while a step is carried out or the run sleeps. The step
at its start takes a second, and each later one a thousandth of it. -/
def halting : Host (Console HeldKeypad Grid Splitting × Rat) Rat where
  now := fun (c, t) => (t, c, t)
  shouldStop := fun (c, t) => (false, c, t)
  step := fun (c, t) => (c.step.1, c.step.2, t + if t = 0 then 1 else 1 / 1000)
  refresh := fun (c, t) => (c.refresh, t)
  onFrame := id
  status _ := id
  sleep span := fun (c, t) => (c, t + span)
  pc := fun (c, _) => c.machine.pc
  tell n := fun (c, t) => (c.tell [n], t)

theorem timed_halting : halting.Timed Prod.snd where
  reads _ := rfl
  now _ := rfl
  shouldStop _ := le_refl _
  step := by
    rintro ⟨c, t⟩
    show t ≤ t + if t = 0 then 1 else 1 / 1000
    split <;> linarith
  refresh _ := le_refl _
  onFrame _ := le_refl _
  status _ _ := le_refl _
  tell _ _ := le_refl _
  sleep _ _ := rfl

/-- To show a grid does nothing to it. -/
theorem showFrame_halting (r : Rates Rat) (shown : Rat)
    (x : Console HeldKeypad Grid Splitting × Rat) : (halting.showFrame r shown x).2 = x := by
  unfold Host.showFrame
  by_cases hdue : r.frame ≤ x.2 - shown
  · exact congrArg Prod.snd (if_pos hdue)
  · exact congrArg Prod.snd (if_neg hdue)

theorem work_halting {r : Rates Rat} {p : Pace Rat} {c d : Console HeldKeypad Grid Splitting}
    {t : Rat} (hstep : c.step = (.ok (), d)) :
    halting.work r p (c, t) = some (d, t + if t = 0 then 1 else 1 / 1000) := by
  have hdone : halting.step (c, t) = (.ok (), d, t + if t = 0 then 1 else 1 / 1000) := by
    show (c.step.1, c.step.2, _) = _
    rw [hstep]
  rw [Host.work_of_ok rfl hdone, showFrame_halting]
  rfl

/-- At ten steps a second the program `F10A 1202` waits a second for its key. The
turn behind that begins at once, and the one after it a tenth of a second later. -/
theorem wait_is_not_caught_up_with :
    ∃ (c : Console HeldKeypad Grid Splitting) (r : Rates Rat) (p1 p2 : Pace Rat) (x1 x2 : _ × Rat),
      Host.period 10 = .ok r.period ∧ c.machine.upcoming = .ok (.waitKey 1) ∧
      halting.Begins r (c, 0) 1 p1 x1 ∧ x1.2 = 1 ∧
      halting.Begins r (c, 0) 2 p2 x2 ∧ x2.2 = 1 + 1 / 10 ∧
      ∀ limit span, .slept span ∈ halting.history r limit (c, 0) → 0 < span ∧ span ≤ 1 / 10 := by
  let c : Console HeldKeypad Grid Splitting :=
    (Console.new ⟨⟨5⟩, .standard, ⟨⟨0, 0⟩⟩⟩).loadBytes [0xF1, 0x0A, 0x12, 0x02]
  let c1 := (c.execute (.waitKey 1)).2
  have hwait : c.machine.upcoming = .ok (.waitKey 1) :=
    Machine.upcoming_load (k := 0) rfl rfl (by decide) (by decide) (by decide)
  have hjump : c1.machine.upcoming = .ok (.goto 0x202) :=
    Machine.upcoming_load (k := 2) rfl rfl (by decide) (by decide) (by decide)
  have hfirst : c.step = (.ok (), c1) := by
    rw [Console.step_eq_execute hwait]
    rfl
  have hsecond : c1.step = (.ok (), (c1.execute (.goto 0x202)).2) := by
    rw [Console.step_eq_execute hjump]
    rfl
  obtain ⟨hperiod, -, hlaw, -, -, hsleep⟩ :=
    run_keeps_its_pace halting Prod.snd timed_halting 10 (by norm_num) (1 / 60) (c, 0)
  let r : Rates Rat := ⟨1 / 10, 1 / 60⟩
  have hrest : halting.rest (0 + r.period) (c1, 0 + if (0 : Rat) = 0 then 1 else 1 / 1000) =
      (1, c1, 1) := by
    have hlate : ¬ (0 : Rat) < 0 + 1 / 10 - 1 := by norm_num
    rw [if_pos rfl, zero_add (1 : Rat)]
    unfold Host.rest
    exact if_neg hlate
  obtain ⟨shown, hturn⟩ :=
    Host.turn_of_work (work_halting (r := r) (p := ⟨0, 0, 0⟩) (t := 0) hfirst)
  rw [hrest] at hturn
  have hone : halting.Begins r (c, 0) 1 ⟨1, 1, shown⟩ (c1, 1) := .next hturn (.none _ _)
  obtain ⟨p2, x2, htwo, hclock⟩ := hlaw 1 _ _ _ hone (work_halting hsecond)
  refine ⟨c, r, _, p2, _, x2, hperiod, hwait, hone, rfl, htwo, ?_, hsleep⟩
  rw [hclock]
  norm_num

end Chip8
