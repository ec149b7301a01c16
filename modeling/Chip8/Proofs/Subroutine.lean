-- Subroutines: whatever runs between a call and the return that answers it,
-- the machine goes on behind the call with the call stack of before.
import Chip8.Proofs.CallStack
import Chip8.Proofs.Run
namespace Chip8

/-! ## Inside a subroutine -/

/-- A call stack `t` inside a subroutine that was called with the call stack
`base` and will go on at `home`. The cells of the callers are untouched, and
cells that were zero above them are zero above the depth. -/
structure CallStack.Inside (base : CallStack) (home : UInt16) (t : CallStack) : Prop where
  deeper : base.depth < t.depth
  fits : t.depth ≤ stackSize
  callers : ∀ k : Fin stackSize, (k : Int) < base.depth → t.cell k = base.cell k
  home : ∀ k : Fin stackSize, (k : Int) = base.depth → t.cell k = home
  above : (∀ k : Fin stackSize, base.depth ≤ k → base.cell k = 0) →
    ∀ k : Fin stackSize, t.depth ≤ k → t.cell k = 0

namespace CallStack

variable {base s t : CallStack} {home address : UInt16}

/-- The call itself leads into the subroutine. -/
theorem inside_of_pushed (h : base.Pushed home t) : Inside base home t := by
  obtain ⟨hroom, hdepth, htop, hrest⟩ := h
  refine ⟨by omega, by omega, fun k hk => hrest k (by omega), htop, fun hzero k hk => ?_⟩
  rw [hrest k (by omega)]
  exact hzero k (by omega)

/-- A nested call stays inside. -/
theorem Inside.pushed (hs : Inside base home s) (h : s.Pushed address t) :
    Inside base home t := by
  obtain ⟨hdeeper, -, hcallers, hhome, habove⟩ := hs
  obtain ⟨hroom, hdepth, -, hrest⟩ := h
  refine ⟨by omega, by omega, fun k hk => ?_, fun k hk => ?_, fun hzero k hk => ?_⟩
  · rw [hrest k (by omega), hcallers k hk]
  · rw [hrest k (by omega), hhome k hk]
  · rw [hrest k (by omega), habove hzero k (by omega)]

/-- A return that answers a nested call stays inside. -/
theorem Inside.popped (hs : Inside base home s) (h : s.Popped address t)
    (hdeep : base.depth < t.depth) : Inside base home t := by
  obtain ⟨-, hfits, hcallers, hhome, habove⟩ := hs
  obtain ⟨hused, hdepth, -, hcleared, hrest⟩ := h
  refine ⟨hdeep, by omega, fun k hk => ?_, fun k hk => ?_, fun hzero k hk => ?_⟩
  · rw [hrest k (by omega), hcallers k hk]
  · rw [hrest k (by omega), hhome k hk]
  · rcases Int.lt_or_eq_of_le hk with hlt | heq
    · rw [hrest k (by omega), habove hzero k (by omega)]
    · exact hcleared k heq.symm

/-- The cells of the callers outlast any return. -/
theorem Inside.callers_popped (hs : Inside base home s) (h : s.Popped address t)
    (k : Fin stackSize) (hk : (k : Int) < base.depth) : t.cell k = base.cell k := by
  have hdeeper := hs.deeper
  rw [h.rest k (by rw [h.depth_eq]; omega), hs.callers k hk]

/-- The return that leads out of the subroutine goes home. -/
theorem Inside.home_popped (hs : Inside base home s) (h : s.Popped address t)
    (hdepth : t.depth = base.depth) (h0 : 0 ≤ base.depth) :
    address = home ∧ ((∀ k : Fin stackSize, base.depth ≤ k → base.cell k = 0) →
      ∀ k : Fin stackSize, base.depth ≤ k → t.cell k = 0) := by
  have hlt : base.depth.toNat < stackSize := by
    have := hs.deeper
    have := hs.fits
    omega
  constructor
  · have hplace : ((⟨base.depth.toNat, hlt⟩ : Fin stackSize) : Int) = base.depth := by
      simp only
      omega
    rw [← h.top _ (hplace.trans hdepth.symm), hs.home _ hplace]
  · intro hzero k hk
    rcases Int.lt_or_eq_of_le hk with hlt | heq
    · rw [h.rest k (by omega)]
      exact hs.above hzero k (by have := h.depth_eq; omega)
    · exact h.cleared k (by omega)

end CallStack

/-! ## Runs inside a subroutine -/

section
variable {κ σ ρ : Type} [Keypad κ] [Screen σ] [RandomSource ρ]

/-- The number of calls in a trace. -/
def callCount (trace : List (Deed κ σ ρ)) : Nat :=
  trace.countP fun e => e.instruction.kind = .call

/-- The number of returns in a trace. -/
def returnCount (trace : List (Deed κ σ ρ)) : Nat :=
  trace.countP fun e => e.instruction.kind = .ret

/-- Calls and returns keep the count of the depth. -/
theorem Run.depth_eq {c c' : Console κ σ ρ} {trace : List (Deed κ σ ρ)}
    (h : Run Console.Carried c trace c') :
    c'.machine.stack.depth + returnCount trace = c.machine.stack.depth + callCount trace := by
  unfold callCount returnCount
  induction h with
  | nil => simp
  | cons first _ ih =>
    simp only [List.countP_cons, decide_eq_true_eq]
    rcases first.outcome.stack_cases with ⟨hkind, hpush⟩ | ⟨hkind, hpop⟩ | ⟨hcall, hret, hstack⟩
    · have := CallStack.depth_push hpush
      simp [hkind, Machine.tick, Machine.advance] at *
      omega
    · have := CallStack.depth_pop hpop
      simp [hkind, Machine.tick, Machine.advance] at *
      omega
    · simp [hcall, hret, hstack, Machine.tick, Machine.advance] at *
      omega

/-- What is carried out inside a subroutine stays inside as long as the depth
does. -/
theorem inside_of_carried {base : CallStack} {home : UInt16} {c c' : Console κ σ ρ}
    {i : Instruction} (h0 : 0 ≤ base.depth) (h : c.Carried i c')
    (hdeep : base.depth < c'.machine.stack.depth) (hc : base.Inside home c.machine.stack) :
    base.Inside home c'.machine.stack := by
  have hpos : 0 ≤ c.machine.stack.depth := by
    have := hc.deeper
    omega
  rcases h.outcome.stack_cases with ⟨-, hpush⟩ | ⟨-, hpop⟩ | ⟨-, -, hstack⟩
  · exact hc.pushed (CallStack.pushed_of_push hpos hpush)
  · exact hc.popped (CallStack.popped_of_pop hpop) hdeep
  · rw [hstack]
    exact hc

/-- A return that answers a call leads behind it. Between the two, the depth
stays above the depth of the call. The cells of the callers are untouched by
then in any case. If there were as many returns as calls in between, the
machine goes on behind the call at the depth of the call, and cells that were
zero from there on are zero again. -/
theorem subroutine_goes_on_behind_its_call {s u v t : Console κ σ ρ} {nnn : Int}
    {body : List (Deed κ σ ρ)} (h0 : 0 ≤ s.machine.stack.depth) (hcall : s.Carried (.call nnn) u)
    (hbody : Run Console.Carried u body v) (hret : v.Carried .ret t)
    (hdeep : ∀ e ∈ body, s.machine.stack.depth + 1 ≤ e.before.machine.stack.depth)
    (hlast : s.machine.stack.depth + 1 ≤ v.machine.stack.depth) :
    (∀ k : Fin stackSize, (k : Int) < s.machine.stack.depth →
      t.machine.stack.cell k = s.machine.stack.cell k) ∧
    (callCount body = returnCount body →
      t.machine.pc.toNat = (s.machine.pc.toNat + 2) % 0x10000 ∧
      t.machine.stack.depth = s.machine.stack.depth ∧
      ((∀ k : Fin stackSize, s.machine.stack.depth ≤ k → s.machine.stack.cell k = 0) →
        ∀ k : Fin stackSize, s.machine.stack.depth ≤ k → t.machine.stack.cell k = 0)) := by
  have hpush : s.machine.stack.push (s.machine.pc + 2) = .ok u.machine.stack := by
    rcases hcall.outcome.stack_cases with ⟨-, hpush⟩ | ⟨hkind, -⟩ | ⟨hkind, -⟩
    · exact hpush
    · cases hkind
    · exact absurd rfl hkind
  have hpop : v.machine.stack.pop = .ok (t.machine.pc, t.machine.stack) := by
    rcases hret.outcome.stack_cases with ⟨hkind, -⟩ | ⟨-, hpop⟩ | ⟨-, hkind, -⟩
    · cases hkind
    · exact hpop
    · exact absurd rfl hkind
  have hpushed := CallStack.pushed_of_push h0 hpush
  have hpopped := CallStack.popped_of_pop hpop
  -- the depth between call and return is what keeps each of the steps inside
  have hinside : s.machine.stack.Inside (s.machine.pc + 2) v.machine.stack :=
    hbody.keeps_among (P := fun c => s.machine.stack.depth + 1 ≤ c.machine.stack.depth)
      (fun first hdeep hc => inside_of_carried h0 first hdeep hc) hdeep hlast
      (CallStack.inside_of_pushed hpushed)
  refine ⟨hinside.callers_popped hpopped, fun hcount => ?_⟩
  have hdepth : t.machine.stack.depth = s.machine.stack.depth := by
    have := hbody.depth_eq
    have := hpushed.depth_eq
    have := hpopped.depth_eq
    omega
  obtain ⟨hpc, hzero⟩ := hinside.home_popped hpopped hdepth h0
  refine ⟨?_, hdepth, hzero⟩
  rw [hpc, UInt16.toNat_add]
  rfl

/-- A subroutine calls another one, which returns, and then returns itself. -/
theorem nested_subroutine_goes_on_behind_its_call :
    ∃ (s u v t : Console SilentKeypad Grid Splitting) (body : List (Deed _ _ _)),
      0 ≤ s.machine.stack.depth ∧ s.Carried (.call 0x300) u ∧ Run Console.Carried u body v ∧
      v.Carried .ret t ∧
      (∀ e ∈ body, s.machine.stack.depth + 1 ≤ e.before.machine.stack.depth) ∧
      s.machine.stack.depth + 1 ≤ v.machine.stack.depth ∧
      callCount body = 1 ∧ returnCount body = 1 ∧
      t.machine.pc.toNat = (s.machine.pc.toNat + 2) % 0x10000 ∧
      t.machine.stack.depth = s.machine.stack.depth := by
  have hcall : (byHand []).Carried (.call 0x300) (byHand [.call 0x300]) := .inr rfl
  have hinner : (byHand [.call 0x300]).Carried (.call 0x400)
      (byHand [.call 0x300, .call 0x400]) := .inr rfl
  have hanswer : (byHand [.call 0x300, .call 0x400]).Carried .ret
      (byHand [.call 0x300, .call 0x400, .ret]) := .inr rfl
  have hret : (byHand [.call 0x300, .call 0x400, .ret]).Carried .ret
      (byHand [.call 0x300, .call 0x400, .ret, .ret]) := .inr rfl
  have hbody := Run.cons hinner (.cons hanswer (.nil _))
  have hdeep : ∀ e ∈ [Deed.mk (byHand [.call 0x300]) (.call 0x400),
      ⟨byHand [.call 0x300, .call 0x400], .ret⟩],
      (byHand []).machine.stack.depth + 1 ≤ e.before.machine.stack.depth := by
    simp only [List.forall_mem_cons]
    exact ⟨by decide, by decide, nofun⟩
  obtain ⟨-, hlaw⟩ := subroutine_goes_on_behind_its_call (by decide) hcall hbody hret hdeep
    (by decide)
  obtain ⟨hpc, hdepth, -⟩ := hlaw rfl
  exact ⟨_, _, _, _, _, by decide, hcall, hbody, hret, hdeep, by decide, rfl, rfl, hpc, hdepth⟩

/-- A call that is not answered stays open: the return at the end answers the
inner call, although the depth was above the depth of the outer one all the
time. -/
theorem unanswered_call_stays_open :
    ∃ (s u v t : Console SilentKeypad Grid Splitting) (body : List (Deed _ _ _)),
      s.machine = .initial ∧ s.Carried (.call 0x300) u ∧ Run Console.Carried u body v ∧
      v.Carried .ret t ∧
      (∀ e ∈ body, s.machine.stack.depth + 1 ≤ e.before.machine.stack.depth) ∧
      s.machine.stack.depth + 1 ≤ v.machine.stack.depth ∧
      s.machine.stack.depth = 0 ∧ t.machine.stack.depth = 1 := by
  have hcall : (byHand []).Carried (.call 0x300) (byHand [.call 0x300]) := .inr rfl
  have hinner : (byHand [.call 0x300]).Carried (.call 0x400)
      (byHand [.call 0x300, .call 0x400]) := .inr rfl
  have hret : (byHand [.call 0x300, .call 0x400]).Carried .ret
      (byHand [.call 0x300, .call 0x400, .ret]) := .inr rfl
  have hdeep : ∀ e ∈ [Deed.mk (byHand [.call 0x300]) (.call 0x400)],
      (byHand []).machine.stack.depth + 1 ≤ e.before.machine.stack.depth := by
    simp only [List.forall_mem_cons]
    exact ⟨by decide, nofun⟩
  exact ⟨byHand [], _, _, _, _, rfl, hcall, .cons hinner (.nil _), hret, hdeep, by decide, rfl,
    rfl⟩

end

end Chip8
