import Exynos9810.Library.Transition
import Exynos9810.Power.PowerHalStep
import Mathlib.Algebra.Order.Field.Rat
import Mathlib.Data.Rat.Lemmas

/-!
# Chains of target changes

A new target rescales the integral error.  The ratio of the old to the new target is held
in a `double` but is the quotient of two integers, so the error follows the proportion
only as long as what the division drops does not show.
-/
namespace Exynos9810.Power

open AppHintDesc PowerHal Transition

section Proportion

/-- A rational number without its fraction, as `static_cast<int64_t>` takes it. -/
def truncated (x : ℚ) : Int :=
  x.num.tdiv x.den

theorem truncated_div (a : Int) {b : Int} (hb : 0 < b) : truncated ((a : ℚ) / b) = a.tdiv b := by
  have hden : (0 : Int) < ((a : ℚ) / b).den := Int.natCast_pos.mpr (Rat.den_pos _)
  have hcross : ((a : ℚ) / b).num * b = a * ((a : ℚ) / b).den := by
    have hb' : (b : ℚ) ≠ 0 := Int.cast_ne_zero.mpr hb.ne'
    have hq := Rat.num_div_den ((a : ℚ) / b)
    have hden' : (((a : ℚ) / b).den : ℚ) ≠ 0 := Nat.cast_ne_zero.mpr (Rat.den_ne_zero _)
    rw [div_eq_div_iff hden' hb'] at hq
    exact_mod_cast hq
  rw [truncated, ← Int.mul_tdiv_mul_of_pos_left _ _ hb, hcross, Int.mul_comm _ b,
    Int.mul_tdiv_mul_of_pos_left _ _ hden]

def proportional (t : Tunables) (integralError old new : Int) : Int :=
  max t.pidIInit (truncated (integralError * ((old : ℚ) / new)))

theorem proportional_eq (t : Tunables) (integralError old : Int) {new : Int} (hnew : 0 < new) :
    proportional t integralError old new = max t.pidIInit ((integralError * old).tdiv new) := by
  rw [proportional, ← mul_div_assoc, ← Int.cast_mul, truncated_div _ hnew]

theorem ediv_eq_zero_iff {y new : Int} (hy : 0 ≤ y) (hnew : 0 < new) : y / new = 0 ↔ y < new := by
  constructor
  · intro hzero
    have hsplit := Int.emod_add_mul_ediv y new
    rw [hzero, Int.mul_zero, Int.add_zero] at hsplit
    rw [← hsplit]
    exact Int.emod_lt_of_pos y hnew
  · exact Int.ediv_eq_zero_of_lt hy

theorem mul_div_eq_tdiv_iff (x : Int) {old new : Int} (hold : 0 ≤ old) (hnew : 0 < new) :
    x * (old / new) = (x * old).tdiv new ↔ (x.natAbs : Int) * (old % new) < new := by
  have hnonneg (n : Nat) :
      (n : Int) * (old / new) = ((n : Int) * old).tdiv new ↔ (n : Int) * (old % new) < new := by
    have hremainder : 0 ≤ (n : Int) * (old % new) :=
      Int.mul_nonneg (Int.natCast_nonneg n) (Int.emod_nonneg _ hnew.ne')
    have hsplit : (n : Int) * old = (n : Int) * (old % new) + new * ((n : Int) * (old / new)) := by
      calc (n : Int) * old = n * (old % new + new * (old / new)) := by
            rw [Int.emod_add_mul_ediv]
        _ = n * (old % new) + new * (n * (old / new)) := by ring
    rw [Int.tdiv_eq_ediv_of_nonneg (Int.mul_nonneg (Int.natCast_nonneg n) hold), hsplit,
      Int.add_mul_ediv_left _ _ hnew.ne', ← ediv_eq_zero_iff hremainder hnew]
    omega
  rcases Int.natAbs_eq x with hx | hx
  · rw [hx, Int.natAbs_natCast]
    exact hnonneg _
  · rw [hx, Int.natAbs_neg, Int.natAbs_natCast, Int.neg_mul, Int.neg_mul, Int.neg_tdiv, neg_inj]
    exact hnonneg _

/-- The quotient of the targets does as well as their ratio: what it drops makes no whole
unit, or both results are raised to the initial value. -/
def QuotientSuffices (t : Tunables) (integralError old new : Int) : Prop :=
  (integralError.natAbs : Int) * (old % new) < new ∨
    integralError * (old / new) ≤ t.pidIInit ∧ (integralError * old).tdiv new ≤ t.pidIInit

/-- The operands and the result are integers that a `double` holds. -/
def Representable (integralError old new : Int) : Prop :=
  integralError.natAbs < 2 ^ 53 ∧ old.natAbs < 2 ^ 53 ∧
    ((integralError * old).tdiv new).natAbs < 2 ^ 53

end Proportion

section Change

variable {p : Platform} {desc : AppHintDesc} {new : Int}

theorem natAbs_mul_div_le (x : Int) {old new : Int} (hold : 0 ≤ old) (hnew : 0 < new) :
    (x * (old / new)).natAbs ≤ ((x * old).tdiv new).natAbs := by
  obtain ⟨old, rfl⟩ := Int.eq_ofNat_of_zero_le hold
  obtain ⟨new, rfl⟩ := Int.eq_ofNat_of_zero_le hnew.le
  rw [Int.natAbs_tdiv, Int.natAbs_mul, Int.natAbs_mul, ← Int.natCast_div, Int.natAbs_natCast,
    Int.natAbs_natCast, Int.natAbs_natCast]
  exact Nat.mul_div_le_mul_div_assoc _ _ _

theorem integralError_update (hold : 0 < desc.duration) (hnew : 0 < new)
    (hmagnitude : Representable desc.integralError desc.duration new) :
    (desc.updateTargetWorkDuration p new).integralError =
      max p.pidIInit (desc.integralError * (desc.duration / new)) := by
  obtain ⟨herror, hduration, hresult⟩ := hmagnitude
  have hproduct := (natAbs_mul_div_le desc.integralError hold.le hnew).trans_lt hresult
  have hratio : (desc.duration / new).natAbs < 2 ^ 53 := by
    have hle := Int.ediv_le_self new hold.le
    have hnonneg := Int.ediv_nonneg hold.le hnew.le
    omega
  have hrescaled : desc.rescaled new = desc.integralError * (desc.duration / new) := by
    rw [rescaled, Int.tdiv_eq_ediv_of_nonneg hold.le,
      Binary64.product_eq_mul herror hratio hproduct]
  have hrange : InInt64 (desc.integralError * (desc.duration / new)) := by
    generalize desc.integralError * (desc.duration / new) = product at hproduct
    unfold InInt64
    omega
  rw [updateTargetWorkDuration, hrescaled, p.ofDouble_eq _ hrange]

theorem update_proportional_iff (hold : 0 < desc.duration) (hnew : 0 < new)
    (hmagnitude : Representable desc.integralError desc.duration new) :
    (desc.updateTargetWorkDuration p new).integralError =
        proportional p.toTunables desc.integralError desc.duration new ↔
      QuotientSuffices p.toTunables desc.integralError desc.duration new := by
  rw [integralError_update hold hnew hmagnitude, proportional_eq _ _ _ hnew, QuotientSuffices,
    ← mul_div_eq_tdiv_iff _ hold.le hnew]
  omega

end Change

section Chain

def proportionalError (t : Tunables) : Int → Int → List Int → Int
  | integralError, _, [] => integralError
  | integralError, old, new :: rest =>
    proportionalError t (proportional t integralError old new) new rest

def AlongChain (t : Tunables) (holds : Int → Int → Int → Prop) : Int → Int → List Int → Prop
  | _, _, [] => True
  | integralError, old, new :: rest =>
    holds integralError old new ∧
      AlongChain t holds (proportional t integralError old new) new rest

variable {p : Platform}

theorem updates_proportional_iff {targets : List Int} (hpositive : ∀ new ∈ targets, 0 < new)
    (desc : AppHintDesc) (hold : 0 < desc.duration)
    (hmagnitude : AlongChain p.toTunables Representable desc.integralError desc.duration targets) :
    (∀ front, front <+: targets →
        (front.foldl (·.updateTargetWorkDuration p ·) desc).integralError =
          proportionalError p.toTunables desc.integralError desc.duration front) ↔
      AlongChain p.toTunables (QuotientSuffices p.toTunables) desc.integralError desc.duration
        targets := by
  induction targets generalizing desc with
  | nil =>
    refine iff_of_true ?_ trivial
    intro front hfront
    rw [List.prefix_nil.mp hfront]
    rfl
  | cons new rest ih =>
    obtain ⟨hnew, hrest⟩ := List.forall_mem_cons.mp hpositive
    obtain ⟨hfirst, hmagnitude⟩ := hmagnitude
    have hstep := update_proportional_iff (p := p) hold hnew hfirst
    rw [AlongChain, ← hstep]
    constructor
    · intro hchain
      have hone := hchain [new] (List.prefix_append [new] rest)
      refine ⟨hone, ?_⟩
      rw [← show _ = proportional _ _ _ _ from hone] at hmagnitude ⊢
      refine (ih hrest (desc.updateTargetWorkDuration p new) hnew hmagnitude).mp ?_
      intro front hfront
      rw [show (desc.updateTargetWorkDuration p new).integralError = _ from hone]
      exact hchain (new :: front) ((List.prefix_cons_inj new).mpr hfront)
    · rintro ⟨hone, hchain⟩ front hfront
      rw [← hone] at hmagnitude hchain
      rcases List.prefix_cons_iff.mp hfront with rfl | ⟨tail, rfl, htail⟩
      · rfl
      · rw [proportionalError, ← hone]
        exact (ih hrest (desc.updateTargetWorkDuration p new) hnew hmagnitude).mpr hchain tail htail

def targetCalls (id : SessionId) (targets : List Int) : List Event :=
  targets.map fun new => .call (.updateTargetWorkDuration id new)

theorem exec_targetCalls {id : SessionId} {targets : List Int}
    (hpositive : ∀ new ∈ targets, 0 < new) (s : PowerHal) (hidle : s.binder = .idle)
    (hid : id < s.created) :
    ∃ s', exec (step p) Free s (targetCalls id targets) = some s' ∧
      (s'.session id).desc =
        targets.foldl (·.updateTargetWorkDuration p ·) (s.session id).desc := by
  induction targets generalizing s with
  | nil => exact ⟨s, rfl, rfl⟩
  | cons new rest ih =>
    obtain ⟨hnew, hrest⟩ := List.forall_mem_cons.mp hpositive
    let next := s.updateDesc id (·.updateTargetWorkDuration p new)
    have hstep : s.step p (.call (.updateTargetWorkDuration id new)) = some next := by
      have hready : s.binder = .idle ∧
          ∀ target ∈ (Call.updateTargetWorkDuration id new).session, target < s.created :=
        ⟨hidle, fun target htarget => Option.some.inj htarget ▸ hid⟩
      have haccepted : s.refusal p (.updateTargetWorkDuration id new) = none :=
        if_neg (not_le.mpr hnew)
      simp only [step, makeCall, if_pos hready, haccepted]
      rfl
    obtain ⟨s', hexec, hdesc⟩ := ih hrest next hidle hid
    refine ⟨s', ?_, ?_⟩
    · rw [targetCalls, List.map_cons, exec_cons trivial hstep]
      exact hexec
    · rw [hdesc, List.foldl_cons]
      simp [next, updateDesc]

end Chain

/-- **Chains of targets.**  While the magnitudes are ones that a `double` holds, the integral
error follows the proportion of the targets at every change of a chain exactly if the
integer quotient of the targets suffices at every change. -/
theorem target_chain_proportional_iff (p : Platform) (s : PowerHal) (hidle : s.binder = .idle)
    (id : SessionId) (hid : id < s.created) (hold : 0 < (s.session id).desc.duration)
    (targets : List Int) (hpositive : ∀ new ∈ targets, 0 < new)
    (hmagnitude : AlongChain p.toTunables Representable (s.session id).desc.integralError
      (s.session id).desc.duration targets) :
    (∀ front, front <+: targets →
        ∃ s', exec (step p) Free s (targetCalls id front) = some s' ∧
          (s'.session id).desc.integralError =
            proportionalError p.toTunables (s.session id).desc.integralError
              (s.session id).desc.duration front) ↔
      AlongChain p.toTunables (QuotientSuffices p.toTunables) (s.session id).desc.integralError
        (s.session id).desc.duration targets := by
  rw [← updates_proportional_iff hpositive _ hold hmagnitude]
  refine forall₂_congr fun front hfront => ?_
  obtain ⟨s', hexec, hdesc⟩ := exec_targetCalls (p := p)
    (fun new hnew => hpositive new (hfront.subset hnew)) s hidle hid
  constructor
  · rintro ⟨s'', hexec', herror⟩
    cases hexec.symm.trans hexec'
    rw [← hdesc]
    exact herror
  · intro herror
    exact ⟨s', hexec, hdesc ▸ herror⟩

/-- A session on 4 ms whose target has been set once, so that its error is the initial one. -/
def fourMs : List Event :=
  [.call (.createHintSession [7] 4000000), .binder, .binder,
    .call (.updateTargetWorkDuration 0 4000000)]

theorem target_chain_proportional_halved :
    ∃ s, exec (step .default) Free PowerHal.init fourMs = some s ∧
      (∀ front, front <+: [2000000, 1000000] →
        ∃ s', exec (step .default) Free s (targetCalls 0 front) = some s' ∧
          (s'.session 0).desc.integralError =
            proportionalError Platform.default.toTunables (s.session 0).desc.integralError
              (s.session 0).desc.duration front) := by
  have hfirst : proportional Platform.default.toTunables 200000 4000000 2000000 = 400000 := by
    rw [proportional_eq _ _ _ (by decide)]
    decide
  refine ⟨_, rfl, (target_chain_proportional_iff .default _ rfl 0 (by decide) (by decide)
    [2000000, 1000000] (by decide) ?_).mpr ?_⟩
  · change AlongChain _ Representable 200000 4000000 [2000000, 1000000]
    simp only [AlongChain, hfirst, Representable]
    decide
  · change AlongChain _ (QuotientSuffices _) 200000 4000000 [2000000, 1000000]
    simp only [AlongChain, hfirst, QuotientSuffices]
    decide

/-- From 4 ms to 3 ms: the quotient is 1 and the error stays, where it should grow by a third. -/
theorem target_chain_keeps_error :
    ∃ s s', exec (step .default) Free PowerHal.init fourMs = some s ∧
      exec (step .default) Free s (targetCalls 0 [3000000]) = some s' ∧
      (s'.session 0).desc.integralError = 200000 ∧
      proportionalError Platform.default.toTunables (s.session 0).desc.integralError
        (s.session 0).desc.duration [3000000] = 266666 := by
  refine ⟨_, _, rfl, rfl, by decide, ?_⟩
  change proportional Platform.default.toTunables 200000 4000000 3000000 = 266666
  rw [proportional_eq _ _ _ (by decide)]
  decide

end Exynos9810.Power
