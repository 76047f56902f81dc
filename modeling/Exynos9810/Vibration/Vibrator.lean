import Exynos9810.Library.Rounding

/-!
# `Vibrator.cpp`: the vibrator service

Three nodes drive the motor: how long it runs, how hard, and which stored effect it plays.
Floats are rational numbers, rounded as their type requires.  Which writes succeed is a
parameter.
-/
namespace Exynos9810.Vibration

open Rounding

inductive Effect where
  | click
  | doubleClick
  | tick
  | thud
  | pop
  | heavyClick
  | ringtone (index : Fin 15)
  | textureTick
  | other (value : Int)
  deriving DecidableEq, Repr

inductive EffectStrength where
  | light
  | medium
  | strong
  | other (value : Int)
  deriving DecidableEq, Repr

inductive Status where
  | ok
  | statusUnknownError
  | exIllegalArgument
  | exUnsupportedOperation
  deriving DecidableEq, Repr

/-- The nodes of `/sys/class/timed_output/vibrator`. -/
inductive Node where
  | enable
  | intensity
  | cpTriggerIndex
  deriving DecidableEq, Repr

/-- The service, the values that were written to the nodes last, and the callbacks that are
to be called, each with its delay in microseconds.  A delay that overflows is `none`. -/
structure Vibrator where
  mIsTimedOutVibrator : Bool
  mHasTimedOutIntensity : Bool
  mHasTimedOutEffect : Bool
  mEnabled : Bool := false
  mExternalControl : Bool := false
  nodes : Node → Option Nat := fun _ => none
  completions : List (Nat × Option Nat) := []

def intensityMax : Nat := 10000

/-- `CP_TRIGGER_EFFECTS`. -/
def cpTriggerEffects : Effect → Option Nat
  | .click => some 10
  | .doubleClick => some 14
  | .heavyClick => some 23
  | .textureTick => some 50
  | .tick => some 50
  | _ => none

def strengthToAmplitude : EffectStrength → Option Nat
  | .light => some 64
  | .medium => some 128
  | .strong => some 255
  | .other _ => none

def effectToMs : Effect → Option Nat
  | .click => some 10
  | .doubleClick => some 15
  | .tick | .textureTick | .thud | .pop => some 5
  | .heavyClick => some 10
  | .ringtone _ => some 30000
  | .other _ => none

/-- `RINGTONE_7` is listed twice. -/
def getSupportedEffects : List Effect :=
  [.click, .doubleClick, .heavyClick, .tick, .textureTick, .thud, .pop, .ringtone 0,
    .ringtone 1, .ringtone 2, .ringtone 3, .ringtone 4, .ringtone 5, .ringtone 6, .ringtone 6,
    .ringtone 7, .ringtone 8, .ringtone 9, .ringtone 10, .ringtone 11, .ringtone 12,
    .ringtone 13, .ringtone 14]

section Amplitude

/-- The product of floats and the quotient of doubles, rounded by `lround`. -/
def scaled (amplitude : ℚ) : Int :=
  away (toBits 52 (toBits 23 (toBits 23 (amplitude - 1) * intensityMax) / 254))

/-- The intensity that `setAmplitude` computes: `uint32_t`, and no more than the maximum. -/
def intensityOf (amplitude : ℚ) : Nat :=
  min (scaled amplitude % 2 ^ 32).toNat intensityMax

end Amplitude

section Calls

variable (accepts : Nat → Bool)

def writeNode (v : Vibrator) (i : Nat) (node : Node) (value : Nat) : Status × Vibrator :=
  if accepts i then (.ok, { v with nodes := Function.update v.nodes node (some value) })
  else (.statusUnknownError, v)

def activate (v : Vibrator) (i : Nat) (timeoutMs : Nat) : Status × Vibrator :=
  if v.mIsTimedOutVibrator then writeNode accepts v i .enable timeoutMs
  else (.exUnsupportedOperation, v)

/-- For a finite amplitude; the infinities and NaN are left out. -/
def setAmplitude (v : Vibrator) (i : Nat) (amplitude : ℚ) : Status × Vibrator :=
  if amplitude = 0 then (.exIllegalArgument, v)
  else if intensityOf amplitude = 0 then (.exIllegalArgument, v)
  else if v.mHasTimedOutIntensity then writeNode accepts v i .intensity (intensityOf amplitude)
  else (.ok, v)

def off (v : Vibrator) : Status × Vibrator :=
  activate accepts v 0 0

def complete (v : Vibrator) (callback : Option Nat) (delay : Option Nat) : Vibrator :=
  { v with completions := v.completions ++ callback.toList.map (·, delay) }

/-- The node gets the time as `uint32_t`, and `usleep` the product of two `int`s. -/
def on (v : Vibrator) (timeoutMs : Int) (callback : Option Nat) : Status × Vibrator :=
  let v := if v.mHasTimedOutEffect then (writeNode accepts v 0 .cpTriggerIndex 0).2 else v
  let (status, v) := activate accepts v 1 (timeoutMs % 2 ^ 32).toNat
  let delay :=
    if -2 ^ 31 ≤ timeoutMs * 1000 ∧ timeoutMs * 1000 < 2 ^ 31 then
      some (timeoutMs * 1000 % 2 ^ 32).toNat
    else none
  (status, complete v callback delay)

/-- The branch of `perform` that chooses the effect: its duration, if it has one. -/
def chooseEffect (v : Vibrator) (effect : Effect) : Option Nat × Vibrator :=
  if v.mHasTimedOutEffect then
    match cpTriggerEffects effect with
    | some index => (some 1000, (writeNode accepts v 2 .cpTriggerIndex index).2)
    | none => (effectToMs effect, (writeNode accepts v 2 .cpTriggerIndex 0).2)
  else (effectToMs effect, v)

/-- `perform`: the status, the milliseconds that are returned, if any, and the service. -/
def perform (v : Vibrator) (effect : Effect) (strength : EffectStrength) (callback : Option Nat) :
    Status × Option Nat × Vibrator :=
  match strengthToAmplitude strength with
  | none => (.exUnsupportedOperation, none, v)
  | some amplitude =>
    let v := (activate accepts v 0 0).2
    let v := (setAmplitude accepts v 1 amplitude).2
    match chooseEffect accepts v effect with
    | (none, v) => (.exUnsupportedOperation, none, v)
    | (some ms, v) =>
      let (status, v) := activate accepts v 3 ms
      (status, some ms, complete v callback (some (ms * 1000)))

def setExternalControl (v : Vibrator) (enabled : Bool) : Status × Vibrator :=
  if v.mEnabled then (.exUnsupportedOperation, v)
  else (.ok, { v with mExternalControl := enabled })

end Calls

section Scale

theorem scaled_mono {a b : ℚ} (hab : a ≤ b) : scaled a ≤ scaled b := by
  have hmax : (0 : ℚ) ≤ intensityMax := Nat.cast_nonneg _
  refine away_mono (toBits_mono (div_le_div_of_nonneg_right (toBits_mono ?_) (by norm_num)))
  exact mul_le_mul_of_nonneg_right (toBits_mono (sub_le_sub_right hab 1)) hmax

theorem scaled_values :
    scaled 0 = -39 ∧ scaled (98 / 100) = -1 ∧ scaled (99 / 100) = 0 ∧ scaled 1 = 0 ∧
      scaled 255 = 10000 := by
  decide +kernel

theorem intensityOf_of_neg {amplitude : ℚ} (hlow : -39 ≤ scaled amplitude)
    (hneg : scaled amplitude < 0) : intensityOf amplitude = intensityMax := by
  rw [intensityOf, intensityMax]
  omega

theorem intensityOf_of_nonneg {amplitude : ℚ} (hlow : 0 ≤ scaled amplitude)
    (hhigh : scaled amplitude ≤ 10000) : intensityOf amplitude = (scaled amplitude).toNat := by
  rw [intensityOf, intensityMax]
  omega

end Scale

/-- **Amplitudes.**  The interface has amplitudes up to 1, the service scales from 1 to 255.
So of the finite amplitudes that clients may set, those near 1 are refused and those up to 0.98
all drive the motor at its maximum; from 1 to 255 a larger amplitude never gives less. -/
theorem amplitudes_misread (accepts : Nat → Bool) (v : Vibrator) (i : Nat) :
    (∀ amplitude : ℚ, 99 / 100 ≤ amplitude → amplitude ≤ 1 →
      setAmplitude accepts v i amplitude = (.exIllegalArgument, v)) ∧
    (∀ amplitude : ℚ, 0 < amplitude → amplitude ≤ 98 / 100 →
      setAmplitude accepts v i amplitude =
        if v.mHasTimedOutIntensity then writeNode accepts v i .intensity intensityMax
        else (.ok, v)) ∧
    ∀ a b : ℚ, 1 ≤ a → a ≤ b → b ≤ 255 → intensityOf a ≤ intensityOf b := by
  obtain ⟨hzero, hlow, hhigh, hone, hmax⟩ := scaled_values
  refine ⟨?_, ?_, ?_⟩
  · intro amplitude hge hle
    have hscaled : scaled amplitude = 0 :=
      le_antisymm (hone ▸ scaled_mono hle) (hhigh ▸ scaled_mono hge)
    have hintensity : intensityOf amplitude = 0 := by
      rw [intensityOf, hscaled]
      rfl
    rw [setAmplitude, if_pos hintensity, ite_self]
  · intro amplitude hpos hle
    have hge := scaled_mono hpos.le
    have hle := scaled_mono hle
    rw [setAmplitude, if_neg hpos.ne', intensityOf_of_neg (by omega) (by omega)]
    rfl
  · intro a b ha hab hb
    have ha' := scaled_mono ha
    have hab' := scaled_mono hab
    have hb' := scaled_mono hb
    rw [intensityOf_of_nonneg (by omega) (by omega), intensityOf_of_nonneg (by omega) (by omega)]
    omega

section Perform

variable (accepts : Nat → Bool) (v : Vibrator)

def Moved (v v' : Vibrator) : Prop :=
  ∃ nodes, v' = { v with nodes }

theorem Moved.trans {v v' v'' : Vibrator} (h : Moved v v') (h' : Moved v' v'') : Moved v v'' := by
  obtain ⟨nodes, rfl⟩ := h
  obtain ⟨nodes', rfl⟩ := h'
  exact ⟨nodes', rfl⟩

theorem writeNode_moved (i : Nat) (node : Node) (value : Nat) :
    Moved v (writeNode accepts v i node value).2 := by
  unfold writeNode
  split_ifs
  · exact ⟨_, rfl⟩
  · exact ⟨v.nodes, rfl⟩

theorem writeNode_of_ne {node node' : Node} (h : node' ≠ node) (i value : Nat) :
    (writeNode accepts v i node value).2.nodes node' = v.nodes node' := by
  unfold writeNode
  split_ifs
  · exact Function.update_of_ne h _ _
  · rfl

theorem activate_moved (i timeoutMs : Nat) : Moved v (activate accepts v i timeoutMs).2 := by
  unfold activate
  split_ifs
  · exact writeNode_moved accepts v i .enable timeoutMs
  · exact ⟨v.nodes, rfl⟩

theorem activate_ok_iff (i timeoutMs : Nat) :
    (activate accepts v i timeoutMs).1 = .ok ↔ v.mIsTimedOutVibrator = true ∧ accepts i = true := by
  unfold activate writeNode
  split_ifs <;> simp_all

theorem setAmplitude_moved (i : Nat) (amplitude : ℚ) :
    Moved v (setAmplitude accepts v i amplitude).2 := by
  unfold setAmplitude
  split_ifs
  · exact ⟨v.nodes, rfl⟩
  · exact ⟨v.nodes, rfl⟩
  · exact writeNode_moved accepts v i .intensity _
  · exact ⟨v.nodes, rfl⟩

theorem setAmplitude_enable (i : Nat) (amplitude : ℚ) :
    (setAmplitude accepts v i amplitude).2.nodes .enable = v.nodes .enable := by
  unfold setAmplitude
  split_ifs
  · rfl
  · rfl
  · exact writeNode_of_ne accepts v (by decide) i _
  · rfl

theorem mem_getSupportedEffects_iff (effect : Effect) :
    effect ∈ getSupportedEffects ↔ ∃ ms, effectToMs effect = some ms := by
  cases effect with
  | ringtone index => exact iff_of_true (by revert index; decide) ⟨30000, rfl⟩
  | other value => simp [getSupportedEffects, effectToMs]
  | _ => exact iff_of_true (by decide) ⟨_, rfl⟩

theorem chooseEffect_moved (effect : Effect) : Moved v (chooseEffect accepts v effect).2 := by
  unfold chooseEffect
  split_ifs
  · split <;> exact writeNode_moved accepts v 2 .cpTriggerIndex _
  · exact ⟨v.nodes, rfl⟩

theorem chooseEffect_enable (effect : Effect) :
    (chooseEffect accepts v effect).2.nodes .enable = v.nodes .enable := by
  unfold chooseEffect
  split_ifs
  · split <;> exact writeNode_of_ne accepts v (by decide) 2 _
  · rfl

theorem chooseEffect_isSome_iff (effect : Effect) :
    (∃ ms, (chooseEffect accepts v effect).1 = some ms) ↔ effect ∈ getSupportedEffects := by
  rw [mem_getSupportedEffects_iff]
  unfold chooseEffect
  split_ifs
  · cases effect <;> simp [cpTriggerEffects, effectToMs]
  · rfl

end Perform

/-- **Effects.**  `perform` succeeds exactly for the effects that are advertised, with one of
the three strengths, on a motor that can be started.  The callback comes after the time that
is returned, even if the motor was not started.  A refusal of the effect comes too late: the
motor has been stopped. -/
theorem perform_ok_iff (accepts : Nat → Bool) (v : Vibrator) (effect : Effect)
    (strength : EffectStrength) (callback : Option Nat) :
    ((perform accepts v effect strength callback).1 = .ok ↔
      (∀ value, strength ≠ .other value) ∧ effect ∈ getSupportedEffects ∧
        v.mIsTimedOutVibrator = true ∧ accepts 3 = true) ∧
    (∀ ms, (perform accepts v effect strength callback).2.1 = some ms →
      (perform accepts v effect strength callback).2.2.completions =
        v.completions ++ callback.toList.map (·, some (ms * 1000))) ∧
    ((∀ value, strength ≠ .other value) → effect ∉ getSupportedEffects →
      (perform accepts v effect strength callback).2.2.completions = v.completions ∧
        (perform accepts v effect strength callback).2.2.nodes .enable =
          (activate accepts v 0 0).2.nodes .enable) := by
  cases hstrength : strengthToAmplitude strength with
  | none =>
    have hperform : perform accepts v effect strength callback =
        (.exUnsupportedOperation, none, v) := by
      rw [perform, hstrength]
    have hother : ¬∀ value, strength ≠ .other value := by
      cases strength with
      | other value => exact fun h => h value rfl
      | _ => cases hstrength
    simp [hperform, hother]
  | some amplitude =>
    have hvalid : ∀ value, strength ≠ .other value := by
      rintro value rfl
      cases hstrength
    obtain ⟨prepared, hprepared⟩ : ∃ prepared,
        prepared = (setAmplitude accepts (activate accepts v 0 0).2 1 amplitude).2 := ⟨_, rfl⟩
    have hmoved : Moved v prepared := by
      rw [hprepared]
      exact (activate_moved accepts v 0 0).trans (setAmplitude_moved accepts _ 1 amplitude)
    have henable : prepared.nodes .enable = (activate accepts v 0 0).2.nodes .enable := by
      rw [hprepared, setAmplitude_enable]
    have hchosen := hmoved.trans (chooseEffect_moved accepts prepared effect)
    have hsupported := chooseEffect_isSome_iff accepts prepared effect
    have hstopped := (chooseEffect_enable accepts prepared effect).trans henable
    rw [perform, hstrength]
    simp only [← hprepared]
    generalize chooseEffect accepts prepared effect = chosen at hchosen hsupported hstopped ⊢
    obtain ⟨ms, v'⟩ := chosen
    obtain ⟨nodes, rfl⟩ := hchosen
    cases ms with
    | none =>
      have hrefused : effect ∉ getSupportedEffects := by simp [← hsupported]
      refine ⟨by simp [hrefused], by simp, fun _ _ => ⟨rfl, hstopped⟩⟩
    | some ms =>
      have haccepted : effect ∈ getSupportedEffects := hsupported.mp ⟨ms, rfl⟩
      obtain ⟨nodes', hstarted⟩ := activate_moved accepts { v with nodes } 3 ms
      refine ⟨?_, ?_, fun _ hrefused => absurd haccepted hrefused⟩
      · simp only [activate_ok_iff]
        simp [hvalid, haccepted]
      · rintro ms' hms
        cases hms
        simp [complete, hstarted]

def running : Vibrator :=
  { mIsTimedOutVibrator := true
    mHasTimedOutIntensity := true
    mHasTimedOutEffect := true
    nodes := fun _ => some 500 }

example :
    (perform (fun _ => true) running (.other 40) .strong none).2.2.nodes .enable = some 0 ∧
      (perform (fun _ => true) running .thud (.other 7) none).2.2.nodes .enable = some 500 := by
  decide +kernel

section Runs

inductive Call where
  | off
  | on (timeoutMs : Int) (callback : Option Nat)
  | perform (effect : Effect) (strength : EffectStrength) (callback : Option Nat)
  | setAmplitude (amplitude : ℚ)
  | setExternalControl (enabled : Bool)

def Vibrator.serve (v : Vibrator) (call : Call × (Nat → Bool)) : Vibrator :=
  match call.1 with
  | .off => (off call.2 v).2
  | .on timeoutMs callback => (on call.2 v timeoutMs callback).2
  | .perform effect strength callback => (perform call.2 v effect strength callback).2.2
  | .setAmplitude amplitude => (setAmplitude call.2 v 0 amplitude).2
  | .setExternalControl enabled => (setExternalControl v enabled).2

def Vibrator.init (timeout intensity cpTrigger : Bool) : Vibrator :=
  { mIsTimedOutVibrator := timeout
    mHasTimedOutIntensity := intensity
    mHasTimedOutEffect := cpTrigger }

def Node.range : Node → Set Nat
  | .enable => { value | value < 2 ^ 32 }
  | .intensity => { value | 1 ≤ value ∧ value ≤ intensityMax }
  | .cpTriggerIndex => {0, 10, 14, 23, 50}

structure InRange (v : Vibrator) : Prop where
  nodes : ∀ node value, v.nodes node = some value → value ∈ node.range
  disabled : v.mEnabled = false

variable {v : Vibrator} {accepts : Nat → Bool}

theorem InRange.writeNode (h : InRange v) (i : Nat) {node : Node} {value : Nat}
    (hvalue : value ∈ node.range) : InRange (writeNode accepts v i node value).2 := by
  unfold Vibration.writeNode
  split_ifs
  · refine ⟨?_, h.disabled⟩
    intro node' value' hnode
    change Function.update v.nodes node (some value) node' = some value' at hnode
    rw [Function.update_apply] at hnode
    split_ifs at hnode with heq
    · cases hnode
      rw [heq]
      exact hvalue
    · exact h.nodes node' value' hnode
  · exact h

theorem InRange.activate (h : InRange v) (i : Nat) {timeoutMs : Nat} (htime : timeoutMs < 2 ^ 32) :
    InRange (activate accepts v i timeoutMs).2 := by
  unfold Vibration.activate
  split_ifs
  · exact h.writeNode i htime
  · exact h

theorem InRange.setAmplitude (h : InRange v) (i : Nat) (amplitude : ℚ) :
    InRange (setAmplitude accepts v i amplitude).2 := by
  unfold Vibration.setAmplitude
  split_ifs with _ hzero
  · exact h
  · exact h
  · exact h.writeNode i ⟨Nat.one_le_iff_ne_zero.mpr hzero, Nat.min_le_right _ _⟩
  · exact h

theorem InRange.complete (h : InRange v) (callback delay : Option Nat) :
    InRange (complete v callback delay) :=
  ⟨h.nodes, h.disabled⟩

theorem InRange.on (h : InRange v) (timeoutMs : Int) (callback : Option Nat) :
    InRange (on accepts v timeoutMs callback).2 := by
  unfold Vibration.on
  refine InRange.complete (InRange.activate ?_ 1 (by omega)) callback _
  split_ifs
  · exact h.writeNode 0 (.inl rfl)
  · exact h

theorem cpTriggerEffects_mem {effect : Effect} {index : Nat}
    (h : cpTriggerEffects effect = some index) : index ∈ Node.cpTriggerIndex.range := by
  cases effect <;> cases h <;> simp [Node.range]

theorem effectToMs_lt {effect : Effect} {ms : Nat} (h : effectToMs effect = some ms) :
    ms < 2 ^ 32 := by
  cases effect <;> cases h <;> decide

theorem InRange.chooseEffect (h : InRange v) (accepts : Nat → Bool) (effect : Effect) :
    InRange (chooseEffect accepts v effect).2 ∧
      ∀ ms, (chooseEffect accepts v effect).1 = some ms → ms < 2 ^ 32 := by
  unfold Vibration.chooseEffect
  split_ifs
  · split
    next index hindex =>
      refine ⟨h.writeNode 2 (cpTriggerEffects_mem hindex), ?_⟩
      intro ms hms
      cases hms
      decide
    next => exact ⟨h.writeNode 2 (.inl rfl), fun ms hms => effectToMs_lt hms⟩
  · exact ⟨h, fun ms hms => effectToMs_lt hms⟩

theorem InRange.perform (h : InRange v) (effect : Effect) (strength : EffectStrength)
    (callback : Option Nat) : InRange (perform accepts v effect strength callback).2.2 := by
  unfold Vibration.perform
  split
  · exact h
  next amplitude _ =>
    have hprepared : InRange
        (Vibration.setAmplitude accepts (Vibration.activate accepts v 0 0).2 1 amplitude).2 :=
      (h.activate 0 (by decide)).setAmplitude 1 amplitude
    obtain ⟨hchosen, htime⟩ := hprepared.chooseEffect accepts effect
    dsimp only
    split
    next v' heq =>
      rw [heq] at hchosen
      exact hchosen
    next ms v' heq =>
      rw [heq] at hchosen htime
      exact (hchosen.activate 3 (htime ms rfl)).complete callback _

theorem inRange_serve (h : InRange v) (call : Call × (Nat → Bool)) : InRange (v.serve call) := by
  obtain ⟨call, accepts⟩ := call
  cases call with
  | off => exact h.activate 0 (by decide)
  | on timeoutMs callback => exact h.on timeoutMs callback
  | perform effect strength callback => exact h.perform effect strength callback
  | setAmplitude amplitude => exact h.setAmplitude 0 amplitude
  | setExternalControl enabled =>
    simp only [Vibrator.serve, setExternalControl]
    split_ifs
    · exact h
    · exact ⟨h.nodes, h.disabled⟩

end Runs

/-- **Ranges.**  Whatever is called, and whichever writes fail, the intensity node never gets
0 or more than the maximum, and the trigger node no other number than those of the table.  The
test of `mEnabled` never refuses external control. -/
theorem motor_nodes_in_range (timeout intensity cpTrigger : Bool)
    (calls : List (Call × (Nat → Bool))) :
    (∀ node value, (calls.foldl Vibrator.serve (.init timeout intensity cpTrigger)).nodes node =
      some value → value ∈ node.range) ∧
    ∀ enabled, (setExternalControl
      (calls.foldl Vibrator.serve (.init timeout intensity cpTrigger)) enabled).1 = .ok := by
  have hrange : InRange (calls.foldl Vibrator.serve (.init timeout intensity cpTrigger)) :=
    List.foldlRecOn calls Vibrator.serve (motive := InRange) ⟨by simp [Vibrator.init], rfl⟩
      fun _ hbefore call _ => inRange_serve hbefore call
  refine ⟨hrange.nodes, fun enabled => ?_⟩
  rw [setExternalControl, hrange.disabled]
  rfl

end Exynos9810.Vibration
