import Exynos9810.Library.History
import Exynos9810.Library.Numerals
import Exynos9810.Library.Past
import Mathlib.Data.Finset.Basic
import Mathlib.Data.Finset.Insert

/-!
# `Power.cpp`: modes and their hints

Two modes swap three hints with each other and keep `LAUNCH` requests out while one
of them is on.  The hint manager is the set of the hints that are active.
-/
namespace Exynos9810.Power

open History

/-- The modes that `setMode` names; the value of any other one is kept. -/
inductive Mode where
  | doubleTapToWake
  | lowPower
  | sustainedPerformance
  | fixedPerformance
  | vr
  | launch
  | expensiveRendering
  | interactive
  | deviceIdle
  | displayInactive
  | audioStreamingLowLatency
  | cameraStreamingSecure
  | cameraStreamingLow
  | cameraStreamingMid
  | cameraStreamingHigh
  | other (value : Int32)
  deriving DecidableEq

def Mode.toString : Mode → String
  | .doubleTapToWake => "DOUBLE_TAP_TO_WAKE"
  | .lowPower => "LOW_POWER"
  | .sustainedPerformance => "SUSTAINED_PERFORMANCE"
  | .fixedPerformance => "FIXED_PERFORMANCE"
  | .vr => "VR"
  | .launch => "LAUNCH"
  | .expensiveRendering => "EXPENSIVE_RENDERING"
  | .interactive => "INTERACTIVE"
  | .deviceIdle => "DEVICE_IDLE"
  | .displayInactive => "DISPLAY_INACTIVE"
  | .audioStreamingLowLatency => "AUDIO_STREAMING_LOW_LATENCY"
  | .cameraStreamingSecure => "CAMERA_STREAMING_SECURE"
  | .cameraStreamingLow => "CAMERA_STREAMING_LOW"
  | .cameraStreamingMid => "CAMERA_STREAMING_MID"
  | .cameraStreamingHigh => "CAMERA_STREAMING_HIGH"
  | .other value => value.toInt.repr

structure PowerModes where
  mVRModeOn : Bool
  mSustainedPerfModeOn : Bool
  hints : Finset String

namespace PowerModes

def doHint (s : PowerModes) (hint : String) : PowerModes :=
  { s with hints := insert hint s.hints }

def endHint (s : PowerModes) (hint : String) : PowerModes :=
  { s with hints := s.hints.erase hint }

def new (state audio rendering : String) : PowerModes :=
  let s : PowerModes := { mVRModeOn := false, mSustainedPerfModeOn := false, hints := ∅ }
  let s :=
    if state = "SUSTAINED_PERFORMANCE" then
      { s.doHint "SUSTAINED_PERFORMANCE" with mSustainedPerfModeOn := true }
    else if state = "VR" then { s.doHint state with mVRModeOn := true }
    else if state = "VR_SUSTAINED_PERFORMANCE" then
      { s.doHint "VR_SUSTAINED_PERFORMANCE" with mSustainedPerfModeOn := true, mVRModeOn := true }
    else s
  let s := if audio = "AUDIO_STREAMING_LOW_LATENCY" then s.doHint audio else s
  if rendering = "EXPENSIVE_RENDERING" then s.doHint "EXPENSIVE_RENDERING" else s

/-- The branch that most modes fall through to. -/
def setHint (s : PowerModes) (type : Mode) (enabled : Bool) : PowerModes :=
  if enabled then s.doHint type.toString else s.endHint type.toString

def setSustainedPerformance (s : PowerModes) (enabled : Bool) : PowerModes :=
  if enabled && !s.mSustainedPerfModeOn then
    let s :=
      if !s.mVRModeOn then s.doHint "SUSTAINED_PERFORMANCE"
      else (s.endHint "VR").doHint "VR_SUSTAINED_PERFORMANCE"
    { s with mSustainedPerfModeOn := true }
  else if !enabled && s.mSustainedPerfModeOn then
    let s := (s.endHint "VR_SUSTAINED_PERFORMANCE").endHint "SUSTAINED_PERFORMANCE"
    let s := if s.mVRModeOn then s.doHint "VR" else s
    { s with mSustainedPerfModeOn := false }
  else s

def setVR (s : PowerModes) (enabled : Bool) : PowerModes :=
  if enabled && !s.mVRModeOn then
    let s :=
      if !s.mSustainedPerfModeOn then s.doHint "VR"
      else (s.endHint "SUSTAINED_PERFORMANCE").doHint "VR_SUSTAINED_PERFORMANCE"
    { s with mVRModeOn := true }
  else if !enabled && s.mVRModeOn then
    let s := (s.endHint "VR_SUSTAINED_PERFORMANCE").endHint "VR"
    let s := if s.mSustainedPerfModeOn then s.doHint "SUSTAINED_PERFORMANCE" else s
    { s with mVRModeOn := false }
  else s

def setMode (s : PowerModes) (call : Mode × Bool) : PowerModes :=
  match call.1 with
  | .sustainedPerformance => s.setSustainedPerformance call.2
  | .vr => s.setVR call.2
  | .launch =>
    if s.mVRModeOn || s.mSustainedPerfModeOn then s else s.setHint .launch call.2
  | type => s.setHint type call.2

end PowerModes

section Names

theorem isDigit_or_eq_minus_of_mem_repr {value : Int} {c : Char} (h : c ∈ value.repr.toList) :
    c.isDigit = true ∨ c = '-' := by
  have hnat {n : Nat} (hc : c ∈ n.repr.toList) : c.isDigit = true := by
    rw [Nat.repr_eq_ofList_toDigits, String.toList_ofList] at hc
    exact Nat.isDigit_of_mem_toDigits (by decide) (by decide) hc
  cases value with
  | ofNat n => exact .inl (hnat h)
  | negSucc n =>
    simp only [Int.repr, String.toList_append] at h
    rcases List.mem_append.mp h with hsign | hdigits
    · exact .inr (by simpa using hsign)
    · exact .inl (hnat hdigits)

theorem repr_ne_of_any {value : Int} {name : String}
    (h : name.toList.any (fun c => !c.isDigit && c != '-') = true) : value.repr ≠ name := by
  rintro rfl
  obtain ⟨c, hc, hother⟩ := List.any_eq_true.mp h
  rcases isDigit_or_eq_minus_of_mem_repr hc with hdigit | rfl
  · rw [hdigit] at hother
    cases hother
  · exact absurd hother (by decide)

theorem Mode.toString_injective : Function.Injective Mode.toString := by
  intro left right h
  cases left with
  | other value =>
    cases right with
    | other value' => rw [Int32.toInt_inj.mp (Numerals.int_repr_inj h)]
    | _ => exact absurd h (repr_ne_of_any (by decide))
  | _ =>
    cases right with
    | other value => exact absurd h.symm (repr_ne_of_any (by decide))
    | _ => first | rfl | simp [Mode.toString] at h

theorem Mode.toString_ne_vrSustained (type : Mode) :
    type.toString ≠ "VR_SUSTAINED_PERFORMANCE" := by
  cases type with
  | other value => exact repr_ne_of_any (by decide)
  | _ => simp [Mode.toString]

end Names

def On (calls : List (Mode × Bool)) (type : Mode) : Prop :=
  lastSet calls type = some true

instance (calls : List (Mode × Bool)) (type : Mode) : Decidable (On calls type) :=
  inferInstanceAs (Decidable (_ = _))

/-- The performance modes let a call for `type` through. -/
def Honoured (before : List (Mode × Bool)) (type : Mode) : Prop :=
  type = .launch → ¬On before .vr ∧ ¬On before .sustainedPerformance

instance (before : List (Mode × Bool)) (type : Mode) : Decidable (Honoured before type) :=
  inferInstanceAs (Decidable (_ → _))

/-- The last call for `LAUNCH` that was let through has enabled it. -/
def LaunchPending (calls : List (Mode × Bool)) : Prop :=
  Past.Last (fun before call => call.1 = .launch ∧ Honoured before .launch)
    (fun _ call => call.2 = true) calls

/-- The three hints that the performance modes swap. -/
def perfHints : List String :=
  ["VR", "SUSTAINED_PERFORMANCE", "VR_SUSTAINED_PERFORMANCE"]

structure PerfHintsMatch (s : PowerModes) : Prop where
  vr : "VR" ∈ s.hints ↔ s.mVRModeOn = true ∧ s.mSustainedPerfModeOn = false
  sustained : "SUSTAINED_PERFORMANCE" ∈ s.hints ↔
    s.mSustainedPerfModeOn = true ∧ s.mVRModeOn = false
  both : "VR_SUSTAINED_PERFORMANCE" ∈ s.hints ↔
    s.mVRModeOn = true ∧ s.mSustainedPerfModeOn = true

/-- The state as far as the last call for each mode determines it. -/
structure ModesTracked (calls : List (Mode × Bool)) (s : PowerModes) : Prop where
  vrOn : s.mVRModeOn = true ↔ On calls .vr
  sustainedOn : s.mSustainedPerfModeOn = true ↔ On calls .sustainedPerformance
  perf : PerfHintsMatch s
  launch : "LAUNCH" ∈ s.hints ↔ LaunchPending calls
  others : ∀ type before enabled, type ≠ .vr → type ≠ .sustainedPerformance →
    lastCall calls type = some (before, enabled) → Honoured before type →
      (type.toString ∈ s.hints ↔ enabled = true)

section Step

variable {calls : List (Mode × Bool)} {s : PowerModes} {type : Mode} {enabled : Bool}

theorem on_concat (calls : List (Mode × Bool)) (type type' : Mode) (enabled : Bool) :
    On (calls ++ [(type, enabled)]) type' ↔
      if type = type' then enabled = true else On calls type' := by
  rw [On, lastSet_concat]
  split
  · rw [Option.some_inj]
  · rfl

theorem launchPending_of_ne (hne : type ≠ .launch) :
    LaunchPending (calls ++ [(type, enabled)]) ↔ LaunchPending calls :=
  Past.last_concat_of_neg fun h => hne h.1

theorem honoured_iff (hvr : s.mVRModeOn = true ↔ On calls .vr)
    (hsustained : s.mSustainedPerfModeOn = true ↔ On calls .sustainedPerformance) :
    Honoured calls .launch ↔ (s.mVRModeOn || s.mSustainedPerfModeOn) = false := by
  simp [Honoured, ← hvr, ← hsustained]

theorem mem_setHint (hint : String) :
    hint ∈ (s.setHint type enabled).hints ↔
      if hint = type.toString then enabled = true else hint ∈ s.hints := by
  unfold PowerModes.setHint PowerModes.doHint PowerModes.endHint
  split_ifs <;> simp_all

theorem flags_setHint : (s.setHint type enabled).mVRModeOn = s.mVRModeOn ∧
    (s.setHint type enabled).mSustainedPerfModeOn = s.mSustainedPerfModeOn := by
  unfold PowerModes.setHint
  split <;> exact ⟨rfl, rfl⟩

theorem others_of_mem (h : ModesTracked calls s) {s' : PowerModes}
    (hself : type ≠ .vr → type ≠ .sustainedPerformance → Honoured calls type →
      (type.toString ∈ s'.hints ↔ enabled = true))
    (hother : ∀ type', type' ≠ type → type' ≠ .vr → type' ≠ .sustainedPerformance →
      (type'.toString ∈ s'.hints ↔ type'.toString ∈ s.hints))
    (type' : Mode) (before : List (Mode × Bool)) (enabled' : Bool) (hvr : type' ≠ .vr)
    (hsustained : type' ≠ .sustainedPerformance)
    (hlast : lastCall (calls ++ [(type, enabled)]) type' = some (before, enabled'))
    (hhonoured : Honoured before type') :
    type'.toString ∈ s'.hints ↔ enabled' = true := by
  rw [lastCall_concat] at hlast
  split at hlast
  · rename_i heq
    cases hlast
    cases heq
    exact hself hvr hsustained hhonoured
  · rename_i hne
    rw [hother type' (Ne.symm hne) hvr hsustained]
    exact h.others type' before enabled' hvr hsustained hlast hhonoured

theorem toString_notMem_perfHints (hvr : type ≠ .vr) (hsustained : type ≠ .sustainedPerformance) :
    type.toString ∉ perfHints := by
  have hnameVr : type.toString ≠ Mode.vr.toString := Mode.toString_injective.ne hvr
  have hnameSustained : type.toString ≠ Mode.sustainedPerformance.toString :=
    Mode.toString_injective.ne hsustained
  simp only [perfHints, List.mem_cons, List.not_mem_nil, or_false, not_or]
  exact ⟨hnameVr, hnameSustained, type.toString_ne_vrSustained⟩

theorem perfHintsMatch_setHint (h : PerfHintsMatch s) (hvr : type ≠ .vr)
    (hsustained : type ≠ .sustainedPerformance) : PerfHintsMatch (s.setHint type enabled) := by
  have hkeep (hint : String) (hperf : hint ∈ perfHints) :
      hint ∈ (s.setHint type enabled).hints ↔ hint ∈ s.hints := by
    rw [mem_setHint, if_neg]
    rintro rfl
    exact toString_notMem_perfHints hvr hsustained hperf
  constructor
  · rw [hkeep "VR" (by simp [perfHints]), flags_setHint.1, flags_setHint.2]
    exact h.vr
  · rw [hkeep "SUSTAINED_PERFORMANCE" (by simp [perfHints]), flags_setHint.1, flags_setHint.2]
    exact h.sustained
  · rw [hkeep "VR_SUSTAINED_PERFORMANCE" (by simp [perfHints]), flags_setHint.1, flags_setHint.2]
    exact h.both

theorem tracked_setHint (h : ModesTracked calls s) (hvr : type ≠ .vr)
    (hsustained : type ≠ .sustainedPerformance) (hhonoured : Honoured calls type) :
    ModesTracked (calls ++ [(type, enabled)]) (s.setHint type enabled) := by
  refine ⟨?_, ?_, perfHintsMatch_setHint h.perf hvr hsustained, ?_, others_of_mem h ?_ ?_⟩
  · rw [flags_setHint.1, on_concat, if_neg hvr]
    exact h.vrOn
  · rw [flags_setHint.2, on_concat, if_neg hsustained]
    exact h.sustainedOn
  · rw [mem_setHint]
    by_cases hlaunch : type = .launch
    · subst hlaunch
      rw [LaunchPending, Past.last_concat_of_pos]
      · rfl
      · exact ⟨rfl, hhonoured⟩
    · have hname : Mode.launch.toString ≠ type.toString :=
        Mode.toString_injective.ne (Ne.symm hlaunch)
      rw [launchPending_of_ne hlaunch]
      exact (iff_of_eq (if_neg hname)).trans h.launch
  · intro _ _ _
    rw [mem_setHint, if_pos rfl]
  · intro type' hne _ _
    rw [mem_setHint, if_neg (Mode.toString_injective.ne hne)]

theorem tracked_launch_skipped (h : ModesTracked calls s)
    (hon : (s.mVRModeOn || s.mSustainedPerfModeOn) = true) :
    ModesTracked (calls ++ [(.launch, enabled)]) s := by
  have hrefused : ¬Honoured calls .launch := by
    rw [honoured_iff h.vrOn h.sustainedOn, hon]
    exact Bool.noConfusion
  refine ⟨?_, ?_, h.perf, ?_, others_of_mem h ?_ fun _ _ _ _ => .rfl⟩
  · rw [on_concat, if_neg nofun]
    exact h.vrOn
  · rw [on_concat, if_neg nofun]
    exact h.sustainedOn
  · exact h.launch.trans (Past.last_concat_of_neg fun hcall => hrefused hcall.2).symm
  · exact fun _ _ hhonoured => absurd hhonoured hrefused

section Performance

open PowerModes

theorem flags_setVR : (s.setVR enabled).mVRModeOn = enabled ∧
    (s.setVR enabled).mSustainedPerfModeOn = s.mSustainedPerfModeOn := by
  unfold setVR doHint endHint
  dsimp only
  cases enabled <;> split_ifs <;> simp_all

theorem flags_setSustainedPerformance :
    (s.setSustainedPerformance enabled).mSustainedPerfModeOn = enabled ∧
      (s.setSustainedPerformance enabled).mVRModeOn = s.mVRModeOn := by
  unfold setSustainedPerformance doHint endHint
  dsimp only
  cases enabled <;> split_ifs <;> simp_all

theorem perfHintsMatch_setVR (h : PerfHintsMatch s) : PerfHintsMatch (s.setVR enabled) := by
  obtain ⟨hvr, hsustained, hboth⟩ := h
  constructor <;> unfold setVR doHint endHint <;> dsimp only <;> split_ifs <;> simp_all

theorem perfHintsMatch_setSustainedPerformance (h : PerfHintsMatch s) :
    PerfHintsMatch (s.setSustainedPerformance enabled) := by
  obtain ⟨hvr, hsustained, hboth⟩ := h
  constructor <;> unfold setSustainedPerformance doHint endHint <;> dsimp only <;>
    split_ifs <;> simp_all

theorem mem_setVR_of_notMem {hint : String} (h : hint ∉ perfHints) :
    hint ∈ (s.setVR enabled).hints ↔ hint ∈ s.hints := by
  simp only [perfHints, List.mem_cons, List.not_mem_nil, or_false, not_or] at h
  unfold setVR doHint endHint
  dsimp only
  split_ifs <;> simp [h]

theorem mem_setSustainedPerformance_of_notMem {hint : String} (h : hint ∉ perfHints) :
    hint ∈ (s.setSustainedPerformance enabled).hints ↔ hint ∈ s.hints := by
  simp only [perfHints, List.mem_cons, List.not_mem_nil, or_false, not_or] at h
  unfold setSustainedPerformance doHint endHint
  dsimp only
  split_ifs <;> simp [h]

end Performance

theorem tracked_setVR (h : ModesTracked calls s) :
    ModesTracked (calls ++ [(.vr, enabled)]) (s.setVR enabled) := by
  refine ⟨?_, ?_, perfHintsMatch_setVR h.perf, ?_,
    others_of_mem h (fun hne => absurd rfl hne) ?_⟩
  · rw [flags_setVR.1, on_concat, if_pos rfl]
  · rw [flags_setVR.2, on_concat, if_neg nofun]
    exact h.sustainedOn
  · rw [mem_setVR_of_notMem (by decide), launchPending_of_ne (by decide)]
    exact h.launch
  · intro type' _ hvr hsustained
    exact mem_setVR_of_notMem (toString_notMem_perfHints hvr hsustained)

theorem tracked_setSustainedPerformance (h : ModesTracked calls s) :
    ModesTracked (calls ++ [(.sustainedPerformance, enabled)])
      (s.setSustainedPerformance enabled) := by
  refine ⟨?_, ?_, perfHintsMatch_setSustainedPerformance h.perf, ?_,
    others_of_mem h (fun _ hne => absurd rfl hne) ?_⟩
  · rw [flags_setSustainedPerformance.2, on_concat, if_neg nofun]
    exact h.vrOn
  · rw [flags_setSustainedPerformance.1, on_concat, if_pos rfl]
  · rw [mem_setSustainedPerformance_of_notMem (by decide), launchPending_of_ne (by decide)]
    exact h.launch
  · intro type' _ hvr hsustained
    exact mem_setSustainedPerformance_of_notMem (toString_notMem_perfHints hvr hsustained)

theorem tracked_setMode (h : ModesTracked calls s) (call : Mode × Bool) :
    ModesTracked (calls ++ [call]) (s.setMode call) := by
  obtain ⟨type, enabled⟩ := call
  cases type with
  | sustainedPerformance => exact tracked_setSustainedPerformance h
  | vr => exact tracked_setVR h
  | launch =>
    simp only [PowerModes.setMode]
    split
    · rename_i hon
      exact tracked_launch_skipped h hon
    · rename_i hoff
      refine tracked_setHint h nofun nofun ?_
      rw [honoured_iff h.vrOn h.sustainedOn]
      exact Bool.eq_false_iff.mpr hoff
  | _ => exact tracked_setHint h nofun nofun nofun

end Step

def afterCalls (calls : List (Mode × Bool)) : PowerModes :=
  calls.foldl PowerModes.setMode (PowerModes.new "" "" "")

theorem tracked_afterCalls (calls : List (Mode × Bool)) :
    ModesTracked calls (afterCalls calls) := by
  refine foldl_holds ModesTracked ?_ (fun _ call _ h => tracked_setMode h call) calls
  refine ⟨?_, ?_, ⟨?_, ?_, ?_⟩, ?_, nofun⟩
  iterate 5 simp [PowerModes.new, On]
  exact iff_of_false (by decide) (Past.not_last_nil _ _)

structure HintsFollowModes (calls : List (Mode × Bool)) (hints : Finset String) : Prop where
  vr : "VR" ∈ hints ↔ On calls .vr ∧ ¬On calls .sustainedPerformance
  sustained : "SUSTAINED_PERFORMANCE" ∈ hints ↔
    On calls .sustainedPerformance ∧ ¬On calls .vr
  both : "VR_SUSTAINED_PERFORMANCE" ∈ hints ↔ On calls .vr ∧ On calls .sustainedPerformance
  disabled : ∀ type, type ≠ .vr → type ≠ .sustainedPerformance →
    lastSet calls type = some false → type.toString ∉ hints
  enabled : ∀ type, type ≠ .vr → type ≠ .sustainedPerformance → type ≠ .launch →
    lastSet calls type = some true → type.toString ∈ hints
  launched : ∀ before, lastCall calls .launch = some (before, true) → ¬On before .vr →
    ¬On before .sustainedPerformance → "LAUNCH" ∈ hints

/-- The hints follow the modes exactly if a last call that disables `LAUNCH` does not leave
an earlier request pending, which it does when a performance mode keeps it out. -/
theorem hints_follow_modes_iff (calls : List (Mode × Bool)) :
    HintsFollowModes calls (afterCalls calls).hints ↔
      (lastSet calls .launch = some false → ¬LaunchPending calls) := by
  have h := tracked_afterCalls calls
  constructor
  · intro hfollow hlast hpending
    exact hfollow.disabled .launch nofun nofun hlast (h.launch.mpr hpending)
  intro hlaunch
  constructor
  · rw [h.perf.vr, h.vrOn, ← h.sustainedOn, Bool.not_eq_true]
  · rw [h.perf.sustained, h.sustainedOn, ← h.vrOn, Bool.not_eq_true]
  · rw [h.perf.both, h.vrOn, h.sustainedOn]
  · intro type hvr hsustained hlast
    by_cases htype : type = .launch
    · subst htype
      exact fun hactive => hlaunch hlast (h.launch.mp hactive)
    · obtain ⟨before, hcall⟩ := exists_of_lastSet hlast
      rw [h.others type before false hvr hsustained hcall fun heq => absurd heq htype]
      exact Bool.false_ne_true
  · intro type hvr hsustained hne hlast
    obtain ⟨before, hcall⟩ := exists_of_lastSet hlast
    exact (h.others type before true hvr hsustained hcall fun heq => absurd heq hne).mpr rfl
  · intro before hcall hvr hsustained
    exact (h.others .launch before true nofun nofun hcall fun _ => ⟨hvr, hsustained⟩).mpr rfl

theorem hints_follow_modes_iff_after_vr :
    HintsFollowModes [(.launch, true), (.vr, true), (.vr, false), (.launch, false)]
      (afterCalls [(.launch, true), (.vr, true), (.vr, false), (.launch, false)]).hints := by
  refine (hints_follow_modes_iff _).mpr fun _ => ?_
  have hlast : ¬LaunchPending ([(.launch, true), (.vr, true), (.vr, false)] ++
      [(Mode.launch, false)]) := by
    rw [LaunchPending, Past.last_concat_of_pos]
    · exact Bool.false_ne_true
    · exact ⟨rfl, by decide⟩
  exact hlast

/-- `LAUNCH` stays active when it is disabled in the VR mode. -/
theorem launch_stays_active :
    lastSet [(Mode.launch, true), (.vr, true), (.launch, false)] .launch = some false ∧
      Mode.launch.toString ∈
        (afterCalls [(.launch, true), (.vr, true), (.launch, false)]).hints := by
  decide

end Exynos9810.Power
