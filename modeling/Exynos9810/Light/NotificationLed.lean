import Exynos9810.Light.Lights
import Mathlib.Tactic.Ring

/-!
# The notification LED over a sequence of calls

The blink node is rewritten by every call and follows the last state of each light.
The backlight node is only ever written while the notification has a colour.
-/
namespace Exynos9810.Light

open History

inductive Led where
  | battery
  | notifications
  | attention
  deriving DecidableEq, Repr

def Led.id : Led → Int32
  | .battery => 3
  | .notifications => 4
  | .attention => 5

def Led.shows (led : Led) (state : HwLightState) : HwLightState :=
  match led with
  | .attention => Lights.attentionShown state
  | _ => state

/-- The first of notification, attention and battery that has a colour. -/
def shownLight (states : Led → HwLightState) : Option Led :=
  [Led.notifications, .attention, .battery].find? fun led => masked (states led) ≠ 0

def blinkOf (state : HwLightState) : String :=
  if state.flashMode = .none then blinkLine (masked state) 0 0
  else blinkLine (masked state) state.flashOnMs state.flashOffMs

/-- What the blink node says for the states of the three lights. -/
def blinkText (states : Led → HwLightState) : String :=
  match shownLight states with
  | some led => blinkOf (led.shows (states led))
  | none => "0x00000000 0 0\n"

def blnText (notification : HwLightState) : String :=
  if masked notification ≠ 0 then "1\n" else "0\n"

def lastStates (calls : List (Led × HwLightState)) (led : Led) : HwLightState :=
  (lastSet calls led).getD {}

section Calibration

theorem toNat_redOf (color : UInt32) : (redOf color).toNat = color.toNat / 2 ^ 16 % 2 ^ 8 := by
  simp only [redOf, UInt32.toNat_and, UInt32.toNat_shiftRight, UInt32.reduceToNat,
    Nat.shiftRight_eq_div_pow]
  exact Nat.and_two_pow_sub_one_eq_mod _ 8

theorem toNat_greenOf (color : UInt32) : (greenOf color).toNat = color.toNat / 2 ^ 8 % 2 ^ 8 := by
  simp only [greenOf, UInt32.toNat_and, UInt32.toNat_shiftRight, UInt32.reduceToNat,
    Nat.shiftRight_eq_div_pow]
  exact Nat.and_two_pow_sub_one_eq_mod _ 8

theorem toNat_blueOf (color : UInt32) : (blueOf color).toNat = color.toNat % 2 ^ 8 := by
  simp only [blueOf, UInt32.toNat_and, UInt32.reduceToNat]
  exact Nat.and_two_pow_sub_one_eq_mod _ 8

theorem toNat_masked_lt (state : HwLightState) : (masked state).toNat < 2 ^ 24 := by
  simp only [masked, colorMask, UInt32.toNat_and, UInt32.reduceToNat]
  exact Nat.and_lt_two_pow _ (by decide)

theorem calibrateColor_full {color : UInt32} (h : color.toNat < 2 ^ 24) :
    calibrateColor color 255 = color := by
  have hred := toNat_redOf color
  have hgreen := toNat_greenOf color
  have hblue := toNat_blueOf color
  have hcomponent {component : UInt32} (hlt : component.toNat < 2 ^ 8) :
      component * ledAdjustment * 255 / 255 = component := by
    rw [← UInt32.toNat_inj]
    simp only [ledAdjustment, UInt32.mul_one, UInt32.toNat_div, UInt32.toNat_mul,
      UInt32.reduceToNat]
    omega
  unfold calibrateColor
  dsimp only
  rw [hcomponent (by omega), hcomponent (by omega), hcomponent (by omega), ← UInt32.toNat_inj]
  simp only [UInt32.toNat_add, UInt32.toNat_shiftLeft, UInt32.reduceToNat, Nat.reduceMod,
    Nat.shiftLeft_eq, hred, hgreen, hblue]
  omega

theorem masked_masked (state : HwLightState) (flashMode : FlashMode) (onMs offMs : Int32) :
    masked ⟨(masked state).toInt32, flashMode, onMs, offMs⟩ = masked state := by
  simp only [masked, UInt32.toUInt32_toInt32, UInt32.and_assoc, UInt32.and_self]

end Calibration

section Nodes

variable (s : Lights)

@[simp] theorem nodes_set_self (node : Node) (text : String) :
    (s.set node text).nodes node = text := if_pos rfl

theorem nodes_set_of_ne {node other : Node} (text : String) (h : other ≠ node) :
    (s.set node text).nodes other = s.nodes other := if_neg h

def Lights.states (led : Led) : HwLightState :=
  match led with
  | .battery => s.mBatteryState
  | .notifications => s.mNotificationState
  | .attention => s.mAttentionState

def Lights.setState (led : Led) (state : HwLightState) : Lights :=
  match led with
  | .battery => { s with mBatteryState := state }
  | .notifications => { s with mNotificationState := state }
  | .attention => { s with mAttentionState := state }

theorem states_setState (led other : Led) (state : HwLightState) :
    (s.setState led state).states other = if led = other then state else s.states other := by
  cases led <;> cases other <;> rfl

theorem nodes_setState (led : Led) (state : HwLightState) :
    (s.setState led state).nodes = s.nodes := by
  cases led <;> rfl

theorem setLightState_led (panelMaxBrightness : Option Int32) (led : Led)
    (state : HwLightState) :
    s.setLightState panelMaxBrightness led.id state =
      some (s.setState led state).setNotificationLED := by
  cases led <;> rfl

theorem showLED_full (state : HwLightState) (bln : Bool) :
    s.showLED state 255 bln =
      if bln then (s.set .ledBlink (blinkOf state)).set .ledBln (blnText state)
      else s.set .ledBlink (blinkOf state) := by
  have hcalibrated := calibrateColor_full (toNat_masked_lt state)
  unfold Lights.showLED blinkOf blnText
  by_cases hmode : state.flashMode = .none
  · have hmasked : masked { color := state.color } = masked state := rfl
    simp only [hmode, if_true, hmasked, hcalibrated, UInt32.toUInt32_toInt32, masked_masked]
  · simp only [hmode, if_false, hcalibrated, UInt32.toUInt32_toInt32, masked_masked]

theorem blinkText_eq (states : Led → HwLightState) :
    blinkText states =
      if masked (states .notifications) ≠ 0 then blinkOf (states .notifications)
      else if masked (states .attention) ≠ 0 then
        blinkOf (Lights.attentionShown (states .attention))
      else if masked (states .battery) ≠ 0 then blinkOf (states .battery)
      else "0x00000000 0 0\n" := by
  unfold blinkText shownLight
  split_ifs with hnotification hattention hbattery
  · simp [hnotification, Led.shows]
  · simp [not_not.mp hnotification, hattention, Led.shows]
  · simp [not_not.mp hnotification, not_not.mp hattention, hbattery, Led.shows]
  · simp [not_not.mp hnotification, not_not.mp hattention, not_not.mp hbattery]

theorem setNotificationLED_eq :
    s.setNotificationLED =
      if masked (s.states .notifications) ≠ 0 then
        (s.set .ledBlink (blinkText s.states)).set .ledBln "1\n"
      else s.set .ledBlink (blinkText s.states) := by
  rw [blinkText_eq]
  by_cases hnotification : masked (s.states .notifications) ≠ 0
  · rw [if_pos hnotification, if_pos hnotification, Lights.setNotificationLED]
    change (if masked (s.states .notifications) ≠ 0 then _ else _) = _
    rw [if_pos hnotification, ledBrightnessNotification, showLED_full, if_pos rfl]
    change (s.set .ledBlink (blinkOf (s.states .notifications))).set .ledBln
      (blnText (s.states .notifications)) = _
    rw [blnText, if_pos hnotification]
  · rw [if_neg hnotification, if_neg hnotification, Lights.setNotificationLED]
    change (if masked (s.states .notifications) ≠ 0 then _ else _) = _
    simp only [if_neg hnotification, ledBrightnessAttention, ledBrightnessBattery, showLED_full,
      Bool.false_eq_true, if_false]
    rw [apply_ite (s.set .ledBlink), apply_ite (s.set .ledBlink)]
    rfl

theorem ledBlink_setNotificationLED :
    s.setNotificationLED.nodes .ledBlink = blinkText s.states := by
  have hne : Node.ledBlink ≠ .ledBln := by decide
  rw [setNotificationLED_eq]
  split_ifs
  · rw [nodes_set_of_ne _ _ hne, nodes_set_self]
  · exact nodes_set_self _ _ _

theorem ledBln_setNotificationLED :
    s.setNotificationLED.nodes .ledBln =
      if masked (s.states .notifications) ≠ 0 then "1\n" else s.nodes .ledBln := by
  have hne : Node.ledBln ≠ .ledBlink := by decide
  rw [setNotificationLED_eq]
  split_ifs
  · exact nodes_set_self _ _ _
  · exact nodes_set_of_ne _ _ hne

theorem states_setNotificationLED : s.setNotificationLED.states = s.states := by
  rw [setNotificationLED_eq]
  split_ifs <;> rfl

end Nodes

def afterCalls (panelMaxBrightness : Option Int32) (nodes : Node → String)
    (calls : List (Led × HwLightState)) : Lights :=
  calls.foldl (fun s call => (s.setLightState panelMaxBrightness call.1.id call.2).getD s)
    (Lights.new nodes)

/-- What the state knows of the calls, from the nodes as the service found them. -/
structure LedTracked (nodes : Node → String) (calls : List (Led × HwLightState))
    (s : Lights) : Prop where
  states : s.states = lastStates calls
  blink : calls ≠ [] → s.nodes .ledBlink = blinkText (lastStates calls)
  lit : ∀ state, (Led.notifications, state) ∈ calls → masked state ≠ 0 → s.nodes .ledBln = "1\n"
  untouched : (∀ state, (Led.notifications, state) ∈ calls → masked state = 0) →
    s.nodes .ledBln = nodes .ledBln

theorem states_concat {calls : List (Led × HwLightState)} {s : Lights} (led : Led)
    (state : HwLightState) (h : s.states = lastStates calls) :
    (s.setState led state).states = lastStates (calls ++ [(led, state)]) := by
  funext other
  rw [states_setState, lastStates, lastSet_concat, h]
  split <;> rfl

theorem masked_lastStates {calls : List (Led × HwLightState)} {led : Led}
    (h : ∀ state, (led, state) ∈ calls → masked state = 0) :
    masked (lastStates calls led) = 0 := by
  unfold lastStates
  cases hlast : lastSet calls led with
  | none => rfl
  | some state => exact h state (mem_of_lastSet hlast)

theorem exists_of_masked_lastStates {calls : List (Led × HwLightState)} {led : Led}
    (h : masked (lastStates calls led) ≠ 0) :
    ∃ state, (led, state) ∈ calls ∧ masked state ≠ 0 := by
  by_contra hnone
  push Not at hnone
  exact h (masked_lastStates hnone)

theorem tracked_call {nodes : Node → String} {calls : List (Led × HwLightState)} {s : Lights}
    (h : LedTracked nodes calls s) (led : Led) (state : HwLightState) :
    LedTracked nodes (calls ++ [(led, state)]) (s.setState led state).setNotificationLED := by
  have hstates := states_concat led state h.states
  constructor
  · rw [states_setNotificationLED, hstates]
  · intro _
    rw [ledBlink_setNotificationLED, hstates]
  · intro state' hmem hlit
    rw [ledBln_setNotificationLED, hstates, nodes_setState]
    split_ifs with hlast
    · rfl
    · rcases List.mem_append.mp hmem with hbefore | hcall
      · exact h.lit state' hbefore hlit
      · cases List.mem_singleton.mp hcall
        rw [not_not, lastStates, lastSet_concat, if_pos rfl] at hlast
        exact absurd hlast hlit
  · intro hdark
    rw [ledBln_setNotificationLED, hstates, if_neg (not_not_intro (masked_lastStates hdark)),
      nodes_setState]
    exact h.untouched fun state' hmem => hdark state' (List.mem_append_left _ hmem)

theorem tracked_afterCalls (panelMaxBrightness : Option Int32) (nodes : Node → String)
    (calls : List (Led × HwLightState)) :
    LedTracked nodes calls (afterCalls panelMaxBrightness nodes calls) := by
  refine foldl_holds (LedTracked nodes) ?_ ?_ calls
  · refine ⟨?_, fun h => absurd rfl h, nofun, fun _ => rfl⟩
    funext led
    cases led <;> rfl
  · intro calls call s h
    rw [setLightState_led]
    exact tracked_call h call.1 call.2

/-- The blink node follows the last states once there was a call.  The backlight node follows
the last notification exactly as long as it need not be cleared: the notification has a
colour, or none had one and the node said 0 before. -/
theorem led_nodes_follow_lights_iff (panelMaxBrightness : Option Int32) (nodes : Node → String)
    (calls : List (Led × HwLightState)) :
    ((afterCalls panelMaxBrightness nodes calls).nodes .ledBlink = blinkText (lastStates calls) ↔
      (calls = [] → nodes .ledBlink = "0x00000000 0 0\n")) ∧
    ((afterCalls panelMaxBrightness nodes calls).nodes .ledBln =
        blnText (lastStates calls .notifications) ↔
      masked (lastStates calls .notifications) ≠ 0 ∨
        nodes .ledBln = "0\n" ∧
          ∀ state, (Led.notifications, state) ∈ calls → masked state = 0) := by
  have h := tracked_afterCalls panelMaxBrightness nodes calls
  constructor
  · cases calls with
    | nil => exact ⟨fun hblink _ => hblink, fun hblink => hblink rfl⟩
    | cons call rest =>
      exact iff_of_true (h.blink (List.cons_ne_nil call rest)) fun hnil => absurd hnil nofun
  · by_cases hlit : masked (lastStates calls .notifications) ≠ 0
    · obtain ⟨state, hmem, hcolor⟩ := exists_of_masked_lastStates hlit
      exact iff_of_true (by rw [h.lit state hmem hcolor, blnText, if_pos hlit]) (.inl hlit)
    · rw [or_iff_right hlit, blnText, if_neg hlit]
      by_cases hdark : ∀ state, (Led.notifications, state) ∈ calls → masked state = 0
      · rw [h.untouched hdark, and_iff_left hdark]
      · -- An earlier notification has left the node at 1.
        push Not at hdark
        obtain ⟨state, hmem, hcolor⟩ := hdark
        rw [h.lit state hmem hcolor]
        exact iff_of_false (by decide) fun hboth => hcolor (hboth.2 state hmem)

theorem led_nodes_follow_lights_iff_red :
    (afterCalls none (fun _ => "") [(.battery, { color := 0x00ff00 }),
      (.notifications, { color := 0xff0000 })]).nodes .ledBlink = "0x00ff0000 0 0\n" ∧
    (afterCalls none (fun _ => "") [(.battery, { color := 0x00ff00 }),
      (.notifications, { color := 0xff0000 })]).nodes .ledBln = "1\n" := by
  obtain ⟨hblink, hbln⟩ := led_nodes_follow_lights_iff none (fun _ => "")
    [(.battery, { color := 0x00ff00 }), (.notifications, { color := 0xff0000 })]
  exact ⟨hblink.mpr nofun, hbln.mpr (.inl (by decide))⟩

/-- A notification that is set and cleared leaves the backlight node at 1. -/
theorem backlight_stays_on :
    masked (lastStates [(.notifications, { color := 0xff0000 }), (.notifications, {})]
      .notifications) = 0 ∧
    (afterCalls none (fun _ => "0\n") [(.notifications, { color := 0xff0000 }),
      (.notifications, {})]).nodes .ledBln = "1\n" := by
  decide

end Exynos9810.Light
