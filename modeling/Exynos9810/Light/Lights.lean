import Exynos9810.Library.History

/-!
# `Lights.cpp`: the lights service

Five lights are registered.  Three of them share one LED, which shows the first
of notification, attention and battery that has a colour.
-/
namespace Exynos9810.Light

open History

inductive FlashMode where
  | none
  | timed
  | hardware
  | other (value : Int8)
  deriving DecidableEq, Repr

/-- `HwLightState` without the brightness mode, which no handler reads. -/
structure HwLightState where
  color : Int32 := 0
  flashMode : FlashMode := .none
  flashOnMs : Int32 := 0
  flashOffMs : Int32 := 0
  deriving DecidableEq, Repr

/-- The files that the handlers write. -/
inductive Node where
  | panelBrightness
  | buttonBrightness
  | ledBlink
  | ledBln
  deriving DecidableEq, Repr

structure Lights where
  mAttentionState : HwLightState
  mBatteryState : HwLightState
  mNotificationState : HwLightState
  nodes : Node → String

def colorMask : UInt32 := 0x00ffffff
def maxInputBrightness : UInt32 := 255
def ledBrightnessBattery : UInt32 := 255
def ledBrightnessNotification : UInt32 := 255
def ledBrightnessAttention : UInt32 := 255

/-- The factor 1.0; its product with a colour component is exact. -/
def ledAdjustment : UInt32 := 1

def masked (state : HwLightState) : UInt32 :=
  state.color.toUInt32 &&& colorMask

def redOf (color : UInt32) : UInt32 := (color >>> 16) &&& 0xff
def greenOf (color : UInt32) : UInt32 := (color >>> 8) &&& 0xff
def blueOf (color : UInt32) : UInt32 := color &&& 0xff

def rgbToBrightness (state : HwLightState) : UInt32 :=
  let color := masked state
  (77 * redOf color + 150 * greenOf color + 29 * blueOf color) >>> 8

def calibrateColor (color brightness : UInt32) : UInt32 :=
  let red := redOf color * ledAdjustment
  let green := greenOf color * ledAdjustment
  let blue := blueOf color * ledAdjustment
  ((red * brightness / 255) <<< 16) + ((green * brightness / 255) <<< 8) + blue * brightness / 255

/-- The format `0x%08x %d %d` and the line end of `set`. -/
def blinkLine (color : UInt32) (flashOnMs flashOffMs : Int32) : String :=
  "0x" ++ String.ofList ((Nat.toDigits 16 color.toNat).leftpad 8 '0') ++ " " ++
    flashOnMs.toInt.repr ++ " " ++ flashOffMs.toInt.repr ++ "\n"

namespace Lights

def new (nodes : Node → String) : Lights :=
  { mAttentionState := {}, mBatteryState := {}, mNotificationState := {}, nodes }

def set (s : Lights) (node : Node) (text : String) : Lights :=
  { s with nodes := fun other => if other = node then text else s.nodes other }

def get (content : Option Int32) (default : UInt32) : UInt32 :=
  (content.map Int32.toUInt32).getD default

def handleBacklight (panelMaxBrightness : Option Int32) (s : Lights) (state : HwLightState) :
    Lights :=
  let maxBrightness := get panelMaxBrightness maxInputBrightness
  let brightness := rgbToBrightness state
  let brightness :=
    if maxBrightness ≠ maxInputBrightness then brightness * maxBrightness / maxInputBrightness
    else brightness
  s.set .panelBrightness (brightness.toNat.repr ++ "\n")

def handleButtons (s : Lights) (state : HwLightState) : Lights :=
  s.set .buttonBrightness (if masked state ≠ 0 then "1\n" else "0\n")

def attentionShown (state : HwLightState) : HwLightState :=
  let state :=
    if state.flashMode = .hardware then
      { state with
        flashMode := if 0 < state.flashOnMs ∧ state.flashOffMs = 0 then .none else state.flashMode
        color := 0x000000ff }
    else state
  if state.flashMode = .none then { state with color := 0 } else state

/-- The end of `setNotificationLED`, once a light has been chosen. -/
def showLED (s : Lights) (state : HwLightState) (adjustedBrightness : UInt32) (bln : Bool) :
    Lights :=
  let state := if state.flashMode = .none then { state with flashOnMs := 0, flashOffMs := 0 }
    else state
  let state := { state with
    color := (calibrateColor (masked state) adjustedBrightness).toInt32 }
  let s := s.set .ledBlink (blinkLine state.color.toUInt32 state.flashOnMs state.flashOffMs)
  if bln then s.set .ledBln (if masked state ≠ 0 then "1\n" else "0\n") else s

def setNotificationLED (s : Lights) : Lights :=
  if masked s.mNotificationState ≠ 0 then
    s.showLED s.mNotificationState ledBrightnessNotification true
  else if masked s.mAttentionState ≠ 0 then
    s.showLED (attentionShown s.mAttentionState) ledBrightnessAttention false
  else if masked s.mBatteryState ≠ 0 then
    s.showLED s.mBatteryState ledBrightnessBattery false
  else s.set .ledBlink "0x00000000 0 0\n"

def handleBattery (s : Lights) (state : HwLightState) : Lights :=
  setNotificationLED { s with mBatteryState := state }

def handleNotifications (s : Lights) (state : HwLightState) : Lights :=
  setNotificationLED { s with mNotificationState := state }

def handleAttention (s : Lights) (state : HwLightState) : Lights :=
  setNotificationLED { s with mAttentionState := state }

/-- `none` is the answer `EX_UNSUPPORTED_OPERATION`.  The id is cast to `LightType`, which
has one byte. -/
def setLightState (panelMaxBrightness : Option Int32) (s : Lights) (id : Int32)
    (state : HwLightState) : Option Lights :=
  match id.toInt8.toInt with
  | 0 => some (s.handleBacklight panelMaxBrightness state)
  | 2 => some (s.handleButtons state)
  | 3 => some (s.handleBattery state)
  | 4 => some (s.handleNotifications state)
  | 5 => some (s.handleAttention state)
  | _ => none

end Lights

end Exynos9810.Light
