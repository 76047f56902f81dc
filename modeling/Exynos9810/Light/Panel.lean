import Exynos9810.Library.Numerals
import Exynos9810.Light.NotificationLed

/-!
# The backlight of the panel over a sequence of calls

The brightness of a colour is scaled from 255 to the maximum that the kernel reports, in
32-bit arithmetic.  Calls for other lights, or for lights that do not exist, come in between.
The nodes can be written and the maximum stays what it is.
-/
namespace Exynos9810.Light

open History

def afterRequests (panelMaxBrightness : Option Int32) (nodes : Node → String)
    (calls : List (Int32 × HwLightState)) : Lights :=
  calls.foldl (fun s call => (s.setLightState panelMaxBrightness call.1 call.2).getD s)
    (.new nodes)

/-- The last state set for the backlight.  An id stands for the light of its last byte. -/
def lastBacklight (calls : List (Int32 × HwLightState)) : Option HwLightState :=
  lastSet (calls.map fun call => (call.1.toInt8, call.2)) 0

def panelText (panelMaxBrightness : Option Int32) (state : HwLightState) : String :=
  ((rgbToBrightness state).toNat *
    (Lights.get panelMaxBrightness maxInputBrightness).toNat / 255).repr ++ "\n"

section Brightness

theorem toNat_rgbToBrightness_le (state : HwLightState) : (rgbToBrightness state).toNat ≤ 255 := by
  have hred : (redOf (masked state)).toNat ≤ 255 := by
    rw [toNat_redOf]
    omega
  have hgreen : (greenOf (masked state)).toNat ≤ 255 := by
    rw [toNat_greenOf]
    omega
  have hblue : (blueOf (masked state)).toNat ≤ 255 := by
    rw [toNat_blueOf]
    omega
  simp only [rgbToBrightness, UInt32.toNat_shiftRight, UInt32.toNat_add, UInt32.toNat_mul,
    UInt32.reduceToNat, Nat.shiftRight_eq_div_pow, Nat.reduceMod, Nat.reducePow]
  simp (disch := omega) only [Nat.mod_eq_of_lt]
  omega

/-- What `handleBacklight` writes: the product is cut to 32 bits before it is divided. -/
def writtenText (panelMaxBrightness : Option Int32) (state : HwLightState) : String :=
  ((rgbToBrightness state).toNat *
    (Lights.get panelMaxBrightness maxInputBrightness).toNat % 2 ^ 32 / 255).repr ++ "\n"

theorem panel_handleBacklight (panelMaxBrightness : Option Int32) (s : Lights)
    (state : HwLightState) :
    (s.handleBacklight panelMaxBrightness state).nodes .panelBrightness =
      writtenText panelMaxBrightness state := by
  have hle := toNat_rgbToBrightness_le state
  unfold Lights.handleBacklight writtenText
  dsimp only
  rw [nodes_set_self]
  congr 2
  split
  · simp [maxInputBrightness, UInt32.toNat_div, UInt32.toNat_mul]
  · rename_i hmax
    rw [not_not.mp hmax]
    simp only [maxInputBrightness, UInt32.reduceToNat]
    omega

end Brightness

section Panel

variable (panelMaxBrightness : Option Int32) (s : Lights)

theorem panel_set_of_ne {node : Node} (text : String) (h : node ≠ .panelBrightness) :
    (s.set node text).nodes .panelBrightness = s.nodes .panelBrightness :=
  nodes_set_of_ne s text (Ne.symm h)

theorem panel_setNotificationLED :
    s.setNotificationLED.nodes .panelBrightness = s.nodes .panelBrightness := by
  unfold Lights.setNotificationLED Lights.showLED
  dsimp only
  split_ifs <;> simp [panel_set_of_ne]

theorem panel_setLightState (id : Int32) (state : HwLightState) :
    ((s.setLightState panelMaxBrightness id state).getD s).nodes .panelBrightness =
      if id.toInt8 = 0 then writtenText panelMaxBrightness state
      else s.nodes .panelBrightness := by
  by_cases hid : id.toInt8 = 0
  · rw [if_pos hid, Lights.setLightState, hid]
    exact panel_handleBacklight panelMaxBrightness s state
  · rw [if_neg hid]
    have hne : id.toInt8.toInt ≠ 0 := fun heq => hid (Int8.toInt_inj.mp heq)
    unfold Lights.setLightState
    split
    · contradiction
    · exact panel_set_of_ne s _ nofun
    · exact panel_setNotificationLED _
    · exact panel_setNotificationLED _
    · exact panel_setNotificationLED _
    · rfl

theorem panel_afterRequests (nodes : Node → String) (calls : List (Int32 × HwLightState)) :
    (afterRequests panelMaxBrightness nodes calls).nodes .panelBrightness =
      match lastBacklight calls with
      | some state => writtenText panelMaxBrightness state
      | none => nodes .panelBrightness := by
  refine foldl_holds (fun calls (s : Lights) => s.nodes .panelBrightness =
    match lastBacklight calls with
    | some state => writtenText panelMaxBrightness state
    | none => nodes .panelBrightness) rfl ?_ calls
  rintro calls ⟨id, state⟩ s h
  rw [panel_setLightState, lastBacklight, List.map_append, List.map_singleton, lastSet_concat, h]
  split <;> rfl

end Panel

/-- **The panel.**  Over every sequence of calls the panel has the share of its maximum that
the last call for the backlight asks for, and is left alone without one, exactly if 255 times
the maximum fits into 32 bits. -/
theorem panel_follows_backlight_iff (panelMaxBrightness : Option Int32) :
    (∀ nodes calls, (afterRequests panelMaxBrightness nodes calls).nodes .panelBrightness =
      match lastBacklight calls with
      | some state => panelText panelMaxBrightness state
      | none => nodes .panelBrightness) ↔
    (Lights.get panelMaxBrightness maxInputBrightness).toNat * 255 < 2 ^ 32 := by
  constructor
  · -- White is the colour that asks for the most.
    intro hfollows
    have hwhite := hfollows (fun _ => "") [(0, { color := 0xffffff })]
    rw [panel_afterRequests] at hwhite
    change _ ++ "\n" = _ ++ "\n" at hwhite
    have hbrightness : (rgbToBrightness { color := 0xffffff }).toNat = 255 := by decide
    have hnumber := Numerals.repr_inj ((String.append_left_inj _).mp hwhite)
    rw [hbrightness] at hnumber
    omega
  · intro hfits nodes calls
    rw [panel_afterRequests]
    cases lastBacklight calls with
    | none => rfl
    | some state =>
      have hle := Nat.mul_le_mul_right (Lights.get panelMaxBrightness maxInputBrightness).toNat
        (toNat_rgbToBrightness_le state)
      simp only [panelText, writtenText]
      rw [Nat.mod_eq_of_lt (by omega)]

/-- The id 256 is cast to the backlight. -/
example : lastBacklight [(256, { color := 0xffffff }), (4, {})] = some { color := 0xffffff } := by
  decide

end Exynos9810.Light
