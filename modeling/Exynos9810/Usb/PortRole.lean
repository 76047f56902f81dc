import Mathlib.Tactic.Common

namespace Exynos9810.Usb

abbrev Text := List Char

inductive PortPowerRole where
  | none
  | source
  | sink
  deriving DecidableEq, Repr

inductive PortDataRole where
  | none
  | host
  | device
  deriving DecidableEq, Repr

inductive PortMode where
  | none
  | ufp
  | dfp
  | drp
  | audioAccessory
  | debugAccessory
  deriving DecidableEq, Repr

/-- The union of the three kinds of role. -/
inductive PortRole where
  | powerRole (role : PortPowerRole)
  | dataRole (role : PortDataRole)
  | mode (role : PortMode)
  deriving DecidableEq, Repr

inductive PortRole.Tag where
  | powerRole
  | dataRole
  | mode
  deriving DecidableEq, Repr

def PortRole.getTag : PortRole → PortRole.Tag
  | .powerRole _ => .powerRole
  | .dataRole _ => .dataRole
  | .mode _ => .mode

def kTypecPath : Text := "/sys/class/typec/".toList
def kDataRoleNode : Text := "/data_role".toList
def kPowerRoleNode : Text := "/power_role".toList

/-- The union has no other tag, so the node is never empty. -/
def appendRoleNodeHelper (portName : Text) : PortRole.Tag → Text
  | .dataRole => kTypecPath ++ portName ++ kDataRoleNode
  | .powerRole => kTypecPath ++ portName ++ kPowerRoleNode
  | .mode => kTypecPath ++ portName ++ "/port_type".toList

def convertRoletoString : PortRole → Text
  | .powerRole .source => "source".toList
  | .powerRole .sink => "sink".toList
  | .dataRole .host => "host".toList
  | .dataRole .device => "device".toList
  | .mode .ufp => "sink".toList
  | .mode .dfp => "source".toList
  | _ => "none".toList

/-- `string(text.c_str())`. -/
def cStr (text : Text) : Text :=
  text.takeWhile (· ≠ '\x00')

theorem convertRoletoString_ne_dual (role : PortRole) :
    convertRoletoString role ≠ "dual".toList := by
  rcases role with (_ | _ | _) | (_ | _ | _) | (_ | _ | _ | _ | _ | _) <;> decide

end Exynos9810.Usb
