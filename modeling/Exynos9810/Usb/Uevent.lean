import Mathlib.Tactic.Common

/-!
# `Usb.cpp`: what a uevent says

A uevent is a sequence of strings, each ended by a NUL.  The scanning loop stops
at the first empty string, or behind the first one that calls for a new port status.
-/
namespace Exynos9810.Usb

/-- The characters of a received message, NULs included. -/
abbrev Uevent := List Char

def ueventMsgLen : Nat := 2048

/-- The whole string matches `(add)(.*)(-partner)`; the dot takes no line break. -/
def isPartnerAdded (segment : List Char) : Bool :=
  "add".toList.isPrefixOf segment && "-partner".toList.isSuffixOf segment &&
    11 ≤ segment.length && segment.all fun c => c ≠ '\n' && c ≠ '\r'

def startsWith (segment : List Char) (text : String) : Bool :=
  text.toList.isPrefixOf segment

/-- A Type-C device, or water in the connector. -/
def isPortChange (segment : List Char) : Bool :=
  startsWith segment "DEVTYPE=typec_" || startsWith segment "CCIC=WATER" ||
    startsWith segment "CCIC=DRY"

/-- The strings that the loop of `uevent_event` can see.  An empty receive and one
that fills the buffer are dropped. -/
def segments (msg : Uevent) : List (List Char) :=
  if msg.length = 0 ∨ ueventMsgLen ≤ msg.length then []
  else (msg.splitOn '\x00').takeWhile (· ≠ [])

def leadsToQuery (segments : List (List Char)) : Bool :=
  segments.any fun segment => !isPartnerAdded segment && isPortChange segment

end Exynos9810.Usb
