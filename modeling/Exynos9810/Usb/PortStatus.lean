import Exynos9810.Usb.PortRole
import Mathlib.Tactic.Ring

/-!
# `Usb.cpp`: the status of the Type-C ports

The ports are listed from `/sys/class/typec/` and each is described by a few text
files.  `get` on a union of another tag aborts and `stoi` throws, which ends the process.
-/
namespace Exynos9810.Usb

inductive Status where
  | success
  | error
  | unrecognizedRole
  deriving DecidableEq, Repr

inductive UsbDataStatus where
  | enabled
  | disabledForce
  deriving DecidableEq, Repr

structure PortStatus where
  portName : Text := []
  currentPowerRole : PortPowerRole := .none
  currentDataRole : PortDataRole := .none
  currentMode : PortMode := .none
  canChangeMode : Bool := false
  canChangeDataRole : Bool := false
  canChangePowerRole : Bool := false
  supportedModes : List PortMode := []
  usbDataStatus : List UsbDataStatus := []
  deriving DecidableEq, Repr

inductive Fault where
  | wrongTag
  | badNumber
  deriving DecidableEq, Repr

structure DirEntry where
  /-- `d_type == DT_LNK`. -/
  isLink : Bool
  name : Text
  deriving DecidableEq, Repr

structure Sysfs where
  /-- The entries of `/sys/class/typec/`, if it can be opened. -/
  typec : Option (List DirEntry)
  /-- The text of a file, if it can be read. -/
  file : Text → Option Text

/-- The map from ports to whether they have a partner, in the order of insertion. -/
abbrev PortNames := List (Text × Bool)

def usbDataPath : Text :=
  "/sys/devices/virtual/usb_notify/usb_control/usb_data_enabled".toList

section Strings

def isSpace (c : Char) : Bool :=
  c = ' ' || '\t' ≤ c && c ≤ '\r'

def trim (text : Text) : Text :=
  ((text.dropWhile isSpace).reverse.dropWhile isSpace).reverse

/-- The length handed to `substr` wraps around when the bracket closes before it opens. -/
def extractRole (roleName : Text) : Text :=
  match roleName.idxOf? '[', roleName.idxOf? ']' with
  | some first, some last =>
    let tail := roleName.drop (first + 1)
    if first < last then tail.take (last - first - 1) else tail
  | _, _ => roleName

/-- `text.find(part) != npos`. -/
def hasPart (text part : Text) : Bool :=
  text.tails.any part.isPrefixOf

/-- The first token of `strtok(name, "-")`. -/
def strtokDash (name : Text) : Text :=
  (name.dropWhile (· = '-')).takeWhile (· ≠ '-')

/-- `none` where `stoi` throws.  What stands behind the digits is ignored. -/
def stoi (text : Text) : Option Int :=
  let body := text.dropWhile isSpace
  let (sign, unsigned) : Int × Text := match body with
    | '-' :: rest => (-1, rest)
    | '+' :: rest => (1, rest)
    | rest => (1, rest)
  let digits := unsigned.takeWhile Char.isDigit
  let value := sign * (digits.foldl (fun n c => 10 * n + (c.toNat - '0'.toNat)) 0 : Nat)
  if digits = [] ∨ value < -2 ^ 31 ∨ 2 ^ 31 ≤ value then none else some value

end Strings

section Names

/-- `insert` of a port that is not in the map yet. -/
def insertName (names : PortNames) (name : Text) : PortNames :=
  if names.any (·.1 = name) then names else names ++ [(name, false)]

/-- `names[token] = true`. -/
def connectName (names : PortNames) (token : Text) : PortNames :=
  if names.any (·.1 = token) then
    names.map fun entry => if entry.1 = token then (token, true) else entry
  else names ++ [(token, true)]

def readEntry (names : PortNames) (entry : DirEntry) : PortNames :=
  if !entry.isLink then names
  else if hasPart entry.name "-partner".toList then connectName names (strtokDash entry.name)
  else insertName names entry.name

def getTypeCPortNamesHelper (fs : Sysfs) : Option PortNames :=
  fs.typec.map (·.foldl readEntry [])

end Names

section Roles

def getAccessoryConnected (fs : Sysfs) (portName : Text) : Option Text :=
  (fs.file (kTypecPath ++ portName ++ "-partner/accessory_mode".toList)).map trim

def canSwitchRoleHelper (fs : Sysfs) (portName : Text) : Bool :=
  match fs.file (kTypecPath ++ portName ++ "-partner/supports_usb_power_delivery".toList) with
  | some supportsPD => trim supportsPD = "yes".toList
  | none => false

/-- The mode is read from the data role. -/
def roleNode (portName : Text) : PortRole.Tag → Text
  | .powerRole => kTypecPath ++ portName ++ kPowerRoleNode
  | .dataRole | .mode => kTypecPath ++ portName ++ kDataRoleNode

def clearRole : PortRole → PortRole
  | .powerRole _ => .powerRole .none
  | .dataRole _ => .dataRole .none
  | .mode _ => .mode .none

/-- The chain of comparisons; `none` is `UNRECOGNIZED_ROLE`. -/
def matchRole (currentRole : PortRole) (roleName : Text) : Option PortRole :=
  if roleName = "source".toList then some (.powerRole .source)
  else if roleName = "sink".toList then some (.powerRole .sink)
  else if roleName = "host".toList then
    if currentRole.getTag = .dataRole then some (.dataRole .host) else some (.mode .dfp)
  else if roleName = "device".toList then
    if currentRole.getTag = .dataRole then some (.dataRole .device) else some (.mode .ufp)
  else if roleName ≠ "none".toList then none
  else some currentRole

def readRole (fs : Sysfs) (portName : Text) (currentRole : PortRole) : Status × PortRole :=
  match fs.file (roleNode portName currentRole.getTag) with
  | none => (.error, currentRole)
  | some roleName =>
    match matchRole currentRole (extractRole (trim roleName)) with
    | some role => (.success, role)
    | none => (.unrecognizedRole, currentRole)

def getCurrentRoleHelper (fs : Sysfs) (portName : Text) (connected : Bool)
    (role : PortRole) : Status × PortRole :=
  let currentRole := clearRole role
  if !connected then (.success, currentRole)
  else if currentRole.getTag = .mode then
    match getAccessoryConnected fs portName with
    | none => (.error, currentRole)
    | some accessory =>
      if accessory = "analog_audio".toList then (.success, .mode .audioAccessory)
      else if accessory = "debug".toList then (.success, .mode .debugAccessory)
      else readRole fs portName currentRole
  else readRole fs portName currentRole

end Roles

section Ports

def PortRole.getPowerRole : PortRole → Option PortPowerRole
  | .powerRole role => some role
  | _ => none

def PortRole.getDataRole : PortRole → Option PortDataRole
  | .dataRole role => some role
  | _ => none

def PortRole.getMode : PortRole → Option PortMode
  | .mode role => some role
  | _ => none

/-- Ask for a role and take it out of the union; `none` is the jump to `done`. -/
def fetchRole {α : Type} (get : PortRole → Option α) (fs : Sysfs) (port : Text × Bool)
    (role : PortRole) : Except Fault (Option α) :=
  let (result, currentRole) := getCurrentRoleHelper fs port.1 port.2 role
  if result = .success then
    match get currentRole with
    | some value => .ok (some value)
    | none => .error .wrongTag
  else .ok none

/-- A node that cannot be read counts as enabled. -/
def readDataEnabled (fs : Sysfs) : Except Fault Bool :=
  match fs.file usbDataPath with
  | none => .ok true
  | some usbDataEnabled =>
    match stoi (trim usbDataEnabled) with
    | none => .error .badNumber
    | some value => .ok (value ≠ 0)

def portStatus (fs : Sysfs) (port : Text × Bool) : Except Fault (Bool × PortStatus) := do
  let status : PortStatus := { portName := port.1 }
  match ← fetchRole PortRole.getPowerRole fs port (.powerRole .none) with
  | none => return (false, status)
  | some power =>
    let status := { status with currentPowerRole := power }
    match ← fetchRole PortRole.getDataRole fs port (.dataRole .none) with
    | none => return (false, status)
    | some data =>
      let status := { status with currentDataRole := data }
      match ← fetchRole PortRole.getMode fs port (.mode .none) with
      | none => return (false, status)
      | some mode =>
        let dataEnabled ← readDataEnabled fs
        return (true, { status with
          currentMode := mode
          canChangeMode := true
          canChangeDataRole := port.2 && canSwitchRoleHelper fs port.1
          canChangePowerRole := port.2 && canSwitchRoleHelper fs port.1
          supportedModes := [.drp]
          usbDataStatus := [if dataEnabled then .enabled else .disabledForce] })

/-- The ports behind one that fails keep the values they were given by `resize`. -/
def portLoop (fs : Sysfs) : List (Text × Bool) → Except Fault (Status × List PortStatus)
  | [] => .ok (.success, [])
  | port :: rest => do
    let (goesOn, status) ← portStatus fs port
    if goesOn then
      let (result, statuses) ← portLoop fs rest
      return (result, status :: statuses)
    else return (.error, status :: rest.map fun _ => {})

/-- The map is unordered: `order` is the order in which it is walked. -/
def getPortStatusHelper (fs : Sysfs) (order : PortNames → PortNames) :
    Except Fault (Status × List PortStatus) :=
  match getTypeCPortNamesHelper fs with
  | none => .ok (.error, [])
  | some names => portLoop fs (order names)

end Ports

/-- A text that another kind of role has: its branch sets the tag of that kind. -/
def Misfit (roleName : Text) : PortRole.Tag → Prop
  | .powerRole => roleName = "host".toList ∨ roleName = "device".toList
  | .dataRole | .mode => roleName = "source".toList ∨ roleName = "sink".toList

/-- The file is read, and its text is a misfit.  An accessory is a mode without the file. -/
def Misread (fs : Sysfs) (portName : Text) (tag : PortRole.Tag) : Prop :=
  (∃ roleName, fs.file (roleNode portName tag) = some roleName ∧
    Misfit (extractRole (trim roleName)) tag) ∧
  (tag = .mode → ∃ accessory, getAccessoryConnected fs portName = some accessory ∧
    accessory ≠ "analog_audio".toList ∧ accessory ≠ "debug".toList)

def Found (fs : Sysfs) (port : Text × Bool) (role : PortRole) : Prop :=
  (getCurrentRoleHelper fs port.1 port.2 role).1 = .success

def Reported (fs : Sysfs) (port : Text × Bool) : Prop :=
  Found fs port (.powerRole .none) ∧ Found fs port (.dataRole .none) ∧
    Found fs port (.mode .none)

structure Readable (fs : Sysfs) (port : Text × Bool) : Prop where
  power : port.2 = true → ¬Misread fs port.1 .powerRole
  data : Found fs port (.powerRole .none) → port.2 = true → ¬Misread fs port.1 .dataRole
  number : Reported fs port →
    ∀ usbDataEnabled, fs.file usbDataPath = some usbDataEnabled →
      (stoi (trim usbDataEnabled)).isSome

section Tags

variable {fs : Sysfs} {portName : Text} {port : Text × Bool} {role role' : PortRole}

/-- A role is found under another tag than the one asked for. -/
def TagLost (answer : Status × PortRole) (tag : PortRole.Tag) : Prop :=
  answer.1 = .success ∧ answer.2.getTag ≠ tag

@[simp] theorem getTag_clearRole (role : PortRole) : (clearRole role).getTag = role.getTag := by
  cases role <;> rfl

theorem tag_matchRole (role : PortRole) (roleName : Text) :
    (∃ role', matchRole role roleName = some role' ∧ role'.getTag ≠ role.getTag) ↔
      Misfit roleName role.getTag := by
  have hsource : "source".toList ≠ "host".toList ∧ "source".toList ≠ "device".toList := by decide
  have hsink : "sink".toList ≠ "host".toList ∧ "sink".toList ≠ "device".toList := by decide
  unfold matchRole
  split_ifs <;> cases role <;> simp_all [Misfit, PortRole.getTag]

theorem tagLost_readRole (fs : Sysfs) (portName : Text) (role : PortRole) :
    TagLost (readRole fs portName role) role.getTag ↔
      ∃ roleName, fs.file (roleNode portName role.getTag) = some roleName ∧
        Misfit (extractRole (trim roleName)) role.getTag := by
  unfold TagLost readRole
  cases fs.file (roleNode portName role.getTag) with
  | none => simp
  | some roleName =>
    simp only [Option.some.injEq, exists_eq_left', ← tag_matchRole]
    cases matchRole role (extractRole (trim roleName)) <;> simp

theorem tagLost_accessory (fs : Sysfs) (portName : Text) (mode : PortMode) :
    TagLost (getCurrentRoleHelper fs portName true (.mode mode)) .mode ↔
      Misread fs portName .mode := by
  have hread := tagLost_readRole fs portName (.mode .none)
  simp only [getCurrentRoleHelper, Misread, clearRole, PortRole.getTag] at hread ⊢
  cases getAccessoryConnected fs portName with
  | none => simp [TagLost]
  | some accessory =>
    simp only [Bool.not_true, Bool.false_eq_true, if_false, if_true, forall_const,
      Option.some.injEq, exists_eq_left']
    split_ifs with haudio hdebug
    · simp [TagLost, PortRole.getTag, haudio]
    · simp [TagLost, PortRole.getTag, hdebug]
    · rw [hread, and_iff_left ⟨haudio, hdebug⟩]

theorem tagLost_iff (fs : Sysfs) (portName : Text) (connected : Bool) (role : PortRole) :
    TagLost (getCurrentRoleHelper fs portName connected role) role.getTag ↔
      connected = true ∧ Misread fs portName role.getTag := by
  cases connected with
  | false => simp [TagLost, getCurrentRoleHelper]
  | true =>
    cases role with
    | mode mode =>
      rw [eq_self, true_and]
      exact tagLost_accessory fs portName mode
    | powerRole power =>
      have hread := tagLost_readRole fs portName (.powerRole .none)
      simpa [getCurrentRoleHelper, Misread, clearRole, PortRole.getTag] using hread
    | dataRole data =>
      have hread := tagLost_readRole fs portName (.dataRole .none)
      simpa [getCurrentRoleHelper, Misread, clearRole, PortRole.getTag] using hread

end Tags

section Returns

variable {fs : Sysfs} {port : Text × Bool}

theorem fetchRole_cases {α : Type} (fs : Sysfs) (port : Text × Bool) (role : PortRole)
    {get : PortRole → Option α} (hget : ∀ role', get role' = none ↔ role'.getTag ≠ role.getTag) :
    (fetchRole get fs port role = .error .wrongTag ∧
        port.2 = true ∧ Misread fs port.1 role.getTag) ∨
      ((port.2 = true → ¬Misread fs port.1 role.getTag) ∧
        ((fetchRole get fs port role = .ok none ∧ ¬Found fs port role) ∨
          ∃ value, fetchRole get fs port role = .ok (some value) ∧ Found fs port role)) := by
  rw [← not_and, ← tagLost_iff, TagLost, ← hget, Found]
  unfold fetchRole
  split
  rename_i result currentRole hanswer
  simp only [hanswer]
  split_ifs with hresult
  · cases hvalue : get currentRole with
    | none => exact .inl ⟨rfl, hresult, rfl⟩
    | some value => exact .inr ⟨nofun, .inr ⟨value, rfl, hresult⟩⟩
  · exact .inr ⟨fun hlost => hresult hlost.1, .inl ⟨rfl, hresult⟩⟩

theorem misread_dataRole (h : Misread fs port.1 .mode) : Misread fs port.1 .dataRole :=
  ⟨h.1, nofun⟩

theorem readDataEnabled_ok_iff (fs : Sysfs) :
    (∃ enabled, readDataEnabled fs = .ok enabled) ↔
      ∀ usbDataEnabled, fs.file usbDataPath = some usbDataEnabled →
        (stoi (trim usbDataEnabled)).isSome := by
  unfold readDataEnabled
  cases fs.file usbDataPath with
  | none => simp
  | some usbDataEnabled =>
    simp only [Option.some.injEq, forall_eq']
    cases stoi (trim usbDataEnabled) with
    | none => simp
    | some value => exact ⟨fun _ => rfl, fun _ => ⟨_, rfl⟩⟩

theorem getPowerRole_eq_none (role : PortRole) :
    role.getPowerRole = none ↔ role.getTag ≠ .powerRole := by
  cases role <;> simp [PortRole.getPowerRole, PortRole.getTag]

theorem getDataRole_eq_none (role : PortRole) :
    role.getDataRole = none ↔ role.getTag ≠ .dataRole := by
  cases role <;> simp [PortRole.getDataRole, PortRole.getTag]

theorem getMode_eq_none (role : PortRole) : role.getMode = none ↔ role.getTag ≠ .mode := by
  cases role <;> simp [PortRole.getMode, PortRole.getTag]

theorem readable_of_lost (hpower : port.2 = true → ¬Misread fs port.1 .powerRole)
    (hdata : Found fs port (.powerRole .none) → port.2 = true → ¬Misread fs port.1 .dataRole)
    (hlost : ¬Reported fs port) (status : PortStatus) :
    Readable fs port ∧ ∃ goesOn status', (.ok (false, status) : Except Fault _) =
      .ok (goesOn, status') ∧ (goesOn = true ↔ Reported fs port) :=
  ⟨⟨hpower, hdata, fun hreported => absurd hreported hlost⟩, false, status, rfl,
    iff_of_false Bool.false_ne_true hlost⟩

/-- The body of the loop returns just for a readable port, and goes on for one it reports. -/
theorem portStatus_cases (fs : Sysfs) (port : Text × Bool) :
    (¬Readable fs port ∧ ∃ fault, portStatus fs port = .error fault) ∨
      (Readable fs port ∧ ∃ goesOn status, portStatus fs port = .ok (goesOn, status) ∧
        (goesOn = true ↔ Reported fs port)) := by
  unfold portStatus
  rcases fetchRole_cases fs port (.powerRole .none) getPowerRole_eq_none with
    ⟨hpower, hconnected, hmisread⟩ | ⟨hpowerFits, ⟨hpower, hlost⟩ | ⟨power, hpower, hpowerFound⟩⟩
  all_goals simp only [hpower, bind, Except.bind, pure, Except.pure]
  · exact .inl ⟨fun h => h.power hconnected hmisread, _, rfl⟩
  · exact .inr (readable_of_lost hpowerFits (fun hfound => absurd hfound hlost)
      (fun hreported => hlost hreported.1) _)
  rcases fetchRole_cases fs port (.dataRole .none) getDataRole_eq_none with
    ⟨hdata, hconnected, hmisread⟩ | ⟨hdataFits, ⟨hdata, hlost⟩ | ⟨data, hdata, hdataFound⟩⟩
  all_goals simp only [hdata]
  · exact .inl ⟨fun h => h.data hpowerFound hconnected hmisread, _, rfl⟩
  · exact .inr (readable_of_lost hpowerFits (fun _ => hdataFits)
      (fun hreported => hlost hreported.2.1) _)
  rcases fetchRole_cases fs port (.mode .none) getMode_eq_none with
    ⟨hmode, hconnected, hmisread⟩ | ⟨-, ⟨hmode, hlost⟩ | ⟨mode, hmode, hmodeFound⟩⟩
  all_goals simp only [hmode]
  · exact absurd (misread_dataRole hmisread) (hdataFits hconnected)
  · exact .inr (readable_of_lost hpowerFits (fun _ => hdataFits)
      (fun hreported => hlost hreported.2.2) _)
  have hreported : Reported fs port := ⟨hpowerFound, hdataFound, hmodeFound⟩
  cases henabled : readDataEnabled fs with
  | error fault =>
    refine .inl ⟨fun h => ?_, _, rfl⟩
    obtain ⟨enabled, hok⟩ := (readDataEnabled_ok_iff fs).mpr (h.number hreported)
    rw [henabled] at hok
    cases hok
  | ok enabled =>
    refine .inr ⟨⟨hpowerFits, fun _ => hdataFits, ?_⟩, _, _, rfl, ?_⟩
    · exact fun _ => (readDataEnabled_ok_iff fs).mp ⟨enabled, henabled⟩
    · exact iff_of_true rfl hreported

def ReadableWhenReached (fs : Sysfs) (ports : List (Text × Bool)) : Prop :=
  ∀ before port after, ports = before ++ port :: after →
    (∀ earlier ∈ before, Reported fs earlier) → Readable fs port

theorem readableWhenReached_cons (fs : Sysfs) (port : Text × Bool) (rest : List (Text × Bool)) :
    ReadableWhenReached fs (port :: rest) ↔
      Readable fs port ∧ (Reported fs port → ReadableWhenReached fs rest) := by
  constructor
  · refine fun h => ⟨h [] port rest rfl nofun, ?_⟩
    intro hreported before later after hsplit hbefore
    refine h (port :: before) later after (by rw [hsplit]; rfl) ?_
    rintro earlier (_ | ⟨_, hmem⟩)
    · exact hreported
    · exact hbefore earlier hmem
  · rintro ⟨hport, hrest⟩ before later after hsplit hbefore
    cases before with
    | nil =>
      cases hsplit
      exact hport
    | cons first before =>
      cases hsplit
      exact hrest (hbefore _ (.head _)) before later after rfl
        fun earlier hmem => hbefore earlier (.tail _ hmem)

theorem portLoop_ok_iff (fs : Sysfs) (ports : List (Text × Bool)) :
    (∃ result, portLoop fs ports = .ok result) ↔ ReadableWhenReached fs ports := by
  induction ports with
  | nil =>
    refine iff_of_true ⟨_, rfl⟩ ?_
    intro before port after hsplit
    cases before <;> cases hsplit
  | cons port rest ih =>
    rw [readableWhenReached_cons]
    simp only [portLoop, bind, Except.bind, pure, Except.pure]
    obtain ⟨hport, fault, hfault⟩ | ⟨hport, goesOn, status, hstatus, hgoesOn⟩ :=
      portStatus_cases fs port
    · simp [hfault, hport]
    · cases goesOn with
      | false =>
        have hlost : ¬Reported fs port := fun hreported => nomatch hgoesOn.mpr hreported
        simp [hstatus, hport, hlost]
      | true =>
        simp only [hstatus, if_true]
        rw [and_iff_right hport, forall_prop_of_true (hgoesOn.mp rfl), ← ih]
        cases portLoop fs rest with
        | error fault => simp
        | ok result => simp

end Returns

/-- A role that is found keeps its tag just when the text in its file, if it is read, fits.
The helper returns just when the texts of every port it comes to fit and the data status
it then reads is a number. -/
theorem port_status_returns_iff (fs : Sysfs) (order : PortNames → PortNames) :
    (∀ portName connected role,
      (getCurrentRoleHelper fs portName connected role).1 = .success →
      ((getCurrentRoleHelper fs portName connected role).2.getTag = role.getTag ↔
        ¬(connected = true ∧ Misread fs portName role.getTag))) ∧
    ((∃ result, getPortStatusHelper fs order = .ok result) ↔
      ∀ names ∈ getTypeCPortNamesHelper fs, ReadableWhenReached fs (order names)) := by
  constructor
  · intro portName connected role hfound
    rw [← tagLost_iff, TagLost, and_iff_right hfound, not_not]
  · unfold getPortStatusHelper
    cases getTypeCPortNamesHelper fs with
    | none => simp
    | some names => simpa using portLoop_ok_iff fs (order names)

def partnerFs (powerRole dataRole usbDataEnabled : String) : Sysfs where
  typec := some [⟨true, "port0-partner".toList⟩, ⟨true, "port0".toList⟩]
  file node :=
    if node = roleNode "port0".toList .powerRole then some powerRole.toList
    else if node = roleNode "port0".toList .dataRole then some dataRole.toList
    else if node = "/sys/class/typec/port0-partner/accessory_mode".toList then some "none\n".toList
    else if node = usbDataPath then some usbDataEnabled.toList
    else none

theorem port_status_returns_iff_sink :
    getPortStatusHelper (partnerFs "source [sink]\n" "host [device]\n" "1\n") id =
        .ok (.success, [{
          portName := "port0".toList, currentPowerRole := .sink, currentDataRole := .device
          currentMode := .ufp, canChangeMode := true, supportedModes := [.drp]
          usbDataStatus := [.enabled] }]) ∧
      ReadableWhenReached (partnerFs "source [sink]\n" "host [device]\n" "1\n")
        [("port0".toList, true)] := by
  have hreturns : getPortStatusHelper (partnerFs "source [sink]\n" "host [device]\n" "1\n") id =
      .ok (.success, [{
        portName := "port0".toList, currentPowerRole := .sink, currentDataRole := .device
        currentMode := .ufp, canChangeMode := true, supportedModes := [.drp]
        usbDataStatus := [.enabled] }]) := by
    decide +kernel
  have hnames : getTypeCPortNamesHelper (partnerFs "source [sink]\n" "host [device]\n" "1\n") =
      some [("port0".toList, true)] := by
    decide +kernel
  exact ⟨hreturns, (port_status_returns_iff _ id).2.mp ⟨_, hreturns⟩ _ hnames⟩

/-- A power role in the file of the data role, a data role in the file of the power role,
and a data status without a number. -/
theorem port_status_aborts :
    getPortStatusHelper (partnerFs "[source] sink\n" "[source] sink\n" "1\n") id =
        .error .wrongTag ∧
      getPortStatusHelper (partnerFs "host\n" "[host] device\n" "1\n") id =
        .error .wrongTag ∧
      getPortStatusHelper (partnerFs "[source] sink\n" "[host] device\n" "\n") id =
        .error .badNumber := by
  decide +kernel

end Exynos9810.Usb
