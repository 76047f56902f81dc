import Exynos9810.Usb.PortStatus

namespace Exynos9810.Usb

inductive ContaminantProtectionMode where
  | none
  deriving DecidableEq, Repr

inductive ContaminantProtectionStatus where
  | none
  | forceSink
  deriving DecidableEq, Repr

inductive ContaminantDetectionStatus where
  | disabled
  | notDetected
  | detected
  deriving DecidableEq, Repr

structure Contaminant where
  supportedContaminantProtectionModes : List ContaminantProtectionMode
  contaminantProtectionStatus : ContaminantProtectionStatus
  contaminantDetectionStatus : ContaminantDetectionStatus
  supportsEnableContaminantPresenceDetection : Bool
  supportsEnableContaminantPresenceProtection : Bool
  deriving DecidableEq, Repr

namespace Contaminant

def disabled : Contaminant :=
  { supportedContaminantProtectionModes := [.none]
    contaminantProtectionStatus := .none
    contaminantDetectionStatus := .disabled
    supportsEnableContaminantPresenceDetection := true
    supportsEnableContaminantPresenceProtection := false }

def ofStatus (status : Text) : Contaminant :=
  if status = "1".toList then
    { disabled with
      contaminantProtectionStatus := .forceSink, contaminantDetectionStatus := .detected }
  else { disabled with contaminantDetectionStatus := .notDetected }

end Contaminant

/-- The first line of a file that can be opened, as a C string.  `contents` stays as it
is if there is no line. -/
def readFile (file : Option Text) (contents : Text) : Option Text :=
  match file with
  | none => none
  | some [] => some contents
  | some text => some (cStr (text.takeWhile (· ≠ '\n')))

/-- The loop; `water` is what the file holds in the turn of each port.  A port that is
not reached has its fields as they were. -/
def moistureLoop (property : Text) (status : Text) :
    List (Option Text) → Status × List (Option Contaminant)
  | [] => (.success, [])
  | file :: water =>
    if property ≠ "true".toList then
      match readFile file status with
      | none => (.error, some .disabled :: water.map fun _ => none)
      | some status =>
        let (result, ports) := moistureLoop property status water
        (result, some (.ofStatus status) :: ports)
    else
      let (result, ports) := moistureLoop property status water
      (result, some .disabled :: ports)

/-- `property` is `vendor.usb.contaminantdisable`. -/
def queryMoistureDetectionStatus (property : Text) (water : List (Option Text)) :
    Status × List (Option Contaminant) :=
  moistureLoop property [] water

/-- The line that is in `status` behind these reads. -/
def lineAfter (status : Text) (water : List (Option Text)) : Text :=
  water.foldl (fun status file => (readFile file status).getD status) status

def allOpened (water : List (Option Text)) : Bool :=
  water.all Option.isSome

/-- What port `i` is told: the line of its turn, nothing behind a failed read. -/
def portReport (status : Text) (water : List (Option Text)) (i : Nat) : Option Contaminant :=
  if allOpened (water.take (i + 1)) then some (.ofStatus (lineAfter status (water.take (i + 1))))
  else if allOpened (water.take i) then some .disabled
  else none

section Loop

variable {property : Text}

theorem moistureLoop_disabled (hproperty : property = "true".toList) (status : Text)
    (water : List (Option Text)) :
    moistureLoop property status water = (.success, water.map fun _ => some .disabled) := by
  induction water with
  | nil => rfl
  | cons file water ih =>
    rw [moistureLoop, if_neg (not_not.mpr hproperty), ih]
    rfl

theorem isSome_of_readFile {file : Option Text} {status line : Text}
    (hread : readFile file status = some line) : file.isSome = true := by
  cases file with
  | none => cases hread
  | some text => rfl

theorem portReport_succ {file : Option Text} {status line : Text}
    (hread : readFile file status = some line) (water : List (Option Text)) (i : Nat) :
    portReport status (file :: water) (i + 1) = portReport line water i := by
  have hopened (n : Nat) :
      allOpened ((file :: water).take (n + 1)) = allOpened (water.take n) := by
    simp only [List.take_succ_cons, allOpened, List.all_cons, isSome_of_readFile hread,
      Bool.true_and]
  have hline : lineAfter status ((file :: water).take (i + 1 + 1)) =
      lineAfter line (water.take (i + 1)) := by
    simp only [List.take_succ_cons, lineAfter, List.foldl_cons, hread, Option.getD_some]
  rw [portReport, portReport, hopened, hopened, hline]

theorem moistureLoop_enabled (hproperty : property ≠ "true".toList) (status : Text)
    (water : List (Option Text)) :
    moistureLoop property status water =
      (if allOpened water then .success else .error,
        (List.range water.length).map (portReport status water)) := by
  induction water generalizing status with
  | nil => rfl
  | cons file water ih =>
    rw [moistureLoop, if_pos hproperty, List.length_cons, List.range_succ_eq_map,
      List.map_cons, List.map_map]
    cases hread : readFile file status with
    | none =>
      have hfile : file = none := by
        rcases file with _ | _ | _
        · rfl
        · cases hread
        · cases hread
      subst hfile
      have hunreached : portReport status (none :: water) ∘ Nat.succ = fun _ => none := by
        funext i
        simp [portReport, allOpened]
      rw [hunreached]
      simp [portReport, allOpened, List.map_const']
    | some line =>
      have hfile := isSome_of_readFile hread
      have hrest : portReport status (file :: water) ∘ Nat.succ = portReport line water := by
        funext i
        exact portReport_succ hread water i
      dsimp only
      rw [ih line, hrest]
      simp [portReport, allOpened, lineAfter, hfile, hread]

end Loop

/-- **Contaminants.**  Switched off, every port reports a disabled detection.  Otherwise
the ports report the last line read by then, up to the first read that fails: there
the port counts as disabled, the ones behind are left out, and the result is an error. -/
theorem moisture_reported (property : Text) (water : List (Option Text)) :
    queryMoistureDetectionStatus property water =
      if property = "true".toList then (.success, water.map fun _ => some .disabled)
      else (if allOpened water then .success else .error,
        (List.range water.length).map (portReport [] water)) := by
  rw [queryMoistureDetectionStatus]
  split
  · rename_i hproperty
    exact moistureLoop_disabled hproperty [] water
  · rename_i hproperty
    exact moistureLoop_enabled hproperty [] water

/-- An empty file between two ports: the second port is told what the first one read. -/
example : queryMoistureDetectionStatus [] [some "1\n".toList, some [], none, some "0".toList] =
    (.error, [some (.ofStatus "1".toList), some (.ofStatus "1".toList), some .disabled, none]) := by
  decide

end Exynos9810.Usb
