import Exynos9810.Library.Separated

/-!
# `secril_config_svc.cpp`: properties from the EFS partition

The service reads one file and sets a property for each of its lines `key=value`.  The
test that is meant for the end of the data stops at the first empty line.
-/
namespace Exynos9810.Ril

abbrev Text := List Char

def efsOld : Text := "/efs/".toList
def efsNew : Text := "/mnt/vendor/efs/".toList
def factoryProp : Text := "factory.prop".toList
def telephonyProp : Text := "telephony.prop".toList

structure Efs where
  /-- Whether an `ifstream` on the file is good. -/
  opens : Text → Bool
  /-- The text of a file, if it can be read. -/
  file : Text → Option Text

/-- The calls of `SetProperty`, in order.  The literal `"\0"` is the empty string. -/
def loadLines : List Text → List (Text × Text)
  | [] => []
  | line :: rest =>
    if line = [] then []
    else
      match line.splitOn '=' with
      | [key, value] => (key, value) :: loadLines rest
      | _ => loadLines rest

def loadProperties (data : Text) : List (Text × Text) :=
  loadLines (data.splitOn '\n')

def propName (argument : Option Text) : Text :=
  if argument = some "NetworkConfig".toList then telephonyProp else factoryProp

def propPath (efs : Efs) (argument : Option Text) : Text :=
  if efs.opens (efsNew ++ propName argument) then efsNew ++ propName argument
  else efsOld ++ propName argument

/-- `content.c_str()`. -/
def cStr (content : Text) : Text :=
  content.takeWhile (· ≠ '\x00')

/-- `main`, given the first argument if there is one. -/
def secrilConfigSvc (efs : Efs) (argument : Option Text) : List (Text × Text) :=
  match efs.file (propPath efs argument) with
  | some content => loadProperties (cStr content)
  | none =>
    if factoryProp.isSuffixOf (propPath efs argument) then
      loadProperties "ro.vendor.multisim.simslotcount=1".toList
    else []

/-- The key and the value of a line with exactly one equals sign. -/
def asProperty (line : Text) : Option (Text × Text) :=
  if line.count '=' = 1 then
    some (line.takeWhile (· ≠ '='), (line.dropWhile (· ≠ '=')).drop 1)
  else none

/-- No property stands behind an empty line. -/
def NoneBehindBlank (lines : List Text) : Prop :=
  ∀ before after, lines = before ++ [] :: after → ∀ line ∈ after, asProperty line = none

section Lines

theorem asProperty_append {key : Text} (hkey : '=' ∉ key) (value : Text) :
    asProperty (key ++ '=' :: value) = if '=' ∈ value then none else some (key, value) := by
  have hall : ∀ c ∈ key, decide (c ≠ '=') = true :=
    fun c hc => decide_eq_true (ne_of_mem_of_not_mem hc hkey)
  have hcount : (key ++ '=' :: value).count '=' = 1 ↔ '=' ∉ value := by
    simp [List.count_eq_zero_of_not_mem hkey, List.count_eq_zero]
  rw [asProperty, List.takeWhile_append_of_pos hall, List.dropWhile_append_of_pos hall]
  rw [if_congr hcount rfl rfl, ite_not]
  simp

theorem asProperty_eq_some_iff (line key value : Text) :
    asProperty line = some (key, value) ↔
      line = key ++ '=' :: value ∧ '=' ∉ key ∧ '=' ∉ value := by
  constructor
  · intro h
    by_cases hmem : '=' ∈ line
    · obtain ⟨front, rest, rfl, hfront⟩ := List.eq_append_cons_of_mem hmem
      rw [asProperty_append hfront] at h
      split at h
      · cases h
      · cases h
        exact ⟨rfl, hfront, ‹_›⟩
    · simp [asProperty, List.count_eq_zero_of_not_mem hmem] at h
  · rintro ⟨rfl, hkey, hvalue⟩
    rw [asProperty_append hkey, if_neg hvalue]

theorem asProperty_eq_splitOn (line : Text) :
    asProperty line = match line.splitOn '=' with
      | [key, value] => some (key, value)
      | _ => none := by
  split
  · rename_i key value hsplit
    rw [asProperty_eq_some_iff]
    exact Separated.splitOn_eq_pair_iff.mp hsplit
  · rename_i hother
    cases hproperty : asProperty line with
    | none => rfl
    | some pair =>
      have hline := (asProperty_eq_some_iff line pair.1 pair.2).mp hproperty
      exact absurd (Separated.splitOn_eq_pair_iff.mpr hline) (hother pair.1 pair.2)

theorem loadLines_cons {line : Text} (hline : line ≠ []) (rest : List Text) :
    loadLines (line :: rest) = (asProperty line).toList ++ loadLines rest := by
  rw [loadLines, if_neg hline, asProperty_eq_splitOn]
  split <;> rfl

/-- What the loop sets are the first of the properties, whatever lines stand between. -/
theorem loadLines_first (lines : List Text) : loadLines lines <+: lines.filterMap asProperty := by
  induction lines with
  | nil => exact List.nil_prefix
  | cons line rest ih =>
    by_cases hline : line = []
    · rw [loadLines, if_pos hline]
      exact List.nil_prefix
    · rw [loadLines_cons hline, List.filterMap_cons]
      cases asProperty line with
      | none => exact ih
      | some pair => exact (List.prefix_append_right_inj [pair]).mpr ih

theorem noneBehindBlank_blank (rest : List Text) :
    NoneBehindBlank ([] :: rest) ↔ ∀ line ∈ rest, asProperty line = none := by
  constructor
  · exact fun h => h [] rest rfl
  · intro h before after hsplit line hline
    apply h
    cases before with
    | nil =>
      cases hsplit
      exact hline
    | cons first before =>
      cases hsplit
      exact List.mem_append_right _ (.tail _ hline)

theorem noneBehindBlank_cons {line : Text} (hline : line ≠ []) (rest : List Text) :
    NoneBehindBlank (line :: rest) ↔ NoneBehindBlank rest := by
  constructor
  · intro h before after hsplit
    exact h (line :: before) after (by rw [hsplit, List.cons_append])
  · intro h before after hsplit
    cases before with
    | nil =>
      cases hsplit
      exact absurd rfl hline
    | cons first before =>
      cases hsplit
      exact h before after rfl

theorem loadLines_eq_iff (lines : List Text) :
    loadLines lines = lines.filterMap asProperty ↔ NoneBehindBlank lines := by
  induction lines with
  | nil =>
    refine iff_of_true rfl ?_
    intro before after hsplit
    cases before <;> cases hsplit
  | cons line rest ih =>
    by_cases hline : line = []
    · rw [hline, noneBehindBlank_blank, loadLines, if_pos rfl, List.filterMap_cons_none rfl,
        eq_comm, List.filterMap_eq_nil_iff]
    · rw [noneBehindBlank_cons hline, loadLines_cons hline, ← ih, List.filterMap_cons]
      cases asProperty line <;> simp

end Lines

/-- **The properties of a file.**  The first of them are set, once each, in order and without
any others; that is all of them exactly when none stands behind an empty line. -/
theorem properties_loaded_iff (efs : Efs) (argument : Option Text) (content : Text)
    (hread : efs.file (propPath efs argument) = some content) (hnul : '\x00' ∉ content) :
    (∀ line key value, asProperty line = some (key, value) ↔
      line = key ++ '=' :: value ∧ '=' ∉ key ∧ '=' ∉ value) ∧
    secrilConfigSvc efs argument <+: (content.splitOn '\n').filterMap asProperty ∧
    (secrilConfigSvc efs argument = (content.splitOn '\n').filterMap asProperty ↔
      NoneBehindBlank (content.splitOn '\n')) := by
  refine ⟨asProperty_eq_some_iff, ?_⟩
  have hcontent : cStr content = content := by
    rw [cStr, List.takeWhile_eq_self_iff]
    exact fun c hc => decide_eq_true (ne_of_mem_of_not_mem hc hnul)
  rw [secrilConfigSvc, hread]
  dsimp only
  rw [hcontent]
  exact ⟨loadLines_first _, loadLines_eq_iff _⟩

def efsOf (content : String) : Efs where
  opens _ := true
  file _ := some content.toList

theorem properties_loaded_iff_malformed :
    secrilConfigSvc (efsOf "a=1\nb\nc=2\n") none =
      [("a".toList, "1".toList), ("c".toList, "2".toList)] ∧
    NoneBehindBlank ("a=1\nb\nc=2\n".toList.splitOn '\n') := by
  have hloaded : secrilConfigSvc (efsOf "a=1\nb\nc=2\n") none =
      [("a".toList, "1".toList), ("c".toList, "2".toList)] := by
    decide +kernel
  refine ⟨hloaded, ?_⟩
  refine (properties_loaded_iff (efsOf "a=1\nb\nc=2\n") none "a=1\nb\nc=2\n".toList rfl
    (by decide)).2.2.mp (hloaded.trans ?_)
  decide +kernel

/-- The property behind the empty line is not set. -/
theorem blank_line_ends_file :
    secrilConfigSvc (efsOf "a=1\n\nc=2\n") none = [("a".toList, "1".toList)] ∧
    ("a=1\n\nc=2\n".toList.splitOn '\n').filterMap asProperty =
      [("a".toList, "1".toList), ("c".toList, "2".toList)] := by
  decide +kernel

end Exynos9810.Ril
