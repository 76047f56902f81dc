import Exynos9810.Dtbhtool.DtbimgLocate

/-!
# The filter of `load_dtbh_block`

Five properties of the root node decide about a dtb.  Two are compared as strings
without a look at their pointer or their length, three are tested for their size only, and
a size of zero passes.  The filter is compared here with itself on the values alone.
-/
namespace Exynos9810.Dtbhtool

open ByteString

/-- What `fdt_getprop` answers for the properties of the root node: a null pointer and
a negative length for an absent one, otherwise the value and its length. -/
structure Libfdt.Serves (fdt : Libfdt) (dtb : Bytes) (root : CString → Option Bytes) : Prop where
  absent : ∀ name, root name = none →
    (fdt.getprop dtb name).1 = none ∧ (fdt.getprop dtb name).2 < 0
  present : ∀ name value, root name = some value →
    ∃ offset, fdt.getprop dtb name = (some offset, (value.length : Int)) ∧
      value <+: dtb.drop offset

def ownMemory (dtb : Bytes) (prop : Option Nat × Int) : Except Stop Bytes :=
  match prop.1 with
  | none => .error .undefined
  | some offset => .ok (slice dtb offset prop.2.toNat)

section Own

variable {fdt : Libfdt} {dtb : Bytes} {root : CString → Option Bytes}

theorem ownMemory_of_absent (hserves : fdt.Serves dtb root) {name : CString}
    (h : root name = none) : ownMemory dtb (fdt.getprop dtb name) = .error .undefined := by
  rw [ownMemory, (hserves.absent name h).1]

theorem ownMemory_of_present (hserves : fdt.Serves dtb root) {name : CString} {value : Bytes}
    (h : root name = some value) : ownMemory dtb (fdt.getprop dtb name) = .ok value := by
  obtain ⟨offset, hprop, hvalue⟩ := hserves.present name value h
  rw [hprop, ownMemory]
  exact congrArg Except.ok (List.prefix_iff_eq_take.mp hvalue).symm

theorem ownMemory_eq_ok_iff (hserves : fdt.Serves dtb root) {name : CString} {value : Bytes} :
    ownMemory dtb (fdt.getprop dtb name) = .ok value ↔ root name = some value := by
  constructor
  · intro h
    cases hroot : root name with
    | none =>
      rw [ownMemory_of_absent hserves hroot] at h
      cases h
    | some other =>
      rw [ownMemory_of_present hserves hroot] at h
      cases h
      rfl
  · exact ownMemory_of_present hserves

end Own

section Strings

/-- A property with a string that ends inside it. -/
def Terminated (root : CString → Option Bytes) (name : String) : Prop :=
  ∃ value, root name.toList = some value ∧ 0 ∈ value

def Spells (root : CString → Option Bytes) (name : String) (text : Bytes) : Prop :=
  ∃ value, root name.toList = some value ∧ text ++ [0] <+: value

def HasWord (root : CString → Option Bytes) (name : String) : Prop :=
  ∃ value, root name.toList = some value ∧ 4 ≤ value.length

theorem strcmpEq_of_mem {memory text : Bytes} (hmemory : 0 ∈ memory) (htext : 0 ∉ text) :
    strcmpEq memory text = .ok (decide (text ++ [0] <+: memory)) := by
  induction text generalizing memory with
  | nil =>
    cases memory with
    | nil => simp at hmemory
    | cons byte memory =>
      simp only [strcmpEq, List.nil_append, List.cons_prefix_cons, List.nil_prefix, and_true,
        beq_eq_decide, eq_comm]
  | cons c text ih =>
    cases memory with
    | nil => simp at hmemory
    | cons byte memory =>
      rw [List.mem_cons, not_or] at htext
      simp only [strcmpEq, List.cons_append, List.cons_prefix_cons]
      by_cases hbyte : byte = c
      · subst hbyte
        have hrest : 0 ∈ memory := (List.mem_cons.mp hmemory).resolve_left htext.1
        simp only [if_true, true_and, ih hrest htext.2]
      · rw [if_neg hbyte]
        simp [Ne.symm hbyte]

theorem mem_of_strcmpEq {memory text : Bytes} (h : strcmpEq memory text = .ok true) :
    0 ∈ memory := by
  induction text generalizing memory with
  | nil =>
    cases memory with
    | nil => cases h
    | cons byte memory =>
      rw [strcmpEq, Except.ok.injEq, beq_iff_eq] at h
      rw [h]
      exact List.mem_cons_self
  | cons c text ih =>
    cases memory with
    | nil => cases h
    | cons byte memory =>
      rw [strcmpEq] at h
      split at h
      · exact List.mem_cons_of_mem _ (ih h)
      · cases h

theorem propMatches_of_mem {memory text : Bytes} (hmemory : 0 ∈ memory) (htext : 0 ∉ text) :
    propMatches memory text = .ok (decide (text ++ [0] <+: memory)) := by
  rw [propMatches, strcmpEq_of_mem hmemory htext, ok_bind]
  split
  · rename_i hsame
    rw [hsame]
  · rename_i hdiffer
    rw [Bool.eq_false_iff.mpr hdiffer]

theorem mem_of_propMatches {memory text : Bytes} {same : Bool}
    (h : propMatches memory text = .ok same) : 0 ∈ memory := by
  obtain ⟨equal, hequal, h⟩ := bind_eq_ok h
  split at h
  · rename_i htrue
    rw [htrue] at hequal
    exact mem_of_strcmpEq hequal
  · split at h
    · assumption
    · cases h

theorem exists_propWord_iff {memory : Bytes} :
    (∃ word, propWord memory = .ok word) ↔ 4 ≤ memory.length := by
  unfold propWord
  split
  · simp
  · rename_i hshort
    refine iff_of_false ?_ ?_
    · rintro ⟨word, h⟩
      cases h
    · intro hlength
      match memory, hlength with
      | b0 :: b1 :: b2 :: b3 :: rest, _ => exact hshort b0 b1 b2 b3 rest rfl

end Strings

section Outcomes

variable {α β : Type}

/-- The computation has a result. -/
def Defined (x : Except Stop α) : Prop :=
  ∃ result, x = .ok result

theorem defined_bind_iff {x : Except Stop α} {next : α → Except Stop β} {p : Prop}
    (hnext : ∀ value, x = .ok value → (Defined (next value) ↔ p)) :
    Defined (x >>= next) ↔ Defined x ∧ p := by
  constructor
  · rintro ⟨result, h⟩
    obtain ⟨value, hvalue, h⟩ := bind_eq_ok h
    exact ⟨⟨value, hvalue⟩, (hnext value hvalue).mp ⟨result, h⟩⟩
  · rintro ⟨⟨value, hvalue⟩, hp⟩
    rw [hvalue, ok_bind]
    exact (hnext value hvalue).mpr hp

theorem defined_pure (value : α) : Defined (pure value : Except Stop α) ↔ True :=
  iff_true_intro ⟨value, rfl⟩

theorem defined_skip_iff {c : Prop} [Decidable c] {rest : Except Stop (Option α)} :
    Defined (if c then pure none else rest) ↔ c ∨ Defined rest := by
  by_cases hc : c
  · simp only [hc, if_true, true_or, defined_pure]
  · simp only [hc, if_false, false_or]

def Refines (x y : Except Stop α) : Prop :=
  ∀ result, x = .ok result → y = .ok result

theorem Refines.refl (x : Except Stop α) : Refines x x := fun _ h => h

theorem Refines.bind {x y : Except Stop α} {next next' : α → Except Stop β}
    (h : Refines x y) (hnext : ∀ value, Refines (next value) (next' value)) :
    Refines (x >>= next) (y >>= next') := by
  intro result hresult
  obtain ⟨value, hvalue, hresult⟩ := bind_eq_ok hresult
  rw [h value hvalue, ok_bind]
  exact hnext value result hresult

theorem Refines.ite {c : Prop} [Decidable c] {x y x' y' : Except Stop α} (hx : Refines x x')
    (hy : Refines y y') : Refines (if c then x else y) (if c then x' else y') := by
  split
  · exact hx
  · exact hy

end Outcomes

section Reads

variable {fdt : Libfdt} {dtb : Bytes} {root : CString → Option Bytes} {α β : Type}

/-- A comparison needs a string that ends in the value, and what follows only its equality. -/
theorem defined_matches_iff (hserves : fdt.Serves dtb root) (name : String) {text : Bytes}
    (htext : 0 ∉ text) {rest : Except Stop (Option α)} :
    Defined (ownMemory dtb (fdt.getprop dtb name.toList) >>= fun memory =>
        propMatches memory text >>= fun same => if (!same) = true then pure none else rest) ↔
      Terminated root name ∧ (Spells root name text → Defined rest) := by
  cases hroot : root name.toList with
  | none =>
    rw [ownMemory_of_absent hserves hroot]
    refine iff_of_false ?_ ?_
    · rintro ⟨result, h⟩
      cases h
    · rintro ⟨⟨value, hvalue, -⟩, -⟩
      rw [hroot] at hvalue
      cases hvalue
  | some value =>
    have hterminated : Terminated root name ↔ 0 ∈ value := by simp [Terminated, hroot]
    have hspells : Spells root name text ↔ text ++ [0] <+: value := by simp [Spells, hroot]
    rw [ownMemory_of_present hserves hroot, ok_bind, hterminated, hspells]
    by_cases hmem : 0 ∈ value
    · rw [propMatches_of_mem hmem htext, ok_bind, defined_skip_iff]
      by_cases hsame : text ++ [0] <+: value <;> simp [hmem, hsame]
    · refine iff_of_false ?_ fun h => hmem h.1
      rintro ⟨result, h⟩
      obtain ⟨same, hsame, -⟩ := bind_eq_ok h
      exact hmem (mem_of_propMatches hsame)

theorem defined_word_iff (hserves : fdt.Serves dtb root) (name : String)
    {next : UInt32 → Except Stop α} {p : Prop} (hnext : ∀ word, Defined (next word) ↔ p) :
    Defined (ownMemory dtb (fdt.getprop dtb name.toList) >>= fun memory =>
        propWord memory >>= next) ↔ HasWord root name ∧ p := by
  cases hroot : root name.toList with
  | none =>
    rw [ownMemory_of_absent hserves hroot]
    refine iff_of_false ?_ ?_
    · rintro ⟨result, h⟩
      cases h
    · rintro ⟨⟨value, hvalue, -⟩, -⟩
      rw [hroot] at hvalue
      cases hvalue
  | some value =>
    have hword : HasWord root name ↔ 4 ≤ value.length := by simp [HasWord, hroot]
    rw [ownMemory_of_present hserves hroot, ok_bind, defined_bind_iff fun word _ => hnext word,
      hword, ← exists_propWord_iff]
    rfl

theorem propMatches_refines {value memory : Bytes} (h : value <+: memory) (text : Bytes) :
    Refines (propMatches value text) (propMatches memory text) := by
  have hcmp {text : Bytes} : Refines (strcmpEq value text) (strcmpEq memory text) := by
    intro same hsame
    induction text generalizing value memory with
    | nil =>
      cases value with
      | nil => cases hsame
      | cons byte value =>
        obtain ⟨rest, rfl⟩ := h
        exact hsame
    | cons c text ih =>
      cases value with
      | nil => cases hsame
      | cons byte value =>
        obtain ⟨rest, rfl⟩ := h
        rw [List.cons_append, strcmpEq]
        rw [strcmpEq] at hsame
        split at hsame
        · rename_i hbyte
          rw [if_pos hbyte]
          exact ih (List.prefix_append value rest) hsame
        · rename_i hbyte
          rw [if_neg hbyte]
          exact hsame
  refine hcmp.bind fun same => ?_
  intro result hresult
  split at hresult
  · rename_i hsame
    rw [if_pos hsame]
    exact hresult
  · rename_i hsame
    split at hresult
    · rename_i hmem
      rw [if_neg hsame, if_pos (h.subset hmem)]
      exact hresult
    · cases hresult

theorem propWord_refines {value memory : Bytes} (h : value <+: memory) :
    Refines (propWord value) (propWord memory) := by
  intro word hword
  unfold propWord at hword
  split at hword
  · obtain ⟨rest, rfl⟩ := h
    exact hword
  · cases hword

theorem read_refines {read : Bytes → Except Stop α} {next next' : α → Except Stop β}
    (hread : ∀ value memory, value <+: memory → Refines (read value) (read memory))
    (hnext : ∀ value, Refines (next value) (next' value)) (prop : Option Nat × Int) :
    Refines (ownMemory dtb prop >>= fun memory => read memory >>= next)
      (propMemory dtb prop >>= fun memory => read memory >>= next') := by
  intro result hresult
  obtain ⟨value, hvalue, hresult⟩ := bind_eq_ok hresult
  unfold ownMemory at hvalue
  split at hvalue
  · cases hvalue
  · rename_i offset hoffset
    cases hvalue
    rw [propMemory, hoffset, ok_bind]
    exact (hread _ _ (List.take_prefix _ _)).bind hnext result hresult

end Reads

section Filter

variable {fdt : Libfdt} {dtb : Bytes} {root : CString → Option Bytes}

/-- Every read of the filter finds what it reads in the value of its property. -/
def Handled (fdt : Libfdt) (dtb : Bytes) (root : CString → Option Bytes) : Prop :=
  let len (name : String) := (fdt.getprop dtb name.toList).2
  len "model_info-chip" % 4 ≠ 0 ∨
    Terminated root "model_info-platform" ∧
    (Spells root "model_info-platform" dtbhPlatform →
      Terminated root "model_info-subtype" ∧
      (Spells root "model_info-subtype" dtbhSubtype →
        len "model_info-hw_rev" % 4 ≠ 0 ∨ len "model_info-hw_rev_end" % 4 ≠ 0 ∨
        HasWord root "model_info-chip" ∧ HasWord root "model_info-hw_rev" ∧
          HasWord root "model_info-hw_rev_end"))

theorem defined_filterDtb_iff (hserves : fdt.Serves dtb root) :
    Defined (filterDtb fdt dtb (ownMemory dtb)) ↔ Handled fdt dtb root := by
  unfold filterDtb
  dsimp only
  rw [defined_skip_iff, defined_matches_iff hserves _ (by decide),
    defined_matches_iff hserves _ (by decide), defined_skip_iff, defined_skip_iff,
    defined_word_iff hserves _ fun _ => defined_word_iff hserves _ fun _ =>
      defined_word_iff hserves _ fun _ => defined_pure _, and_true]
  rfl

theorem filterDtb_refines :
    Refines (filterDtb fdt dtb (ownMemory dtb)) (filterDtb fdt dtb (propMemory dtb)) := by
  have hmatches (text : Bytes) : ∀ value memory, value <+: memory →
      Refines (propMatches value text) (propMatches memory text) :=
    fun _ _ h => propMatches_refines h text
  have hword : ∀ value memory, value <+: memory → Refines (propWord value) (propWord memory) :=
    fun _ _ => propWord_refines
  unfold filterDtb
  dsimp only
  refine .ite (.refl _) (read_refines (hmatches _) (fun _ => .ite (.refl _)
    (read_refines (hmatches _) (fun _ => .ite (.refl _) (.ite (.refl _) (.ite (.refl _) ?_))) _)) _)
  exact read_refines hword (fun _ => read_refines hword (fun _ =>
    read_refines hword (fun _ => .refl _) _) _) _

structure Accepted (root : CString → Option Bytes) : Prop where
  chip : HasWord root "model_info-chip"
  platform : Spells root "model_info-platform" dtbhPlatform
  subtype : Spells root "model_info-subtype" dtbhSubtype
  hwRev : HasWord root "model_info-hw_rev"
  hwRevEnd : HasWord root "model_info-hw_rev_end"

theorem accepted_of_filterDtb (hserves : fdt.Serves dtb root) {taken : Dtb}
    (h : filterDtb fdt dtb (ownMemory dtb) = .ok (some taken)) :
    taken.payload = dtb ∧ Accepted root := by
  obtain ⟨hpayload, hstrings, hwords⟩ := reads_of_filterDtb h
  have hword {name : String} (hread : ∃ value word,
      ownMemory dtb (fdt.getprop dtb name.toList) = .ok value ∧ propWord value = .ok word) :
      HasWord root name := by
    obtain ⟨value, word, hvalue, hword⟩ := hread
    exact ⟨value, (ownMemory_eq_ok_iff hserves).mp hvalue, exists_propWord_iff.mp ⟨word, hword⟩⟩
  have hspells {name : String} {text : Bytes} (htext : 0 ∉ text) (hread : ∃ value,
      ownMemory dtb (fdt.getprop dtb name.toList) = .ok value ∧
        propMatches value text = .ok true) : Spells root name text := by
    obtain ⟨value, hvalue, hsame⟩ := hread
    rw [propMatches_of_mem (mem_of_propMatches hsame) htext] at hsame
    exact ⟨value, (ownMemory_eq_ok_iff hserves).mp hvalue,
      of_decide_eq_true (Except.ok.inj hsame)⟩
  simp only [List.forall_mem_cons, List.not_mem_nil, false_imp_iff, implies_true,
    and_true] at hstrings hwords
  exact ⟨hpayload, hword hwords.1, hspells (by decide) hstrings.1, hspells (by decide) hstrings.2,
    hword hwords.2.1, hword hwords.2.2⟩

end Filter

/-- The filter reads nothing but the values of its properties exactly when they are
`Handled`.  Then it skips or takes the dtb, and one that it takes has all five. -/
theorem filter_handled_iff {fdt : Libfdt} {de : DirEntry} {dtb : Bytes}
    {root : CString → Option Bytes} (hname : ".dtb".toList.isSuffixOf de.dName = true)
    (hload : loadFile de.contents = some dtb) (hcheck : fdt.checkHeader dtb = 0)
    (hserves : fdt.Serves dtb root) :
    (Defined (filterDtb fdt dtb (ownMemory dtb)) ↔ Handled fdt dtb root) ∧
      (Handled fdt dtb root → ∃ verdict, filterDtb fdt dtb (ownMemory dtb) = .ok verdict ∧
        examine fdt de = .ok verdict ∧
        ∀ taken ∈ verdict, taken.payload = dtb ∧ Accepted root) := by
  have hiff := defined_filterDtb_iff hserves
  refine ⟨hiff, ?_⟩
  intro hhandled
  obtain ⟨verdict, hverdict⟩ := hiff.mpr hhandled
  refine ⟨verdict, hverdict, ?_, ?_⟩
  · simp only [examine, hname, Bool.not_true, Bool.false_eq_true, if_false, hload, hcheck, ne_eq,
      not_true_eq_false]
    exact filterDtb_refines verdict hverdict
  · intro taken htaken
    cases htaken
    exact accepted_of_filterDtb hserves hverdict

section Samples

def tableFdt (table : List (String × Nat × Nat)) : Libfdt where
  checkHeader := sampleFdt.checkHeader
  getprop _ name :=
    match table.find? (·.1.toList = name) with
    | some (_, offset, length) => (some offset, length)
    | none => (none, -1)

def tableRoot (table : List (String × Nat × Nat)) (dtb : Bytes) (name : CString) : Option Bytes :=
  (table.find? (·.1.toList = name)).map fun row => slice dtb row.2.1 row.2.2

theorem tableFdt_serves {table : List (String × Nat × Nat)} {dtb : Bytes}
    (h : ∀ row ∈ table, row.2.1 + row.2.2 ≤ dtb.length) :
    (tableFdt table).Serves dtb (tableRoot table dtb) := by
  refine ⟨?_, ?_⟩
  · intro name hroot
    rw [tableRoot, Option.map_eq_none_iff] at hroot
    simp [tableFdt, hroot]
  · intro name value hroot
    obtain ⟨row, hrow, rfl⟩ := Option.map_eq_some_iff.mp hroot
    have hle := h row (List.mem_of_find?_eq_some hrow)
    refine ⟨row.2.1, ?_, ?_⟩
    · have hlength : (slice dtb row.2.1 row.2.2).length = row.2.2 := by
        rw [length_slice]
        omega
      simp only [tableFdt, hrow, hlength]
    · exact List.take_prefix _ _

def sampleTable : List (String × Nat × Nat) :=
  [("model_info-chip", 76, 4), ("model_info-platform", 92, 8), ("model_info-subtype", 112, 8),
    ("model_info-hw_rev", 132, 4), ("model_info-hw_rev_end", 148, 4)]

end Samples

theorem filter_handled_sample :
    Handled (tableFdt sampleTable) sampleDtb (tableRoot sampleTable sampleDtb) ∧
      ∃ verdict, examine (tableFdt sampleTable) sampleEntry = .ok verdict ∧
        ∀ taken ∈ verdict, taken.payload = sampleDtb ∧
          Accepted (tableRoot sampleTable sampleDtb) := by
  have hserves : (tableFdt sampleTable).Serves sampleDtb (tableRoot sampleTable sampleDtb) :=
    tableFdt_serves (by decide +kernel)
  have hload : loadFile sampleEntry.contents = some sampleDtb := by decide +kernel
  obtain ⟨hiff, hverdict⟩ := filter_handled_iff (by decide) hload (by decide +kernel) hserves
  have hdefined : Defined (filterDtb (tableFdt sampleTable) sampleDtb (ownMemory sampleDtb)) :=
    ⟨some ⟨sampleDtb, 9810, 0, 255⟩, by decide +kernel⟩
  have hhandled := hiff.mp hdefined
  obtain ⟨verdict, -, hexamine, htaken⟩ := hverdict hhandled
  exact ⟨hhandled, verdict, hexamine, htaken⟩

section Unhandled

def propertyNames : Bytes :=
  ascii "model_info-chip" ++ [0] ++ ascii "model_info-platform" ++ [0] ++
    ascii "model_info-subtype" ++ [0] ++ ascii "model_info-hw_rev" ++ [0] ++
    ascii "model_info-hw_rev_end" ++ [0]

def noPlatformDtb : Bytes :=
  ([0xd00dfeed, 235, 56, 140, 40, 17, 16, 0, 95, 84,
    0, 0, 0, 0,
    1, 0,
    3, 4, 0, 9810,
    3, 8, 36, 0x73616d73, 0x756e6700,
    3, 4, 55, 0,
    3, 4, 73, 255,
    2, 9] : List UInt32).flatMap (fun word => (le32 word).reverse) ++ propertyNames

def noPlatformTable : List (String × Nat × Nat) :=
  [("model_info-chip", 76, 4), ("model_info-subtype", 92, 8), ("model_info-hw_rev", 112, 4),
    ("model_info-hw_rev_end", 128, 4)]

/-- `sampleDtb` with a chip that has no value: behind it stands the next property. -/
def emptyChipDtb : Bytes :=
  ([0xd00dfeed, 251, 56, 156, 40, 17, 16, 0, 95, 100,
    0, 0, 0, 0,
    1, 0,
    3, 0, 0,
    3, 8, 16, 0x616e6472, 0x6f696400,
    3, 8, 36, 0x73616d73, 0x756e6700,
    3, 4, 55, 0,
    3, 4, 73, 255,
    2, 9] : List UInt32).flatMap (fun word => (le32 word).reverse) ++ propertyNames

def emptyChipTable : List (String × Nat × Nat) :=
  [("model_info-chip", 76, 0), ("model_info-platform", 88, 8), ("model_info-subtype", 108, 8),
    ("model_info-hw_rev", 128, 4), ("model_info-hw_rev_end", 144, 4)]

/-- `sampleDtb` with a platform of four bytes at the end, and more letters behind it. -/
def shortPlatformDtb : Bytes :=
  ([0xd00dfeed, 251, 56, 156, 40, 17, 16, 0, 95, 100,
    0, 0, 0, 0,
    1, 0,
    3, 4, 0, 9810,
    3, 8, 36, 0x73616d73, 0x756e6700,
    3, 4, 55, 0,
    3, 4, 73, 255,
    3, 4, 16, 0x616e6472, 0x6f696400,
    9] : List UInt32).flatMap (fun word => (le32 word).reverse) ++ propertyNames

def shortPlatformTable : List (String × Nat × Nat) :=
  [("model_info-chip", 76, 4), ("model_info-subtype", 92, 8), ("model_info-hw_rev", 112, 4),
    ("model_info-hw_rev_end", 128, 4), ("model_info-platform", 144, 4)]

def dtbEntry (dtb : Bytes) : DirEntry :=
  { dName := "board.dtb".toList, contents := some dtb }

end Unhandled

/-- Without a platform a null pointer is compared.  With an empty chip the dtb is taken,
and the chip of its entry is the word behind the property.  A platform of four bytes is
taken for a longer one that goes on behind it. -/
theorem filter_leaves_properties :
    ((tableFdt noPlatformTable).checkHeader noPlatformDtb = 0 ∧
      (tableFdt noPlatformTable).Serves noPlatformDtb (tableRoot noPlatformTable noPlatformDtb) ∧
      tableRoot noPlatformTable noPlatformDtb "model_info-platform".toList = none ∧
      examine (tableFdt noPlatformTable) (dtbEntry noPlatformDtb) = .error .undefined) ∧
    ((tableFdt emptyChipTable).checkHeader emptyChipDtb = 0 ∧
      (tableFdt emptyChipTable).Serves emptyChipDtb (tableRoot emptyChipTable emptyChipDtb) ∧
      tableRoot emptyChipTable emptyChipDtb "model_info-chip".toList = some [] ∧
      examine (tableFdt emptyChipTable) (dtbEntry emptyChipDtb) =
        .ok (some ⟨emptyChipDtb, 3, 0, 255⟩)) ∧
    (tableFdt shortPlatformTable).checkHeader shortPlatformDtb = 0 ∧
      (tableFdt shortPlatformTable).Serves shortPlatformDtb
        (tableRoot shortPlatformTable shortPlatformDtb) ∧
      tableRoot shortPlatformTable shortPlatformDtb "model_info-platform".toList =
        some (ascii "andr") ∧
      examine (tableFdt shortPlatformTable) (dtbEntry shortPlatformDtb) =
        .ok (some ⟨shortPlatformDtb, 9810, 0, 255⟩) := by
  refine ⟨⟨by decide +kernel, tableFdt_serves (by decide +kernel), by decide +kernel,
    by decide +kernel⟩, ⟨by decide +kernel, tableFdt_serves (by decide +kernel),
    by decide +kernel, by decide +kernel⟩, by decide +kernel,
    tableFdt_serves (by decide +kernel), by decide +kernel, by decide +kernel⟩

end Exynos9810.Dtbhtool
