import Exynos9810.Library.Numerals

/-!
# `Memtrack.cpp` and `GpuSysfsReader.cpp`: the memory of the GPU

The driver has a directory with two nodes for each process and the same nodes for the
whole system.  What a process shares is in one node, the total in the other; the service
reports what is shared and what is private.
-/
namespace Exynos9810.Memtrack

abbrev Text := List Char

structure Sysfs where
  /-- Whether `stat` succeeds. -/
  isThere : Text → Bool
  /-- Whether an `ifstream` is open. -/
  opens : Text → Bool
  content : Text → Text

section Reader

def kSysfsDevicePath : Text := "/sys/class/misc/mali0/device".toList
def kProcessDir : Text := "kprcs".toList
def kTotalGpuMemNode : Text := "total_gpu_mem".toList
def kDmaBufGpuMemNode : Text := "dma_buf_gpu_mem".toList

def isSpace (c : Char) : Bool :=
  c ∈ [' ', '\t', '\n', '\x0b', '\x0c', '\r']

def digitsValue (text : Text) : Nat :=
  (text.takeWhile Char.isDigit).foldl (fun n c => 10 * n + (c.toNat - '0'.toNat)) 0

def digitsToUInt64 (negative : Bool) (text : Text) : UInt64 :=
  if digitsValue text < 2 ^ 64 then
    if negative then -UInt64.ofNat (digitsValue text) else UInt64.ofNat (digitsValue text)
  else UInt64.ofNat (2 ^ 64 - 1)

/-- `file >> out`.  Without a character to read `out` stays as it is: not initialised. -/
def extract (text : Text) : Option UInt64 :=
  match text.dropWhile isSpace with
  | [] => none
  | '-' :: rest => some (digitsToUInt64 true rest)
  | '+' :: rest => some (digitsToUInt64 false rest)
  | rest => some (digitsToUInt64 false rest)

/-- The path of a node; the callers' pids are not negative. -/
def nodePath (node : Text) (pid : Int32) : Text :=
  if pid ≠ 0 then
    kSysfsDevicePath ++ '/' :: kProcessDir ++ '/' :: Nat.toDigits 10 pid.toNatClampNeg ++
      '/' :: node
  else kSysfsDevicePath ++ '/' :: node

variable (fs : Sysfs)

def readNode (node : Text) (pid : Int32) : Option UInt64 :=
  let path := nodePath node pid
  if !fs.isThere path then some 0
  else if !fs.opens path then some 0
  else extract (fs.content path)

def getDmaBufGpuMem (pid : Int32) : Option UInt64 :=
  readNode fs kDmaBufGpuMemNode pid

def getGpuMemTotal (pid : Int32) : Option UInt64 :=
  readNode fs kTotalGpuMemNode pid

def getPrivateGpuMem (pid : Int32) : Option UInt64 := do
  let dmaBufSize ← getDmaBufGpuMem fs pid
  let gpuTotalSize ← getGpuMemTotal fs pid
  return if gpuTotalSize < dmaBufSize then 0 else gpuTotalSize - dmaBufSize

end Reader

inductive MemtrackType where
  | other
  | gl
  | graphics
  | multimedia
  | camera
  | unnamed (value : Int32)
  deriving DecidableEq, Repr

inductive ExceptionCode where
  | illegalArgument
  | unsupportedOperation
  deriving DecidableEq, Repr

def flagSmapsUnaccounted : Int32 := 2

structure MemtrackRecord where
  flags : Int32
  /-- `none` is a value that was not initialised. -/
  sizeInBytes : Option Int64
  deriving DecidableEq, Repr

/-- The record for a size, converted to `long`. -/
def recordOf (size : Option UInt64) : MemtrackRecord :=
  { flags := flagSmapsUnaccounted, sizeInBytes := size.map UInt64.toInt64 }

def getMemory (fs : Sysfs) (pid : Int32) (type : MemtrackType) :
    Except ExceptionCode (List MemtrackRecord) :=
  if pid < 0 then .error .illegalArgument
  else match type with
    | .unnamed _ => .error .unsupportedOperation
    | .other | .multimedia | .camera => .ok []
    | .gl => .ok [recordOf (getPrivateGpuMem fs pid)]
    | .graphics => if pid = 0 then .ok [] else .ok [recordOf (getDmaBufGpuMem fs pid)]

section Records

variable {fs : Sysfs} {pid : Int32} {dmaBuf total : UInt64}

theorem getMemory_graphics (hpid : 0 < pid) (hdmaBuf : getDmaBufGpuMem fs pid = some dmaBuf) :
    getMemory fs pid .graphics = .ok [recordOf (some dmaBuf)] := by
  have hnonneg : ¬pid < 0 := by grind
  have hne : pid ≠ 0 := by grind
  simp [getMemory, hnonneg, hne, hdmaBuf]

theorem getMemory_gl (hpid : 0 < pid) (hdmaBuf : getDmaBufGpuMem fs pid = some dmaBuf)
    (htotal : getGpuMemTotal fs pid = some total) :
    getMemory fs pid .gl =
      .ok [recordOf (some (if total < dmaBuf then 0 else total - dmaBuf))] := by
  have hnonneg : ¬pid < 0 := by grind
  simp [getMemory, hnonneg, getPrivateGpuMem, hdmaBuf, htotal]

theorem toInt_toInt64 (size : UInt64) : size.toInt64.toInt =
    if size.toNat < 2 ^ 63 then (size.toNat : Int) else size.toNat - 2 ^ 64 := by
  have hbits : size.toInt64.toInt = size.toBitVec.toInt := rfl
  rw [hbits, BitVec.toInt_eq_toNat_cond, UInt64.toNat_toBitVec]
  split_ifs <;> omega

theorem parts_add_up_iff (dmaBuf total : UInt64) :
    (if total < dmaBuf then 0 else total - dmaBuf).toInt64.toInt + dmaBuf.toInt64.toInt =
        total.toNat ↔
      dmaBuf ≤ total ∧ dmaBuf.toNat < 2 ^ 63 ∧ (total - dmaBuf).toNat < 2 ^ 63 := by
  have hlt := UInt64.lt_iff_toNat_lt (a := total) (b := dmaBuf)
  have hle := UInt64.le_iff_toNat_le (a := dmaBuf) (b := total)
  have hdmaBuf := dmaBuf.toNat_lt
  have htotal := total.toNat_lt
  by_cases hmore : total < dmaBuf
  · rw [if_pos hmore, toInt_toInt64, toInt_toInt64, hle]
    rw [hlt] at hmore
    have hzero : (0 : UInt64).toNat = 0 := rfl
    split_ifs <;> omega
  · rw [if_neg hmore, toInt_toInt64, toInt_toInt64]
    rw [hlt] at hmore
    have hsub := UInt64.toNat_sub_of_le total dmaBuf (hle.mpr (by omega))
    rw [hsub, hle]
    split_ifs <;> omega

end Records

def AddsUp (fs : Sysfs) (pid : Int32) : Prop :=
  ∃ gl graphics total,
    getMemory fs pid .gl = .ok [⟨flagSmapsUnaccounted, some gl⟩] ∧
    getMemory fs pid .graphics = .ok [⟨flagSmapsUnaccounted, some graphics⟩] ∧
    getGpuMemTotal fs pid = some total ∧ gl.toInt + graphics.toInt = total.toNat

/-- **The memory of a process.**  What is reported as private and as shared adds up to the
total exactly if neither node is blank, no more is shared than there is, and both parts fit
into a signed size. -/
theorem gpu_memory_adds_up_iff (fs : Sysfs) (pid : Int32) (hpid : 0 < pid) :
    AddsUp fs pid ↔
      ∃ dmaBuf total, getDmaBufGpuMem fs pid = some dmaBuf ∧
        getGpuMemTotal fs pid = some total ∧ dmaBuf ≤ total ∧ dmaBuf.toNat < 2 ^ 63 ∧
        (total - dmaBuf).toNat < 2 ^ 63 := by
  constructor
  · rintro ⟨gl, graphics, total, hgl, hgraphics, htotal, hsum⟩
    cases hdmaBuf : getDmaBufGpuMem fs pid with
    | none =>
      have hnonneg : ¬pid < 0 := by grind
      have hne : pid ≠ 0 := by grind
      simp [getMemory, hnonneg, hne, hdmaBuf, recordOf] at hgraphics
    | some dmaBuf =>
      rw [getMemory_gl hpid hdmaBuf htotal] at hgl
      rw [getMemory_graphics hpid hdmaBuf] at hgraphics
      simp only [recordOf, Option.map_some, Except.ok.injEq, List.cons.injEq,
        MemtrackRecord.mk.injEq, Option.some.injEq, true_and, and_true] at hgl hgraphics
      rw [← hgl, ← hgraphics] at hsum
      exact ⟨dmaBuf, total, rfl, htotal, (parts_add_up_iff dmaBuf total).mp hsum⟩
  · rintro ⟨dmaBuf, total, hdmaBuf, htotal, hparts⟩
    exact ⟨_, _, total, getMemory_gl hpid hdmaBuf htotal, getMemory_graphics hpid hdmaBuf,
      htotal, (parts_add_up_iff dmaBuf total).mpr hparts⟩

def sysfsOf (dmaBuf total : String) : Sysfs where
  isThere path := path = nodePath kDmaBufGpuMemNode 7 ∨ path = nodePath kTotalGpuMemNode 7
  opens _ := true
  content path :=
    if path = nodePath kDmaBufGpuMemNode 7 then dmaBuf.toList
    else if path = nodePath kTotalGpuMemNode 7 then total.toList
    else []

/-- They do for the usual contents, and not when more is shared than there is. -/
theorem gpu_memory_adds_up_iff_shared :
    AddsUp (sysfsOf "4096\n" "12288\n") 7 ∧ ¬AddsUp (sysfsOf "8192\n" "4096\n") 7 := by
  refine ⟨(gpu_memory_adds_up_iff _ 7 (by decide)).mpr
    ⟨4096, 12288, by decide, by decide, by decide, by decide, by decide⟩, ?_⟩
  rw [gpu_memory_adds_up_iff _ 7 (by decide)]
  rintro ⟨dmaBuf, total, hdmaBuf, htotal, hle, -⟩
  have hread : getDmaBufGpuMem (sysfsOf "8192\n" "4096\n") 7 = some 8192 ∧
      getGpuMemTotal (sysfsOf "8192\n" "4096\n") 7 = some 4096 := by
    decide
  cases hread.1.symm.trans hdmaBuf
  cases hread.2.symm.trans htotal
  exact absurd hle (by decide)

section Paths

theorem nodePath_inj {node node' : Text} {pid pid' : Int32} (hpid : 0 < pid) (hpid' : 0 < pid')
    (h : nodePath node pid = nodePath node' pid') : pid = pid' := by
  have hne : pid ≠ 0 := by grind
  have hne' : pid' ≠ 0 := by grind
  simp only [nodePath, if_pos hne, if_pos hne', List.append_assoc, List.cons_append,
    List.append_cancel_left_eq, List.cons.injEq, true_and] at h
  have hdigits := (Numerals.toDigits_append_cons_inj (by decide) (by decide) (by decide) h).1
  rw [Int32.lt_iff_toInt_lt] at hpid hpid'
  have hzero : (0 : Int32).toInt = 0 := rfl
  apply Int32.toInt_inj.mp
  unfold Int32.toNatClampNeg at hdigits
  omega

/-- The two file systems differ at most in the nodes of processes other than `pid`. -/
def AgreeFor (pid : Int32) (fs fs' : Sysfs) : Prop :=
  ∀ path, (∀ other, 0 < other → other ≠ pid → ∀ node, path ≠ nodePath node other) →
    fs.isThere path = fs'.isThere path ∧ fs.opens path = fs'.opens path ∧
      fs.content path = fs'.content path

theorem readNode_of_agreeFor {fs fs' : Sysfs} {pid : Int32} (hpid : 0 < pid)
    (h : AgreeFor pid fs fs') (node : Text) : readNode fs node pid = readNode fs' node pid := by
  obtain ⟨hthere, hopens, hcontent⟩ := h (nodePath node pid) (by
    intro other hother hne node' heq
    exact hne (nodePath_inj hpid hother heq).symm)
  simp only [readNode, hthere, hopens, hcontent]

end Paths

/-- **Processes.**  What is reported for a process does not depend on what the driver has
for other processes. -/
theorem process_memory_isolated (fs fs' : Sysfs) (pid : Int32) (hpid : 0 < pid)
    (hagree : AgreeFor pid fs fs') (type : MemtrackType) :
    getMemory fs pid type = getMemory fs' pid type := by
  have hread := readNode_of_agreeFor hpid hagree
  have hprivate : getPrivateGpuMem fs pid = getPrivateGpuMem fs' pid := by
    simp only [getPrivateGpuMem, getDmaBufGpuMem, getGpuMemTotal, hread]
  simp only [getMemory, hprivate, getDmaBufGpuMem, hread]

theorem process_memory_isolated_other :
    getMemory (sysfsOf "1" "2") 77 .gl = getMemory (sysfsOf "3" "4") 77 .gl := by
  refine process_memory_isolated _ _ 77 (by decide) ?_ .gl
  intro path hpath
  have hother (node : Text) : path ≠ nodePath node 7 := hpath 7 (by decide) (by decide) node
  simp [sysfsOf, hother]

end Exynos9810.Memtrack
