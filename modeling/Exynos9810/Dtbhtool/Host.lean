import Exynos9810.Library.Bytes

/-!
# What the image tools take from the host

The tools are C programs for the build host.  A run that C gives no meaning to
(a copy past the end of a buffer, a null pointer followed, a closed stream
written) stops with `undefined` and has no result.
-/
namespace Exynos9810.Dtbhtool

open ByteString

/-- Ways in which a tool stops before it has computed its result. -/
inductive Stop where
  | exit (status : Int)
  | undefined
  deriving DecidableEq, Repr

@[simp] theorem ok_bind (value : α) (next : α → Except Stop β) :
    (Except.ok value >>= next) = next value := rfl

theorem bind_eq_ok {x : Except Stop α} {next : α → Except Stop β} {result : β}
    (h : (x >>= next) = .ok result) : ∃ value, x = .ok value ∧ next value = .ok result := by
  cases x with
  | error stop => cases h
  | ok value => exact ⟨value, rfl, h⟩

abbrev CString := List Char

def ascii (text : String) : Bytes :=
  text.toList.map fun c => UInt8.ofNat c.toNat

/-- The values that `mkbootimg` takes for `--pagesize`. -/
def pagesizes : List UInt32 :=
  [2048, 4096, 8192, 16384, 32768, 65536, 131072]

theorem exists_two_pow_of_mem_pagesizes {pagesize : UInt32} (h : pagesize ∈ pagesizes) :
    ∃ bits, 11 ≤ bits ∧ pagesize.toNat = 2 ^ bits := by
  simp only [pagesizes, List.mem_cons, List.not_mem_nil, or_false] at h
  rcases h with rfl | rfl | rfl | rfl | rfl | rfl | rfl
  · exact ⟨11, by decide, rfl⟩
  · exact ⟨12, by decide, rfl⟩
  · exact ⟨13, by decide, rfl⟩
  · exact ⟨14, by decide, rfl⟩
  · exact ⟨15, by decide, rfl⟩
  · exact ⟨16, by decide, rfl⟩
  · exact ⟨17, by decide, rfl⟩

def intOfSize (size : Nat) : Int :=
  let low : Nat := size % 2 ^ 32
  if low < 2 ^ 31 then low else (low : Int) - 2 ^ 32

/-- `load_file`: `lseek` returns a 64-bit offset that is kept in an `int`, so a
file of `2 ^ 31` bytes or more is refused or cut. -/
def loadFile (contents : Option Bytes) : Option Bytes :=
  match contents with
  | none => none
  | some bytes =>
    let sz := intOfSize bytes.length
    if sz < 0 then none else some (bytes.take sz.toNat)

theorem intOfSize_lt (size : Nat) : intOfSize size < 2 ^ 31 := by
  unfold intOfSize
  dsimp only
  split <;> omega

theorem loadFile_of_length_lt {bytes : Bytes} (h : bytes.length < 2 ^ 31) :
    loadFile (some bytes) = some bytes := by
  have hsz : intOfSize bytes.length = bytes.length := by
    rw [intOfSize, Nat.mod_eq_of_lt (by omega), if_pos h]
  simp [loadFile, hsz]

theorem length_lt_of_loadFile {contents : Option Bytes} {data : Bytes}
    (h : loadFile contents = some data) : data.length < 2 ^ 31 := by
  unfold loadFile at h
  split at h
  · contradiction
  · rename_i bytes
    have hsz := intOfSize_lt bytes.length
    dsimp only at h
    split at h
    · contradiction
    · cases Option.some.inj h
      rw [List.length_take]
      omega

def memcpy (buffer : Bytes) (offset : UInt32) (source : Bytes) : Except Stop Bytes :=
  match overwrite buffer offset.toNat source with
  | some result => .ok result
  | none => .error .undefined

/-- Whether `strcmp` finds the string at the start of `memory` equal to `text`.
Reading past the end of the memory is undefined. -/
def strcmpEq : Bytes → Bytes → Except Stop Bool
  | [], _ => .error .undefined
  | byte :: _, [] => .ok (byte == 0)
  | byte :: memory, c :: text => if byte = c then strcmpEq memory text else .ok false

end Exynos9810.Dtbhtool
