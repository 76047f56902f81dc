import Mathlib.Data.List.Nodup
import Mathlib.Data.List.Perm.Basic
import Mathlib.Tactic.Ring

/-!
# `cxa_demangle.cpp`: `BumpPointerAllocator`

Nodes of the demangler are cut off the head of a list of blocks.  The first block is part
of the allocator, the others come from `malloc`.  The library is built for both
architectures of the board, which differ in the width of `size_t` and of pointers; the mask
`~15u` has four bytes on either.
-/
namespace Exynos9810.Demangle

/-- `TARGET_ARCH` and `TARGET_2ND_ARCH`. -/
inductive Arch where
  | arm64
  | arm
  deriving DecidableEq, Repr

def Arch.bits : Arch → Nat
  | .arm64 => 64
  | .arm => 32

def allocSize : Nat := 4096

/-- `sizeof(BlockMeta)`, a pointer and a `size_t`. -/
def metaSize (arch : Arch) : Nat := 2 * (arch.bits / 8)

def usableAllocSize (arch : Arch) : Nat := allocSize - metaSize arch

/-- `(N + 15u) & ~15u`. -/
def rounded (arch : Arch) (n : Nat) : Nat :=
  ((n + 15) % 2 ^ arch.bits) &&& 0xFFFFFFF0

inductive BlockId where
  | initialBuffer
  | malloced (id : Nat)
  deriving DecidableEq, Repr

structure BlockMeta where
  block : BlockId
  current : Nat
  deriving DecidableEq, Repr

/-- The blocks of `malloc` that are not freed, with their sizes. -/
structure Heap where
  live : List (Nat × Nat)
  next : Nat
  deriving DecidableEq, Repr

/-- What `allocate` returned for a request of `length` bytes, and the bytes it put aside. -/
structure Region where
  block : BlockId
  offset : Nat
  length : Nat
  reserved : Nat
  /-- `Current` of the head that the request found. -/
  current : Nat
  deriving DecidableEq, Repr

structure BumpPointerAllocator where
  blockList : List BlockMeta
  heap : Heap
  /-- The regions of the allocations since the last `reset`. -/
  handedOut : List Region
  deriving DecidableEq, Repr

inductive Stop where
  /-- `std::terminate`, when `malloc` has returned no block. -/
  | terminate
  /-- A null pointer is followed, or something is freed that is not a live block. -/
  | undefined
  deriving DecidableEq, Repr

namespace Heap

def malloc (heap : Heap) (size : Nat) : Nat × Heap :=
  (heap.next, { live := (heap.next, size) :: heap.live, next := heap.next + 1 })

def free (heap : Heap) (id : Nat) : Except Stop Heap :=
  if id ∈ heap.live.map Prod.fst then
    .ok { heap with live := heap.live.filter (·.1 ≠ id) }
  else .error .undefined

end Heap

namespace BumpPointerAllocator

def new : BumpPointerAllocator :=
  { blockList := [⟨.initialBuffer, 0⟩], heap := ⟨[], 0⟩, handedOut := [] }

/-- `mallocOk` says whether `malloc` has a block. -/
def grow (s : BumpPointerAllocator) (mallocOk : Bool) : Except Stop BumpPointerAllocator :=
  if mallocOk then
    let (id, heap) := s.heap.malloc allocSize
    .ok { s with blockList := ⟨.malloced id, 0⟩ :: s.blockList, heap }
  else .error .terminate

/-- The block goes behind the head of the list, which stays in use. -/
def allocateMassive (arch : Arch) (s : BumpPointerAllocator) (length nBytes : Nat)
    (mallocOk : Bool) : Except Stop BumpPointerAllocator :=
  if mallocOk then
    let (id, heap) := s.heap.malloc ((nBytes + metaSize arch) % 2 ^ arch.bits)
    match s.blockList with
    | [] => .error .undefined
    | head :: rest =>
      .ok { blockList := head :: ⟨.malloced id, 0⟩ :: rest, heap
            handedOut :=
              ⟨.malloced id, metaSize arch, length, nBytes, head.current⟩ :: s.handedOut }
  else .error .terminate

/-- The end of `allocate`.  The pointer is that behind the new `Current`, less `n`. -/
def take (arch : Arch) (s : BumpPointerAllocator) (length n found : Nat) :
    Except Stop BumpPointerAllocator :=
  match s.blockList with
  | [] => .error .undefined
  | head :: rest =>
    let current := (head.current + n) % 2 ^ arch.bits
    let offset := (metaSize arch + current + (2 ^ arch.bits - n)) % 2 ^ arch.bits
    .ok { s with
      blockList := ⟨head.block, current⟩ :: rest
      handedOut := ⟨head.block, offset, length, n, found⟩ :: s.handedOut }

def allocate (arch : Arch) (s : BumpPointerAllocator) (length : BitVec arch.bits)
    (mallocOk : Bool) : Except Stop BumpPointerAllocator :=
  let n := rounded arch length.toNat
  match s.blockList with
  | [] => .error .undefined
  | head :: _ =>
    if usableAllocSize arch ≤ (n + head.current) % 2 ^ arch.bits then
      if usableAllocSize arch < n then s.allocateMassive arch length.toNat n mallocOk
      else do (← s.grow mallocOk).take arch length.toNat n head.current
    else s.take arch length.toNat n head.current

def release : List BlockMeta → Heap → Except Stop Heap
  | [], heap => .ok heap
  | tmp :: blockList, heap =>
    match tmp.block with
    | .initialBuffer => release blockList heap
    | .malloced id => do release blockList (← heap.free id)

/-- Also the destructor. -/
def reset (s : BumpPointerAllocator) : Except Stop BumpPointerAllocator := do
  return { new with heap := ← release s.blockList s.heap }

end BumpPointerAllocator

inductive ArenaOp (arch : Arch) where
  | allocate (length : BitVec arch.bits) (mallocOk : Bool)
  | reset
  deriving DecidableEq, Repr

namespace BumpPointerAllocator

def apply (arch : Arch) (s : BumpPointerAllocator) :
    ArenaOp arch → Except Stop BumpPointerAllocator
  | .allocate length mallocOk => s.allocate arch length mallocOk
  | .reset => s.reset

def run (arch : Arch) (ops : List (ArenaOp arch)) : Except Stop BumpPointerAllocator :=
  ops.foldlM (apply arch) new

end BumpPointerAllocator

variable {arch : Arch}

section Rounding

theorem Arch.le_bits (arch : Arch) : 32 ≤ arch.bits := by
  cases arch <;> decide

theorem metaSize_add_usableAllocSize (arch : Arch) :
    metaSize arch + usableAllocSize arch = allocSize := by
  cases arch <;> decide

theorem metaSize_dvd_of_dvd {n : Nat} (h : 16 ∣ n) : metaSize arch ∣ n :=
  Nat.dvd_trans (by cases arch <;> decide) h

theorem dvd_mod_bits {n : Nat} (h : 16 ∣ n) : 16 ∣ n % 2 ^ arch.bits :=
  (Nat.dvd_mod_iff (Nat.dvd_trans (by decide : 16 ∣ 2 ^ 32)
    (Nat.pow_dvd_pow 2 arch.le_bits))).mpr h

theorem rounded_eq (arch : Arch) (n : Nat) :
    rounded arch n = (n + 15) % 2 ^ 32 / 2 ^ 4 * 2 ^ 4 := by
  have hmask : (0xFFFFFFF0 : Nat) = (2 ^ 28 - 1) * 2 ^ 4 := by norm_num
  have hbits := arch.le_bits
  apply Nat.eq_of_testBit_eq
  intro i
  rw [rounded, hmask, Nat.testBit_and, Nat.testBit_mul_two_pow, Nat.testBit_mul_two_pow,
    Nat.testBit_div_two_pow, Nat.testBit_mod_two_pow, Nat.testBit_mod_two_pow,
    Nat.testBit_two_pow_sub_one]
  by_cases hlow : 4 ≤ i
  · have hshift : i - 4 + 4 = i := by omega
    by_cases hi : i < 32
    · have hmasked : i - 4 < 28 := by omega
      have hword : i < arch.bits := by omega
      simp [hlow, hi, hmasked, hword, hshift]
    · have hmasked : ¬i - 4 < 28 := by omega
      simp [hlow, hi, hmasked, hshift]
  · simp [hlow]

theorem rounded_le (arch : Arch) (n : Nat) : rounded arch n + 16 ≤ 2 ^ 32 := by
  rw [rounded_eq]
  omega

theorem dvd_rounded (arch : Arch) (n : Nat) : 16 ∣ rounded arch n := by
  rw [rounded_eq]
  exact Nat.dvd_mul_left _ _

theorem le_rounded {n : Nat} (h : n + 15 < 2 ^ 32) : n ≤ rounded arch n := by
  rw [rounded_eq]
  omega

theorem allocSize_lt_of_wrap {n current : Nat} (hn : n < 2 ^ arch.bits)
    (hcurrent : current ≤ usableAllocSize arch)
    (hwrap : 2 ^ arch.bits ≤ rounded arch n + current) : allocSize < n := by
  rw [rounded_eq] at hwrap
  cases arch <;> simp only [Arch.bits, usableAllocSize, allocSize, metaSize] at * <;> omega

end Rounding

def Heap.Holds (heap : Heap) : BlockId → Nat → Prop
  | .initialBuffer, size => size = allocSize
  | .malloced id, size => (id, size) ∈ heap.live

structure Heap.Valid (arch : Arch) (heap : Heap) : Prop where
  unique : (heap.live.map Prod.fst).Nodup
  fresh : ∀ block ∈ heap.live, block.1 < heap.next
  sizes : ∀ block ∈ heap.live, block.2 + 16 ≤ 2 ^ 32 + metaSize arch

namespace Region

/-- No byte of one is a byte of the other, of as many bytes as `bytes` says. -/
def Apart (bytes : Region → Nat) (r r' : Region) : Prop :=
  r.block ≠ r'.block ∨ r.offset + bytes r ≤ r'.offset ∨ r'.offset + bytes r' ≤ r.offset

def Within (arch : Arch) (bytes : Region → Nat) (heap : Heap) (r : Region) : Prop :=
  metaSize arch ≤ r.offset ∧ ∃ size, heap.Holds r.block size ∧ r.offset + bytes r ≤ size

/-- `N + BlockList->Current` has not wrapped around. -/
def NoWrap (arch : Arch) (r : Region) : Prop :=
  r.reserved + r.current < 2 ^ arch.bits

instance (arch : Arch) (r : Region) : Decidable (r.NoWrap arch) :=
  inferInstanceAs (Decidable (_ < _))

/-- What holds of a region in any case.  One whose sum has wrapped is in a small block. -/
structure Placed (arch : Arch) (heap : Heap) (r : Region) : Prop where
  requested : r.reserved = rounded arch r.length ∧ r.length < 2 ^ arch.bits
  found : r.current ≤ usableAllocSize arch
  aligned : metaSize arch ∣ r.offset
  block : ∃ size, heap.Holds r.block size ∧ (¬r.NoWrap arch → size = allocSize)

end Region

namespace BumpPointerAllocator

/-- The head of the list is a small block, used up to `current`. -/
structure CutFrom (arch : Arch) (s : BumpPointerAllocator) (head : BlockMeta) : Prop where
  size : s.heap.Holds head.block allocSize
  current : head.current ≤ usableAllocSize arch
  aligned : 16 ∣ head.current

/-- What the code means to put aside for the requests is theirs alone. -/
structure Separate (arch : Arch) (s : BumpPointerAllocator) (head : BlockMeta) : Prop where
  within : ∀ r ∈ s.handedOut, r.Within arch Region.reserved s.heap
  apart : s.handedOut.Pairwise (Region.Apart Region.reserved)
  used : ∀ r ∈ s.handedOut, r.block = head.block →
    r.offset + r.reserved ≤ metaSize arch + head.current

structure Sound (arch : Arch) (s : BumpPointerAllocator) : Prop where
  heap : s.heap.Valid arch
  owned : (s.blockList.map BlockMeta.block).Perm
    (.initialBuffer :: s.heap.live.map fun block => .malloced block.1)
  placed : ∀ r ∈ s.handedOut, r.Placed arch s.heap
  head : ∃ head rest, s.blockList = head :: rest ∧ s.CutFrom arch head ∧
    ((∀ r ∈ s.handedOut, r.NoWrap arch) → s.Separate arch head)

end BumpPointerAllocator

section Malloc

variable {heap : Heap} {block : BlockId} {size : Nat}

theorem Heap.Holds.malloc (h : heap.Holds block size) (n : Nat) :
    (heap.malloc n).2.Holds block size := by
  cases block with
  | initialBuffer => exact h
  | malloced id => exact .tail _ h

theorem Heap.holds_malloc (heap : Heap) (n : Nat) :
    (heap.malloc n).2.Holds (.malloced heap.next) n :=
  List.mem_cons_self

theorem Heap.Valid.ne_next (h : heap.Valid arch) (hholds : heap.Holds block size) :
    block ≠ .malloced heap.next := by
  rintro rfl
  exact Nat.lt_irrefl _ (h.fresh _ hholds)

theorem Heap.Valid.malloc (h : heap.Valid arch) {n : Nat}
    (hn : n + 16 ≤ 2 ^ 32 + metaSize arch) : (heap.malloc n).2.Valid arch := by
  constructor
  · apply List.nodup_cons.mpr
    refine ⟨?_, h.unique⟩
    intro hmem
    obtain ⟨block, hblock, hnext⟩ := List.mem_map.mp hmem
    exact absurd (h.fresh block hblock) (by omega)
  · intro block hblock
    rcases List.mem_cons.mp hblock with rfl | hblock
    · exact Nat.lt_succ_self _
    · exact Nat.lt_succ_of_lt (h.fresh block hblock)
  · intro block hblock
    rcases List.mem_cons.mp hblock with rfl | hblock
    · exact hn
    · exact h.sizes block hblock

theorem Heap.Valid.size_le (h : heap.Valid arch) (hholds : heap.Holds block size) :
    size + 16 ≤ 2 ^ 32 + metaSize arch := by
  cases block with
  | initialBuffer =>
    rw [show size = allocSize from hholds, allocSize]
    omega
  | malloced id => exact h.sizes _ hholds

theorem Heap.Valid.size_eq (h : heap.Valid arch) {size' : Nat} (hholds : heap.Holds block size)
    (hholds' : heap.Holds block size') : size = size' := by
  cases block with
  | initialBuffer => exact hholds.trans hholds'.symm
  | malloced id =>
    have heq := List.inj_on_of_nodup_map h.unique hholds hholds' rfl
    exact (Prod.mk.inj heq).2

theorem Region.Placed.malloc {r : Region} (h : r.Placed arch heap) (n : Nat) :
    r.Placed arch (heap.malloc n).2 := by
  obtain ⟨size, hsize, hwrap⟩ := h.block
  exact ⟨h.requested, h.found, h.aligned, size, hsize.malloc n, hwrap⟩

theorem Region.Within.malloc {bytes : Region → Nat} {r : Region} (h : r.Within arch bytes heap)
    (n : Nat) : r.Within arch bytes (heap.malloc n).2 := by
  obtain ⟨hoffset, size, hsize, hend⟩ := h
  exact ⟨hoffset, size, hsize.malloc n, hend⟩

theorem Region.Placed.ne_next {r : Region} (h : r.Placed arch heap) (hheap : heap.Valid arch) :
    r.block ≠ .malloced heap.next := by
  obtain ⟨size, hsize, -⟩ := h.block
  exact hheap.ne_next hsize

end Malloc

namespace BumpPointerAllocator

theorem cutFrom_new (heap : Heap) :
    CutFrom arch { new with heap } ⟨.initialBuffer, 0⟩ :=
  ⟨rfl, Nat.zero_le _, ⟨0, rfl⟩⟩

theorem sound_new (next : Nat) : Sound arch { new with heap := ⟨[], next⟩ } := by
  constructor
  · exact ⟨List.nodup_nil, by simp, by simp⟩
  · exact .refl _
  · simp [new]
  · exact ⟨_, _, rfl, cutFrom_new _, fun _ => ⟨by simp [new], .nil, by simp [new]⟩⟩

variable {s : BumpPointerAllocator}

theorem sound_grow (h : s.Sound arch) :
    ∃ s' head rest, s.grow true = .ok s' ∧ s'.Sound arch ∧ s'.blockList = head :: rest ∧
      head.current = 0 := by
  refine ⟨_, _, _, rfl, ?_, rfl, rfl⟩
  obtain ⟨_, _, _, _, hseparate⟩ := h.head
  constructor
  · exact h.heap.malloc (by simp only [allocSize]; omega)
  · exact (h.owned.cons _).trans (.swap _ _ _)
  · exact fun r hr => (h.placed r hr).malloc allocSize
  · refine ⟨_, _, rfl, ⟨s.heap.holds_malloc allocSize, Nat.zero_le _, ⟨0, rfl⟩⟩, fun hnowrap => ?_⟩
    refine ⟨fun r hr => ((hseparate hnowrap).within r hr).malloc _, (hseparate hnowrap).apart, ?_⟩
    intro r hr hblock
    exact absurd hblock ((h.placed r hr).ne_next h.heap)

theorem take_offset {current n : Nat} (hn : n + 16 ≤ 2 ^ 32)
    (hcurrent : current ≤ usableAllocSize arch) :
    (metaSize arch + (current + n) % 2 ^ arch.bits + (2 ^ arch.bits - n)) % 2 ^ arch.bits =
      metaSize arch + current := by
  cases arch <;> simp only [Arch.bits, usableAllocSize, allocSize, metaSize] at * <;> omega

theorem sound_take (h : s.Sound arch) {head : BlockMeta} {rest : List BlockMeta}
    (hlist : s.blockList = head :: rest) {length found : Nat} (hlength : length < 2 ^ arch.bits)
    (hroom : (head.current + rounded arch length) % 2 ^ arch.bits ≤ usableAllocSize arch)
    (hfound : found ≤ usableAllocSize arch) (hhead : head.current ≤ found) :
    ∃ s', s.take arch length (rounded arch length) found = .ok s' ∧ s'.Sound arch := by
  obtain ⟨head', rest', hlist', hcut, hseparate⟩ := h.head
  obtain ⟨rfl, rfl⟩ := List.cons.inj (hlist.symm.trans hlist')
  have hsize := metaSize_add_usableAllocSize arch
  have howned := h.owned
  rw [hlist] at howned
  simp only [take, hlist, take_offset (rounded_le arch length) hcut.current]
  refine ⟨_, rfl, h.heap, howned, ?_, _, _, rfl, ⟨hcut.size, hroom, ?_⟩, ?_⟩
  · intro r hr
    rcases List.mem_cons.mp hr with rfl | hr
    · refine ⟨⟨rfl, hlength⟩, hfound, ?_, allocSize, hcut.size, fun _ => rfl⟩
      exact (Nat.dvd_add_right (Nat.dvd_refl _)).mpr (metaSize_dvd_of_dvd hcut.aligned)
    · exact h.placed r hr
  · exact dvd_mod_bits ((Nat.dvd_add_right hcut.aligned).mpr (dvd_rounded arch _))
  · intro hnowrap
    obtain ⟨hnew, hold⟩ := List.forall_mem_cons.mp hnowrap
    obtain ⟨hwithin, hapart, hused⟩ := hseparate hold
    -- Without a wrap the new `Current` is the sum.
    have hsum : (head.current + rounded arch length) % 2 ^ arch.bits =
        head.current + rounded arch length := by
      refine Nat.mod_eq_of_lt (Nat.lt_of_le_of_lt ?_ hnew)
      simp only
      omega
    rw [hsum] at hroom
    refine ⟨?_, List.pairwise_cons.mpr ⟨?_, hapart⟩, ?_⟩
    · intro r hr
      rcases List.mem_cons.mp hr with rfl | hr
      · refine ⟨Nat.le_add_right _ _, allocSize, hcut.size, ?_⟩
        simp only
        omega
      · exact hwithin r hr
    · intro r hr
      by_cases hblock : r.block = head.block
      · exact .inr (.inr (hused r hr hblock))
      · exact .inl (Ne.symm hblock)
    · intro r hr hblock
      simp only [hsum]
      rcases List.mem_cons.mp hr with rfl | hr
      · exact (Nat.add_assoc _ _ _).le
      · exact (hused r hr hblock).trans (Nat.add_le_add_left (Nat.le_add_right _ _) _)

theorem sound_allocateMassive (h : s.Sound arch) {length : Nat} (hlength : length < 2 ^ arch.bits)
    (hnowrap : ∀ head ∈ s.blockList.head?,
      rounded arch length + head.current < 2 ^ arch.bits) :
    ∃ s', s.allocateMassive arch length (rounded arch length) true = .ok s' ∧ s'.Sound arch := by
  obtain ⟨head, rest, hlist, hcut, hseparate⟩ := h.head
  have hrounded := rounded_le arch length
  have hbytes : (rounded arch length + metaSize arch) % 2 ^ arch.bits =
      rounded arch length + metaSize arch := by
    apply Nat.mod_eq_of_lt
    cases arch <;> simp only [Arch.bits, metaSize] <;> omega
  have howned := h.owned
  rw [hlist] at howned hnowrap
  simp only [allocateMassive, hlist, hbytes, if_true]
  refine ⟨_, rfl, h.heap.malloc (by omega), ?_, ?_, _, _, rfl,
    ⟨hcut.size.malloc _, hcut.current, hcut.aligned⟩, ?_⟩
  · exact (List.Perm.swap _ _ _).trans ((howned.cons _).trans (.swap _ _ _))
  · intro r hr
    rcases List.mem_cons.mp hr with rfl | hr
    · exact ⟨⟨rfl, hlength⟩, hcut.current, Nat.dvd_refl _, _, s.heap.holds_malloc _,
        fun hwrap => absurd (hnowrap head rfl) hwrap⟩
    · exact (h.placed r hr).malloc _
  · intro hall
    obtain ⟨hwithin, hapart, hused⟩ := hseparate (List.forall_mem_cons.mp hall).2
    refine ⟨?_, List.pairwise_cons.mpr ⟨?_, hapart⟩, ?_⟩
    · intro r hr
      rcases List.mem_cons.mp hr with rfl | hr
      · exact ⟨le_rfl, _, s.heap.holds_malloc _, (Nat.add_comm _ _).le⟩
      · exact (hwithin r hr).malloc _
    · exact fun r hr => .inl (Ne.symm ((h.placed r hr).ne_next h.heap))
    · intro r hr hblock
      rcases List.mem_cons.mp hr with rfl | hr
      · exact absurd hblock.symm (h.heap.ne_next hcut.size)
      · exact hused r hr hblock

theorem nowrap_of_full {n current : Nat} (hn : n + 16 ≤ 2 ^ 32)
    (hcurrent : current ≤ usableAllocSize arch)
    (hfull : usableAllocSize arch ≤ (n + current) % 2 ^ arch.bits) :
    n + current < 2 ^ arch.bits := by
  cases arch <;> simp only [Arch.bits, usableAllocSize, allocSize, metaSize] at * <;> omega

theorem sound_allocate (h : s.Sound arch) (length : BitVec arch.bits) (mallocOk : Bool) :
    mallocOk = false ∧ s.allocate arch length mallocOk = .error .terminate ∨
      ∃ s', s.allocate arch length mallocOk = .ok s' ∧ s'.Sound arch := by
  obtain ⟨head, rest, hlist, hcut, -⟩ := h.head
  have hlength : length.toNat < 2 ^ arch.bits := length.isLt
  have hrounded := rounded_le arch length.toNat
  simp only [allocate, hlist]
  by_cases hfull : usableAllocSize arch ≤ (rounded arch length.toNat + head.current) % 2 ^ arch.bits
  · have hnowrap := nowrap_of_full hrounded hcut.current hfull
    rw [if_pos hfull]
    by_cases hmassive : usableAllocSize arch < rounded arch length.toNat
    · rw [if_pos hmassive]
      cases mallocOk with
      | false => exact .inl ⟨rfl, rfl⟩
      | true =>
        refine .inr (sound_allocateMassive h hlength ?_)
        rw [hlist]
        rintro _ ⟨⟩
        exact hnowrap
    · rw [if_neg hmassive]
      cases mallocOk with
      | false => exact .inl ⟨rfl, rfl⟩
      | true =>
        obtain ⟨s', head', rest', hgrow, hsound, hlist', hzero⟩ := sound_grow h
        rw [hgrow]
        refine .inr (sound_take hsound hlist' hlength ?_ hcut.current ?_)
        · exact (Nat.mod_le _ _).trans (by omega)
        · omega
  · rw [if_neg hfull]
    refine .inr (sound_take h hlist hlength ?_ hcut.current le_rfl)
    rw [Nat.add_comm]
    omega

theorem release_eq (blocks : List BlockMeta) (heap : Heap)
    (hnodup : (blocks.map BlockMeta.block).Nodup)
    (hlive : ∀ id, .malloced id ∈ blocks.map BlockMeta.block → id ∈ heap.live.map Prod.fst) :
    release blocks heap = .ok { heap with
      live := heap.live.filter fun block => .malloced block.1 ∉ blocks.map BlockMeta.block } := by
  induction blocks generalizing heap with
  | nil => simp [release]
  | cons tmp blocks ih =>
    obtain ⟨hfirst, htail⟩ := List.nodup_cons.mp hnodup
    rcases tmp with ⟨block, current⟩
    cases block with
    | initialBuffer =>
      rw [release, ih heap htail fun id hid => hlive id (.tail _ hid)]
      simp
    | malloced id =>
      have hfree : heap.free id =
          .ok { heap with live := heap.live.filter (·.1 ≠ id) } :=
        if_pos (hlive id List.mem_cons_self)
      have hrest : ∀ id', .malloced id' ∈ blocks.map BlockMeta.block →
          id' ∈ (heap.live.filter (·.1 ≠ id)).map Prod.fst := by
        intro id' hid'
        have hne : id' ≠ id := by
          rintro rfl
          exact hfirst hid'
        obtain ⟨block, hblock, rfl⟩ := List.mem_map.mp (hlive id' (.tail _ hid'))
        exact List.mem_map_of_mem (List.mem_filter.mpr ⟨hblock, decide_eq_true hne⟩)
      rw [release]
      dsimp only
      rw [hfree]
      refine (ih _ htail hrest).trans ?_
      simp [List.filter_filter, Bool.and_comm]

theorem sound_reset (h : s.Sound arch) :
    ∃ s', s.reset = .ok s' ∧ s'.Sound arch ∧ s'.heap.live = [] := by
  have hmem (id : Nat) :
      .malloced id ∈ s.blockList.map BlockMeta.block ↔ id ∈ s.heap.live.map Prod.fst := by
    rw [h.owned.mem_iff]
    simp
  have hnodup : (s.blockList.map BlockMeta.block).Nodup := by
    rw [h.owned.nodup_iff, List.nodup_cons]
    refine ⟨by simp, ?_⟩
    have hids := h.heap.unique.map (f := BlockId.malloced) fun a b hab => BlockId.malloced.inj hab
    rwa [List.map_map] at hids
  have hfreed : (s.heap.live.filter fun block =>
      .malloced block.1 ∉ s.blockList.map BlockMeta.block) = [] := by
    rw [List.filter_eq_nil_iff]
    intro block hblock
    simpa only [hmem, decide_not, Bool.not_eq_true', Bool.not_eq_false, decide_eq_true_eq]
      using List.mem_map_of_mem hblock
  have hrelease := release_eq s.blockList s.heap hnodup fun id hid => (hmem id).mp hid
  rw [hfreed] at hrelease
  rw [reset, hrelease]
  exact ⟨_, rfl, sound_new _, rfl⟩

theorem sound_foldlM (h : s.Sound arch) (ops : List (ArenaOp arch)) :
    (∃ length, .allocate length false ∈ ops) ∧ ops.foldlM (apply arch) s = .error .terminate ∨
      ∃ s', ops.foldlM (apply arch) s = .ok s' ∧ s'.Sound arch := by
  induction ops generalizing s with
  | nil => exact .inr ⟨s, rfl, h⟩
  | cons op ops ih =>
    -- The first call ends the run or leaves a state in which the others begin.
    have hfirst : (∃ length, op = .allocate length false) ∧
          s.apply arch op = .error .terminate ∨
        ∃ s', s.apply arch op = .ok s' ∧ s'.Sound arch := by
      cases op with
      | allocate length mallocOk =>
        rcases sound_allocate h length mallocOk with ⟨rfl, hstop⟩ | hok
        · exact .inl ⟨⟨length, rfl⟩, hstop⟩
        · exact .inr hok
      | reset =>
        obtain ⟨s', hreset, hsound, -⟩ := sound_reset h
        exact .inr ⟨s', hreset, hsound⟩
    rw [List.foldlM_cons]
    rcases hfirst with ⟨⟨length, rfl⟩, hstop⟩ | ⟨s', hok, hsound⟩
    · rw [hstop]
      exact .inl ⟨⟨length, List.mem_cons_self⟩, rfl⟩
    · rw [hok]
      rcases ih hsound with ⟨⟨length, hlength⟩, hstop⟩ | hrest
      · exact .inl ⟨⟨length, .tail _ hlength⟩, hstop⟩
      · exact .inr hrest

end BumpPointerAllocator

open BumpPointerAllocator

/-- **Fresh memory.**  After any calls, the regions that are handed out lie in live blocks,
behind the headers, and have no byte in common, exactly when neither of the sums of
`allocate` has gone past its width: `N + 15` the four bytes of the mask, nor
`N + BlockList->Current` the `size_t`. -/
theorem regions_fresh_iff (arch : Arch) (ops : List (ArenaOp arch)) (s : BumpPointerAllocator)
    (hrun : run arch ops = .ok s) :
    (∀ r ∈ s.handedOut, metaSize arch ∣ r.offset) ∧
    ((s.handedOut.Pairwise (Region.Apart Region.length) ∧
        ∀ r ∈ s.handedOut, r.Within arch Region.length s.heap) ↔
      ∀ r ∈ s.handedOut, r.length + 15 < 2 ^ 32 ∧ r.NoWrap arch) := by
  have hsound : s.Sound arch := by
    rcases sound_foldlM (sound_new 0) ops with ⟨-, hstop⟩ | ⟨s', hok, hsound⟩
    · cases hstop.symm.trans hrun
    · cases hok.symm.trans hrun
      exact hsound
  refine ⟨fun r hr => (hsound.placed r hr).aligned, ?_, ?_⟩
  · rintro ⟨-, hwithin⟩ r hr
    obtain ⟨hoffset, size, hsize, hend⟩ := hwithin r hr
    have hblock := hsound.heap.size_le hsize
    refine ⟨by omega, ?_⟩
    by_contra hwrap
    obtain ⟨⟨hreserved, hlength⟩, hfound, -, size', hsize', hsmall⟩ := hsound.placed r hr
    have hlarge : allocSize < r.length :=
      allocSize_lt_of_wrap hlength hfound (by rw [← hreserved]; exact Nat.le_of_not_lt hwrap)
    rw [hsound.heap.size_eq hsize hsize', hsmall hwrap] at hend
    omega
  · intro hsmall
    obtain ⟨head, rest, -, -, hseparate⟩ := hsound.head
    obtain ⟨hwithin, hapart, -⟩ := hseparate fun r hr => (hsmall r hr).2
    have hle (r : Region) (hr : r ∈ s.handedOut) : r.length ≤ r.reserved := by
      rw [(hsound.placed r hr).requested.1]
      exact le_rounded (hsmall r hr).1
    constructor
    · refine hapart.imp_of_mem ?_
      intro r r' hr hr' hapart
      have hr := hle r hr
      have hr' := hle r' hr'
      rcases hapart with hblock | hbefore | hafter
      · exact .inl hblock
      · exact .inr (.inl ((Nat.add_le_add_left hr _).trans hbefore))
      · exact .inr (.inr ((Nat.add_le_add_left hr' _).trans hafter))
    · intro r hr
      obtain ⟨hoffset, size, hsize, hend⟩ := hwithin r hr
      exact ⟨hoffset, size, hsize, (Nat.add_le_add_left (hle r hr) _).trans hend⟩

/-- A node, a request with a block of its own, and one for which the list grows.  In the
32-bit library the last of three requests lies on the bytes of the first. -/
theorem regions_fresh_iff_three :
    (∃ s, run .arm64 [.allocate 24 true, .allocate 5000 true, .allocate 4070 true] = .ok s ∧
      s.handedOut.Pairwise (Region.Apart Region.length) ∧
      s.handedOut.map Region.block = [.malloced 1, .malloced 0, .initialBuffer]) ∧
    ∃ s, run .arm [.allocate 32 true, .allocate 4294967264 true, .allocate 32 true] = .ok s ∧
      s.handedOut.map Region.offset = [8, 40, 8] ∧
      ¬∀ r ∈ s.handedOut, r.length + 15 < 2 ^ 32 ∧ r.NoWrap .arm := by
  refine ⟨⟨_, rfl, ?_, rfl⟩, _, rfl, rfl, ?_⟩
  · exact ((regions_fresh_iff .arm64 [.allocate 24 true, .allocate 5000 true, .allocate 4070 true]
      _ rfl).2.mpr (by decide)).1
  · decide

/-- **No leak.**  Calls on the allocator fail only for want of memory.  No block is freed
twice, and the destructor leaves none. -/
theorem arena_never_leaks (arch : Arch) (ops : List (ArenaOp arch)) :
    (∃ length, .allocate length false ∈ ops) ∧ run arch ops = .error .terminate ∨
      ∃ s s', run arch ops = .ok s ∧ s.reset = .ok s' ∧ s'.heap.live = [] := by
  rcases sound_foldlM (sound_new 0) ops with hstop | ⟨s, hok, hsound⟩
  · exact .inl hstop
  · obtain ⟨s', hreset, -, hlive⟩ := sound_reset hsound
    exact .inr ⟨s, s', hok, hreset, hlive⟩

end Exynos9810.Demangle
