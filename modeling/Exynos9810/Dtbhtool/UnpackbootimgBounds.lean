import Exynos9810.Dtbhtool.UnpackbootimgStreams

/-!
# The buffers of `unpackbootimg`

Page size, section sizes and command line come from the file and are used unchecked.
With a lenient library a run gets to its end unless an access leaves its buffer.
-/
namespace Exynos9810.Dtbhtool

open ByteString Paging

section Succeeds

def Tool.Succeeds (tool : Tool α) (io : Stdio) : Prop :=
  ∃ value io', tool.run io = (.ok value, io')

variable {io : Stdio} {p q : Prop}

theorem succeeds_bind_of_run {tool : Tool α} {next : α → Tool β} {value : α} {io' : Stdio}
    (h : tool.run io = (.ok value, io')) :
    (tool >>= next).Succeeds io ↔ (next value).Succeeds io' := by
  unfold Tool.Succeeds
  rw [Tool.bind_of_ok h]

theorem Tool.Succeeds.of_bind {tool : Tool α} {next : α → Tool β}
    (h : (tool >>= next).Succeeds io) : tool.Succeeds io := by
  obtain ⟨result, last, h⟩ := h
  obtain ⟨value, io', hvalue, -⟩ := Tool.bind_eq_ok h
  exact ⟨value, io', hvalue⟩

theorem Tool.Succeeds.next {tool : Tool α} {next : α → Tool β}
    (h : (tool >>= next).Succeeds io) : ∃ value io', (next value).Succeeds io' := by
  obtain ⟨result, last, h⟩ := h
  obtain ⟨value, io', -, h⟩ := Tool.bind_eq_ok h
  exact ⟨value, io', result, last, h⟩

end Succeeds

section Padding

def paddingCount (itemsize pagesize : UInt32) : Nat :=
  if itemsize &&& (pagesize - 1) = 0 then 0 else (pagesize - (itemsize &&& (pagesize - 1))).toNat

/-- The padding behind an item of this size, from this place on, has room in its buffer:
it is empty, or the page size is positive as an `int`, or the file has ended. -/
def PaddingFits (file : Bytes) (pagesize : UInt32) (item : UInt32 × Nat) : Prop :=
  item.1 &&& (pagesize - 1) = 0 ∨ 0 < pagesize.toNat ∧ pagesize.toNat < 2 ^ 31 ∨
    file.length ≤ item.2

instance (file : Bytes) (pagesize : UInt32) (item : UInt32 × Nat) :
    Decidable (PaddingFits file pagesize item) :=
  inferInstanceAs (Decidable (_ ∨ _ ∨ _))

theorem toNat_and_mask_lt {pagesize : UInt32} (hpos : 0 < pagesize.toNat) (itemsize : UInt32) :
    (itemsize &&& (pagesize - 1)).toNat < pagesize.toNat := by
  have hone : (1 : UInt32) ≤ pagesize := UInt32.le_iff_toNat_le.mpr hpos
  have hmask : (pagesize - 1).toNat = pagesize.toNat - 1 := UInt32.toNat_sub_of_le _ _ hone
  have hle : (itemsize &&& (pagesize - 1)).toNat ≤ (pagesize - 1).toNat := by
    rw [UInt32.toNat_and]
    exact Nat.and_le_right
  omega

theorem toNat_count {itemsize pagesize : UInt32} (hpos : 0 < pagesize.toNat) :
    (pagesize - (itemsize &&& (pagesize - 1))).toNat =
      pagesize.toNat - (itemsize &&& (pagesize - 1)).toNat :=
  UInt32.toNat_sub_of_le _ _ (UInt32.le_iff_toNat_le.mpr (toNat_and_mask_lt hpos itemsize).le)

theorem count_pos {itemsize pagesize : UInt32} (hrest : itemsize &&& (pagesize - 1) ≠ 0) :
    0 < (pagesize - (itemsize &&& (pagesize - 1))).toNat := by
  rcases Nat.eq_zero_or_pos pagesize.toNat with hzero | hpos
  · obtain rfl : pagesize = 0 := UInt32.toNat_inj.mp hzero
    rw [Nat.pos_iff_ne_zero]
    intro hcount
    have hcount : 0 - (itemsize &&& (0 - 1)) = 0 := UInt32.toNat_inj.mp hcount
    exact hrest (by grind)
  · have hlt := toNat_and_mask_lt hpos itemsize
    rw [toNat_count hpos]
    omega

theorem stored_le_iff {file : Bytes} {itemsize pagesize : UInt32} {place : Nat}
    (hrest : itemsize &&& (pagesize - 1) ≠ 0) :
    min (pagesize - (itemsize &&& (pagesize - 1))).toNat (file.length - place) ≤
      paddingBuffer pagesize ↔ PaddingFits file pagesize (itemsize, place) := by
  have hpos := count_pos hrest
  unfold PaddingFits paddingBuffer
  rcases Nat.eq_zero_or_pos pagesize.toNat with hzero | hpage
  · simp only [hzero, hrest, false_or, lt_self_iff_false, false_and]
    split <;> omega
  · have hcount := @toNat_count itemsize pagesize hpage
    simp only [hrest, false_or, hpage, true_and]
    split <;> omega

end Padding

section Places

def Stdio.At (io : Stdio) (file : Bytes) (place : Nat) : Prop :=
  min io.position file.length = min place file.length

variable {io : Stdio} {file : Bytes} {place : Nat}

theorem Stdio.At.sub_eq (hat : io.At file place) :
    file.length - io.position = file.length - place := by
  unfold Stdio.At at hat
  omega

theorem Stdio.At.slice_eq (hat : io.At file place) (count : Nat) :
    slice file io.position count = slice file place count := by
  have hdrop : file.drop io.position = file.drop place := by
    rcases Nat.lt_or_ge io.position file.length with hlt | hge
    · have heq : io.position = place := by
        unfold Stdio.At at hat
        omega
      rw [heq]
    · have hle : file.length ≤ place := by
        have hsub := hat.sub_eq
        omega
      rw [List.drop_of_length_le hge, List.drop_of_length_le hle]
  rw [slice, slice, hdrop]

theorem Stdio.At.filled_eq (hat : io.At file place) (buffer : Bytes) :
    filled file io.position buffer = filled file place buffer := by
  simp only [filled, hat.slice_eq]

theorem Stdio.At.advance (hat : io.At file place) (count : Nat) {io' : Stdio}
    (h : io'.position = io.position + (slice file io.position count).length) :
    io'.At file (place + count) := by
  rw [length_slice] at h
  unfold Stdio.At at hat ⊢
  omega

theorem fread_at (hat : io.At file place) (buffer : Bytes) :
    ∃ position, (fread file buffer).run io =
        (.ok (filled file place buffer), { io with position := position }) ∧
      Stdio.At { io with position := position } file (place + buffer.length) := by
  refine ⟨io.position + (slice file io.position buffer.length).length, ?_, hat.advance _ rfl⟩
  rw [← hat.filled_eq]
  rfl

variable {u : Unpacking} {itemsize : UInt32}

theorem skip_of_fits (hat : io.At u.file place)
    (hfits : PaddingFits u.file u.pagesize (itemsize, place)) :
    ∃ position, (u.skip itemsize).run io = (.ok (), { io with position := position }) ∧
      Stdio.At { io with position := position } u.file
        (place + paddingCount itemsize u.pagesize) := by
  unfold Unpacking.skip readPadding paddingCount
  by_cases hzero : itemsize &&& (u.pagesize - 1) = 0
  · refine ⟨io.position, ?_, ?_⟩
    · rw [if_pos hzero, Tool.run_pure]
    · rw [if_pos hzero]
      exact hat
  · let count := (u.pagesize - (itemsize &&& (u.pagesize - 1))).toNat
    have hlength : (u.memory 0 count).val.length = count := CharArray.length_val _
    have hread : (freadInto u.file (paddingBuffer u.pagesize) (u.memory 0 count).val).run io =
        (fread u.file (u.memory 0 count).val).run io := by
      refine if_pos ?_
      rw [length_slice, hlength, hat.sub_eq]
      exact (stored_le_iff hzero).mpr hfits
    refine ⟨io.position + (slice u.file io.position count).length, ?_, ?_⟩
    · rw [if_neg hzero]
      dsimp only
      rw [Tool.bind_of_ok (hread.trans rfl), hlength]
      rfl
    · rw [if_neg hzero]
      exact hat.advance _ rfl

theorem fits_of_skip (hat : io.At u.file place) (h : (u.skip itemsize).Succeeds io) :
    PaddingFits u.file u.pagesize (itemsize, place) := by
  by_cases hzero : itemsize &&& (u.pagesize - 1) = 0
  · exact Or.inl hzero
  obtain ⟨_, last, h⟩ := h
  unfold Unpacking.skip readPadding at h
  rw [if_neg hzero] at h
  obtain ⟨data, read, hread, -⟩ := Tool.bind_eq_ok h
  simp only [freadInto] at hread
  split at hread
  · rename_i hstored
    rw [length_slice, hat.sub_eq, CharArray.length_val] at hstored
    exact (stored_le_iff hzero).mp hstored
  · cases hread

theorem succeeds_skip_bind {next : Unit → Tool β} {q : Prop} (hat : io.At u.file place)
    (hnext : ∀ position, Stdio.At { io with position := position } u.file
        (place + paddingCount itemsize u.pagesize) →
      ((next ()).Succeeds { io with position := position } ↔ q)) :
    (u.skip itemsize >>= next).Succeeds io ↔
      PaddingFits u.file u.pagesize (itemsize, place) ∧ q := by
  constructor
  · intro h
    have hfits := fits_of_skip hat h.of_bind
    obtain ⟨position, hrun, hat'⟩ := skip_of_fits hat hfits
    exact ⟨hfits, (hnext position hat').mp ((succeeds_bind_of_run hrun).mp h)⟩
  · rintro ⟨hfits, hq⟩
    obtain ⟨position, hrun, hat'⟩ := skip_of_fits hat hfits
    exact (succeeds_bind_of_run hrun).mpr ((hnext position hat').mpr hq)

end Places

namespace Unpacking

variable (u : Unpacking) (place : Nat)

/-! The places of the sections, counted from the end of the header. -/

def kernelPlace : Nat :=
  place + paddingCount BootImgHdr.sizeof u.pagesize

def ramdiskPlace : Nat :=
  u.kernelPlace place + u.header.kernelSize.toNat + paddingCount u.header.kernelSize u.pagesize

def secondPlace : Nat :=
  u.ramdiskPlace place + u.header.ramdiskSize.toNat +
    paddingCount u.header.ramdiskSize u.pagesize

def dtPlace : Nat :=
  u.secondPlace place + u.header.secondSize.toNat + paddingCount u.header.secondSize u.pagesize

def paddings : List (UInt32 × Nat) :=
  [(BootImgHdr.sizeof, place),
    (u.header.kernelSize, u.kernelPlace place + u.header.kernelSize.toNat),
    (u.header.ramdiskSize, u.ramdiskPlace place + u.header.ramdiskSize.toNat),
    (u.header.secondSize, u.secondPlace place + u.header.secondSize.toNat),
    (u.header.dtSize, u.dtPlace place + u.header.dtSize.toNat)]

def ramdiskBuffer : Bytes :=
  filled u.file (u.ramdiskPlace place) (u.memory 2 u.header.ramdiskSize.toNat).val

/-- There is a directory, and the longest output name fits `tmp[PATH_MAX]`. -/
def NamesFit : Prop :=
  ∃ directory, u.directory = some directory ∧ Dtbhtool.NamesFit directory u.filename

end Unpacking

section Run

variable {u : Unpacking} {io : Stdio} {place : Nat} {directory : CString}

theorem succeeds_cString_bind {array : Bytes} {next : Bytes → Tool β} {q : Prop}
    (hnext : ∀ text, (next text).Succeeds io ↔ q) :
    (Tool.ofExcept (cString array) >>= next).Succeeds io ↔ 0 ∈ array ∧ q := by
  by_cases hmem : 0 ∈ array
  · have hrun : (Tool.ofExcept (cString array)).run io =
        (.ok (array.takeWhile (· ≠ 0)), io) := by
      rw [cString, if_pos hmem]
      rfl
    rw [succeeds_bind_of_run hrun, hnext]
    simp only [hmem, true_and]
  · refine iff_of_false ?_ fun h => hmem h.1
    intro h
    obtain ⟨text, io', h⟩ := h.of_bind
    rw [cString, if_neg hmem] at h
    cases h

theorem not_succeeds_writeTexts {directory? : Option CString} {filename : CString}
    {texts : List (String × Bytes)} {text : String × Bytes} (htext : text ∈ texts)
    (hname : ∀ io, ¬(tmpName directory? filename text.1).Succeeds io) (io : Stdio) :
    ¬(writeTexts directory? filename texts).Succeeds io := by
  induction texts generalizing io with
  | nil => cases htext
  | cons first texts ih =>
    intro h
    rw [writeTexts] at h
    rcases List.mem_cons.mp htext with rfl | hrest
    · exact hname io h.of_bind
    · obtain ⟨name, io₁, h⟩ := h.next
      obtain ⟨_, io₂, h⟩ := h.next
      exact ih hrest io₂ h

theorem not_succeeds_tmpName (hnames : ¬u.NamesFit) (io : Stdio) :
    ¬(tmpName u.directory u.filename "-ramdisk_offset").Succeeds io := by
  rintro ⟨name, io', h⟩
  unfold tmpName at h
  split at h
  · rename_i directory hdirectory
    dsimp only at h
    split at h
    · rename_i hlength
      exact hnames ⟨directory, hdirectory, hlength⟩
    · cases h
  · cases h

theorem succeeds_ramdisk_bind {next : Nat → Tool β} {q : Prop}
    (hfit : NamesFit directory u.filename) (hdirectory : u.directory = some directory)
    (hat : io.At u.file place)
    (hnext : ∀ r io', io'.At u.file (place + u.header.ramdiskSize.toNat) →
      io'.streams[r]? = some none → io'.lenient = io.lenient → ((next r).Succeeds io' ↔ q)) :
    (u.ramdisk >>= next).Succeeds io ↔
      (∃ suffix, ramdiskSuffix
        (filled u.file place (u.memory 2 u.header.ramdiskSize.toNat).val) = .ok suffix) ∧ q := by
  obtain ⟨position, hread, hat'⟩ :=
    fread_at hat (u.memory 2 u.header.ramdiskSize.toNat).val
  rw [CharArray.length_val] at hat'
  have hiff {suffix : String} (hsuffix : ramdiskSuffix (filled u.file place
      (u.memory 2 u.header.ramdiskSize.toNat).val) = .ok suffix) :
      (u.ramdisk >>= next).Succeeds io ↔ q := by
    rw [succeeds_bind_of_run (ramdisk_run hfit hdirectory rfl hread hsuffix)]
    exact hnext _ _ hat' (by simp [Stdio.output]) rfl
  constructor
  · intro h
    obtain ⟨r, last, hramdisk⟩ := h.of_bind
    obtain ⟨data, io₁, hdata, hrest⟩ := Tool.bind_eq_ok hramdisk
    rw [hread] at hdata
    cases hdata
    obtain ⟨suffix, io₂, hsuffix, -⟩ := Tool.bind_eq_ok hrest
    have hsuffix := congrArg Prod.fst hsuffix
    exact ⟨⟨suffix, hsuffix⟩, (hiff hsuffix).mp h⟩
  · rintro ⟨⟨suffix, hsuffix⟩, hq⟩
    exact (hiff hsuffix).mpr hq

theorem succeeds_kernel_bind {next : Unit → Tool β} {q : Prop}
    (hfit : NamesFit directory u.filename) (hdirectory : u.directory = some directory)
    (hat : io.At u.file place)
    (hnext : ∀ io', io'.At u.file (place + u.header.kernelSize.toNat) →
      io'.lenient = io.lenient → ((next ()).Succeeds io' ↔ q)) :
    (u.kernel >>= next).Succeeds io ↔ q := by
  obtain ⟨position, hread, hat'⟩ := fread_at hat (u.memory 1 u.header.kernelSize.toNat).val
  rw [CharArray.length_val] at hat'
  rw [succeeds_bind_of_run (kernel_run hfit hdirectory rfl hread)]
  exact hnext _ hat' rfl

theorem succeeds_extract_bind {next : Unit → Tool β} {q : Prop}
    (hfit : NamesFit directory u.filename) (hdirectory : u.directory = some directory)
    {suffix : String} (hsuffix : suffix.toList.length ≤ 15) {r : Nat} {buffer : CharArray size}
    (hat : io.At u.file place) (hclosed : io.streams[r]? = some none)
    (hlenient : io.lenient = true)
    (hnext : ∀ io', io'.At u.file (place + size) → io'.streams[r]? = some none →
      io'.lenient = true → ((next ()).Succeeds io' ↔ q)) :
    (u.extract r suffix buffer >>= next).Succeeds io ↔ q := by
  obtain ⟨position, hread, hat'⟩ := fread_at hat buffer.val
  rw [CharArray.length_val] at hat'
  rw [succeeds_bind_of_run
    (extract_lenient_run hfit hdirectory rfl hsuffix hread hclosed hlenient)]
  exact hnext _ hat' (closed_append hclosed _) hlenient

theorem rest_succeeds_iff (hfit : NamesFit directory u.filename)
    (hdirectory : u.directory = some directory) {r : Nat} (hat : io.At u.file place)
    (hclosed : io.streams[r]? = some none) (hlenient : io.lenient = true) :
    (u.rest r).Succeeds io ↔
      PaddingFits u.file u.pagesize
        (u.header.secondSize, place + u.header.secondSize.toNat) ∧
      PaddingFits u.file u.pagesize (u.header.dtSize, place + u.header.secondSize.toNat +
        paddingCount u.header.secondSize u.pagesize + u.header.dtSize.toNat) := by
  refine succeeds_extract_bind hfit hdirectory (by decide) hat hclosed hlenient
    fun io₁ hat₁ hclosed₁ hlenient₁ => ?_
  refine succeeds_skip_bind hat₁ fun position₁ hat₂ => ?_
  refine succeeds_extract_bind hfit hdirectory (by decide) hat₂ hclosed₁ hlenient₁
    fun io₂ hat₃ hclosed₂ hlenient₂ => ?_
  rw [← and_true (PaddingFits u.file u.pagesize (u.header.dtSize, _))]
  refine succeeds_skip_bind hat₃ fun position₂ hat₄ => ?_
  refine succeeds_extract_bind hfit hdirectory (by decide) hat₄ hclosed₂ hlenient₂
    fun io₃ _ _ _ => ?_
  exact iff_true_intro ⟨0, io₃, rfl⟩

/-- With a lenient library the extraction gets to its end exactly when every access stays
in its buffer. -/
theorem run_succeeds_iff (hat : io.At u.file place) (hlenient : io.lenient = true) :
    u.run.Succeeds io ↔ u.NamesFit ∧ 0 ∈ u.header.cmdline.val ∧
      (∀ item ∈ u.paddings place, PaddingFits u.file u.pagesize item) ∧
      ∃ suffix, ramdiskSuffix (u.ramdiskBuffer place) = .ok suffix := by
  by_cases hnames : u.NamesFit
  · obtain ⟨directory, hdirectory, hfit⟩ := hnames
    have hsteps : u.run.Succeeds io ↔ 0 ∈ u.header.cmdline.val ∧
        PaddingFits u.file u.pagesize (BootImgHdr.sizeof, place) ∧
        PaddingFits u.file u.pagesize
          (u.header.kernelSize, u.kernelPlace place + u.header.kernelSize.toNat) ∧
        (∃ suffix, ramdiskSuffix (u.ramdiskBuffer place) = .ok suffix) ∧
        PaddingFits u.file u.pagesize
          (u.header.ramdiskSize, u.ramdiskPlace place + u.header.ramdiskSize.toNat) ∧
        PaddingFits u.file u.pagesize
          (u.header.secondSize, u.secondPlace place + u.header.secondSize.toNat) ∧
        PaddingFits u.file u.pagesize
          (u.header.dtSize, u.dtPlace place + u.header.dtSize.toNat) := by
      refine succeeds_cString_bind fun cmdline => ?_
      obtain ⟨texts, htexts, hposition, hmode, -, -⟩ := writeTexts_run hfit
        (headerTexts u.header cmdline) (by simp [headerTexts]) io
      rw [hdirectory, succeeds_bind_of_run htexts]
      have hat' : texts.At u.file place := by
        rw [Stdio.At, hposition]
        exact hat
      refine succeeds_skip_bind hat' fun position₁ hat₁ => ?_
      refine succeeds_kernel_bind hfit hdirectory hat₁ fun io₁ hat₂ hmode₁ => ?_
      refine succeeds_skip_bind hat₂ fun position₂ hat₃ => ?_
      refine succeeds_ramdisk_bind hfit hdirectory hat₃ fun r io₂ hat₄ hclosed hmode₂ => ?_
      refine succeeds_skip_bind hat₄ fun position₃ hat₅ => ?_
      refine rest_succeeds_iff hfit hdirectory hat₅ hclosed ?_
      exact hmode₂.trans (hmode₁.trans (hmode.trans hlenient))
    have hexists : u.NamesFit := ⟨directory, hdirectory, hfit⟩
    rw [hsteps]
    simp only [Unpacking.paddings, List.forall_mem_cons, List.not_mem_nil, false_imp_iff,
      implies_true, and_true, hexists, true_and]
    tauto
  · refine iff_of_false ?_ fun h => hnames h.1
    intro h
    obtain ⟨cmdline, io₁, h⟩ := h.next
    obtain ⟨text, htext, hname⟩ :
        ∃ text ∈ headerTexts u.header cmdline, text.1 = "-ramdisk_offset" := by
      simp [headerTexts]
    refine not_succeeds_writeTexts htext ?_ io₁ h.of_bind
    rw [hname]
    exact not_succeeds_tmpName hnames

end Run

theorem exists_ramdiskSuffix_iff {ramdisk : Bytes} :
    (∃ suffix, ramdiskSuffix ramdisk = .ok suffix) ↔ ramdisk ≠ [] ∧ ramdisk ≠ [0x02] := by
  unfold ramdiskSuffix
  split
  · simp
  · simp
  · simp
  · rename_i hone hnone
    exact iff_of_true ⟨_, rfl⟩ ⟨hnone, hone⟩

theorem length_ramdiskBuffer (u : Unpacking) (place : Nat) :
    (u.ramdiskBuffer place).length = u.header.ramdiskSize.toNat := by
  simp only [Unpacking.ramdiskBuffer, filled, List.length_append, List.length_drop, length_slice,
    CharArray.length_val]
  omega

theorem unpackFile_succeeds_iff (options : UnpackOptions) (filename : CString) {file : Bytes}
    {memory : Memory} {i : Nat}
    (hmagic : findMagic file 513 0 (memory 6 bootMagicSize).val = some i)
    (hfull : i + 608 ≤ file.length) {header : BootImgHdr}
    (hheader : BootImgHdr.ofFile (slice file i 608) = header) {u : Unpacking}
    (hu : u = unpackingAt options filename file memory header) :
    (unpackFile options filename file memory).Succeeds Stdio.lenientStart ↔
      u.NamesFit ∧ 0 ∈ u.header.cmdline.val ∧
        (∀ item ∈ u.paddings (i + 608), PaddingFits file u.pagesize item) ∧
        u.ramdiskBuffer (i + 608) ≠ [] ∧ u.ramdiskBuffer (i + 608) ≠ [0x02] := by
  subst hu hheader
  unfold Tool.Succeeds
  rw [unpackFile_run options filename hmagic hfull, ← exists_ramdiskSuffix_iff]
  exact run_succeeds_iff rfl rfl

/-- With a library that takes the writes to the closed stream, the program gets to its end
exactly when every access stays in its buffer: the output names fit `tmp`, the command line
has a terminator, no padding is larger than its buffer, and the bytes of the ramdisk that are
looked at are there.  Two bytes are enough for that. -/
theorem accesses_inBounds_iff (options : UnpackOptions) (filename : CString) {file : Bytes}
    {memory : Memory} {i : Nat}
    (hmagic : findMagic file 513 0 (memory 6 bootMagicSize).val = some i)
    (hfull : i + 608 ≤ file.length) :
    let u := unpackingAt options filename file memory (BootImgHdr.ofFile (slice file i 608))
    ((unpackFile options filename file memory).Succeeds Stdio.lenientStart ↔
      u.NamesFit ∧ 0 ∈ u.header.cmdline.val ∧
        (∀ item ∈ u.paddings (i + 608), PaddingFits file u.pagesize item) ∧
        u.ramdiskBuffer (i + 608) ≠ [] ∧ u.ramdiskBuffer (i + 608) ≠ [0x02]) ∧
    (2 ≤ u.header.ramdiskSize.toNat →
      u.ramdiskBuffer (i + 608) ≠ [] ∧ u.ramdiskBuffer (i + 608) ≠ [0x02]) := by
  refine ⟨unpackFile_succeeds_iff options filename hmagic hfull rfl rfl, ?_⟩
  intro hsize
  rw [← length_ramdiskBuffer _ (i + 608)] at hsize
  constructor
  · intro hempty
    rw [hempty] at hsize
    exact absurd hsize (by decide)
  · intro hsingle
    rw [hsingle] at hsize
    exact absurd hsize (by decide)

section Samples

def bareHeader (ramdiskSize pageSize : UInt32) (cmdline : Bytes) : BootImgHdr :=
  { BootImgHdr.ofFile [] with
    magic := CharArray.ofBytes bootMagicSize bootMagic
    ramdiskSize := ramdiskSize
    pageSize := pageSize
    cmdline := CharArray.ofBytes bootArgsSize cmdline }

variable (ramdiskSize pageSize : UInt32) (cmdline rest : Bytes)

def bareFile : Bytes :=
  (bareHeader ramdiskSize pageSize cmdline).bytes ++ rest

theorem findMagic_bareFile :
    findMagic (bareFile ramdiskSize pageSize cmdline rest) 513 0
      (sampleMemory 6 bootMagicSize).val = some 0 := by
  have hlength := (bareHeader ramdiskSize pageSize cmdline).length_bytes
  have hsize : bootMagicSize = 8 := rfl
  refine findMagic_eq_some le_rfl (by decide) (CharArray.length_val _) ?_ ?_
    (slice_magic (bareHeader ramdiskSize pageSize cmdline) rfl [] rest)
  · rw [bareFile, List.length_append]
    omega
  · intro j _ hj
    omega

theorem le_length_bareFile : 0 + 608 ≤ (bareFile ramdiskSize pageSize cmdline rest).length := by
  rw [bareFile, List.length_append, BootImgHdr.length_bytes]
  omega

theorem ofFile_bareFile :
    BootImgHdr.ofFile (slice (bareFile ramdiskSize pageSize cmdline rest) 0 608) =
      bareHeader ramdiskSize pageSize cmdline :=
  ofFile_slice (bareHeader ramdiskSize pageSize cmdline) [] rest

def sampleOptions : UnpackOptions :=
  { directory := some "out".toList, filename := some "boot.img".toList }

def bareUnpacking : Unpacking :=
  unpackingAt sampleOptions "boot.img".toList (bareFile ramdiskSize pageSize cmdline rest)
    sampleMemory (bareHeader ramdiskSize pageSize cmdline)

theorem bareFile_succeeds_iff :
    (unpackFile sampleOptions "boot.img".toList (bareFile ramdiskSize pageSize cmdline rest)
        sampleMemory).Succeeds Stdio.lenientStart ↔
      (bareUnpacking ramdiskSize pageSize cmdline rest).NamesFit ∧
        0 ∈ (bareHeader ramdiskSize pageSize cmdline).cmdline.val ∧
        (∀ item ∈ (bareUnpacking ramdiskSize pageSize cmdline rest).paddings (0 + 608),
          PaddingFits (bareFile ramdiskSize pageSize cmdline rest) pageSize item) ∧
        (bareUnpacking ramdiskSize pageSize cmdline rest).ramdiskBuffer (0 + 608) ≠ [] ∧
        (bareUnpacking ramdiskSize pageSize cmdline rest).ramdiskBuffer (0 + 608) ≠ [0x02] :=
  unpackFile_succeeds_iff sampleOptions "boot.img".toList
    (findMagic_bareFile ramdiskSize pageSize cmdline rest)
    (le_length_bareFile ramdiskSize pageSize cmdline rest)
    (ofFile_bareFile ramdiskSize pageSize cmdline rest) rfl

end Samples

/-- A header alone, with a ramdisk of two bytes that the file does not have. -/
theorem accesses_inBounds_bare :
    (unpackFile sampleOptions "boot.img".toList (bareFile 2 2048 [] []) sampleMemory).Succeeds
      Stdio.lenientStart := by
  obtain ⟨hiff, hramdisk⟩ := accesses_inBounds_iff sampleOptions "boot.img".toList
    (findMagic_bareFile 2 2048 [] []) (le_length_bareFile 2 2048 [] [])
  rw [ofFile_bareFile] at hiff hramdisk
  refine hiff.mpr ⟨⟨_, rfl, namesFit_sample⟩, ?_, ?_, hramdisk (by decide)⟩
  · exact List.mem_append_right _ (List.mem_replicate.mpr ⟨by decide, rfl⟩)
  · intro item _
    exact Or.inr (Or.inl (by decide))

/-- An empty ramdisk, a page size of zero with a byte behind the header, and a command line
without a terminator. -/
theorem accesses_out_of_bounds :
    ¬(unpackFile sampleOptions "boot.img".toList (bareFile 0 2048 [] []) sampleMemory).Succeeds
        Stdio.lenientStart ∧
      ¬(unpackFile sampleOptions "boot.img".toList (bareFile 2 0 [] [1]) sampleMemory).Succeeds
        Stdio.lenientStart ∧
      ¬(unpackFile sampleOptions "boot.img".toList
        (bareFile 2 2048 (List.replicate 512 0x61) []) sampleMemory).Succeeds
          Stdio.lenientStart := by
  refine ⟨?_, ?_, ?_⟩
  · rw [bareFile_succeeds_iff]
    rintro ⟨-, -, -, hempty, -⟩
    exact hempty (List.eq_nil_of_length_eq_zero (length_ramdiskBuffer _ _))
  · rw [bareFile_succeeds_iff]
    rintro ⟨-, -, hpadding, -⟩
    have hheader : PaddingFits (bareFile 2 0 [] [1]) 0 (BootImgHdr.sizeof, 0 + 608) :=
      hpadding _ List.mem_cons_self
    have hlength : (bareFile 2 0 [] [1]).length = 609 := by
      rw [bareFile, List.length_append, BootImgHdr.length_bytes]
      rfl
    rw [PaddingFits, hlength] at hheader
    revert hheader
    decide
  · rw [bareFile_succeeds_iff]
    rintro ⟨-, hterminator, -⟩
    change 0 ∈ (CharArray.ofBytes bootArgsSize (List.replicate 512 0x61)).val at hterminator
    rw [CharArray.val_ofBytes_of_length_le (by rw [List.length_replicate]; decide),
      List.length_replicate] at hterminator
    rcases List.mem_append.mp hterminator with hletter | hfill
    · exact absurd (List.mem_replicate.mp hletter).2 (by decide)
    · cases hfill

end Exynos9810.Dtbhtool
