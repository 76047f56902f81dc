import Exynos9810.Dtbhtool.MkbootimgLayout
import Exynos9810.Dtbhtool.Unpackbootimg

/-!
# Packing and unpacking

`unpackbootimg` reads kernel and ramdisk where `mkbootimg` put them.  Then it
writes the remaining sections to the stream of the ramdisk, which it has closed:
no run gets past that point.
-/
namespace Exynos9810.Dtbhtool

open ByteString Paging

structure RoundTrip (directory filename : CString) (sections : Sections)
    (result : Except Stop Int × Stdio) : Prop where
  returns : result.1 = .ok 0
  kernel : result.2.files (outputName directory filename "-zImage") =
    some sections.kernel.data
  ramdisk : result.2.files (outputName directory filename "-ramdisk.gz") =
      some sections.ramdisk.data ∨
    result.2.files (outputName directory filename "-ramdisk.lz4") = some sections.ramdisk.data
  second : result.2.files (outputName directory filename "-second") =
    some (dataOf sections.second)
  dt : result.2.files (outputName directory filename "-dt") = some (dataOf sections.dt)
  signature : result.2.files (outputName directory filename "-signature") =
    some (dataOf sections.signature)

section Closed

variable {u : Unpacking} {io io' : Stdio}

theorem streams_readPadding {file : Bytes} {memory : Memory} {itemsize pagesize : UInt32}
    (h : (readPadding file memory itemsize pagesize).run io = (.ok (), io')) :
    io'.streams = io.streams := by
  unfold readPadding at h
  dsimp only at h
  split at h
  · cases h
    rfl
  · obtain ⟨data, last, hread, h⟩ := Tool.bind_eq_ok h
    cases h
    simp only [freadInto] at hread
    split at hread <;> cases hread
    rfl

theorem keepsMode_readPadding (file : Bytes) (memory : Memory) (itemsize pagesize : UInt32) :
    (readPadding file memory itemsize pagesize).KeepsMode := by
  unfold readPadding
  dsimp only
  split
  · exact Tool.keepsMode_pure _
  · refine Tool.KeepsMode.bind ?_ fun _ => Tool.keepsMode_pure _
    intro io
    simp only [freadInto]
    split <;> rfl

theorem keepsMode_tmpName (directory : Option CString) (filename : CString) (suffix : String) :
    (tmpName directory filename suffix).KeepsMode := by
  unfold tmpName
  split
  · dsimp only
    split
    · exact Tool.keepsMode_pure _
    · exact Tool.keepsMode_stop _
  · exact Tool.keepsMode_stop _

theorem keepsMode_writeTexts (directory : Option CString) (filename : CString)
    (texts : List (String × Bytes)) : (writeTexts directory filename texts).KeepsMode := by
  induction texts with
  | nil => exact Tool.keepsMode_pure _
  | cons text texts ih =>
    exact (keepsMode_tmpName _ _ _).bind fun _ =>
      Tool.KeepsMode.bind ((Tool.keepsMode_fopen _).bind fun _ =>
        (Tool.keepsMode_fwrite _ _).bind fun _ => (Tool.keepsMode_fwrite _ _).bind fun _ =>
          Tool.keepsMode_fclose _) fun _ => ih

theorem keepsMode_kernel (u : Unpacking) : u.kernel.KeepsMode :=
  (keepsMode_tmpName _ _ _).bind fun _ => (Tool.keepsMode_fopen _).bind fun _ =>
    (Tool.keepsMode_fread _ _).bind fun _ => (Tool.keepsMode_fwrite _ _).bind fun _ =>
      Tool.keepsMode_fclose _

theorem keepsMode_ramdisk (u : Unpacking) : u.ramdisk.KeepsMode :=
  (Tool.keepsMode_fread _ _).bind fun _ => (Tool.keepsMode_ofExcept _).bind fun _ =>
    (keepsMode_tmpName _ _ _).bind fun _ => (Tool.keepsMode_fopen _).bind fun _ =>
      (Tool.keepsMode_fwrite _ _).bind fun _ => (Tool.keepsMode_fclose _).bind fun _ =>
        Tool.keepsMode_pure _

theorem streams_tmpName {directory : Option CString} {filename name : CString} {suffix : String}
    (h : (tmpName directory filename suffix).run io = (.ok name, io')) : io' = io := by
  unfold tmpName at h
  split at h
  · dsimp only at h
    split at h <;> cases h
    rfl
  · cases h

theorem fclose_closes {stream : Nat} (h : (fclose stream).run io = (.ok (), io')) :
    io'.streams[stream]? = some none := by
  simp only [fclose] at h
  split at h
  · rename_i path hpath
    cases h
    obtain ⟨hlength, -⟩ := List.getElem?_eq_some_iff.mp hpath
    simp [hlength]
  · cases h

theorem ramdisk_closes {r : Nat} (h : u.ramdisk.run io = (.ok r, io')) :
    io'.streams[r]? = some none := by
  obtain ⟨data, _, _, h⟩ := Tool.bind_eq_ok h
  obtain ⟨suffix, _, _, h⟩ := Tool.bind_eq_ok h
  obtain ⟨name, _, _, h⟩ := Tool.bind_eq_ok h
  obtain ⟨stream, _, _, h⟩ := Tool.bind_eq_ok h
  obtain ⟨_, _, _, h⟩ := Tool.bind_eq_ok h
  obtain ⟨_, last, hclose, h⟩ := Tool.bind_eq_ok h
  cases h
  exact fclose_closes hclose

theorem extract_ne_ok {r : Nat} (hclosed : io.streams[r]? = some none)
    (hstrict : io.lenient = false) (suffix : String) (buffer : CharArray size) :
    (u.extract r suffix buffer).run io ≠ (.ok (), io') := by
  intro h
  obtain ⟨name, io₁, hname, h⟩ := Tool.bind_eq_ok h
  cases streams_tmpName hname
  obtain ⟨stream, io₂, hopen, h⟩ := Tool.bind_eq_ok h
  obtain ⟨data, io₃, hread, h⟩ := Tool.bind_eq_ok h
  obtain ⟨_, io₄, hwrite, h⟩ := Tool.bind_eq_ok h
  have hstreams : io₃.streams[r]? = some none := by
    cases hread
    cases hopen
    rw [List.getElem?_append_left (List.getElem?_eq_some_iff.mp hclosed).1]
    exact hclosed
  have hmode : io₃.lenient = false := by
    cases hread
    cases hopen
    exact hstrict
  rw [fwrite_closed_run data hstreams, hmode] at hwrite
  cases hwrite

theorem run_ne_ok (u : Unpacking) {io : Stdio} (hstrict : io.lenient = false) (io' : Stdio)
    (status : Int) : u.run.run io ≠ (.ok status, io') := by
  intro h
  obtain ⟨cmdline, io₁, h₁, h⟩ := Tool.bind_eq_ok h
  obtain ⟨_, io₂, h₂, h⟩ := Tool.bind_eq_ok h
  obtain ⟨_, io₃, h₃, h⟩ := Tool.bind_eq_ok h
  obtain ⟨_, io₄, h₄, h⟩ := Tool.bind_eq_ok h
  obtain ⟨_, io₅, h₅, h⟩ := Tool.bind_eq_ok h
  obtain ⟨r, io₆, hramdisk, h⟩ := Tool.bind_eq_ok h
  obtain ⟨_, io₇, hskip, h⟩ := Tool.bind_eq_ok h
  obtain ⟨_, io₈, hextract, h⟩ := Tool.bind_eq_ok h
  have hclosed := ramdisk_closes hramdisk
  rw [← streams_readPadding hskip] at hclosed
  have hmode : io₇.lenient = false := by
    rw [(keepsMode_readPadding _ _ _ _).of_run hskip, (keepsMode_ramdisk u).of_run hramdisk,
      (keepsMode_readPadding _ _ _ _).of_run h₅, (keepsMode_kernel u).of_run h₄,
      (keepsMode_readPadding _ _ _ _).of_run h₃, (keepsMode_writeTexts _ _ _).of_run h₂,
      (Tool.keepsMode_ofExcept _).of_run h₁, hstrict]
  exact extract_ne_ok hclosed hmode _ _ hextract

end Closed

theorem unpackFile_ne_zero (options : UnpackOptions) (filename : CString) (file : Bytes)
    (memory : Memory) {io : Stdio} (hstrict : io.lenient = false) (io' : Stdio) :
    (unpackFile options filename file memory).run io ≠ (.ok 0, io') := by
  intro h
  unfold unpackFile at h
  cases hmagic : findMagic file 513 0 (memory 6 bootMagicSize).val with
  | none =>
    rw [hmagic] at h
    cases h
  | some i =>
    rw [hmagic] at h
    obtain ⟨_, io₁, hseek, h⟩ := Tool.bind_eq_ok h
    obtain ⟨_, io₂, hread, h⟩ := Tool.bind_eq_ok h
    have hmode : io₂.lenient = false := by
      cases hread
      cases hseek
      exact hstrict
    exact run_ne_ok _ hmode _ _ h

theorem files_of_returns {contents : CString → Option Bytes} {memory : Memory}
    {argv : List CString} {io : Stdio} (h : unpackbootimg contents memory argv = (.ok 0, io)) :
    io.files = fun _ => none := by
  obtain ⟨options?, start, hargs, h⟩ := Tool.bind_eq_ok h
  obtain rfl : Stdio.start = start := congrArg Prod.snd hargs
  cases options? with
  | none =>
    cases h
    rfl
  | some options =>
    dsimp only [unpackOptions] at h
    cases hfilename : options.filename with
    | none =>
      rw [hfilename] at h
      cases h
      rfl
    | some filename =>
      rw [hfilename] at h
      cases hfile : contents filename with
      | none =>
        simp only [hfile] at h
        cases h
      | some file =>
        simp only [hfile] at h
        exact absurd h (unpackFile_ne_zero _ _ _ _ rfl _)

theorem not_roundTrip (directory filename : CString) (sections : Sections)
    (contents : CString → Option Bytes) (memory : Memory) (argv : List CString) :
    ¬RoundTrip directory filename sections (unpackbootimg contents memory argv) := by
  rintro ⟨hreturns, hkernel, -⟩
  have hfiles := files_of_returns (Prod.ext hreturns rfl)
  rw [hfiles] at hkernel
  cases hkernel

section Stdio

theorem writeStringToFile_run (path : CString) (text : Bytes) (io : Stdio) :
    (writeStringToFile path text).run io = (.ok (), io.output path (text ++ [0x0a])) := by
  rw [writeStringToFile, Tool.bind_of_ok rfl,
    Tool.bind_of_ok (fwrite_run path text (by simp)),
    Tool.bind_of_ok (fwrite_run path [0x0a] (by simp)), fclose_run path (by simp)]
  simp only [if_true, Option.map_some, List.nil_append, ite_ite_same, closed_last]
  rfl

theorem readPadding_run {file : Bytes} {pagesize itemsize : UInt32} {bits : Nat} {io : Stdio}
    (hpage : pagesize.toNat = 2 ^ bits) (hint : pagesize.toNat < 2 ^ 31) (memory : Memory)
    (hfile : io.position + padding pagesize.toNat itemsize.toNat ≤ file.length) :
    (readPadding file memory itemsize pagesize).run io =
      (.ok (), { io with
        position := io.position + padding pagesize.toNat itemsize.toNat }) := by
  unfold readPadding
  by_cases hzero : itemsize &&& (pagesize - 1) = 0
  · rw [if_pos hzero, padding_of_and_mask_eq_zero hpage hzero, Nat.add_zero, Tool.run_pure]
  · have hcount := toNat_sub_and_mask hpage hzero
    have hlt := padding_lt (toNat_page_pos hpage) itemsize.toNat
    have hlength : (memory 0 (padding pagesize.toNat itemsize.toNat)).val.length =
        padding pagesize.toNat itemsize.toNat := CharArray.length_val _
    have hslice : (slice file io.position (padding pagesize.toNat itemsize.toNat)).length =
        padding pagesize.toNat itemsize.toNat := by
      rw [length_slice, Nat.min_eq_left (by omega)]
    have hread : (freadInto file (paddingBuffer pagesize)
        (memory 0 (padding pagesize.toNat itemsize.toNat)).val).run io =
        (fread file (memory 0 (padding pagesize.toNat itemsize.toNat)).val).run io := by
      simp only [freadInto, hlength, hslice, paddingBuffer, if_pos hint]
      exact if_pos hlt.le
    rw [if_neg hzero]
    dsimp only
    rw [hcount, Tool.bind_of_ok (hread.trans rfl), hlength, hslice]
    rfl

end Stdio

def NamesFit (directory filename : CString) : Prop :=
  (outputName directory filename "-ramdisk_offset").length < 4096

section Extraction

variable {directory filename : CString}

theorem tmpName_run (hfit : NamesFit directory filename) {suffix : String}
    (hsuffix : suffix.toList.length ≤ 15) (io : Stdio) :
    (tmpName (some directory) filename suffix).run io =
      (.ok (outputName directory filename suffix), io) := by
  have hlength : (outputName directory filename suffix).length < 4096 := by
    have hlong : "-ramdisk_offset".toList.length = 15 := rfl
    simp only [NamesFit, outputName, List.length_append, hlong] at hfit ⊢
    omega
  simp only [tmpName, hlength, if_true, Tool.run_pure]

@[simp] theorem outputName_inj {left right : String} :
    outputName directory filename left = outputName directory filename right ↔ left = right := by
  rw [outputName, outputName, List.append_cancel_left_eq, String.toList_inj]

theorem writeTexts_run (hfit : NamesFit directory filename) (texts : List (String × Bytes))
    (hsuffix : ∀ text ∈ texts, text.1.toList.length ≤ 15) (io : Stdio) :
    ∃ io', (writeTexts (some directory) filename texts).run io = (.ok (), io') ∧
      io'.position = io.position ∧ io'.lenient = io.lenient ∧ io'.lost = io.lost ∧
      ∀ name, (∀ text ∈ texts, name ≠ outputName directory filename text.1) →
        io'.files name = io.files name := by
  induction texts generalizing io with
  | nil => exact ⟨io, rfl, rfl, rfl, rfl, fun _ _ => rfl⟩
  | cons text texts ih =>
    obtain ⟨suffix, bytes⟩ := text
    obtain ⟨io', hrun, hposition, hmode, hlost, hfiles⟩ :=
      ih (fun text h => hsuffix text (.tail _ h))
        (io.output (outputName directory filename suffix) (bytes ++ [0x0a]))
    refine ⟨io', ?_, hposition, hmode, hlost, ?_⟩
    · rw [writeTexts, Tool.bind_of_ok (tmpName_run hfit (hsuffix (suffix, bytes) (.head _)) io),
        Tool.bind_of_ok (writeStringToFile_run _ bytes io), hrun]
    · intro name hname
      rw [hfiles name fun text h => hname text (.tail _ h)]
      exact if_neg (hname (suffix, bytes) (.head _))

variable {u : Unpacking} {io : Stdio}

theorem kernel_run (hfit : NamesFit directory filename) (hdirectory : u.directory = some directory)
    (hfilename : u.filename = filename) {data : Bytes} {position : Nat}
    (hread : (fread u.file (u.memory 1 u.header.kernelSize.toNat).val).run io =
      (.ok data, { io with position := position })) :
    u.kernel.run io =
      (.ok (), { io.output (outputName directory filename "-zImage") data with
        position := position }) := by
  rw [Unpacking.kernel, hdirectory, hfilename, Tool.bind_of_ok (tmpName_run hfit (by decide) io),
    Tool.bind_of_ok rfl, Tool.bind_of_ok (fread_run_at _ hread (by rfl)),
    Tool.bind_of_ok (fwrite_run (outputName directory filename "-zImage") data (by simp)),
    fclose_run (outputName directory filename "-zImage") (by simp)]
  simp only [if_true, Option.map_some, List.nil_append, ite_ite_same, closed_last]
  rfl

theorem skip_run {bits : Nat} (hpage : u.pagesize.toNat = 2 ^ bits)
    (hint : u.pagesize.toNat < 2 ^ 31) (front bytes fill back : Bytes) {itemsize : UInt32}
    (hfile : u.file = front ++ (bytes ++ (fill ++ back)))
    (hfill : fill.length = padding u.pagesize.toNat bytes.length)
    (hsize : itemsize.toNat = bytes.length)
    (hposition : io.position = front.length + bytes.length) :
    (u.skip itemsize).run io =
      (.ok (), { io with position := (front ++ (bytes ++ fill)).length }) := by
  have hend : io.position + padding u.pagesize.toNat itemsize.toNat =
      (front ++ (bytes ++ fill)).length := by
    simp only [hposition, hsize, ← hfill, List.length_append]
    omega
  have hle : (front ++ (bytes ++ fill)).length ≤ u.file.length := by
    rw [hfile]
    simp only [List.length_append]
    omega
  rw [Unpacking.skip, readPadding_run hpage hint u.memory (hend.trans_le hle), hend]

theorem skip_padded_run (hpage : u.pagesize ∈ pagesizes) (front bytes back : Bytes)
    {itemsize : UInt32} (hfile : u.file = front ++ (padded u.pagesize.toNat bytes ++ back))
    (hsize : itemsize.toNat = bytes.length)
    (hposition : io.position = front.length + bytes.length) :
    (u.skip itemsize).run io =
      (.ok (), { io with position := (front ++ padded u.pagesize.toNat bytes).length }) := by
  obtain ⟨bits, -, hbits⟩ := exists_two_pow_of_mem_pagesizes hpage
  have hle := pagesize_le hpage
  rw [padded, List.append_assoc] at hfile
  exact skip_run hbits (by omega) front bytes _ back hfile (length_zeros _) hsize hposition

theorem ramdiskSuffix_cases {ramdisk : Bytes} {suffix : String}
    (h : ramdiskSuffix ramdisk = .ok suffix) :
    suffix = "-ramdisk.lz4" ∨ suffix = "-ramdisk.gz" := by
  unfold ramdiskSuffix at h
  split at h <;> cases h <;> simp

theorem exists_ramdiskSuffix {ramdisk : Bytes} (h : 2 ≤ ramdisk.length) :
    ∃ suffix, ramdiskSuffix ramdisk = .ok suffix := by
  unfold ramdiskSuffix
  split
  · exact ⟨_, rfl⟩
  · simp at h
  · simp at h
  · exact ⟨_, rfl⟩

theorem length_ramdiskSuffix {ramdisk : Bytes} {suffix : String}
    (h : ramdiskSuffix ramdisk = .ok suffix) : suffix.toList.length ≤ 15 := by
  rcases ramdiskSuffix_cases h with rfl | rfl <;> decide

theorem ramdisk_run (hfit : NamesFit directory filename)
    (hdirectory : u.directory = some directory) (hfilename : u.filename = filename)
    {data : Bytes} {position : Nat}
    (hread : (fread u.file (u.memory 2 u.header.ramdiskSize.toNat).val).run io =
      (.ok data, { io with position := position }))
    {suffix : String} (hsuffix : ramdiskSuffix data = .ok suffix) :
    u.ramdisk.run io =
      (.ok io.streams.length, { io.output (outputName directory filename suffix) data with
        position := position }) := by
  have hrun : (Tool.ofExcept (ramdiskSuffix data)).run { io with position := position } =
      (.ok suffix, { io with position := position }) := by
    rw [hsuffix]
    rfl
  rw [Unpacking.ramdisk, hdirectory, hfilename, Tool.bind_of_ok hread, Tool.bind_of_ok hrun,
    Tool.bind_of_ok (tmpName_run hfit (length_ramdiskSuffix hsuffix) _), Tool.bind_of_ok rfl,
    Tool.bind_of_ok (fwrite_run (outputName directory filename suffix) data (by simp)),
    Tool.bind_of_ok (fclose_run (outputName directory filename suffix) (by simp))]
  simp only [if_true, Option.map_some, List.nil_append, ite_ite_same, closed_last]
  rfl

theorem closed_append {streams : List (Option CString)} {r : Nat}
    (hclosed : streams[r]? = some none) (stream : Option CString) :
    (streams ++ [stream])[r]? = some none := by
  rw [List.getElem?_append_left (List.getElem?_eq_some_iff.mp hclosed).1]
  exact hclosed

theorem extract_lenient_run (hfit : NamesFit directory filename)
    (hdirectory : u.directory = some directory) (hfilename : u.filename = filename)
    {suffix : String} (hsuffix : suffix.toList.length ≤ 15) {r : Nat} {buffer : CharArray size}
    {data : Bytes} {position : Nat}
    (hread : (fread u.file buffer.val).run io = (.ok data, { io with position := position }))
    (hclosed : io.streams[r]? = some none) (hlenient : io.lenient = true) :
    (u.extract r suffix buffer).run io =
      (.ok (), { io.output (outputName directory filename suffix) [] with
        position := position, lost := io.lost ++ [data] }) := by
  have hwrite {opened : Stdio} (h : opened.streams[r]? = some none)
      (hmode : opened.lenient = true) :
      (fwrite data r).run opened = (.ok (), { opened with lost := opened.lost ++ [data] }) := by
    rw [fwrite_closed_run data h, if_pos hmode]
  rw [Unpacking.extract, hdirectory, hfilename, Tool.bind_of_ok (tmpName_run hfit hsuffix io),
    Tool.bind_of_ok rfl, Tool.bind_of_ok (fread_run_at _ hread (by rfl)),
    Tool.bind_of_ok (hwrite (by exact closed_append hclosed _) (by exact hlenient)),
    fclose_run (outputName directory filename suffix) (by simp)]
  simp only [closed_last]
  rfl

theorem rest_run (hfit : NamesFit directory filename) (hdirectory : u.directory = some directory)
    (hfilename : u.filename = filename) (r : Nat) (io : Stdio)
    (hclosed : io.streams[r]? = some none) (hstrict : io.lenient = false) :
    ∃ io', (u.rest r).run io = (.error .undefined, io') ∧
      io'.files = fun name => if name = outputName directory filename "-second" then some []
        else io.files name := by
  let opened := ((fopen (outputName directory filename "-second")).run io).2
  let read := ((fread u.file (u.memory 3 u.header.secondSize.toNat).val).run opened).2
  refine ⟨read, ?_, rfl⟩
  rw [Unpacking.rest]
  apply Tool.bind_of_error
  rw [Unpacking.extract, hdirectory, hfilename, Tool.bind_of_ok (tmpName_run hfit (by decide) io),
    Tool.bind_of_ok rfl, Tool.bind_of_ok rfl]
  apply Tool.bind_of_error
  rw [fwrite_closed_run _ (closed_append hclosed _)]
  exact if_neg (by rw [hstrict]; exact Bool.false_ne_true)

theorem skip_run_at {itemsize : UInt32} {last : Stdio} (io' : Stdio)
    (h : (u.skip itemsize).run io = (.ok (), last)) (hposition : io'.position = io.position) :
    (u.skip itemsize).run io' = (.ok (), { io' with position := last.position }) := by
  unfold Unpacking.skip readPadding at h ⊢
  dsimp only at h ⊢
  split at h
  · rename_i hzero
    cases h
    rw [if_pos hzero, Tool.run_pure, ← hposition]
  · rename_i hzero
    obtain ⟨data, read, hread, h⟩ := Tool.bind_eq_ok h
    cases h
    simp only [freadInto] at hread
    split at hread
    · rename_i hfits
      rw [← hposition] at hfits
      rw [if_neg hzero, Tool.bind_of_ok ((if_pos hfits).trans (fread_run_at io' hread hposition))]
      rfl
    · cases hread

theorem rest_lenient_run (hfit : NamesFit directory u.filename)
    (hdirectory : u.directory = some directory) {r : Nat} (hclosed : io.streams[r]? = some none)
    (hlenient : io.lenient = true) {second dt signature : Bytes} {io₁ io₂ io₃ io₄ io₅ : Stdio}
    (hsecond : (fread u.file (u.memory 3 u.header.secondSize.toNat).val).run io =
      (.ok second, io₁))
    (hsecondEnd : (u.skip u.header.secondSize).run io₁ = (.ok (), io₂))
    (hdt : (fread u.file (u.memory 4 u.header.dtSize.toNat).val).run io₂ = (.ok dt, io₃))
    (hdtEnd : (u.skip u.header.dtSize).run io₃ = (.ok (), io₄))
    (hsignature : (fread u.file (u.memory 5 256).val).run io₄ = (.ok signature, io₅)) :
    ∃ final, (u.rest r).run io = (.ok 0, final) ∧
      final.lost = io.lost ++ [second, dt, signature] ∧
      ∀ other ∉ ["-second", "-dt", "-signature"],
        final.files (outputName directory u.filename other) =
          io.files (outputName directory u.filename other) := by
  let atSecond : Stdio :=
    { io.output (outputName directory u.filename "-second") [] with
      position := io₁.position, lost := io.lost ++ [second] }
  let behindSecond : Stdio := { atSecond with position := io₂.position }
  let atDt : Stdio :=
    { behindSecond.output (outputName directory u.filename "-dt") [] with
      position := io₃.position, lost := behindSecond.lost ++ [dt] }
  let behindDt : Stdio := { atDt with position := io₄.position }
  let final : Stdio :=
    { behindDt.output (outputName directory u.filename "-signature") [] with
      position := io₅.position, lost := behindDt.lost ++ [signature] }
  have hatSecond : (u.extract r "-second" (u.memory 3 u.header.secondSize.toNat)).run io =
      (.ok (), atSecond) :=
    extract_lenient_run hfit hdirectory rfl (by decide) (fread_run_at io hsecond rfl) hclosed
      hlenient
  have hbehindSecond : (u.skip u.header.secondSize).run atSecond = (.ok (), behindSecond) :=
    skip_run_at atSecond hsecondEnd rfl
  have hatDt : (u.extract r "-dt" (u.memory 4 u.header.dtSize.toNat)).run behindSecond =
      (.ok (), atDt) :=
    extract_lenient_run hfit hdirectory rfl (by decide) (fread_run_at behindSecond hdt rfl)
      (closed_append hclosed _) hlenient
  have hbehindDt : (u.skip u.header.dtSize).run atDt = (.ok (), behindDt) :=
    skip_run_at atDt hdtEnd rfl
  have hfinal : (u.extract r "-signature" (u.memory 5 256)).run behindDt = (.ok (), final) :=
    extract_lenient_run hfit hdirectory rfl (by decide) (fread_run_at behindDt hsignature rfl)
      (closed_append (closed_append hclosed _) _) hlenient
  refine ⟨final, ?_, ?_, ?_⟩
  · rw [Unpacking.rest, Tool.bind_of_ok hatSecond, Tool.bind_of_ok hbehindSecond,
      Tool.bind_of_ok hatDt, Tool.bind_of_ok hbehindDt, Tool.bind_of_ok hfinal]
    rfl
  · simp [final, behindDt, atDt, behindSecond, atSecond]
  · intro other hother
    simp only [List.mem_cons, List.not_mem_nil, or_false, not_or] at hother
    simp [final, behindDt, atDt, behindSecond, atSecond, Stdio.output, hother]

/-- The run follows what is read: each step finds the position that the reads alone have
reached, whatever has been written in between. -/
theorem run_to_rest (hfit : NamesFit directory u.filename)
    (hdirectory : u.directory = some directory) {cmdline kernel ramdisk : Bytes}
    {suffix : String} {io₁ io₂ io₃ io₄ io₅ : Stdio}
    (hcmdline : cString u.header.cmdline.val = .ok cmdline)
    (hheader : (u.skip BootImgHdr.sizeof).run io = (.ok (), io₁))
    (hkernel : (fread u.file (u.memory 1 u.header.kernelSize.toNat).val).run io₁ =
      (.ok kernel, io₂))
    (hkernelEnd : (u.skip u.header.kernelSize).run io₂ = (.ok (), io₃))
    (hramdisk : (fread u.file (u.memory 2 u.header.ramdiskSize.toNat).val).run io₃ =
      (.ok ramdisk, io₄))
    (hsuffix : ramdiskSuffix ramdisk = .ok suffix)
    (hramdiskEnd : (u.skip u.header.ramdiskSize).run io₄ = (.ok (), io₅)) :
    ∃ r before, u.run.run io = (u.rest r).run before ∧ before.streams[r]? = some none ∧
      before.position = io₅.position ∧ before.lenient = io.lenient ∧ before.lost = io.lost ∧
      before.files (outputName directory u.filename "-zImage") = some kernel ∧
      before.files (outputName directory u.filename suffix) = some ramdisk ∧
      ∀ other, (∀ text ∈ headerTexts u.header cmdline, other ≠ text.1) →
        other ∉ ["-zImage", suffix] →
        before.files (outputName directory u.filename other) =
          io.files (outputName directory u.filename other) := by
  obtain ⟨texts, htexts, hposition, hmode, hlost, hframe⟩ := writeTexts_run hfit
    (headerTexts u.header cmdline) (by simp [headerTexts]) io
  have hcmdlineRun : (Tool.ofExcept (cString u.header.cmdline.val)).run io =
      (.ok cmdline, io) := by
    rw [hcmdline]
    rfl
  let skipped : Stdio := { texts with position := io₁.position }
  let zImage : Stdio :=
    { texts.output (outputName directory u.filename "-zImage") kernel with
      position := io₂.position }
  let extracted : Stdio := { zImage with position := io₃.position }
  let closed : Stdio :=
    { extracted.output (outputName directory u.filename suffix) ramdisk with
      position := io₄.position }
  let before : Stdio := { closed with position := io₅.position }
  have hskipped : (u.skip BootImgHdr.sizeof).run texts = (.ok (), skipped) :=
    skip_run_at texts hheader hposition
  have hzImage : u.kernel.run skipped = (.ok (), zImage) :=
    kernel_run hfit hdirectory rfl (fread_run_at skipped hkernel rfl)
  have hextracted : (u.skip u.header.kernelSize).run zImage = (.ok (), extracted) :=
    skip_run_at zImage hkernelEnd rfl
  have hclosed : u.ramdisk.run extracted = (.ok extracted.streams.length, closed) :=
    ramdisk_run hfit hdirectory rfl (fread_run_at extracted hramdisk rfl) hsuffix
  have hbefore : (u.skip u.header.ramdiskSize).run closed = (.ok (), before) :=
    skip_run_at closed hramdiskEnd rfl
  refine ⟨extracted.streams.length, before, ?_, by simp [before, closed, Stdio.output], rfl,
    hmode, hlost, ?_, ?_, ?_⟩
  · rw [Unpacking.run, Tool.bind_of_ok hcmdlineRun, hdirectory, Tool.bind_of_ok htexts,
      Tool.bind_of_ok hskipped, Tool.bind_of_ok hzImage, Tool.bind_of_ok hextracted,
      Tool.bind_of_ok hclosed, Tool.bind_of_ok hbefore]
  · rcases ramdiskSuffix_cases hsuffix with rfl | rfl <;>
      simp [before, closed, extracted, zImage, Stdio.output]
  · simp [before, closed, extracted, Stdio.output]
  · intro other htext hother
    have hkept := hframe (outputName directory u.filename other)
      fun text h => outputName_inj.not.mpr (htext text h)
    simp only [List.mem_cons, List.not_mem_nil, or_false, not_or] at hother
    simp [before, closed, extracted, zImage, Stdio.output, hother, hkept]

end Extraction

def unpackingAt (options : UnpackOptions) (filename : CString) (file : Bytes) (memory : Memory)
    (header : BootImgHdr) : Unpacking where
  directory := options.directory
  filename := filename
  file := file
  memory := memory
  header := header
  pagesize := if options.pagesize = 0 then header.pageSize else options.pagesize

section Magic

variable {file : Bytes}

theorem findMagic_eq_some {left i found : Nat} {tmp : Bytes} (hi : i ≤ found)
    (hleft : found < i + left) (htmp : tmp.length = bootMagicSize)
    (hend : found + bootMagicSize ≤ file.length)
    (hbefore : ∀ j, i ≤ j → j < found → slice file j bootMagicSize ≠ bootMagic)
    (hfound : slice file found bootMagicSize = bootMagic) :
    findMagic file left i tmp = some found := by
  induction left generalizing i tmp with
  | zero => omega
  | succ left ih =>
    have hfilled : filled file i tmp = slice file i bootMagicSize := by
      rw [filled_of_le (by omega), htmp]
    rw [findMagic, hfilled]
    rcases Nat.eq_or_lt_of_le hi with rfl | hlt
    · rw [if_pos hfound]
    · rw [if_neg (hbefore i le_rfl hlt)]
      apply ih hlt (by omega)
      · rw [length_slice]
        omega
      · intro j hj
        exact hbefore j (by omega)

theorem findMagic_eq_none {left i : Nat} {tmp : Bytes} (htmp : tmp.length = bootMagicSize)
    (hend : i + left + bootMagicSize ≤ file.length + 1)
    (hmiss : ∀ j, i ≤ j → j < i + left → slice file j bootMagicSize ≠ bootMagic) :
    findMagic file left i tmp = none := by
  induction left generalizing i tmp with
  | zero => rfl
  | succ left ih =>
    have hfilled : filled file i tmp = slice file i bootMagicSize := by
      rw [filled_of_le (by omega), htmp]
    rw [findMagic, hfilled, if_neg (hmiss i le_rfl (by omega))]
    apply ih
    · rw [length_slice]
      omega
    · omega
    · intro j hj hlt
      exact hmiss j (by omega) (by omega)

end Magic

section Header

theorem slice_magic (hdr : BootImgHdr) (hmagic : hdr.magic.val = bootMagic)
    (front rest : Bytes) :
    slice (front ++ (hdr.bytes ++ rest)) front.length bootMagicSize = bootMagic := by
  have h := slice_middle front bootMagic (hdr.words.flatMap le32 ++ (hdr.name.val ++
    (hdr.cmdline.val ++ (hdr.id.val ++ rest))))
  have hsize : bootMagic.length = bootMagicSize := rfl
  simpa only [BootImgHdr.bytes, hmagic, List.append_assoc, hsize] using h

theorem ofFile_slice (hdr : BootImgHdr) (front rest : Bytes) :
    BootImgHdr.ofFile (slice (front ++ (hdr.bytes ++ rest)) front.length 608) = hdr := by
  have hslice := slice_middle front hdr.bytes rest
  have hheader := BootImgHdr.ofFile_bytes_append hdr []
  rw [BootImgHdr.length_bytes, List.append_assoc] at hslice
  rw [List.append_nil] at hheader
  rw [hslice, hheader]

theorem header_run {file : Bytes} {memory : Memory} {i : Nat} (hfull : i + 608 ≤ file.length)
    (io : Stdio) :
    (fread file (memory 7 BootImgHdr.sizeof.toNat).val).run { io with position := i } =
      (.ok (slice file i 608), { io with position := i + 608 }) := by
  have hlength : (memory 7 BootImgHdr.sizeof.toNat).val.length = 608 := CharArray.length_val _
  have hslice : (slice file i 608).length = 608 := by
    rw [length_slice]
    omega
  have hfilled : filled file i (memory 7 BootImgHdr.sizeof.toNat).val = slice file i 608 := by
    rw [filled_of_le (by omega), hlength]
  simp only [fread, hfilled, hlength, hslice]

theorem unpackFile_run (options : UnpackOptions) (filename : CString) {file : Bytes}
    {memory : Memory} {i : Nat}
    (hmagic : findMagic file 513 0 (memory 6 bootMagicSize).val = some i)
    (hfull : i + 608 ≤ file.length) (io : Stdio) :
    (unpackFile options filename file memory).run io =
      (unpackingAt options filename file memory
        (BootImgHdr.ofFile (slice file i 608))).run.run { io with position := i + 608 } := by
  rw [unpackFile, hmagic]
  dsimp only
  rw [Tool.bind_of_ok rfl, Tool.bind_of_ok (header_run hfull io)]
  rfl

end Header

section Stop

variable {lib : Libraries} {job : Job} {sections : Sections}

theorem findMagic_makeHeader (rest : Bytes) (tmp : CharArray bootMagicSize) :
    findMagic ((makeHeader lib job sections).bytes ++ rest) 513 0 tmp.val = some 0 := by
  have hlength := (makeHeader lib job sections).length_bytes
  have hsize : bootMagicSize = 8 := rfl
  apply findMagic_eq_some le_rfl (by omega) tmp.length_val
  · rw [List.length_append]
    omega
  · intro j _ hj
    omega
  · exact slice_magic (makeHeader lib job sections) rfl [] rest

theorem cString_cmdline (lib : Libraries) (job : Job) (sections : Sections) :
    ∃ cmdline, cString (makeHeader lib job sections).cmdline.val = .ok cmdline := by
  have hlength : (stringBytes job.cmdline.val).length ≤ 511 := by
    rw [stringBytes, List.length_map]
    exact job.cmdline.property
  have hsize : bootArgsSize = 512 := rfl
  have hmem : 0 ∈ (makeHeader lib job sections).cmdline.val := by
    change 0 ∈ (CharArray.ofBytes bootArgsSize (stringBytes job.cmdline.val)).val
    rw [CharArray.val_ofBytes_of_length_le (by omega)]
    apply List.mem_append_right
    rw [zeros, List.mem_replicate]
    exact ⟨by omega, rfl⟩
  exact ⟨_, if_pos hmem⟩

/-- The sections up to the ramdisk are read back from the image; then the run
stops with the output for the second stage open and empty. -/
theorem run_stops (u : Unpacking) (lib : Libraries) (job : Job) (sections : Sections)
    {directory : CString} (hfit : NamesFit directory u.filename)
    (hdirectory : u.directory = some directory)
    (hheader : u.header = makeHeader lib job sections) (hpage : u.pagesize ∈ pagesizes)
    (hfile : u.file = writtenImage u.pagesize.toNat (makeHeader lib job sections) sections)
    {suffix : String} (hsuffix : ramdiskSuffix sections.ramdisk.data = .ok suffix)
    (io : Stdio) (hposition : io.position = 608) (hfiles : io.files = fun _ => none)
    (hstrict : io.lenient = false) :
    ∃ io', u.run.run io = (.error .undefined, io') ∧
      io'.files (outputName directory u.filename "-zImage") = some sections.kernel.data ∧
      io'.files (outputName directory u.filename suffix) = some sections.ramdisk.data ∧
      io'.files (outputName directory u.filename "-second") = some [] ∧
      io'.files (outputName directory u.filename "-dt") = none ∧
      io'.files (outputName directory u.filename "-signature") = none := by
  have hkernelSize : u.header.kernelSize.toNat = sections.kernel.data.length := by
    rw [hheader]
    exact sections.kernel.toNat_size
  have hramdiskSize : u.header.ramdiskSize.toNat = sections.ramdisk.data.length := by
    rw [hheader]
    exact sections.ramdisk.toNat_size
  obtain ⟨cmdline, hcmdline⟩ := cString_cmdline lib job sections
  rw [← hheader] at hcmdline
  let header := padded u.pagesize.toNat u.header.bytes
  let kernel := padded u.pagesize.toNat sections.kernel.data
  let ramdisk := padded u.pagesize.toNat sections.ramdisk.data
  obtain ⟨rest, hsplit⟩ : ∃ rest, u.file = header ++ (kernel ++ (ramdisk ++ rest)) := by
    refine ⟨secondBytes u.pagesize.toNat sections ++
      (padded u.pagesize.toNat (dataOf sections.dt) ++ (dataOf sections.signature).take 256), ?_⟩
    simp only [header, kernel, ramdisk, hfile, hheader, writtenImage, List.append_assoc]
  have hkernelSplit : u.file = header ++ (sections.kernel.data ++
      (zeros (padding u.pagesize.toNat sections.kernel.data.length) ++ (ramdisk ++ rest))) := by
    simp only [hsplit, kernel, padded, List.append_assoc]
  have hramdiskSplit : u.file = (header ++ kernel) ++ (sections.ramdisk.data ++
      (zeros (padding u.pagesize.toNat sections.ramdisk.data.length) ++ rest)) := by
    simp only [hsplit, ramdisk, padded, List.append_assoc]
  have hskip : (u.skip BootImgHdr.sizeof).run io =
      (.ok (), { io with position := header.length }) :=
    skip_padded_run hpage [] u.header.bytes _ hsplit (by rw [BootImgHdr.length_bytes]; rfl)
      (by rw [hposition, BootImgHdr.length_bytes]; rfl)
  obtain ⟨r, before, hrun, hclosed, -, hmode, -, hzImage, hramdisk, hother⟩ := run_to_rest hfit
    hdirectory hcmdline hskip
    (fread_run hkernelSplit rfl ((CharArray.length_val _).trans hkernelSize))
    (skip_padded_run hpage header sections.kernel.data _ hsplit hkernelSize rfl)
    (fread_run hramdiskSplit rfl ((CharArray.length_val _).trans hramdiskSize)) hsuffix
    (skip_padded_run hpage (header ++ kernel) sections.ramdisk.data rest
      (by rw [List.append_assoc]; exact hsplit) hramdiskSize rfl)
  obtain ⟨final, hrest, hfinal⟩ := rest_run hfit hdirectory rfl r before hclosed
    (hmode.trans hstrict)
  refine ⟨final, hrun.trans hrest, ?_⟩
  have hlast (suffix : String) (h : suffix ≠ "-second") :
      final.files (outputName directory u.filename suffix) =
        before.files (outputName directory u.filename suffix) := by
    rw [hfinal]
    exact if_neg (outputName_inj.not.mpr h)
  have hnone (suffix' : String) (htext : ∀ text ∈ headerTexts u.header cmdline, suffix' ≠ text.1)
      (hnew : suffix' ∉ ["-zImage", suffix]) (h : suffix' ≠ "-second") :
      final.files (outputName directory u.filename suffix') = none := by
    rw [hlast suffix' h, hother suffix' htext hnew, hfiles]
  refine ⟨?_, ?_, ?_, ?_, ?_⟩
  · rw [hlast "-zImage" (by decide), hzImage]
  · rw [hlast suffix (by rcases ramdiskSuffix_cases hsuffix with rfl | rfl <;> decide), hramdisk]
  · rw [hfinal]
    exact if_pos rfl
  · refine hnone "-dt" (by simp [headerTexts]) ?_ (by decide)
    rcases ramdiskSuffix_cases hsuffix with rfl | rfl <;> decide
  · refine hnone "-signature" (by simp [headerTexts]) ?_ (by decide)
    rcases ramdiskSuffix_cases hsuffix with rfl | rfl <;> decide

theorem unpackFile_stops (lib : Libraries) (job : Job) {sections : Sections}
    (options : UnpackOptions) {directory filename : CString}
    (hfit : NamesFit directory filename) (hdirectory : options.directory = some directory)
    (hpagesize : options.pagesize = 0) (memory : Memory)
    {suffix : String} (hsuffix : ramdiskSuffix sections.ramdisk.data = .ok suffix) :
    ∃ io, (unpackFile options filename (writtenImage job.pagesize.val.toNat
        (makeHeader lib job sections) sections) memory).run Stdio.start =
        (.error .undefined, io) ∧
      io.files (outputName directory filename "-zImage") = some sections.kernel.data ∧
      io.files (outputName directory filename suffix) = some sections.ramdisk.data ∧
      io.files (outputName directory filename "-second") = some [] ∧
      io.files (outputName directory filename "-dt") = none ∧
      io.files (outputName directory filename "-signature") = none := by
  let hdr := makeHeader lib job sections
  let file := writtenImage job.pagesize.val.toNat hdr sections
  obtain ⟨rest, hrest⟩ : ∃ rest, file = [] ++ (hdr.bytes ++ rest) := by
    simp only [file, writtenImage, padded, List.append_assoc, List.nil_append]
    exact ⟨_, rfl⟩
  have hmagic : findMagic file 513 0 (memory 6 bootMagicSize).val = some 0 := by
    rw [hrest]
    exact findMagic_makeHeader rest _
  have hfull : 0 + 608 ≤ file.length := by
    rw [hrest, List.nil_append, List.length_append, BootImgHdr.length_bytes]
    omega
  have hheader : BootImgHdr.ofFile (slice file 0 608) = hdr := by
    rw [hrest]
    exact ofFile_slice hdr [] rest
  have hpage : (unpackingAt options filename file memory hdr).pagesize = job.pagesize.val :=
    if_pos hpagesize
  have hrun := unpackFile_run options filename hmagic hfull Stdio.start
  rw [hheader] at hrun
  have hstops := run_stops (unpackingAt options filename file memory hdr) lib job sections hfit
    hdirectory rfl (hpage ▸ job.pagesize.property) (by rw [hpage]; rfl) hsuffix
    { Stdio.start with position := 0 + 608 } rfl rfl rfl
  rwa [← hrun] at hstops

end Stop

/-- The run has stopped without meaning: kernel and ramdisk are recovered, the
output for the second stage is empty and the others do not exist. -/
def StoppedAtSecond (directory filename : CString) (sections : Sections)
    (result : Except Stop Int × Stdio) : Prop :=
  result.1 = .error .undefined ∧
    result.2.files (outputName directory filename "-zImage") = some sections.kernel.data ∧
    (result.2.files (outputName directory filename "-ramdisk.gz") =
        some sections.ramdisk.data ∨
      result.2.files (outputName directory filename "-ramdisk.lz4") =
        some sections.ramdisk.data) ∧
    result.2.files (outputName directory filename "-second") = some [] ∧
    result.2.files (outputName directory filename "-dt") = none ∧
    result.2.files (outputName directory filename "-signature") = none

theorem unpackbootimg_stops {job : Job} {directory filename : CString} (lib : Libraries)
    (sections : Sections) (hfit : NamesFit directory filename)
    {contents : CString → Option Bytes}
    (hcontents : contents filename = some (writtenImage job.pagesize.val.toNat
      (makeHeader lib job sections) sections))
    {argv : List CString} (hargs : parseUnpackArgs {} argv =
      .ok (some { directory := some directory, filename := some filename, pagesize := 0 }))
    (memory : Memory) (hramdisk : 2 ≤ sections.ramdisk.data.length) :
    StoppedAtSecond directory filename sections (unpackbootimg contents memory argv) := by
  obtain ⟨suffix, hsuffix⟩ := exists_ramdiskSuffix hramdisk
  have hrun : unpackbootimg contents memory argv =
      (unpackFile { directory := some directory, filename := some filename, pagesize := 0 }
        filename (writtenImage job.pagesize.val.toNat (makeHeader lib job sections) sections)
        memory).run Stdio.start := by
    rw [unpackbootimg, hargs, Tool.bind_of_ok rfl]
    simp only [unpackOptions, hcontents]
  obtain ⟨io, hio, hkernel, hramdiskFile, hrest⟩ :=
    unpackFile_stops lib job
      { directory := some directory, filename := some filename, pagesize := 0 }
      hfit rfl rfl memory hsuffix
  rw [hrun, hio]
  refine ⟨rfl, hkernel, ?_, hrest⟩
  rcases ramdiskSuffix_cases hsuffix with rfl | rfl
  · exact Or.inr hramdiskFile
  · exact Or.inl hramdiskFile

/-- No input makes the round trip: what `mkbootimg` writes cannot be unpacked,
and as long as the output names fit their buffer the run stops at the second stage. -/
theorem unpackbootimg_never_roundTrip {lib : Libraries} {host : HostFiles}
    {argv : List CString} {job : Job} {sections : Sections}
    (hprepare : prepare lib host argv = .ok (job, sections))
    (hcreates : host.creates job.bootimg = true)
    (hramdisk : 2 ≤ sections.ramdisk.data.length)
    {signature : Buffer} (hsignature : sections.signature = some signature)
    (hlength : signature.data.length = 256) :
    ∃ file, mkbootimg lib host argv = .ok file ∧
      ∀ (contents : CString → Option Bytes) (memory : Memory) (unpackArgv : List CString)
        (directory filename : CString), contents filename = some file →
        parseUnpackArgs {} unpackArgv = .ok (some
          { directory := some directory, filename := some filename, pagesize := 0 }) →
        ¬RoundTrip directory filename sections (unpackbootimg contents memory unpackArgv) ∧
          (NamesFit directory filename → StoppedAtSecond directory filename sections
            (unpackbootimg contents memory unpackArgv)) := by
  refine ⟨_, mkbootimg_eq hprepare hcreates ?_, ?_⟩
  · intro signature' h
    rw [hsignature] at h
    cases h
    exact Nat.le_of_eq hlength.symm
  · intro contents memory unpackArgv directory filename hcontents hargs
    exact ⟨not_roundTrip _ _ _ _ _ _,
      fun hfit => unpackbootimg_stops lib sections hfit hcontents hargs memory hramdisk⟩

section Samples

def sampleMemory : Memory :=
  fun _ size => CharArray.ofBytes size []

def sampleImage : Bytes :=
  writtenImage 2048 (makeHeader sampleLibraries sampleJob (sampleSections
      ⟨[1, 2, 3], by decide⟩ ⟨[0x02, 0x21], by decide⟩ ⟨[4, 5, 6], by decide⟩))
    (sampleSections ⟨[1, 2, 3], by decide⟩ ⟨[0x02, 0x21], by decide⟩ ⟨[4, 5, 6], by decide⟩)

def sampleUnpackArgv : List CString :=
  ["-i", "boot.img", "-o", "out"].map String.toList

theorem parseUnpackArgs_sample :
    parseUnpackArgs {} sampleUnpackArgv = .ok (some
      { directory := some "out".toList, filename := some "boot.img".toList, pagesize := 0 }) :=
  rfl

theorem namesFit_sample : NamesFit "out".toList "boot.img".toList := by
  unfold NamesFit
  decide

end Samples

/-- The second stage of the sample is lost, although its size and the size of
the ramdisk agree. -/
theorem unpackbootimg_never_roundTrip_sample :
    ∃ file, mkbootimg sampleLibraries (sampleHost [1, 2, 3] [0x02, 0x21] [4, 5, 6]) sampleArgv =
        .ok file ∧
      ¬RoundTrip "out".toList "boot.img".toList (sampleSections ⟨[1, 2, 3], by decide⟩
          ⟨[0x02, 0x21], by decide⟩ ⟨[4, 5, 6], by decide⟩)
        (unpackbootimg (fun _ => some file) sampleMemory sampleUnpackArgv) := by
  obtain ⟨file, hfile, hnever⟩ := unpackbootimg_never_roundTrip
    (prepare_sample (show [1, 2, 3].length < 2 ^ 31 by decide)
      (show [0x02, 0x21].length < 2 ^ 31 by decide) (show [4, 5, 6].length < 2 ^ 31 by decide))
    rfl (by decide) rfl length_sampleSignature
  exact ⟨file, hfile, (hnever (fun _ => some file) sampleMemory sampleUnpackArgv _ _ rfl
    parseUnpackArgs_sample).1⟩

theorem unpackbootimg_sample_stops :
    mkbootimg sampleLibraries (sampleHost [1, 2, 3] [0x02, 0x21] [4, 5, 6]) sampleArgv =
        .ok sampleImage ∧
      StoppedAtSecond "out".toList "boot.img".toList (sampleSections ⟨[1, 2, 3], by decide⟩
          ⟨[0x02, 0x21], by decide⟩ ⟨[4, 5, 6], by decide⟩)
        (unpackbootimg (fun _ => some sampleImage) sampleMemory sampleUnpackArgv) ∧
      ¬RoundTrip "out".toList "boot.img".toList (sampleSections ⟨[1, 2, 3], by decide⟩
          ⟨[0x02, 0x21], by decide⟩ ⟨[4, 5, 6], by decide⟩)
        (unpackbootimg (fun _ => some sampleImage) sampleMemory sampleUnpackArgv) := by
  refine ⟨?_, ?_, not_roundTrip _ _ _ _ _ _⟩
  · exact mkbootimg_eq (prepare_sample (show [1, 2, 3].length < 2 ^ 31 by decide)
      (show [0x02, 0x21].length < 2 ^ 31 by decide) (show [4, 5, 6].length < 2 ^ 31 by decide))
      rfl (sampleSections_signature _ _ _)
  · exact unpackbootimg_stops sampleLibraries _ namesFit_sample rfl parseUnpackArgs_sample
      sampleMemory (by decide)

end Exynos9810.Dtbhtool
