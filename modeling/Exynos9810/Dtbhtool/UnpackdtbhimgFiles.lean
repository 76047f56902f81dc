import Exynos9810.Dtbhtool.Unpackdtbhimg

namespace Exynos9810.Dtbhtool.Unpackdtbhimg

open ByteString Numerals

def identity (entry : TableEntry) : UInt32 × UInt32 × UInt32 × UInt32 × UInt32 :=
  (entry.chip, entry.platform, entry.subtype, entry.hwRev, entry.hwRevEnd)

section Names

variable (entry : TableEntry)

theorem nameStem_append (tail : CString) : nameStem entry tail = nameStem entry [] ++ tail := by
  unfold nameStem
  -- The fixed texts are not to be evaluated.
  generalize "/chip".toList = chip, "0x".toList = radix, "rev".toList = rev
  simp only [List.append_assoc, List.cons_append, List.nil_append]

theorem length_nameStem_le : (nameStem entry []).length ≤ dtNameLen - 1 := by
  have hdecimal (word : UInt32) : (Nat.toDigits 10 word.toNat).length ≤ 10 :=
    Nat.toDigits_length 10 word.toNat 10 (by decide) (word.toNat_lt.trans (by decide))
  have hhex (word : UInt32) : (Nat.toDigits 16 word.toNat).length ≤ 8 :=
    Nat.toDigits_length 16 word.toNat 8 (by decide) word.toNat_lt
  have hchip := hdecimal entry.chip
  have hplatform := hhex entry.platform
  have hsubtype := hhex entry.subtype
  have hwRev := hdecimal entry.hwRev
  have hwRevEnd := hdecimal entry.hwRevEnd
  have hwords : "/chip".toList.length = 5 ∧ "0x".toList.length = 2 ∧ "rev".toList.length = 3 := by
    decide
  unfold nameStem
  generalize "/chip".toList = chip, "0x".toList = radix, "rev".toList = rev at hwords ⊢
  simp only [List.length_append, List.length_cons, List.length_nil]
  change _ ≤ 63
  omega

theorem destFile_eq (outputDir : CString) :
    ∃ tail, destFile outputDir entry = outputDir ++ nameStem entry tail := by
  refine ⟨"dtb".toList.take (dtNameLen - 1 - (nameStem entry []).length), ?_⟩
  have hlength := length_nameStem_le entry
  have hcut : dtNameLen + outputDir.length - 1 = outputDir.length + (dtNameLen - 1) := by
    simp only [dtNameLen]
    omega
  rw [destFile, hcut, List.take_length_add_append, nameStem_append entry "dtb".toList,
    List.take_append, List.take_of_length_le hlength, ← nameStem_append]

theorem identity_of_nameStem {left right : TableEntry} {tail tail' : CString}
    (h : nameStem left tail = nameStem right tail') : identity left = identity right := by
  have hten : 1 < 10 ∧ 10 ≤ 16 := by decide
  have hsixteen : 1 < 16 ∧ 16 ≤ 16 := by decide
  obtain ⟨hchip, h⟩ := toDigits_append_cons_inj hten.1 hten.2 (by decide)
    (List.append_cancel_left h)
  obtain ⟨hplatform, h⟩ := toDigits_append_cons_inj hsixteen.1 hsixteen.2 (by decide)
    (List.append_cancel_left h)
  obtain ⟨hsubtype, h⟩ := toDigits_append_cons_inj hsixteen.1 hsixteen.2 (by decide)
    (List.append_cancel_left h)
  obtain ⟨hwRev, h⟩ := toDigits_append_cons_inj hten.1 hten.2 (by decide)
    (List.append_cancel_left h)
  obtain ⟨hwRevEnd, -⟩ := toDigits_append_cons_inj hten.1 hten.2 (by decide) h
  simp only [identity, UInt32.toNat_inj.mp hchip, UInt32.toNat_inj.mp hplatform,
    UInt32.toNat_inj.mp hsubtype, UInt32.toNat_inj.mp hwRev, UInt32.toNat_inj.mp hwRevEnd]

theorem identity_of_destFile {outputDir : CString} {left right : TableEntry}
    (h : destFile outputDir left = destFile outputDir right) :
    identity left = identity right := by
  obtain ⟨tail, hleft⟩ := destFile_eq left outputDir
  obtain ⟨tail', hright⟩ := destFile_eq right outputDir
  rw [hleft, hright] at h
  exact identity_of_nameStem (List.append_cancel_left h)

end Names

section Reading

theorem freadItem_run {file buffer : Bytes} {io : Stdio} (hpos : 0 < buffer.length)
    (hfile : io.position + buffer.length ≤ file.length) :
    (freadItem file buffer).run io =
      (.ok (slice file io.position buffer.length, true),
        { io with position := io.position + buffer.length }) := by
  have hread : decide (buffer.length ≠ 0 ∧ io.position + buffer.length ≤ file.length) = true :=
    decide_eq_true ⟨hpos.ne', hfile⟩
  have hlength : min buffer.length (file.length - io.position) = buffer.length := by omega
  simp only [freadItem, filled_of_le hfile, hread, length_slice, hlength]

theorem freadItem_short {file buffer : Bytes} {io : Stdio}
    (hfile : file.length < io.position + buffer.length) :
    ∃ bytes io', (freadItem file buffer).run io = (.ok (bytes, false), io') := by
  have hread : decide (buffer.length ≠ 0 ∧ io.position + buffer.length ≤ file.length) = false :=
    decide_eq_false fun h => absurd h.2 (by omega)
  simp only [freadItem, hread]
  exact ⟨_, _, rfl⟩

theorem word32_take {bytes : Bytes} {count offset : Nat} (h : offset + 4 ≤ count) :
    word32 (bytes.take count) offset = word32 bytes offset := by
  have hbyte {index : Nat} (hindex : index < count) :
      (bytes.take count).getD index 0 = bytes.getD index 0 := by
    rw [List.getD_eq_getElem?_getD, List.getElem?_take_of_lt hindex, List.getD_eq_getElem?_getD]
  rw [word32, word32, hbyte (by omega), hbyte (by omega), hbyte (by omega), hbyte (by omega)]

theorem readEntry_take {image : Bytes} {page i : Nat} (h : tableEnd (i + 1) ≤ page) :
    readEntry (image.take page) (tableEnd i) = readEntry image (tableEnd i) := by
  have hend : tableEnd (i + 1) = tableEnd i + 32 := rfl
  simp only [readEntry]
  rw [word32_take (by omega), word32_take (by omega), word32_take (by omega),
    word32_take (by omega), word32_take (by omega), word32_take (by omega),
    word32_take (by omega), word32_take (by omega)]

end Reading

section Extraction

variable {u : Unpacking}

theorem dumpDtb_run {creates : CString → Bool} (buffer : Bytes) {dest : CString}
    (hcreates : creates dest = true) (io : Stdio) :
    (dumpDtb creates buffer dest).run io = (.ok (), io.output dest buffer) := by
  rw [dumpDtb, if_pos hcreates, Tool.bind_of_ok rfl,
    Tool.bind_of_ok (fwrite_run dest buffer (by simp)), fclose_run dest (by simp)]
  simp only [if_true, Option.map_some, List.nil_append, ite_ite_same, closed_last]
  rfl

theorem extract_run {i : Nat} {entry : TableEntry} (hentry : entryAt u.header i = .ok entry)
    (hfile : entry.offset.toNat + entry.size.toNat ≤ u.file.length)
    (hcreates : u.creates (destFile u.outputDir entry) = true) (io : Stdio) :
    ∃ io', (u.extract i).run io = (.ok (), io') ∧
      ∀ name, io'.files name = if name = destFile u.outputDir entry then
        some (slice u.file entry.offset.toNat entry.size.toNat) else io.files name := by
  have hlength : (u.memory i entry.size.toNat).val.length = entry.size.toNat :=
    CharArray.length_val _
  have hread : filled u.file entry.offset.toNat (u.memory i entry.size.toNat).val =
      slice u.file entry.offset.toNat entry.size.toNat := by
    rw [filled_of_le (by rw [hlength]; exact hfile), hlength]
  have hofExcept : (Tool.ofExcept (entryAt u.header i)).run io = (.ok entry, io) := by
    rw [hentry]
    rfl
  rw [Unpacking.extract, Tool.bind_of_ok hofExcept, Tool.bind_of_ok rfl, Tool.bind_of_ok rfl]
  refine ⟨_, dumpDtb_run _ hcreates _, ?_⟩
  intro name
  simp only [Stdio.output, hread]

/-- The loop writes the files of its entries, as long as their names differ, and
no others. -/
theorem extractFrom_run (entries : Nat → TableEntry) (left i : Nat)
    (hentry : ∀ k, i ≤ k → k < i + left → entryAt u.header k = .ok (entries k))
    (hfile : ∀ k, i ≤ k → k < i + left →
      (entries k).offset.toNat + (entries k).size.toNat ≤ u.file.length)
    (hcreates : ∀ entry, u.creates (destFile u.outputDir entry) = true)
    (hnames : ∀ k l, i ≤ k → k < l → l < i + left →
      destFile u.outputDir (entries k) ≠ destFile u.outputDir (entries l)) (io : Stdio) :
    ∃ io', (u.extractFrom left i).run io = (.ok (), io') ∧
      (∀ k, i ≤ k → k < i + left → io'.files (destFile u.outputDir (entries k)) =
        some (slice u.file (entries k).offset.toNat (entries k).size.toNat)) ∧
      ∀ name, (∀ k, i ≤ k → k < i + left → name ≠ destFile u.outputDir (entries k)) →
        io'.files name = io.files name := by
  induction left generalizing i io with
  | zero =>
    refine ⟨io, rfl, ?_, fun _ _ => rfl⟩
    intro k hle hlt
    omega
  | succ left ih =>
    obtain ⟨io', hextract, hfiles⟩ := extract_run (hentry i (by omega) (by omega))
      (hfile i (by omega) (by omega)) (hcreates _) io
    obtain ⟨io'', hrest, hwritten, hothers⟩ := ih (i + 1)
      (fun k hle hlt => hentry k (by omega) (by omega))
      (fun k hle hlt => hfile k (by omega) (by omega))
      (fun k l hle hkl hlt => hnames k l (by omega) hkl (by omega)) io'
    refine ⟨io'', ?_, ?_, ?_⟩
    · rw [Unpacking.extractFrom, Tool.bind_of_ok hextract, hrest]
    · intro k hle hlt
      rcases Nat.eq_or_lt_of_le hle with rfl | hlt'
      · -- The names of the later entries differ, so the file of this one stays.
        rw [hothers _ fun l hl hlt => hnames i l le_rfl (by omega) (by omega), hfiles, if_pos rfl]
      · exact hwritten k (by omega) (by omega)
    · intro name hname
      rw [hothers name fun k hle hlt => hname k (by omega) (by omega), hfiles,
        if_neg (hname i le_rfl (by omega))]

theorem extractFrom_undefined (left i : Nat) (hleft : 0 < left)
    (hpage : u.header.length < tableEnd (i + left))
    (hentry : ∀ k, i ≤ k → tableEnd (k + 1) ≤ u.header.length →
      (readEntry u.header (tableEnd k)).offset.toNat +
        (readEntry u.header (tableEnd k)).size.toNat ≤ u.file.length)
    (hcreates : ∀ entry, u.creates (destFile u.outputDir entry) = true) (io : Stdio) :
    ∃ io', (u.extractFrom left i).run io = (.error .undefined, io') := by
  induction left generalizing i io with
  | zero => omega
  | succ left ih =>
    by_cases hfits : tableEnd (i + 1) ≤ u.header.length
    · obtain ⟨io', hextract, -⟩ := extract_run (if_pos hfits) (hentry i le_rfl hfits)
        (hcreates _) io
      have hrest : 0 < left := by
        by_contra hzero
        have heq : i + (left + 1) = i + 1 := by omega
        rw [heq] at hpage
        omega
      rw [Unpacking.extractFrom, Tool.bind_of_ok hextract]
      exact ih (i + 1) hrest (by rwa [Nat.add_right_comm, Nat.add_assoc])
        (fun k hle => hentry k (by omega)) io'
    · have hundefined : entryAt u.header i = .error .undefined := if_neg hfits
      refine ⟨io, ?_⟩
      rw [Unpacking.extractFrom]
      apply Tool.bind_of_error
      rw [Unpacking.extract]
      apply Tool.bind_of_error
      rw [hundefined]
      rfl

end Extraction

def entryCount (image : Bytes) : Nat :=
  (word32 image 8).toNat

structure WellFormed (page : Nat) (image : Bytes) : Prop where
  magic : slice image 0 4 = dtbhMagic
  version : word32 image 4 = dtbhVersion
  table : tableEnd (entryCount image) ≤ image.length
  aligned : ∀ i < entryCount image, page ∣ (readEntry image (tableEnd i)).offset.toNat
  inFile : ∀ i < entryCount image, (readEntry image (tableEnd i)).offset.toNat +
    (readEntry image (tableEnd i)).size.toNat ≤ image.length
  distinct : ∀ i < entryCount image, ∀ j < entryCount image,
    identity (readEntry image (tableEnd i)) = identity (readEntry image (tableEnd j)) → i = j

/-- The program has ended normally, and its output files are the dtbs of the
image, each under a name of its own. -/
structure Unpacked (outputDir : CString) (image : Bytes)
    (result : Except Stop Int × Stdio) : Prop where
  returns : result.1 = .ok 0
  written : ∀ i < entryCount image,
    result.2.files (destFile outputDir (readEntry image (tableEnd i))) =
      some (slice image (readEntry image (tableEnd i)).offset.toNat
        (readEntry image (tableEnd i)).size.toNat)
  noOthers : ∀ name, (result.2.files name).isSome →
    ∃ i < entryCount image, name = destFile outputDir (readEntry image (tableEnd i))
  ownName : ∀ i < entryCount image, ∀ j < entryCount image,
    destFile outputDir (readEntry image (tableEnd i)) =
      destFile outputDir (readEntry image (tableEnd j)) → i = j

section Image

variable {creates : CString → Bool} {memory : Memory} {outputDir : CString} {pageSize : Int32}
  {image : Bytes} {page : Nat}

def unpacking (creates : CString → Bool) (memory : Memory) (outputDir : CString) (page : Nat)
    (image : Bytes) : Unpacking :=
  { file := image, memory, creates, outputDir, header := image.take page }

theorem unpackFile_of_short (hpage : pageSize.toInt = page)
    (hshort : page = 0 ∨ image.length < page) {io : Stdio} (hio : io.position = 0) :
    ((unpackFile creates memory outputDir pageSize image).run io).1 = .ok 1 := by
  unfold unpackFile
  by_cases hzero : page = 0
  · rw [if_pos (by omega)]
    rfl
  · have hcount : pageSize.toInt.toNat = page := by omega
    obtain ⟨header, io', hread⟩ := freadItem_short
      (show image.length < io.position + (zeros page).length by
        rw [hio, length_zeros]
        omega)
    rw [if_neg (by omega), hcount, Tool.bind_of_ok hread]
    rfl

theorem read_header (hpos : 0 < page) (hlength : page ≤ image.length) {io : Stdio}
    (hio : io.position = 0) :
    (freadItem image (zeros page)).run io =
      (.ok (image.take page, true), { io with position := page }) := by
  rw [freadItem_run (by rw [length_zeros]; exact hpos) (by rw [hio, length_zeros]; omega), hio,
    length_zeros, slice, List.drop_zero, Nat.zero_add]

theorem unpackFile_run (hpage : pageSize.toInt = page) (hpos : 0 < page)
    (hlength : page ≤ image.length) {io : Stdio} (hio : io.position = 0) :
    (unpackFile creates memory outputDir pageSize image).run io =
      (unpacking creates memory outputDir page image).run.run { io with position := page } := by
  have hcount : pageSize.toInt.toNat = page := by omega
  unfold unpackFile
  rw [if_neg (by omega), hcount, Tool.bind_of_ok (read_header hpos hlength hio)]
  dsimp only
  rw [if_pos rfl]
  rfl

theorem run_of_header (hheader : tableEnd 0 ≤ page) (hlength : page ≤ image.length)
    (io : Stdio) :
    (unpacking creates memory outputDir page image).run.run io =
      ((unpacking creates memory outputDir page image).extractFrom (entryCount image) 0 >>=
        fun _ => pure 0).run io := by
  have htake : ¬(unpacking creates memory outputDir page image).header.length < tableEnd 0 := by
    rw [unpacking, List.length_take]
    omega
  have hcount : word32 (unpacking creates memory outputDir page image).header 8 =
      word32 image 8 := word32_take hheader
  rw [Unpacking.run, if_neg htake, hcount, entryCount]

theorem entryAt_unpacking {i : Nat} (hpage : tableEnd (i + 1) ≤ page)
    (hlength : page ≤ image.length) :
    entryAt (unpacking creates memory outputDir page image).header i =
      .ok (readEntry image (tableEnd i)) := by
  have htake : tableEnd (i + 1) ≤ (image.take page).length := by
    rw [List.length_take]
    omega
  rw [entryAt, unpacking, if_pos htake, readEntry_take hpage]

theorem tableEnd_le {left right : Nat} (h : left ≤ right) : tableEnd left ≤ tableEnd right := by
  simp only [tableEnd]
  omega

theorem run_unpacked (hformed : WellFormed page image)
    (hcreates : ∀ entry, creates (destFile outputDir entry) = true)
    (htable : tableEnd (entryCount image) ≤ page) (hlength : page ≤ image.length)
    {io : Stdio} (hio : ∀ name, io.files name = none) :
    Unpacked outputDir image
      ((unpacking creates memory outputDir page image).run.run io) := by
  have hnames : ∀ i < entryCount image, ∀ j < entryCount image,
      destFile outputDir (readEntry image (tableEnd i)) =
        destFile outputDir (readEntry image (tableEnd j)) → i = j := by
    intro i hi j hj h
    exact hformed.distinct i hi j hj (identity_of_destFile h)
  obtain ⟨io', hrun, hwritten, hothers⟩ :=
    extractFrom_run (u := unpacking creates memory outputDir page image)
      (fun i => readEntry image (tableEnd i)) (entryCount image) 0
      (fun k _ hk => entryAt_unpacking ((tableEnd_le (by omega)).trans htable) hlength)
      (fun k _ hk => hformed.inFile k (by omega)) hcreates
      (fun k l _ hkl hl h => hkl.ne (hnames k (by omega) l (by omega) h)) io
  rw [run_of_header ((tableEnd_le (Nat.zero_le _)).trans htable) hlength,
    Tool.bind_of_ok hrun]
  refine ⟨rfl, fun i hi => hwritten i (by omega) (by omega), ?_, hnames⟩
  intro name hname
  by_contra hnone
  push Not at hnone
  have hsame := hothers name fun k _ hk => hnone k (by omega)
  change (io'.files name).isSome at hname
  rw [hsame, hio name] at hname
  cases hname

theorem run_undefined (hformed : WellFormed page image)
    (hcreates : ∀ entry, creates (destFile outputDir entry) = true)
    (htable : page < tableEnd (entryCount image)) (hlength : page ≤ image.length)
    (io : Stdio) :
    ((unpacking creates memory outputDir page image).run.run io).1 = .error .undefined := by
  have htake : (unpacking creates memory outputDir page image).header.length = page := by
    rw [unpacking, List.length_take]
    omega
  by_cases hheader : tableEnd 0 ≤ page
  · have hcount : 0 < entryCount image := by
      by_contra hzero
      rw [Nat.eq_zero_of_not_pos hzero] at htable
      omega
    obtain ⟨io', hrun⟩ := extractFrom_undefined
      (u := unpacking creates memory outputDir page image) (entryCount image) 0 hcount
      (by rw [htake, Nat.zero_add]; exact htable)
      (by
        intro k _ hk
        rw [htake] at hk
        have hlt : k < entryCount image := by
          simp only [tableEnd] at hk htable
          omega
        change (readEntry (image.take page) _).offset.toNat +
          (readEntry (image.take page) _).size.toNat ≤ image.length
        rw [readEntry_take hk]
        exact hformed.inFile k hlt) hcreates io
    rw [run_of_header hheader hlength, Tool.bind_of_error hrun]
  · rw [Unpacking.run, if_pos (by rw [htake]; omega)]
    rfl

end Image

theorem unpackdtbhimg_run {contents : CString → Option Bytes} (creates : CString → Bool)
    (memory : Memory) {argv : List CString} {options : Options}
    (hargs : parseArgs {} argv = .ok options) {dtbhimg outputDir : CString}
    (hdtbhimg : options.dtbhimg = some dtbhimg) (houtputDir : options.outputDir = some outputDir)
    {image : Bytes} (himage : contents dtbhimg = some image) :
    unpackdtbhimg contents creates memory argv =
      (unpackFile creates memory outputDir options.pageSize image).run Stdio.start := by
  have hofExcept : (Tool.ofExcept (parseArgs {} argv)).run Stdio.start =
      (.ok options, Stdio.start) := by
    rw [hargs]
    rfl
  rw [unpackdtbhimg, Tool.bind_of_ok hofExcept, hdtbhimg, houtputDir]
  dsimp only
  rw [himage]

/-- **Unpacking.**  The dtbs of a well-formed image are written, each to a file of
its own, if and only if the image has a first page and the table lies in it. -/
theorem unpacked_iff (contents : CString → Option Bytes) (creates : CString → Bool)
    (memory : Memory) (argv : List CString) (options : Options)
    (hargs : parseArgs {} argv = .ok options) (dtbhimg outputDir : CString)
    (hdtbhimg : options.dtbhimg = some dtbhimg) (houtputDir : options.outputDir = some outputDir)
    (image : Bytes) (himage : contents dtbhimg = some image)
    (hcreates : ∀ entry, creates (destFile outputDir entry) = true) (page : Nat)
    (hpage : options.pageSize.toInt = page) (hformed : WellFormed page image) :
    Unpacked outputDir image (unpackdtbhimg contents creates memory argv) ↔
      tableEnd (entryCount image) ≤ page ∧ page ≤ image.length := by
  rw [unpackdtbhimg_run creates memory hargs hdtbhimg houtputDir himage]
  constructor
  · intro hunpacked
    by_contra hnot
    have hreturns := hunpacked.returns
    by_cases hshort : page = 0 ∨ image.length < page
    · rw [unpackFile_of_short hpage hshort rfl] at hreturns
      cases hreturns
    · rw [unpackFile_run hpage (by omega) (by omega) rfl,
        run_undefined hformed hcreates (by omega) (by omega)] at hreturns
      cases hreturns
  · rintro ⟨htable, hlength⟩
    have hpos : 0 < page := by
      simp only [tableEnd] at htable
      omega
    rw [unpackFile_run hpage hpos hlength rfl]
    exact run_unpacked hformed hcreates htable hlength fun _ => rfl

section Samples

/-- An entry for the chip `i`; all dtbs of the sample are the same page. -/
def sampleRow (i : Nat) : DtEntry :=
  { chip := UInt32.ofNat i, platform := dtbhPlatformCode, subtype := dtbhSubtypeCode
    hwRev := 0, hwRevEnd := 255, offset := 4096, size := 2048, space := 0x20, blob := i }

/-- An image of `count` entries on pages of 2048 bytes. -/
def sampleImage (count : Nat) : Bytes :=
  headerBytes (UInt32.ofNat count) ++ tableBytes ((List.range count).map sampleRow) ++
    zeros (6144 - tableEnd count)

theorem length_sampleImage {count : Nat} (h : count ≤ 64) : (sampleImage count).length = 6144 := by
  simp only [sampleImage, tableEnd, List.length_append, length_headerBytes, length_tableBytes,
    List.length_map, List.length_range, length_zeros]
  omega

theorem entryCount_sampleImage {count : Nat} (h : count ≤ 64) :
    entryCount (sampleImage count) = count := by
  have hword := word32_middle (dtbhMagic ++ le32 dtbhVersion) (UInt32.ofNat count)
    (tableBytes ((List.range count).map sampleRow) ++ zeros (6144 - tableEnd count))
  have himage : sampleImage count = dtbhMagic ++ le32 dtbhVersion ++ le32 (UInt32.ofNat count) ++
      (tableBytes ((List.range count).map sampleRow) ++ zeros (6144 - tableEnd count)) := by
    rw [sampleImage, headerBytes, List.append_assoc _ (tableBytes _)]
  rw [entryCount, himage]
  change (word32 _ (dtbhMagic ++ le32 dtbhVersion).length).toNat = count
  rw [hword, UInt32.toNat_ofNat_of_lt' (by simp only [UInt32.size]; omega)]

theorem readEntry_sampleImage {count i : Nat} (hi : i < count) :
    readEntry (sampleImage count) (tableEnd i) = (sampleRow i).toTableEntry := by
  refine readEntry_table _ _ ?_
  rw [List.getElem?_map, List.getElem?_range hi, Option.map_some]

theorem wellFormed_sampleImage {count : Nat} (h : count ≤ 64) :
    WellFormed 2048 (sampleImage count) := by
  have hcount := entryCount_sampleImage h
  have hlength := length_sampleImage h
  constructor
  · rfl
  · exact word32_middle dtbhMagic dtbhVersion (le32 (UInt32.ofNat count) ++ _ ++ _)
  · rw [hcount, hlength, tableEnd]
    omega
  · intro i hi
    rw [hcount] at hi
    rw [readEntry_sampleImage hi]
    exact ⟨2, rfl⟩
  · intro i hi
    rw [hcount] at hi
    rw [readEntry_sampleImage hi, hlength]
    exact le_rfl
  · intro i hi j hj hsame
    rw [hcount] at hi hj
    rw [readEntry_sampleImage hi, readEntry_sampleImage hj] at hsame
    have hchip : UInt32.ofNat i = UInt32.ofNat j := congrArg Prod.fst hsame
    rw [← UInt32.toNat_inj, UInt32.toNat_ofNat_of_lt' (by simp only [UInt32.size]; omega),
      UInt32.toNat_ofNat_of_lt' (by simp only [UInt32.size]; omega)] at hchip
    exact hchip

def sampleArgv : List CString :=
  ["-i".toList, "dt.img".toList, "-o".toList, "out".toList, "-p".toList, "2048".toList]

def sampleOptions : Options :=
  { dtbhimg := some "dt.img".toList, outputDir := some "out".toList, pageSize := 2048 }

def sampleMemory : Memory := fun _ size => ⟨zeros size, length_zeros size⟩

theorem parseArgs_sampleArgv : parseArgs {} sampleArgv = .ok sampleOptions := rfl

end Samples

theorem unpacked_63 :
    Unpacked "out".toList (sampleImage 63)
      (unpackdtbhimg (fun _ => some (sampleImage 63)) (fun _ => true) sampleMemory
        sampleArgv) := by
  refine (unpacked_iff (fun _ => some (sampleImage 63)) (fun _ => true) sampleMemory sampleArgv
    sampleOptions parseArgs_sampleArgv "dt.img".toList "out".toList rfl rfl (sampleImage 63) rfl
    (fun _ => rfl) 2048 rfl (wellFormed_sampleImage (by decide))).mpr ?_
  rw [entryCount_sampleImage (by decide), length_sampleImage (by decide)]
  decide

/-- 64 entries do not: the last one is read past the end of the page. -/
theorem unpack_64_undefined :
    WellFormed 2048 (sampleImage 64) ∧ entryCount (sampleImage 64) = 64 ∧
      (unpackdtbhimg (fun _ => some (sampleImage 64)) (fun _ => true) sampleMemory
        sampleArgv).1 = .error .undefined := by
  have hformed := wellFormed_sampleImage (le_refl 64)
  have hcount := entryCount_sampleImage (le_refl 64)
  have hlength := length_sampleImage (le_refl 64)
  refine ⟨hformed, hcount, ?_⟩
  rw [unpackdtbhimg_run (fun _ => true) sampleMemory parseArgs_sampleArgv rfl rfl rfl,
    unpackFile_run (show sampleOptions.pageSize.toInt = (2048 : Nat) from rfl) (by decide)
      (by rw [hlength]; decide) rfl]
  refine run_undefined hformed (fun _ => rfl) ?_ (by rw [hlength]; decide) _
  rw [hcount]
  decide

end Exynos9810.Dtbhtool.Unpackdtbhimg
