import Exynos9810.Dtbhtool.BootImgHdr

/-!
# Streams of the unpacking tools

Output streams are numbered in the order they are opened.  A stream stays in
the table when it is closed, so that a later use of its `FILE *` shows.  In C a write to
it is undefined and ends the run; a lenient library takes the data and goes on.
-/
namespace Exynos9810.Dtbhtool

open ByteString

/-- The position in the input, the output files and the output streams; a
closed stream has no file. -/
structure Stdio where
  position : Nat
  files : CString → Option Bytes
  streams : List (Option CString)
  lenient : Bool := false
  /-- The data of the writes to closed streams. -/
  lost : List Bytes := []

def Stdio.start : Stdio :=
  { position := 0, files := fun _ => none, streams := [] }

def Stdio.lenientStart : Stdio :=
  { Stdio.start with lenient := true }

/-- A computation on the streams.  What it has done stays done when it stops. -/
structure Tool (α : Type) where
  run : Stdio → Except Stop α × Stdio

instance : Monad Tool where
  pure value := ⟨fun io => (.ok value, io)⟩
  bind tool next := ⟨fun io =>
    match tool.run io with
    | (.ok value, io) => (next value).run io
    | (.error stop, io) => (.error stop, io)⟩

namespace Tool

def stop (reason : Stop) : Tool α :=
  ⟨fun io => (.error reason, io)⟩

def ofExcept (result : Except Stop α) : Tool α :=
  ⟨fun io => (result, io)⟩

theorem run_pure (value : α) (io : Stdio) : (pure value : Tool α).run io = (.ok value, io) := rfl

theorem run_bind (tool : Tool α) (next : α → Tool β) (io : Stdio) :
    (tool >>= next).run io =
      match tool.run io with
      | (.ok value, io) => (next value).run io
      | (.error stop, io) => (.error stop, io) := rfl

theorem bind_of_ok {tool : Tool α} {next : α → Tool β} {io io' : Stdio} {value : α}
    (h : tool.run io = (.ok value, io')) : (tool >>= next).run io = (next value).run io' := by
  rw [run_bind, h]

theorem bind_of_error {tool : Tool α} {next : α → Tool β} {io io' : Stdio} {reason : Stop}
    (h : tool.run io = (.error reason, io')) : (tool >>= next).run io = (.error reason, io') := by
  rw [run_bind, h]

theorem bind_eq_ok {tool : Tool α} {next : α → Tool β} {io last : Stdio} {result : β}
    (h : (tool >>= next).run io = (.ok result, last)) :
    ∃ value io', tool.run io = (.ok value, io') ∧ (next value).run io' = (.ok result, last) := by
  rw [run_bind] at h
  split at h
  · rename_i value io' hio
    exact ⟨value, io', hio, h⟩
  · cases h

end Tool

def fopen (path : CString) : Tool Nat where
  run io := (.ok io.streams.length,
    { io with
      files := fun name => if name = path then some [] else io.files name
      streams := io.streams ++ [some path] })

def fwrite (bytes : Bytes) (stream : Nat) : Tool Unit where
  run io :=
    match io.streams[stream]? with
    | some (some path) =>
      (.ok (), { io with
        files := fun name => if name = path then (io.files path).map (· ++ bytes)
          else io.files name })
    | some none =>
      if io.lenient then (.ok (), { io with lost := io.lost ++ [bytes] })
      else (.error .undefined, io)
    | none => (.error .undefined, io)

def fclose (stream : Nat) : Tool Unit where
  run io :=
    match io.streams[stream]? with
    | some (some _) => (.ok (), { io with streams := io.streams.set stream none })
    | _ => (.error .undefined, io)

/-- What `fread` leaves in a buffer: the bytes of the file as far as it reaches,
behind them what was there before. -/
def filled (file : Bytes) (position : Nat) (buffer : Bytes) : Bytes :=
  let read := slice file position buffer.length
  read ++ buffer.drop read.length

def fread (file buffer : Bytes) : Tool Bytes where
  run io := (.ok (filled file io.position buffer),
    { io with position := io.position + (slice file io.position buffer.length).length })

/-- Read into an array of `size` bytes that stands where a buffer is expected: only what
is there to be read has to fit. -/
def freadInto (file : Bytes) (size : Nat) (buffer : Bytes) : Tool Bytes where
  run io :=
    if (slice file io.position buffer.length).length ≤ size then (fread file buffer).run io
    else (.error .undefined, io)

/-- Read one item as large as `buffer`, and tell whether `fread` returned 1. -/
def freadItem (file buffer : Bytes) : Tool (Bytes × Bool) where
  run io := (.ok (filled file io.position buffer,
      buffer.length ≠ 0 ∧ io.position + buffer.length ≤ file.length),
    { io with position := io.position + (slice file io.position buffer.length).length })

def fseek (position : Nat) : Tool Unit where
  run io := (.ok (), { io with position := position })

/-- What fresh memory holds; the number says which buffer it is for. -/
abbrev Memory := Nat → (size : Nat) → CharArray size

namespace Tool

def KeepsMode (tool : Tool α) : Prop :=
  ∀ io, (tool.run io).2.lenient = io.lenient

theorem keepsMode_pure (value : α) : (pure value : Tool α).KeepsMode := fun _ => rfl

theorem keepsMode_ofExcept (result : Except Stop α) : (ofExcept result).KeepsMode := fun _ => rfl

theorem keepsMode_stop (reason : Stop) : (stop reason : Tool α).KeepsMode := fun _ => rfl

theorem keepsMode_fopen (path : CString) : (fopen path).KeepsMode := fun _ => rfl

theorem keepsMode_fread (file buffer : Bytes) : (fread file buffer).KeepsMode := fun _ => rfl

theorem keepsMode_fwrite (bytes : Bytes) (stream : Nat) : (fwrite bytes stream).KeepsMode := by
  intro io
  simp only [fwrite]
  split
  · rfl
  · split <;> rfl
  · rfl

theorem keepsMode_fclose (stream : Nat) : (fclose stream).KeepsMode := by
  intro io
  simp only [fclose]
  split <;> rfl

theorem KeepsMode.bind {tool : Tool α} {next : α → Tool β} (htool : tool.KeepsMode)
    (hnext : ∀ value, (next value).KeepsMode) : (tool >>= next).KeepsMode := by
  intro io
  have hmode := htool io
  rw [run_bind]
  split
  · rename_i value io' hrun
    rw [hrun] at hmode
    rw [hnext value io', hmode]
  · rename_i reason io' hrun
    rw [hrun] at hmode
    exact hmode

theorem KeepsMode.of_run {tool : Tool α} {io io' : Stdio} {value : Except Stop α}
    (htool : tool.KeepsMode) (h : tool.run io = (value, io')) : io'.lenient = io.lenient := by
  have hmode := htool io
  rwa [h] at hmode

end Tool

section Runs

theorem fwrite_run {io : Stdio} {stream : Nat} (path : CString) (bytes : Bytes)
    (hopen : io.streams[stream]? = some (some path)) :
    (fwrite bytes stream).run io =
      (.ok (), { io with
        files := fun name => if name = path then (io.files path).map (· ++ bytes)
          else io.files name }) := by
  simp only [fwrite, hopen]

theorem fwrite_closed_run {io : Stdio} {stream : Nat} (bytes : Bytes)
    (hclosed : io.streams[stream]? = some none) :
    (fwrite bytes stream).run io =
      if io.lenient then (.ok (), { io with lost := io.lost ++ [bytes] })
      else (.error .undefined, io) := by
  simp only [fwrite, hclosed]

theorem fclose_run {io : Stdio} {stream : Nat} (path : CString)
    (hopen : io.streams[stream]? = some (some path)) :
    (fclose stream).run io = (.ok (), { io with streams := io.streams.set stream none }) := by
  simp only [fclose, hopen]

/-- `path` is a closed output file that holds `bytes`. -/
def Stdio.output (io : Stdio) (path : CString) (bytes : Bytes) : Stdio :=
  { io with
    files := fun name => if name = path then some bytes else io.files name
    streams := io.streams ++ [none] }

@[simp] theorem closed_last (streams : List (Option CString)) (path : CString) :
    (streams ++ [some path]).set streams.length none = streams ++ [none] := by
  simp

theorem ite_ite_same {α : Type} {p : Prop} [Decidable p] (a b c : α) :
    (if p then a else if p then b else c) = if p then a else c := by
  split <;> rfl

theorem filled_of_le {file buffer : Bytes} {position : Nat}
    (h : position + buffer.length ≤ file.length) :
    filled file position buffer = slice file position buffer.length := by
  have hlength : (slice file position buffer.length).length = buffer.length := by
    rw [length_slice]
    omega
  simp only [filled, hlength, List.drop_length, List.append_nil]

theorem filled_middle (front bytes back buffer : Bytes) (hlength : buffer.length = bytes.length) :
    filled (front ++ bytes ++ back) front.length buffer = bytes := by
  simp only [filled, hlength, slice_middle]
  rw [List.drop_of_length_le (Nat.le_of_eq hlength), List.append_nil]

theorem fread_run {file front bytes back buffer : Bytes} {io : Stdio}
    (hfile : file = front ++ (bytes ++ back)) (hposition : io.position = front.length)
    (hlength : buffer.length = bytes.length) :
    (fread file buffer).run io =
      (.ok bytes, { io with position := io.position + bytes.length }) := by
  rw [← List.append_assoc] at hfile
  simp only [fread, hfile, hposition, hlength, slice_middle, filled_middle _ _ _ _ hlength]

theorem fread_run_at {file buffer data : Bytes} {io last : Stdio} (io' : Stdio)
    (h : (fread file buffer).run io = (.ok data, last)) (hposition : io'.position = io.position) :
    (fread file buffer).run io' = (.ok data, { io' with position := last.position }) := by
  cases h
  simp only [fread, hposition]

end Runs

end Exynos9810.Dtbhtool
