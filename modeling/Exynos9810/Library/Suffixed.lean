import Exynos9810.Library.Bytes
import Mathlib.Data.List.Induction

/-!
# Streams of length-suffixed parts

Each part is followed by its length as a 32-bit word.  No marker says how many
parts there are, yet the stream can be taken apart from its end: the last four
bytes give the length of the last part, and what is left is again a stream.
-/
namespace Suffixed

open ByteString

def framed (part : Bytes) : Bytes :=
  part ++ le32 (UInt32.ofNat part.length)

def stream (parts : List Bytes) : Bytes :=
  parts.flatMap framed

def Fits (part : Bytes) : Prop :=
  part.length < 2 ^ 32

theorem length_framed (part : Bytes) : (framed part).length = part.length + 4 := by
  simp [framed]

@[simp] theorem stream_append_singleton (parts : List Bytes) (last : Bytes) :
    stream (parts ++ [last]) = stream parts ++ framed last := by
  simp [stream]

theorem append_framed_inj {left right last last' : Bytes}
    (hlast : Fits last) (hlast' : Fits last')
    (h : left ++ framed last = right ++ framed last') :
    left = right ∧ last = last' := by
  simp only [framed, ← List.append_assoc] at h
  obtain ⟨hparts, hlengths⟩ := List.append_inj' h (by simp)
  have hwords := le32_injective hlengths
  have hlength : last.length = last'.length := by
    have htoNat := congrArg UInt32.toNat hwords
    rwa [UInt32.toNat_ofNat_of_lt' hlast, UInt32.toNat_ofNat_of_lt' hlast'] at htoNat
  exact List.append_inj' hparts hlength

theorem append_framed_ne_nil (left last : Bytes) : left ++ framed last ≠ [] := by
  intro h
  have hlength := congrArg List.length h
  rw [List.length_append, length_framed] at hlength
  simp at hlength

theorem stream_injective {parts parts' : List Bytes}
    (hparts : ∀ part ∈ parts, Fits part) (hparts' : ∀ part ∈ parts', Fits part)
    (h : stream parts = stream parts') : parts = parts' := by
  induction parts using List.reverseRecOn generalizing parts' with
  | nil =>
    cases parts' using List.reverseRecOn with
    | nil => rfl
    | append_singleton parts' last' =>
      rw [stream_append_singleton] at h
      exact absurd h.symm (append_framed_ne_nil _ _)
  | append_singleton parts last ih =>
    cases parts' using List.reverseRecOn with
    | nil =>
      rw [stream_append_singleton] at h
      exact absurd h (append_framed_ne_nil _ _)
    | append_singleton parts' last' =>
      rw [stream_append_singleton, stream_append_singleton] at h
      obtain ⟨hfront, hlast⟩ := append_framed_inj (hparts last (by simp))
        (hparts' last' (by simp)) h
      rw [hlast, ih (fun part hpart => hparts part (by simp [hpart]))
        (fun part hpart => hparts' part (by simp [hpart])) hfront]

end Suffixed
