import Exynos9810.Dtbhtool.Mkbootimg
import Exynos9810.Library.Suffixed

/-!
# The identity of a boot image

`hdr.id` is a digest of the contents.  The bytes that are digested form a
stream of length-suffixed parts, so they determine the contents, and equal
identities of different contents are a collision of the digest.
-/
namespace Exynos9810.Dtbhtool

open ByteString

/-- The same kernel, ramdisk, second stage (an absent one is empty) and device
tree (an absent one differs from an empty one). -/
def SameContents (left right : Sections) : Prop :=
  left.kernel = right.kernel ∧ left.ramdisk = right.ramdisk ∧
    left.second.getD Buffer.empty = right.second.getD Buffer.empty ∧ left.dt = right.dt

def Collision (sha1 : Bytes → CharArray 20) (left right : Sections) : Prop :=
  digestInput left ≠ digestInput right ∧ sha1 (digestInput left) = sha1 (digestInput right)

def digestParts (sections : Sections) : List Buffer :=
  sections.kernel :: sections.ramdisk :: sections.second.getD Buffer.empty ::
    sections.dt.toList

theorem digestInput_eq_stream (sections : Sections) :
    digestInput sections = Suffixed.stream ((digestParts sections).map Buffer.data) := by
  unfold digestInput digestParts
  cases sections.dt with
  | none => simp [Suffixed.stream, Suffixed.framed, Buffer.size]
  | some dt => simp [Suffixed.stream, Suffixed.framed, Buffer.size]

theorem fits_digestParts (sections : Sections) :
    ∀ part ∈ (digestParts sections).map Buffer.data, Suffixed.Fits part := by
  intro part hpart
  obtain ⟨buffer, -, rfl⟩ := List.mem_map.mp hpart
  exact buffer.fits

theorem data_injective : Function.Injective Buffer.data := by
  intro left right h
  exact Buffer.ext h

theorem digestInput_eq_iff (left right : Sections) :
    digestInput left = digestInput right ↔ SameContents left right := by
  constructor
  · intro h
    rw [digestInput_eq_stream, digestInput_eq_stream] at h
    have hparts := Suffixed.stream_injective (fits_digestParts left) (fits_digestParts right) h
    have hbuffers := data_injective.list_map hparts
    simp only [digestParts, List.cons.injEq] at hbuffers
    obtain ⟨hkernel, hramdisk, hsecond, hdt⟩ := hbuffers
    have hdt' := congrArg List.head? hdt
    rw [Option.head?_toList, Option.head?_toList] at hdt'
    exact ⟨hkernel, hramdisk, hsecond, hdt'⟩
  · rintro ⟨hkernel, hramdisk, hsecond, hdt⟩
    rw [digestInput, digestInput, hkernel, hramdisk, hsecond, hdt]

theorem id_eq_iff (lib : Libraries) (job job' : Job) (left right : Sections) :
    (makeHeader lib job left).id = (makeHeader lib job' right).id ↔
      lib.sha1 (digestInput left) = lib.sha1 (digestInput right) := by
  have hid (digest : CharArray 20) :
      (CharArray.ofBytes 32 digest.val).val = digest.val ++ zeros 12 := by
    rw [CharArray.val_ofBytes_of_length_le (by rw [digest.length_val]; decide),
      digest.length_val]
  constructor
  · intro h
    have hval := congrArg Subtype.val h
    simp only [makeHeader, hid] at hval
    exact Subtype.ext (List.append_cancel_right hval)
  · intro h
    simp only [makeHeader, h]

/-- The digested bytes determine the contents, and images of different contents
share an identity only through a collision. -/
theorem digest_determines_contents (left right : Sections) :
    (digestInput left = digestInput right ↔ SameContents left right) ∧
      ∀ (lib : Libraries) (job job' : Job),
        (makeHeader lib job left).id = (makeHeader lib job' right).id ↔
          SameContents left right ∨ Collision lib.sha1 left right := by
  refine ⟨digestInput_eq_iff left right, ?_⟩
  intro lib job job'
  rw [id_eq_iff, ← digestInput_eq_iff, Collision]
  constructor
  · intro h
    exact (Classical.em _).imp_right fun hne => ⟨hne, h⟩
  · rintro (h | ⟨-, h⟩)
    · rw [h]
    · exact h

end Exynos9810.Dtbhtool
