import Exynos9810.Dtbhtool.UnpackbootimgStreams
import Exynos9810.Library.Numerals

/-!
# Load addresses as texts

`unpackbootimg` prints a base and three offsets, `mkbootimg` reads them back and adds
them up.  Both work modulo `2 ^ 32`, so the offsets may be wrapped negatives.
-/
namespace Exynos9810.Dtbhtool

open ByteString Numerals

section Hex

end Hex

inductive AddressOption where
  | base
  | kernelOffset
  | ramdiskOffset
  | secondOffset
  | tagsOffset

namespace AddressOption

def name : AddressOption → CString
  | .base => "--base".toList
  | .kernelOffset => "--kernel_offset".toList
  | .ramdiskOffset => "--ramdisk_offset".toList
  | .secondOffset => "--second_offset".toList
  | .tagsOffset => "--tags_offset".toList

def get : AddressOption → Options → UInt32
  | .base => Options.base
  | .kernelOffset => Options.kernelOffset
  | .ramdiskOffset => Options.ramdiskOffset
  | .secondOffset => Options.secondOffset
  | .tagsOffset => Options.tagsOffset

end AddressOption

section Options

variable {options options' : Options} (field : AddressOption)

end Options

section Texts

variable {directory filename : CString}

end Texts

end Exynos9810.Dtbhtool
