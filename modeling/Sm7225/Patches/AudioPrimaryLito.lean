import Sm7225.Patches.Placed

/-!
# The script for the audio library

{lit}`patch_audio_primary_lito.py` has ten places.  The addresses from the text
section on are not where the file has them.
-/

namespace Sm7225
namespace Patches
namespace AudioPrimaryLito

open Lib

def textBase : Nat := 0x310F0

/-- The offset in the file of a virtual address. -/
def v2f (vaddr : Nat) : Nat :=
  if textBase <= vaddr then vaddr - 0x1000 else vaddr

def patches : List Placed.Patch := [
  { vaddr := 0x24848
    old := [0x67, 0x5f, 0x73, 0x63, 0x6f, 0x5f, 0x73, 0x61,
      0x6d, 0x70, 0x6c, 0x65, 0x72, 0x61, 0x74, 0x65]
    new := [0x62, 0x74, 0x5f, 0x77, 0x62, 0x73, 0x00, 0x00,
      0x00, 0x00, 0x00, 0x00, 0x00, 0x00, 0x00, 0x00] },
  { vaddr := 0x903C8
    old := [0x4c, 0x3f, 0x00, 0xeb]
    new := [0x01, 0x3c, 0xa0, 0xe3] },
  { vaddr := 0x903CC
    old := [0x00, 0x00, 0x50, 0xe3]
    new := [0xa3, 0x40, 0x00, 0xeb] },
  { vaddr := 0x903D0
    old := [0x38, 0x00, 0x00, 0x4a]
    new := [0x00, 0x00, 0x50, 0xe3] },
  { vaddr := 0x903D4
    old := [0x9c, 0x1f, 0x9f, 0xe5]
    new := [0x37, 0x00, 0x00, 0x4a] },
  { vaddr := 0x903D8
    old := [0x04, 0x00, 0xa0, 0xe1]
    new := [0x00, 0x00, 0xa0, 0xe1] },
  { vaddr := 0x903DC
    old := [0x01, 0x10, 0x8f, 0xe0]
    new := [0x00, 0x00, 0xa0, 0xe1] },
  { vaddr := 0x903E0
    old := [0x2e, 0x45, 0x00, 0xeb]
    new := [0x00, 0x00, 0xa0, 0xe1] },
  { vaddr := 0x903E4
    old := [0x24, 0x00, 0x9d, 0xe5]
    new := [0x25, 0x00, 0xdd, 0xe5] },
  { vaddr := 0x903EC
    old := [0xfa, 0x0d, 0x40, 0xe2]
    new := [0x6e, 0x00, 0x40, 0xe2] }]

def main : Script Placed.Mismatch Unit := Placed.script v2f patches

/-- The places that the script patches. -/
def sites : List Site := patches.map (Placed.site v2f)

theorem patches_separate : Placed.Separate v2f patches where
  fits := by decide
  disjoint := by decide

end AudioPrimaryLito
end Patches
end Sm7225
