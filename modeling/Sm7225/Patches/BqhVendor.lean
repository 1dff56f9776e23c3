import Sm7225.Patches.AudioPrimaryLito

/-!
# The script for the buffer queue helper

{lit}`patch_bqh_vendor.py` has thirteen places.  Its loop is that of the script for the
audio library, with another offset for an address.
-/

namespace Sm7225
namespace Patches

open Lib

namespace BqhVendor

def v2fOffset : Nat := 0x1000

def v2f (vaddr : Nat) : Nat := vaddr - v2fOffset

def patches : List Placed.Patch := [
  -- 1. hidl_vec<Rect> mSize +8 -> +4
  { vaddr := 0x2FCD0, old := [0x83, 0x68], new := [0x43, 0x68] },
  { vaddr := 0x2FCF2, old := [0x83, 0x68], new := [0x43, 0x68] },
  { vaddr := 0x2FD32, old := [0x86, 0x68], new := [0x46, 0x68] },
  -- 2. QueueBufferInput mSize +72 -> +68
  { vaddr := 0x300F0, old := [0xa9, 0x6c], new := [0x69, 0x6c] },
  { vaddr := 0x2FE9E, old := [0xda, 0xf8, 0x48, 0x00], new := [0xda, 0xf8, 0x44, 0x00] },
  -- 3. Region::unflatten: continue on error
  { vaddr := 0x334CE, old := [0x10, 0xb1], new := [0x02, 0xe0] },
  -- 4. Fence alloc + ctor
  { vaddr := 0x333FC, old := [0x08, 0x20], new := [0x10, 0x20] },
  { vaddr := 0x33404
    old := [0x4f, 0xf0, 0xff, 0x30, 0x00, 0x21, 0xc4, 0xe9, 0x00, 0x10]
    new := [0x20, 0x46, 0x4f, 0xf0, 0xff, 0x31, 0x04, 0xf0, 0x12, 0xeb] },
  -- 5. sp<Fence> inc/dec -> mCount at +4
  { vaddr := 0x33420
    old := [0x54, 0xe8, 0x00, 0x0f, 0x01, 0x30, 0x44, 0xe8, 0x00, 0x01, 0x00, 0x29,
      0xf8, 0xd1]
    new := [0x60, 0x68, 0x01, 0x30, 0x60, 0x60, 0x00, 0xbf, 0x00, 0xbf, 0x00, 0xbf,
      0x00, 0xbf] },
  { vaddr := 0x33434
    old := [0x56, 0xe8, 0x00, 0x0f, 0x41, 0x1e, 0x46, 0xe8, 0x00, 0x12, 0x00, 0x2a,
      0xf8, 0xd1]
    new := [0x70, 0x68, 0x41, 0x1e, 0x71, 0x60, 0x00, 0xbf, 0x00, 0xbf, 0x00, 0xbf,
      0x00, 0xbf] },
  -- 6. fd accesses +4 -> +8
  { vaddr := 0x33456, old := [0x52, 0xf8, 0x04, 0x8f], new := [0x52, 0xf8, 0x08, 0x8f] },
  { vaddr := 0x3348C, old := [0x70, 0x60], new := [0xb0, 0x60] },
  -- 7. dequeueBuffer: skip close on fd owned by another object
  { vaddr := 0x2264A, old := [0x70, 0x1c], new := [0x00, 0x20] }]

def main : Script Placed.Mismatch Unit := Placed.script v2f patches

def sites : List Site := patches.map (Placed.site v2f)

theorem patches_separate : Placed.Separate v2f patches where
  fits := by decide
  disjoint := by decide

end BqhVendor

/-!
# Both scripts
-/

/-- A script with addresses takes exactly the libraries that have the old or the new
bytes at each place.  It refuses the others at the first place that has neither, with
the bytes of the library in the message, and writes nothing. -/
theorem placed_scripts_decide (file : Bytes) :
    Placed.Decides BqhVendor.v2f BqhVendor.patches BqhVendor.main file ∧
      Placed.Decides AudioPrimaryLito.v2f AudioPrimaryLito.patches
        AudioPrimaryLito.main file := by
  constructor
  · exact BqhVendor.patches_separate.decides file
  · exact AudioPrimaryLito.patches_separate.decides file

/-- Libraries that are patched in part become the same library, in every order of the
table, and the result is the one that the script keeps. -/
theorem placed_scripts_converge (file : Bytes) :
    (IsAtomic BqhVendor.main BqhVendor.sites file ∧ IsIdempotent BqhVendor.main file ∧
      Placed.Converges BqhVendor.v2f BqhVendor.patches BqhVendor.main file) ∧
    Placed.Converges AudioPrimaryLito.v2f AudioPrimaryLito.patches
      AudioPrimaryLito.main file := by
  have hseparate := BqhVendor.patches_separate
  constructor
  · exact ⟨hseparate.isAtomic file, hseparate.isIdempotent file, hseparate.converges file⟩
  · exact AudioPrimaryLito.patches_separate.converges file

end Patches
end Sm7225
