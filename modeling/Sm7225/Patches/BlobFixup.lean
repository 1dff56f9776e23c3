import Sm7225.Patches.BqhVendor
import Sm7225.Patches.SecRil
import Sm7225.Lib.Substitute

/-!
# The fix-ups of the extraction

{lit}`blob_fixup` of {lit}`extract-files.sh` changes a library that was extracted, by
its path: with {lit}`patchelf`, with {lit}`sed`, or with one of the scripts.  Every
text that {lit}`sed` puts in is as long as the one it removes.
-/

namespace Sm7225
namespace Patches

open Lib

/-- {lit}`patchelf`, which is not part of the repository. -/
structure PatchElf where
  addNeeded : String -> Bytes -> Except Nat Bytes
  replaceNeeded : String -> String -> Bytes -> Except Nat Bytes

/-- The command of the fix-up that failed. -/
inductive FixupError where
  | patchelf (status : Nat)
  | audioPrimaryLito (e : Placed.Mismatch)
  | secRil (e : SecRil.AssertionError)
  deriving DecidableEq, Repr

namespace BlobFixup

def ascii (text : String) : Bytes :=
  text.toList.map fun c => c.toNat.toUInt8

/-- {lit}`sed -i 's/old/new/g'`, for texts without special characters. -/
def sed (old new : Bytes) : Script FixupError Unit :=
  modify (substitute old new)

/-- {lit}`patchelf`, which writes the file if it succeeds. -/
def elf (edit : Bytes -> Except Nat Bytes) : Script FixupError Unit := do
  let data ← get
  match edit data with
  | .ok data => set data
  | .error status => throw (.patchelf status)

def dualConcurrent : Bytes := ascii "vendor.wifi.dualconcurrent.interface"
def dualConcurrentRenamed : Bytes := ascii "vnedor.wiff.dualconcurreut.iuterface"
def sapInterface : Bytes := ascii "ro.vendor.wifi.sap.interface"
def sapInterfaceRenamed : Bytes := ascii "ru.vnedor.wiff.sep.iuterface"
def callOngoing : Bytes := ascii "ril.dds.call.ongoing"
def callsOngoing : Bytes := ascii "vendor.calls.ongoing"

def macloader : Script FixupError Unit := do
  sed dualConcurrent dualConcurrentRenamed
  sed sapInterface sapInterfaceRenamed

def secRil : Script FixupError Unit := do
  sed callOngoing callsOngoing
  SecRil.main.adaptExcept .secRil

theorem sat_adaptExcept {ε ε' α : Type} {m : Script ε α} {wrap : ε -> ε'}
    {Q : α -> Bytes -> Prop} {E : ε' -> Bytes -> Prop} {file : Bytes} :
    Sat (EStateM.adaptExcept wrap m) Q E file <->
      Sat m Q (fun e after => E (wrap e) after) file := by
  unfold Sat EStateM.adaptExcept
  cases m file with
  | ok a after => exact Iff.rfl
  | error e after => exact Iff.rfl

/-- The pattern {lit}`first*last` of a case. -/
def glob (first last path : String) : Bool :=
  first.length + last.length <= path.length && first.toList.isPrefixOf path.toList &&
    last.toList.isSuffixOf path.toList

/-- {lit}`blob_fixup`; other paths are not fixed up. -/
def blobFixup (tool : PatchElf) (path : String) : Option (Script FixupError Unit) :=
  if glob "vendor/lib/hw/android.hardware.audio@" ".0-impl.so" path ||
      glob "vendor/lib64/hw/android.hardware.audio@" ".0-impl.so" path ||
      path ∈ ["vendor/lib/libaudiofoundation.so", "vendor/lib64/libaudiofoundation.so",
        "vendor/lib/libeffectsconfig.so", "vendor/lib64/libeffectsconfig.so"] then
    some (elf (tool.addNeeded "libaudiotypeconv_shim.so"))
  else if path = "vendor/lib/hw/audio.primary.lito.so" then
    some (AudioPrimaryLito.main.adaptExcept .audioPrimaryLito)
  else if path ∈ ["vendor/lib64/hw/gatekeeper.mdfpp.so",
      "vendor/lib64/libskeymaster4device.so", "vendor/lib64/libkeymaster_helper.so",
      "vendor/lib/libwvhidl.so", "vendor/lib/mediadrm/libwvdrmengine.so"] then
    some (elf (tool.replaceNeeded "libcrypto.so" "libcrypto-v33.so"))
  else if path ∈ ["vendor/lib64/vendor.samsung.hardware.light-V1-ndk_platform.so",
      "vendor/bin/hw/vendor.samsung.hardware.light-service"] then
    some (elf (tool.replaceNeeded "android.hardware.light-V1-ndk_platform.so"
      "android.hardware.light-V1-ndk.so"))
  else if path = "vendor/bin/hw/macloader" then
    some macloader
  else if path = "vendor/lib64/libdpps.so" then
    some (elf (tool.replaceNeeded "libtinyxml2.so" "libtinyxml2-v34.so"))
  else if path = "vendor/lib64/libsec-ril.so" then
    some secRil
  else
    none

/-!
# A text as sites
-/

/-- The places of the old text, which get the new one. -/
def placesOf (old new file : Bytes) : List Site :=
  ((List.range file.length).filter fun off => OccursAt old file off).map
    fun off => { off := off, new := new }

variable {old new pattern file out : Bytes}

theorem mem_placesOf (hold : old ≠ []) {site : Site} :
    site ∈ placesOf old new file <-> site.new = new ∧ OccursAt old file site.off := by
  unfold placesOf
  simp only [List.mem_map, List.mem_filter, List.mem_range, decide_eq_true_eq]
  constructor
  · intro h
    rcases h with ⟨off, ⟨_, hoff⟩, heq⟩
    rw [← heq]
    exact ⟨rfl, hoff⟩
  · intro h
    have hfits := h.2.fits hold
    have hpos : 0 < old.length := List.length_pos_iff.mpr hold
    refine ⟨site.off, ⟨by lia, h.2⟩, ?_⟩
    rw [← h.1]

structure Renames (old new : Bytes) : Prop where
  length : new.length = old.length
  nonempty : old ≠ []
  unbordered : Unbordered old
  apart : Apart old new

instance Renames.decidable (old new : Bytes) : Decidable (Renames old new) :=
  decidable_of_iff
    (new.length = old.length ∧ old ≠ [] ∧ Unbordered old ∧ Apart old new)
    ⟨fun h => ⟨h.1, h.2.1, h.2.2.1, h.2.2.2⟩, fun h => ⟨h.1, h.2, h.3, h.4⟩⟩

theorem Renames.overwritten (h : Renames old new) (file : Bytes) :
    Overwritten old new file (substitute old new file) :=
  substitute_overwritten h.length h.nonempty h.unbordered file

theorem Renames.patched (h : Renames old new) (file : Bytes) :
    Patched (placesOf old new file) file (substitute old new file) := by
  have hover := h.overwritten file
  constructor
  · exact hover.length
  · intro site hsite
    rcases (mem_placesOf h.nonempty).mp hsite with ⟨hnew, hoff⟩
    rw [hnew]
    exact hover.inside site.off hoff
  · intro i hi
    apply hover.outside
    intro hcovered
    rcases hcovered with ⟨off, hoff, hle, hlt⟩
    apply hi { off := off, new := new } ((mem_placesOf h.nonempty).mpr ⟨rfl, hoff⟩)
    exact ⟨hle, by rw [h.length]; exact hlt⟩

theorem Renames.occursAt_iff (h : Renames old new) (hold : Apart pattern old)
    (hnew : Apart pattern new) (i : Nat) :
    OccursAt pattern (substitute old new file) i <-> OccursAt pattern file i :=
  (h.overwritten file).occursAt_iff h.length hold hnew i

theorem Renames.placesOf_eq (h : Renames old new) (hold : Apart pattern old)
    (hnew : Apart pattern new) (other : Bytes) :
    placesOf pattern other (substitute old new file) = placesOf pattern other file := by
  unfold placesOf
  rw [(h.overwritten file).length]
  simp only [h.occursAt_iff hold hnew]

theorem Renames.substitute_of_gone (h : Renames old new)
    (hgone : forall i, ¬ OccursAt old file i) : substitute old new file = file :=
  (h.overwritten file).eq_of_gone hgone

theorem patched_append {sites sites' : List Site} {before next after : Bytes}
    (hfirst : Patched sites before next) (hrest : Patched sites' next after)
    (hseparate : forall i site, site ∈ sites -> site.Covers i ->
      forall other, other ∈ sites' -> ¬ other.Covers i) :
    Patched (sites ++ sites') before after := by
  constructor
  · exact hrest.length.trans hfirst.length
  · intro site hsite
    rcases List.mem_append.mp hsite with hsite | hsite
    · have hplace := hfirst.inside site hsite
      rw [Lib.occursAt_iff] at hplace ⊢
      intro i hi
      rw [← hplace i hi]
      apply hrest.outside
      exact hseparate (site.off + i) site hsite ⟨by lia, by lia⟩
    · exact hrest.inside site hsite
  · intro i houtside
    rw [hrest.outside i fun site hsite => houtside site (by simp [hsite]),
      hfirst.outside i fun site hsite => houtside site (by simp [hsite])]

/-!
# The loader of the wireless driver
-/

theorem dualConcurrent_renames : Renames dualConcurrent dualConcurrentRenamed := by
  decide +kernel

theorem sapInterface_renames : Renames sapInterface sapInterfaceRenamed := by
  decide +kernel

theorem sapInterface_apart : Apart sapInterface dualConcurrent ∧
    Apart sapInterface dualConcurrentRenamed ∧ Apart dualConcurrent sapInterface ∧
      Apart dualConcurrent sapInterfaceRenamed := by
  decide +kernel

theorem macloader_file (file : Bytes) :
    let after := substitute sapInterface sapInterfaceRenamed
      (substitute dualConcurrent dualConcurrentRenamed file)
    Patched (placesOf dualConcurrent dualConcurrentRenamed file ++
        placesOf sapInterface sapInterfaceRenamed file) file after ∧
      forall i, ¬ OccursAt dualConcurrent after i ∧ ¬ OccursAt sapInterface after i := by
  have hdual := dualConcurrent_renames
  have hsap := sapInterface_renames
  rcases sapInterface_apart with ⟨hold, hnew, hold', hnew'⟩
  have hplaces : placesOf sapInterface sapInterfaceRenamed
      (substitute dualConcurrent dualConcurrentRenamed file) =
      placesOf sapInterface sapInterfaceRenamed file :=
    hdual.placesOf_eq hold hnew sapInterfaceRenamed
  constructor
  · apply patched_append (hdual.patched file)
    · rw [← hplaces]
      exact hsap.patched _
    · intro i site hsite hcovers other hother hcovers'
      rcases (mem_placesOf hdual.nonempty).mp hsite with ⟨hsite_new, hsite_off⟩
      rcases (mem_placesOf hsap.nonempty).mp hother with ⟨hother_new, hother_off⟩
      have hapart := hold.places hother_off hsite_off
      unfold Site.Covers at hcovers hcovers'
      rw [hsite_new, hdual.length] at hcovers
      rw [hother_new, hsap.length] at hcovers'
      lia
  · intro i
    have hover := hsap.overwritten (substitute dualConcurrent dualConcurrentRenamed file)
    constructor
    · rw [hsap.occursAt_iff hold' hnew']
      exact (hdual.overwritten file).gone hdual.length hdual.nonempty hdual.apart i
    · exact hover.gone hsap.length hsap.nonempty hsap.apart i

/-- The loader asks for none of the two properties any more, every other byte stays, and
the fix-up may be run again. -/
theorem macloader_renamed (tool : PatchElf) (file : Bytes) :
    exists fixup, blobFixup tool "vendor/bin/hw/macloader" = some fixup ∧
      IsIdempotent fixup file ∧
      Sat fixup
        (fun _ after =>
          Patched (placesOf dualConcurrent dualConcurrentRenamed file ++
            placesOf sapInterface sapInterfaceRenamed file) file after ∧
          forall i, ¬ OccursAt dualConcurrent after i ∧ ¬ OccursAt sapInterface after i)
        (fun _ _ => False) file := by
  exists macloader
  refine ⟨by rfl, ?_, ?_⟩
  · have hgone := (macloader_file file).2
    unfold IsIdempotent macloader sed
    rw [sat_bind, sat_modify, sat_modify, sat_bind, sat_modify, sat_modify]
    rw [dualConcurrent_renames.substitute_of_gone fun i => (hgone i).1,
      sapInterface_renames.substitute_of_gone fun i => (hgone i).2]
  · unfold macloader sed
    rw [sat_bind, sat_modify, sat_modify]
    exact macloader_file file

/-!
# The radio library
-/

theorem callOngoing_renames : Renames callOngoing callsOngoing := by
  decide +kernel

theorem gates_apart : forall patch, patch ∈ SecRil.patches ->
    (Apart patch.old callOngoing ∧ Apart patch.old callsOngoing) ∧
      Apart callOngoing patch.old ∧ Apart callOngoing patch.new := by
  decide +kernel

theorem Renames.substitute_setSlice (h : Renames old new) {code write : Bytes} {off : Nat}
    (hlength : write.length = code.length) (hplace : OccursAt code file off)
    (hroom : off + write.length <= file.length) (hcode : Apart old code)
    (hwrite : Apart old write) :
    substitute old new (setSlice file off write) =
      setSlice (substitute old new file) off write := by
  have hover := h.overwritten file
  have hover' := h.overwritten (setSlice file off write)
  have hplaces : forall i, OccursAt old (setSlice file off write) i <-> OccursAt old file i :=
    fun i => occursAt_setSlice_of_apart hlength hroom hplace hcode hwrite
  have hroom' : off + write.length <= (substitute old new file).length := by
    rw [hover.length]
    exact hroom
  apply List.ext_getElem?
  intro i
  by_cases hcovered : CoveredAt old file i
  · -- a place of the text, which has no byte of the code
    rcases hcovered with ⟨place, hoff, hle, hlt⟩
    have hapart := hcode.places hoff hplace
    have hrenamed := Lib.occursAt_iff.mp (hover.inside place hoff) (i - place)
    have hrenamed' := Lib.occursAt_iff.mp
      (hover'.inside place ((hplaces place).mpr hoff)) (i - place)
    have hindex : place + (i - place) = i := by lia
    have hnew := h.length
    rw [hindex] at hrenamed hrenamed'
    rw [hrenamed' (by lia), getElem?_setSlice_outside hroom' (by lia), hrenamed (by lia)]
  · have hcovered' : ¬ CoveredAt old (setSlice file off write) i := by
      intro hcovers
      rcases hcovers with ⟨place, hoff, hle, hlt⟩
      exact hcovered ⟨place, (hplaces place).mp hoff, hle, hlt⟩
    rw [hover'.outside i hcovered']
    by_cases hinside : off <= i ∧ i < off + write.length
    · have hindex : off + (i - off) = i := by lia
      rw [← hindex, getElem?_setSlice_inside hroom (by lia),
        getElem?_setSlice_inside hroom' (by lia)]
    · rw [getElem?_setSlice_outside hroom hinside,
        getElem?_setSlice_outside hroom' hinside, hover.outside i hcovered]

theorem Renames.find_eq (h : Renames old new) (hpattern : pattern ≠ [])
    (hold : Apart pattern old) (hnew : Apart pattern new) (start : Nat) :
    find (substitute old new file) pattern start = find file pattern start := by
  have hplaces : forall i, OccursAt pattern ((substitute old new file).drop start) i <->
      OccursAt pattern (file.drop start) i := by
    intro i
    rw [occursAt_drop_iff, occursAt_drop_iff]
    exact h.occursAt_iff hold hnew (start + i)
  have hfirst := find_congr hpattern hplaces
  unfold find at hfirst ⊢
  rw [List.drop_zero, List.drop_zero] at hfirst
  rw [findFrom_start, hfirst, ← findFrom_start]

theorem apply_substitute {patch : SecRil.Patch} (hpatch : patch ∈ SecRil.patches)
    (file : Bytes) :
    patch.apply (substitute callOngoing callsOngoing file) =
      (patch.apply file).map (substitute callOngoing callsOngoing) := by
  have hfits := SecRil.patches_separate.fits patch hpatch
  rcases gates_apart patch hpatch with ⟨⟨hold, hnew⟩, hcode, hwrite⟩
  have hfind : forall start, find (substitute callOngoing callsOngoing file) patch.old
      start = find file patch.old start :=
    callOngoing_renames.find_eq hfits.2 hold hnew
  unfold SecRil.Patch.apply
  rw [if_neg (not_not.mpr hfits.1), if_neg (not_not.mpr hfits.1), hfind 0]
  cases hfirst : find file patch.old 0 with
  | none => rfl
  | some off =>
      simp only [hfind]
      cases hsecond : find file patch.old (off + 1) with
      | some _ => rfl
      | none =>
          have hroom := hfits.room hfirst
          show Except.ok _ = Except.ok _
          rw [callOngoing_renames.substitute_setSlice hfits.1.symm hroom.1 hroom.2 hcode
            hwrite]

theorem applyEach_substitute {patches : List SecRil.Patch}
    (hpatches : forall patch, patch ∈ patches -> patch ∈ SecRil.patches) (file : Bytes) :
    applyEach SecRil.Patch.apply patches (substitute callOngoing callsOngoing file) =
      (applyEach SecRil.Patch.apply patches file).map (substitute callOngoing callsOngoing) := by
  induction patches generalizing file with
  | nil => rfl
  | cons patch rest ih =>
      rw [applyEach, applyEach, apply_substitute (hpatches patch (by simp))]
      cases patch.apply file with
      | error e => rfl
      | ok next => exact ih (fun other hother => hpatches other (by simp [hother])) next

theorem sitesOf_substitute (file : Bytes) :
    SecRil.sitesOf SecRil.patches (substitute callOngoing callsOngoing file) =
      SecRil.sitesOf SecRil.patches file := by
  unfold SecRil.sitesOf
  apply List.filterMap_congr
  intro patch hpatch
  have hfits := SecRil.patches_separate.fits patch hpatch
  rcases gates_apart patch hpatch with ⟨⟨hold, hnew⟩, _⟩
  rw [callOngoing_renames.find_eq hfits.2 hold hnew]

theorem secRil_patched {file after : Bytes}
    (h : applyEach SecRil.Patch.apply SecRil.patches (substitute callOngoing callsOngoing file) =
      .ok after) :
    Patched (placesOf callOngoing callsOngoing file ++ SecRil.sitesOf SecRil.patches file)
      file after := by
  have hrest := SecRil.applyEach_ok SecRil.patches_separate h
  rw [sitesOf_substitute] at hrest
  apply patched_append (callOngoing_renames.patched file) hrest
  intro i site hsite hcovers other hother hcovers'
  rcases (mem_placesOf callOngoing_renames.nonempty).mp hsite with ⟨hnew, hoff⟩
  rcases List.mem_filterMap.mp hother with ⟨patch, hpatch, hfound⟩
  rcases Option.map_eq_some_iff.mp hfound with ⟨place, hplace, heq⟩
  have hfits := SecRil.patches_separate.fits patch hpatch
  have hroom := hfits.room hplace
  rcases gates_apart patch hpatch with ⟨_, hcode, _⟩
  have hapart := hcode.places hoff hroom.1
  have hlength := callOngoing_renames.length
  rw [← heq] at hcovers'
  unfold Site.Covers at hcovers hcovers'
  rw [hnew] at hcovers
  have hcode_length := hfits.1
  simp only at hcovers'
  lia

/-- The verdict of the script is the one on the library as it was extracted, and its
result is the one of the script first and the renaming afterwards.  A library that is
refused has only the renaming. -/
theorem secRil_fixed_up (tool : PatchElf) (file : Bytes) :
    exists fixup, blobFixup tool "vendor/lib64/libsec-ril.so" = some fixup ∧
      Sat fixup
        (fun _ after =>
          (exists patched, SecRil.main file = .ok () patched ∧
            after = substitute callOngoing callsOngoing patched) ∧
          Patched (placesOf callOngoing callsOngoing file ++
            SecRil.sitesOf SecRil.patches file) file after ∧
          forall i, ¬ OccursAt callOngoing after i)
        (fun e after => exists cause, SecRil.main file = .error cause file ∧
          e = .secRil cause ∧ after = substitute callOngoing callsOngoing file)
        file := by
  exists secRil
  refine ⟨by rfl, ?_⟩
  have hrenamed := callOngoing_renames
  have hcommute := applyEach_substitute (fun patch hpatch => hpatch) file
  have hfirst := SecRil.main_sat file
  have hsecond := SecRil.main_sat (substitute callOngoing callsOngoing file)
  unfold secRil sed
  rw [sat_bind, sat_modify, sat_adaptExcept]
  cases hrun : SecRil.main (substitute callOngoing callsOngoing file) with
  | ok _ after =>
      rw [sat_of_ok hrun] at hsecond ⊢
      rw [hsecond] at hcommute
      cases hmain : SecRil.main file with
      | error e kept =>
          rw [sat_of_error hmain] at hfirst
          rw [hfirst.1] at hcommute
          cases hcommute
      | ok _ patched =>
          rw [sat_of_ok hmain] at hfirst
          rw [hfirst] at hcommute
          have hafter : after = substitute callOngoing callsOngoing patched :=
            Except.ok.inj hcommute
          refine ⟨⟨patched, rfl, hafter⟩, secRil_patched hsecond, ?_⟩
          rw [hafter]
          exact (hrenamed.overwritten patched).gone hrenamed.length hrenamed.nonempty
            hrenamed.apart
  | error e after =>
      rw [sat_of_error hrun] at hsecond ⊢
      rw [hsecond.1] at hcommute
      cases hmain : SecRil.main file with
      | ok _ patched =>
          rw [sat_of_ok hmain] at hfirst
          rw [hfirst] at hcommute
          cases hcommute
      | error cause kept =>
          rw [sat_of_error hmain] at hfirst
          rw [hfirst.1] at hcommute
          have hcause : e = cause := Except.error.inj hcommute
          exact ⟨cause, by rw [hfirst.2], by rw [hcause], hsecond.2⟩

end BlobFixup
end Patches
end Sm7225
