import Sm7225.Patches.AudioPrimaryLito

/-!
# The script for the radio library

{lit}`patch_sec_ril.py` searches for each pattern.  It accepts a library with
exactly one place of each, and therefore none that it has patched.
-/

namespace Sm7225
namespace Patches

open Lib

namespace SecRil

structure Patch where
  old : Bytes
  new : Bytes
  deriving DecidableEq, Repr

def patches : List Patch := [
  -- SimManager::UpdateState gate
  { old := [0x88, 0x58, 0x9d, 0x52, 0x1f, 0x00, 0x08, 0x6b,
      0xab, 0x01, 0x00, 0x54]
    new := [0x88, 0x58, 0x9d, 0x52, 0x1f, 0x00, 0x08, 0x6b,
      0x1f, 0x20, 0x03, 0xd5] },
  -- OnSetSimOnOffDone gate
  { old := [0x88, 0x58, 0x9d, 0x52, 0xff, 0x02, 0x08, 0x6b,
      0xab, 0x01, 0x00, 0x54]
    new := [0x88, 0x58, 0x9d, 0x52, 0xff, 0x02, 0x08, 0x6b,
      0x1f, 0x20, 0x03, 0xd5] }]

inductive AssertionError where
  | length (old new : Bytes)
  -- the pattern and the result of the first search
  | notUnique (old : Bytes) (off : Option Nat)
  deriving DecidableEq, Repr

def Patch.apply (patch : Patch) (data : Bytes) : Except AssertionError Bytes :=
  if patch.old.length ≠ patch.new.length then
    .error (.length patch.old patch.new)
  else
    match find data patch.old 0 with
    | none => .error (.notUnique patch.old none)
    | some off =>
        match find data patch.old (off + 1) with
        | some _ => .error (.notUnique patch.old (some off))
        | none => .ok (setSlice data off patch.new)

def main : Script AssertionError Unit := patchFile Patch.apply patches

/-- The patched places are those where the old patterns are found. -/
def sitesOf (patches : List Patch) (file : Bytes) : List Site :=
  patches.filterMap fun patch =>
    (find file patch.old 0).map fun off => { off := off, new := patch.new }

/-!
# One patch
-/

def Patch.Fits (patch : Patch) : Prop :=
  patch.old.length = patch.new.length ∧ patch.old ≠ []

instance Patch.Fits.decidable (patch : Patch) : Decidable patch.Fits :=
  inferInstanceAs (Decidable (_ ∧ _))

def Patch.Unique (patch : Patch) (data : Bytes) : Prop :=
  ∃! off, OccursAt patch.old data off

theorem Patch.apply_eq_ok_iff {patch : Patch} (hfits : patch.Fits)
    {data out : Bytes} :
    patch.apply data = .ok out <->
      patch.Unique data ∧ exists off, find data patch.old 0 = some off ∧
        out = setSlice data off patch.new := by
  unfold Patch.Unique
  rw [← existsUnique_occursAt_iff hfits.2, Patch.apply,
    if_neg (not_not.mpr hfits.1)]
  cases hfirst : find data patch.old 0 with
  | none =>
      constructor
      · intro h
        cases h
      · intro h
        rcases h.1 with ⟨off, hoff, _⟩
        cases hoff
  | some off =>
      cases hnext : find data patch.old (off + 1) with
      | none =>
          simp only [hnext]
          constructor
          · intro h
            cases h
            exact ⟨⟨off, rfl, hnext⟩, off, rfl, rfl⟩
          · intro h
            rcases h.2 with ⟨place, hplace, hout⟩
            cases hplace
            rw [hout]
      | some next =>
          simp only [hnext]
          constructor
          · intro h
            cases h
          · intro h
            rcases h.1 with ⟨place, hplace, hnone⟩
            cases hplace
            rw [hnext] at hnone
            cases hnone

/-!
# All patches
-/

/-- Old patterns are apart from each other and from all new ones, so a write
neither makes nor removes a place of another pattern. -/
structure Separate (patches : List Patch) : Prop where
  fits : forall patch, patch ∈ patches -> patch.Fits
  old : patches.Pairwise fun patch other => Apart other.old patch.old
  new : forall patch, patch ∈ patches -> forall other, other ∈ patches ->
    Apart other.old patch.new

theorem patches_separate : Separate patches where
  fits := by decide
  old := by decide
  new := by decide

theorem Separate.tail {patch : Patch} {rest : List Patch}
    (h : Separate (patch :: rest)) : Separate rest where
  fits := fun other hother => h.fits other (List.mem_cons_of_mem _ hother)
  old := (List.pairwise_cons.mp h.old).2
  new := fun first hfirst second hsecond =>
    h.new first (List.mem_cons_of_mem _ hfirst) second
      (List.mem_cons_of_mem _ hsecond)

section Head

variable {patch : Patch} {rest : List Patch} {data : Bytes} {off : Nat}

theorem Patch.Fits.room (hfits : patch.Fits)
    (hoff : find data patch.old 0 = some off) :
    OccursAt patch.old data off ∧ off + patch.new.length <= data.length := by
  have hplace := (find_eq_some hfits.2 hoff).2.1
  refine ⟨hplace, ?_⟩
  rw [← hfits.1]
  exact hplace.fits hfits.2

theorem Separate.occursAt_iff (h : Separate (patch :: rest))
    (hoff : find data patch.old 0 = some off) {other : Patch}
    (hother : other ∈ rest) (i : Nat) :
    OccursAt other.old (setSlice data off patch.new) i <->
      OccursAt other.old data i := by
  have hfits := h.fits patch (by simp)
  have hroom := hfits.room hoff
  exact occursAt_setSlice_of_apart hfits.1.symm hroom.2 hroom.1
    ((List.pairwise_cons.mp h.old).1 other hother)
    (h.new patch (by simp) other (by simp [hother]))

theorem Separate.unique_iff (h : Separate (patch :: rest))
    (hoff : find data patch.old 0 = some off) {other : Patch}
    (hother : other ∈ rest) :
    other.Unique (setSlice data off patch.new) <-> other.Unique data := by
  unfold Patch.Unique
  simp only [h.occursAt_iff hoff hother]

theorem Separate.sitesOf_eq (h : Separate (patch :: rest))
    (hoff : find data patch.old 0 = some off) :
    sitesOf rest (setSlice data off patch.new) = sitesOf rest data := by
  unfold sitesOf
  apply List.filterMap_congr
  intro other hother
  rw [find_congr (h.fits other (by simp [hother])).2
    (h.occursAt_iff hoff hother)]

theorem Separate.head_outside (h : Separate (patch :: rest))
    (hoff : find data patch.old 0 = some off) {i : Nat}
    (hi : Site.Covers { off := off, new := patch.new } i) :
    forall site, site ∈ sitesOf rest data -> ¬ site.Covers i := by
  intro site hsite hcovers
  rcases List.mem_filterMap.mp hsite with ⟨other, hother, hfound⟩
  rcases Option.map_eq_some_iff.mp hfound with ⟨place, hplace, heq⟩
  have hfits := h.fits patch (by simp)
  have hfits' := h.fits other (by simp [hother])
  have happart := (List.pairwise_cons.mp h.old).1 other hother
  have hdisjoint :=
    happart.places (hfits'.room hplace).1 (hfits.room hoff).1
  rw [← heq] at hcovers
  unfold Site.Covers at hi hcovers
  simp only at hi hcovers
  rw [hfits.1, hfits'.1] at hdisjoint
  lia

end Head

theorem applyEach_isOk_iff {patches : List Patch} (hseparate : Separate patches)
    (data : Bytes) :
    (exists out, applyEach Patch.apply patches data = .ok out) <->
      forall patch, patch ∈ patches -> patch.Unique data := by
  induction patches generalizing data with
  | nil =>
      constructor
      · intro _ patch hpatch
        cases hpatch
      · intro _
        exists data
  | cons patch rest ih =>
      have hfits := hseparate.fits patch (by simp)
      constructor
      · intro h
        rcases h with ⟨out, hout⟩
        rcases applyEach_cons_ok hout with ⟨next, hpatch, hout⟩
        rcases (Patch.apply_eq_ok_iff hfits).mp hpatch with ⟨hunique, off, hoff, hnext⟩
        have hrest := (ih hseparate.tail next).mp ⟨out, hout⟩
        intro other hother
        rcases List.mem_cons.mp hother with hother | hother
        · rw [hother]
          exact hunique
        · rw [← hseparate.unique_iff hoff hother, ← hnext]
          exact hrest other hother
      · intro hunique
        have hpatch_unique := hunique patch (by simp)
        rcases (existsUnique_occursAt_iff hfits.2).mpr hpatch_unique with
          ⟨off, hoff, _⟩
        have hpatch : patch.apply data = .ok (setSlice data off patch.new) :=
          (Patch.apply_eq_ok_iff hfits).mpr ⟨hpatch_unique, off, hoff, rfl⟩
        rw [applyEach, hpatch]
        apply (ih hseparate.tail _).mpr
        intro other hother
        rw [hseparate.unique_iff hoff hother]
        exact hunique other (by simp [hother])

theorem applyEach_ok {patches : List Patch} (hseparate : Separate patches)
    {data out : Bytes} (h : applyEach Patch.apply patches data = .ok out) :
    Patched (sitesOf patches data) data out := by
  induction patches generalizing data with
  | nil =>
      cases h
      exact patched_nil _
  | cons patch rest ih =>
      have hfits := hseparate.fits patch (by simp)
      rcases applyEach_cons_ok h with ⟨next, hpatch, h⟩
      rcases (Patch.apply_eq_ok_iff hfits).mp hpatch with ⟨_, off, hoff, hnext⟩
      have hfirst := patched_setSlice (hfits.room hoff).2
      have hrest := ih hseparate.tail h
      have hsites : sitesOf (patch :: rest) data =
          { off := off, new := patch.new } :: sitesOf rest data := by
        unfold sitesOf
        rw [List.filterMap_cons, hoff]
        rfl
      rw [hnext] at hrest
      rw [hseparate.sitesOf_eq hoff] at hrest
      rw [hsites]
      exact hfirst.cons hrest fun i hi => hseparate.head_outside hoff hi

theorem occursAt_of_applyEach {patches : List Patch}
    (hfits : forall patch, patch ∈ patches -> patch.Fits) {pattern : Bytes}
    (hpattern : forall patch, patch ∈ patches -> Apart pattern patch.new)
    {data out : Bytes} (h : applyEach Patch.apply patches data = .ok out) {i : Nat}
    (hi : OccursAt pattern out i) : OccursAt pattern data i := by
  induction patches generalizing data with
  | nil =>
      cases h
      exact hi
  | cons patch rest ih =>
      rcases applyEach_cons_ok h with ⟨next, hpatch, h⟩
      have hfit := hfits patch (by simp)
      rcases (Patch.apply_eq_ok_iff hfit).mp hpatch with ⟨_, off, hoff, hnext⟩
      have hroom := (hfit.room hoff).2
      have hplace := ih (fun other hother => hfits other (by simp [hother]))
        (fun other hother => hpattern other (by simp [hother])) h
      rw [hnext] at hplace
      have houtside := (hpattern patch (by simp)).places hplace
        (occursAt_setSlice hroom)
      exact (occursAt_setSlice_iff hroom houtside).mp hplace

theorem not_unique_of_applyEach {patch : Patch} {rest : List Patch}
    (hseparate : Separate (patch :: rest)) {data out : Bytes}
    (h : applyEach Patch.apply (patch :: rest) data = .ok out) : ¬ patch.Unique out := by
  intro hunique
  rcases hunique with ⟨i, hi, _⟩
  have hfits := hseparate.fits patch (by simp)
  have hself := hseparate.new patch (by simp) patch (by simp)
  rcases applyEach_cons_ok h with ⟨next, hpatch, h⟩
  rcases (Patch.apply_eq_ok_iff hfits).mp hpatch with ⟨hunique, off, hoff, hnext⟩
  have hroom := hfits.room hoff
  have hplace := occursAt_of_applyEach hseparate.tail.fits
    (fun other hother =>
      hseparate.new other (by simp [hother]) patch (by simp)) h hi
  rw [hnext] at hplace
  have houtside := hself.places hplace (occursAt_setSlice hroom.2)
  have hbefore := (occursAt_setSlice_iff hroom.2 houtside).mp hplace
  -- the pattern had one place, and the patch has covered it
  have heq : i = off := hunique.unique hbefore hroom.1
  have hpos : 0 < patch.old.length := List.length_pos_iff.mpr hfits.2
  rw [← hfits.1] at houtside
  lia

/-!
# The script
-/

theorem main_sat (file : Bytes) :
    Sat main (fun _ after => applyEach Patch.apply patches file = .ok after)
      (fun e after => applyEach Patch.apply patches file = .error e ∧ after = file)
      file :=
  patchFile_sat Patch.apply patches file

theorem main_isAtomic (file : Bytes) :
    IsAtomic main (sitesOf patches file) file := by
  apply (main_sat file).mono
  · intro _ after happly
    exact applyEach_ok patches_separate happly
  · intro _ after hfailed
    exact hfailed.2

theorem main_isIdempotent_iff (file : Bytes) :
    IsIdempotent main file <->
      ¬ forall patch, patch ∈ patches -> patch.Unique file := by
  have hmain := main_sat file
  unfold IsIdempotent
  cases hrun : main file with
  | error e after =>
      rw [sat_of_error hrun] at hmain ⊢
      rw [← applyEach_isOk_iff patches_separate, hmain.1]
      constructor
      · intro _ hok
        rcases hok with ⟨out, hout⟩
        cases hout
      · intro _
        trivial
  | ok _ once =>
      rw [sat_of_ok hrun] at hmain ⊢
      rw [← applyEach_isOk_iff patches_separate]
      constructor
      · intro htwice
        exfalso
        have hfinal := main_sat once
        cases hagain : main once with
        | error e after =>
            rw [sat_of_error hagain] at htwice
            exact htwice
        | ok _ twice =>
            rw [sat_of_ok hagain] at hfinal
            have hunique :=
              (applyEach_isOk_iff patches_separate once).mp ⟨twice, hfinal⟩
            exact not_unique_of_applyEach patches_separate hmain
              (hunique _ List.mem_cons_self)
      · intro hfailed
        exact absurd ⟨once, hmain⟩ hfailed

end SecRil

/-!
# Both scripts
-/

/-- Both scripts are atomic, and the one for the audio library may be run again on
every library.  The one for the radio library may be run again only where it has
failed: where a pattern does not occur exactly once. -/
theorem scripts_run_again_iff (file : Bytes) :
    (IsAtomic AudioPrimaryLito.main AudioPrimaryLito.sites file ∧
      IsIdempotent AudioPrimaryLito.main file) ∧
    IsAtomic SecRil.main (SecRil.sitesOf SecRil.patches file) file ∧
    (IsIdempotent SecRil.main file <->
      ¬ forall patch, patch ∈ SecRil.patches ->
        ∃! off, OccursAt patch.old file off) := by
  constructor
  · exact ⟨AudioPrimaryLito.patches_separate.isAtomic file,
      AudioPrimaryLito.patches_separate.isIdempotent file⟩
  · exact ⟨SecRil.main_isAtomic file, SecRil.main_isIdempotent_iff file⟩

/-- The two old patterns alone: the script succeeds on them once. -/
def bothGates : Bytes := SecRil.patches.flatMap SecRil.Patch.old

/-- The second run does not find the first pattern any more. -/
theorem secRil_fails_on_patched :
    ¬ IsIdempotent SecRil.main bothGates ∧
      exists once, SecRil.main bothGates = .ok () once ∧
        SecRil.main once =
          .error (.notUnique [0x88, 0x58, 0x9d, 0x52, 0x1f, 0x00, 0x08, 0x6b,
            0xab, 0x01, 0x00, 0x54] none) once := by
  let once : Bytes := SecRil.patches.flatMap SecRil.Patch.new
  have hfirst : SecRil.main bothGates = .ok () once := rfl
  have hsecond : SecRil.main once =
      .error (.notUnique [0x88, 0x58, 0x9d, 0x52, 0x1f, 0x00, 0x08, 0x6b,
        0xab, 0x01, 0x00, 0x54] none) once := rfl
  refine ⟨?_, once, hfirst, hsecond⟩
  intro hidempotent
  unfold IsIdempotent at hidempotent
  rw [sat_of_ok hfirst, sat_of_error hsecond] at hidempotent
  exact hidempotent

end Patches
end Sm7225
