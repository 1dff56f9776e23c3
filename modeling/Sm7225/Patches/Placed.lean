import Sm7225.Patches.Blob

/-!
# Patches at known places

{lit}`patch_audio_primary_lito.py` and {lit}`patch_bqh_vendor.py` know the address of
each place and accept the old bytes there and the new ones.  They have the same loop
with offsets of their own, so the offset of an address is a parameter here.  What the
loop does with a file depends on the places alone: each of them has its old bytes, its
new bytes, or others.
-/

namespace Sm7225
namespace Patches
namespace Placed

open Lib

structure Patch where
  vaddr : Nat
  old : Bytes
  new : Bytes
  deriving DecidableEq, Repr

def Patch.Fits (patch : Patch) : Prop :=
  patch.new.length = patch.old.length ∧ patch.old ≠ []

instance Patch.Fits.decidable (patch : Patch) : Decidable patch.Fits :=
  inferInstanceAs (Decidable (_ ∧ _))

structure Mismatch where
  vaddr : Nat
  expected : Bytes
  got : Bytes
  deriving DecidableEq, Repr

section Loop

variable (v2f : Nat -> Nat)

def site (patch : Patch) : Site where
  off := v2f patch.vaddr
  new := patch.new

def apply (patch : Patch) (data : Bytes) : Except Mismatch Bytes :=
  let cur := slice data (v2f patch.vaddr) patch.old.length
  if cur = patch.new then
    .ok data
  else if cur ≠ patch.old then
    .error { vaddr := patch.vaddr, expected := patch.old, got := cur }
  else
    .ok (setSlice data (v2f patch.vaddr) patch.new)

def script (patches : List Patch) : Script Mismatch Unit :=
  patchFile (apply v2f) patches

/-- The place has its old or its new bytes. -/
def Accepts (data : Bytes) (patch : Patch) : Prop :=
  OccursAt patch.old data (v2f patch.vaddr) ∨ OccursAt patch.new data (v2f patch.vaddr)

/-- The script stops at the patch. -/
def mismatch (data : Bytes) (patch : Patch) : Mismatch where
  vaddr := patch.vaddr
  expected := patch.old
  got := slice data (v2f patch.vaddr) patch.old.length

def Disjoint (patch other : Patch) : Prop :=
  v2f patch.vaddr + patch.new.length <= v2f other.vaddr ∨
    v2f other.vaddr + other.new.length <= v2f patch.vaddr

instance Disjoint.decidable (patch other : Patch) : Decidable (Disjoint v2f patch other) :=
  inferInstanceAs (Decidable (_ ∨ _))

/-- The patches fit, and no two of them have a place in common. -/
structure Separate (patches : List Patch) : Prop where
  fits : forall patch, patch ∈ patches -> patch.Fits
  disjoint : patches.Pairwise (Disjoint v2f)

end Loop

variable {v2f : Nat -> Nat} {patch : Patch} {patches rest : List Patch} {data out : Bytes}

theorem Separate.tail (h : Separate v2f (patch :: rest)) : Separate v2f rest where
  fits := fun other hother => h.fits other (List.mem_cons_of_mem _ hother)
  disjoint := (List.pairwise_cons.mp h.disjoint).2

theorem Separate.perm (h : Separate v2f patches) (hperm : rest.Perm patches) :
    Separate v2f rest where
  fits := fun patch hpatch => h.fits patch (hperm.mem_iff.mp hpatch)
  disjoint := by
    apply (hperm.pairwise_iff ?_).mpr h.disjoint
    intro patch other hdisjoint
    exact hdisjoint.symm

/-!
# One patch
-/

theorem new_ne_nil (hfits : patch.Fits) : patch.new ≠ [] := by
  intro hnil
  have hlength := hfits.1
  rw [hnil, List.length_nil] at hlength
  exact hfits.2 (List.eq_nil_of_length_eq_zero hlength.symm)

theorem Accepts.room (hfits : patch.Fits) (h : Accepts v2f data patch) :
    v2f patch.vaddr + patch.new.length <= data.length := by
  rcases h with hold | hnew
  · rw [hfits.1]
    exact hold.fits hfits.2
  · exact hnew.fits (new_ne_nil hfits)

theorem apply_of_accepts (hfits : patch.Fits) (h : Accepts v2f data patch) :
    exists next, apply v2f patch data = .ok next ∧ Patched [site v2f patch] data next := by
  have hroom := h.room hfits
  unfold apply
  by_cases hdone : slice data (v2f patch.vaddr) patch.old.length = patch.new
  · exists data
    refine ⟨if_pos hdone, ?_⟩
    rw [← hfits.1] at hdone
    constructor
    · rfl
    · intro other hother
      rw [List.mem_singleton.mp hother]
      exact hdone
    · intro i _
      rfl
  · have hold : slice data (v2f patch.vaddr) patch.old.length = patch.old := by
      rcases h with hold | hnew
      · exact hold
      · rw [← hfits.1] at hdone
        exact absurd hnew hdone
    exists setSlice data (v2f patch.vaddr) patch.new
    refine ⟨?_, patched_setSlice hroom⟩
    rw [if_neg hdone, if_neg (not_not.mpr hold)]

theorem apply_of_not_accepts (hfits : patch.Fits) (h : ¬ Accepts v2f data patch) :
    apply v2f patch data = .error (mismatch v2f data patch) := by
  have hdone : ¬ slice data (v2f patch.vaddr) patch.old.length = patch.new := by
    intro hdone
    rw [← hfits.1] at hdone
    exact h (Or.inr hdone)
  have hold : slice data (v2f patch.vaddr) patch.old.length ≠ patch.old :=
    fun hold => h (Or.inl hold)
  unfold apply
  rw [if_neg hdone, if_pos hold]
  rfl

/-!
# Places of the others
-/

theorem slice_of_patched {sites : List Site} (h : Patched sites data out) {off len : Nat}
    (houtside : forall i, i < len -> forall site, site ∈ sites -> ¬ site.Covers (off + i)) :
    slice out off len = slice data off len := by
  apply List.ext_getElem?
  intro i
  by_cases hi : i < len
  · rw [getElem?_slice out off len i hi, getElem?_slice data off len i hi]
    exact h.outside (off + i) (houtside i hi)
  · have hlength : forall bytes : Bytes, (slice bytes off len).length <= len :=
      fun bytes => List.length_take_le _ _
    have hout := hlength out
    have hdata := hlength data
    rw [List.getElem?_eq_none (by lia), List.getElem?_eq_none (by lia)]

theorem Separate.slice_eq (h : Separate v2f (patch :: rest))
    (hpatched : Patched [site v2f patch] data out) {other : Patch} (hother : other ∈ rest) :
    slice out (v2f other.vaddr) other.old.length =
      slice data (v2f other.vaddr) other.old.length := by
  apply slice_of_patched hpatched
  intro i hi place hplace hcovers
  rw [List.mem_singleton.mp hplace] at hcovers
  have hdisjoint := (List.pairwise_cons.mp h.disjoint).1 other hother
  have hfits := h.fits other (by simp [hother])
  unfold Disjoint at hdisjoint
  unfold Site.Covers site at hcovers
  simp only at hcovers
  rw [hfits.1] at hdisjoint
  lia

theorem accepts_iff (hfits : patch.Fits) :
    Accepts v2f data patch <->
      slice data (v2f patch.vaddr) patch.old.length = patch.old ∨
        slice data (v2f patch.vaddr) patch.old.length = patch.new := by
  unfold Accepts OccursAt
  rw [hfits.1]

theorem Separate.accepts_iff (h : Separate v2f (patch :: rest))
    (hpatched : Patched [site v2f patch] data out) {other : Patch} (hother : other ∈ rest) :
    Accepts v2f out other <-> Accepts v2f data other := by
  have hfits := h.fits other (by simp [hother])
  rw [Placed.accepts_iff hfits, Placed.accepts_iff hfits, h.slice_eq hpatched hother]

theorem Separate.head_outside (h : Separate v2f (patch :: rest)) {i : Nat}
    (hi : (site v2f patch).Covers i) :
    forall place, place ∈ rest.map (site v2f) -> ¬ place.Covers i := by
  intro place hplace hcovers
  rcases List.mem_map.mp hplace with ⟨other, hother, heq⟩
  rw [← heq] at hcovers
  have hdisjoint := (List.pairwise_cons.mp h.disjoint).1 other hother
  unfold Site.Covers site at hi hcovers
  unfold Disjoint at hdisjoint
  simp only at hi hcovers
  lia

/-!
# All patches
-/

theorem applyEach_of_accepts (hseparate : Separate v2f patches)
    (h : forall patch, patch ∈ patches -> Accepts v2f data patch) :
    exists out, applyEach (apply v2f) patches data = .ok out ∧
      Patched (patches.map (site v2f)) data out := by
  induction patches generalizing data with
  | nil =>
      exists data
      exact ⟨rfl, patched_nil data⟩
  | cons patch rest ih =>
      have hfits := hseparate.fits patch (by simp)
      rcases apply_of_accepts hfits (h patch (by simp)) with ⟨next, hnext, hfirst⟩
      have hrest : forall other, other ∈ rest -> Accepts v2f next other := by
        intro other hother
        rw [hseparate.accepts_iff hfirst hother]
        exact h other (by simp [hother])
      rcases ih hseparate.tail hrest with ⟨out, hout, hpatched⟩
      exists out
      rw [applyEach, hnext]
      exact ⟨hout, hfirst.cons hpatched fun i hi => hseparate.head_outside hi⟩

theorem applyEach_of_not_accepts {front back : List Patch}
    (hseparate : Separate v2f (front ++ patch :: back))
    (hfront : forall other, other ∈ front -> Accepts v2f data other)
    (hpatch : ¬ Accepts v2f data patch) :
    applyEach (apply v2f) (front ++ patch :: back) data = .error (mismatch v2f data patch) := by
  induction front generalizing data with
  | nil =>
      have hfits := hseparate.fits patch (by simp)
      rw [List.nil_append, applyEach, apply_of_not_accepts hfits hpatch]
  | cons first front ih =>
      have hfits := hseparate.fits first (by simp)
      rcases apply_of_accepts hfits (hfront first (by simp)) with ⟨next, hnext, hfirst⟩
      rw [List.cons_append, applyEach, hnext]
      have hstops : applyEach (apply v2f) (front ++ patch :: back) next =
          .error (mismatch v2f next patch) := by
        apply ih hseparate.tail
        · intro other hother
          rw [hseparate.accepts_iff hfirst (by simp [hother])]
          exact hfront other (by simp [hother])
        · rw [hseparate.accepts_iff hfirst (by simp)]
          exact hpatch
      have hbytes : mismatch v2f next patch = mismatch v2f data patch := by
        unfold mismatch
        rw [hseparate.slice_eq hfirst (by simp)]
      rw [← hbytes]
      exact hstops

theorem exists_first (v2f : Nat -> Nat) (data : Bytes) (patches : List Patch) :
    (forall patch, patch ∈ patches -> Accepts v2f data patch) ∨
      exists front patch back, patches = front ++ patch :: back ∧
        (forall other, other ∈ front -> Accepts v2f data other) ∧
          ¬ Accepts v2f data patch := by
  induction patches with
  | nil => exact Or.inl nofun
  | cons patch rest ih =>
      by_cases hpatch : Accepts v2f data patch
      · rcases ih with hall | ⟨front, other, back, hrest, hfront, hother⟩
        · left
          intro other hother
          rcases List.mem_cons.mp hother with heq | hother
          · rw [heq]
            exact hpatch
          · exact hall other hother
        · right
          refine ⟨patch :: front, other, back, by rw [hrest, List.cons_append], ?_, hother⟩
          intro first hfirst
          rcases List.mem_cons.mp hfirst with heq | hfirst
          · rw [heq]
            exact hpatch
          · exact hfront first hfirst
      · exact Or.inr ⟨[], patch, rest, rfl, nofun, hpatch⟩

theorem applyEach_isOk_iff (hseparate : Separate v2f patches) (data : Bytes) :
    (exists out, applyEach (apply v2f) patches data = .ok out) <->
      forall patch, patch ∈ patches -> Accepts v2f data patch := by
  constructor
  · intro hok
    rcases hok with ⟨out, hout⟩
    rcases exists_first v2f data patches with
      hall | ⟨front, patch, back, hpatches, hfront, hpatch⟩
    · exact hall
    · rw [hpatches] at hout hseparate
      rw [applyEach_of_not_accepts hseparate hfront hpatch] at hout
      cases hout
  · intro hall
    rcases applyEach_of_accepts hseparate hall with ⟨out, hout, _⟩
    exact ⟨out, hout⟩

theorem Separate.patched_of_ok (hseparate : Separate v2f patches)
    (h : applyEach (apply v2f) patches data = .ok out) :
    Patched (patches.map (site v2f)) data out := by
  have haccepts := (applyEach_isOk_iff hseparate data).mp ⟨out, h⟩
  rcases applyEach_of_accepts hseparate haccepts with ⟨other, hother, hpatched⟩
  rw [h] at hother
  cases hother
  exact hpatched

/-!
# Files that differ at the sites only
-/

/-- The files agree outside the sites. -/
structure SameElsewhere (sites : List Site) (file other : Bytes) : Prop where
  length : other.length = file.length
  outside : forall i, (forall site, site ∈ sites -> ¬ site.Covers i) -> other[i]? = file[i]?

theorem Patched.sameElsewhere {sites : List Site} (h : Patched sites data out) :
    SameElsewhere sites data out :=
  ⟨h.length, h.outside⟩

theorem patched_unique {sites : List Site} {file other out out' : Bytes}
    (hsame : SameElsewhere sites file other) (h : Patched sites file out)
    (h' : Patched sites other out') : out' = out := by
  apply List.ext_getElem?
  intro i
  by_cases hcovers : exists site, site ∈ sites ∧ site.Covers i
  · rcases hcovers with ⟨site, hsite, hcovers⟩
    have hplace := occursAt_iff.mp (h.inside site hsite) (i - site.off)
    have hplace' := occursAt_iff.mp (h'.inside site hsite) (i - site.off)
    unfold Site.Covers at hcovers
    have hoff : site.off + (i - site.off) = i := by lia
    rw [hoff] at hplace hplace'
    rw [hplace (by lia), hplace' (by lia)]
  · have houtside : forall site, site ∈ sites -> ¬ site.Covers i :=
      fun site hsite hsite_covers => hcovers ⟨site, hsite, hsite_covers⟩
    rw [h.outside i houtside, h'.outside i houtside, hsame.outside i houtside]

theorem Patched.perm {sites sites' : List Site} (h : Patched sites data out)
    (hperm : sites'.Perm sites) : Patched sites' data out where
  length := h.length
  inside := fun site hsite => h.inside site (hperm.mem_iff.mp hsite)
  outside := fun i hi => h.outside i fun site hsite => hi site (hperm.mem_iff.mpr hsite)

theorem accepts_of_patched (h : Patched (patches.map (site v2f)) data out) :
    forall patch, patch ∈ patches -> Accepts v2f out patch :=
  fun patch hpatch => Or.inr (h.inside (site v2f patch) (List.mem_map_of_mem hpatch))

/-!
# The script
-/

/-- What the script does with a file, for a table of patches. -/
structure Decides (v2f : Nat -> Nat) (patches : List Patch) (main : Script Mismatch Unit)
    (file : Bytes) : Prop where
  accepted : (forall patch, patch ∈ patches -> Accepts v2f file patch) ->
    Sat main (fun _ after => Patched (patches.map (site v2f)) file after)
      (fun _ _ => False) file
  -- the first refused place in the order of the table
  refused : forall front patch back, patches = front ++ patch :: back ->
    (forall other, other ∈ front -> Accepts v2f file other) -> ¬ Accepts v2f file patch ->
      Sat main (fun _ _ => False)
        (fun e after => e = mismatch v2f file patch ∧ after = file) file

/-- Every library that has old or new bytes at each place, and agrees elsewhere, becomes
the same library, whatever the order of the table. -/
def Converges (v2f : Nat -> Nat) (patches : List Patch) (main : Script Mismatch Unit)
    (file : Bytes) : Prop :=
  Sat main
    (fun _ after => forall other table,
      SameElsewhere (patches.map (site v2f)) file other ->
        (forall patch, patch ∈ patches -> Accepts v2f other patch) -> table.Perm patches ->
          Sat (script v2f table) (fun _ after' => after' = after) (fun _ _ => False) other)
    (fun _ _ => True) file

theorem Separate.decides (hseparate : Separate v2f patches) (file : Bytes) :
    Decides v2f patches (script v2f patches) file := by
  constructor
  · intro hall
    rcases applyEach_of_accepts hseparate hall with ⟨out, hout, hpatched⟩
    apply (patchFile_sat (apply v2f) patches file).mono
    · intro _ after happly
      rw [hout] at happly
      cases happly
      exact hpatched
    · intro e after hfailed
      rw [hout] at hfailed
      cases hfailed.1
  · intro front patch back hpatches hfront hpatch
    have hstops : applyEach (apply v2f) patches file = .error (mismatch v2f file patch) := by
      rw [hpatches] at hseparate ⊢
      exact applyEach_of_not_accepts hseparate hfront hpatch
    apply (patchFile_sat (apply v2f) patches file).mono
    · intro _ after happly
      rw [hstops] at happly
      cases happly
    · intro e after hfailed
      rw [hstops] at hfailed
      rcases hfailed with ⟨herror, hafter⟩
      cases herror
      exact ⟨rfl, hafter⟩

theorem Separate.converges (hseparate : Separate v2f patches) (file : Bytes) :
    Converges v2f patches (script v2f patches) file := by
  apply (patchFile_sat (apply v2f) patches file).mono
  · intro _ after happly other table hsame hother hperm
    have hpatched := hseparate.patched_of_ok happly
    have htable : forall patch, patch ∈ table -> Accepts v2f other patch :=
      fun patch hpatch => hother patch (hperm.mem_iff.mp hpatch)
    have hsites := hperm.map (site v2f)
    apply (((hseparate.perm hperm).decides other).accepted htable).mono
    · intro _ after' hpatched'
      exact patched_unique hsame hpatched (Patched.perm hpatched' hsites.symm)
    · intro e after' hfalse
      exact hfalse
  · intro _ _ _
    trivial

theorem Separate.isAtomic (hseparate : Separate v2f patches) (file : Bytes) :
    IsAtomic (script v2f patches) (patches.map (site v2f)) file := by
  apply (patchFile_sat (apply v2f) patches file).mono
  · intro _ after happly
    exact hseparate.patched_of_ok happly
  · intro _ after hfailed
    exact hfailed.2

theorem Separate.isIdempotent (hseparate : Separate v2f patches) (file : Bytes) :
    IsIdempotent (script v2f patches) file := by
  apply ((hseparate.isAtomic file).and (hseparate.converges file)).mono
  · intro _ once honce
    exact honce.2 once patches (Patched.sameElsewhere honce.1)
      (accepts_of_patched honce.1) (List.Perm.refl patches)
  · intro _ _ _
    trivial

end Placed
end Patches
end Sm7225
