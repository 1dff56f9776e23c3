import Sm7225.Lib.Prog
import Sm7225.Lib.Splice

/-!
# Patching a library

A script reads the file of a library, changes some bytes, and writes the file.
The extraction runs it again over a library that is patched already.
-/

namespace Sm7225
namespace Patches

open Lib

abbrev Bytes := List UInt8

/-- A script, whose state is the file it is given. -/
abbrev Script (ε α : Type) := EStateM ε Bytes α

def applyEach {ε Patch : Type} (apply : Patch -> Bytes -> Except ε Bytes) :
    List Patch -> Bytes -> Except ε Bytes
  | [], data => .ok data
  | patch :: rest, data =>
      match apply patch data with
      | .ok data => applyEach apply rest data
      | .error e => .error e

/-- {lit}`main` of a script: only a loop that ends well is followed by a write. -/
def patchFile {ε Patch : Type} (apply : Patch -> Bytes -> Except ε Bytes)
    (patches : List Patch) : Script ε Unit := do
  let data ← get
  match applyEach apply patches data with
  | .ok data => set data
  | .error e => throw e

theorem patchFile_sat {ε Patch : Type} (apply : Patch -> Bytes -> Except ε Bytes)
    (patches : List Patch) (file : Bytes) :
    Sat (patchFile apply patches)
      (fun _ after => applyEach apply patches file = .ok after)
      (fun e after => applyEach apply patches file = .error e ∧ after = file) file := by
  unfold patchFile
  rw [sat_bind, sat_get]
  cases happly : applyEach apply patches file with
  | ok out => exact rfl
  | error e => exact ⟨rfl, rfl⟩

theorem applyEach_cons_ok {ε Patch : Type} {apply : Patch -> Bytes -> Except ε Bytes}
    {patch : Patch} {rest : List Patch} {data out : Bytes}
    (h : applyEach apply (patch :: rest) data = .ok out) :
    exists next, apply patch data = .ok next ∧ applyEach apply rest next = .ok out := by
  rw [applyEach] at h
  cases hpatch : apply patch data with
  | error e =>
      rw [hpatch] at h
      cases h
  | ok next =>
      rw [hpatch] at h
      exact ⟨next, rfl, h⟩

/-- A place of the file and the bytes that belong there. -/
structure Site where
  off : Nat
  new : Bytes
  deriving DecidableEq, Repr

/-- The place is part of the range of the site. -/
def Site.Covers (site : Site) (i : Nat) : Prop :=
  site.off <= i ∧ i < site.off + site.new.length

/-- The new bytes are at the sites, and the rest of the file is as before. -/
structure Patched (sites : List Site) (before after : Bytes) : Prop where
  length : after.length = before.length
  inside : forall site, site ∈ sites -> OccursAt site.new after site.off
  outside : forall i, (forall site, site ∈ sites -> ¬ site.Covers i) ->
    after[i]? = before[i]?

theorem patched_nil (data : Bytes) : Patched [] data data := by
  constructor
  · rfl
  · intro site hsite
    cases hsite
  · intro i _
    rfl

theorem Patched.cons {site : Site} {rest : List Site} {before next after : Bytes}
    (hfirst : Patched [site] before next) (hrest : Patched rest next after)
    (hseparate : forall i, site.Covers i ->
      forall other, other ∈ rest -> ¬ other.Covers i) :
    Patched (site :: rest) before after := by
  constructor
  · exact hrest.length.trans hfirst.length
  · intro other hother
    rcases List.mem_cons.mp hother with hother | hother
    · have hplace := hfirst.inside site (by simp)
      rw [hother]
      rw [occursAt_iff] at hplace ⊢
      intro i hi
      rw [← hplace i hi]
      apply hrest.outside
      exact hseparate (site.off + i) ⟨by lia, by lia⟩
    · exact hrest.inside other hother
  · intro i houtside
    rw [hrest.outside i fun other hother => houtside other (by simp [hother]),
      hfirst.outside i fun other hother =>
        houtside other (by simp [List.mem_singleton.mp hother])]

theorem patched_setSlice {data new : Bytes} {off : Nat}
    (hroom : off + new.length <= data.length) :
    Patched [{ off := off, new := new }] data (setSlice data off new) := by
  constructor
  · exact length_setSlice hroom
  · intro site hsite
    rw [List.mem_singleton.mp hsite]
    exact occursAt_setSlice hroom
  · intro i houtside
    exact getElem?_setSlice_outside hroom
      (houtside { off := off, new := new } (by simp))

/-- The script fails and leaves the file as it is, or it writes the sites. -/
def IsAtomic {ε : Type} (main : Script ε Unit) (sites : List Site) (file : Bytes) :
    Prop :=
  Sat main (fun _ after => Patched sites file after) (fun _ after => after = file)
    file

/-- If the script succeeds, it succeeds again and changes nothing. -/
def IsIdempotent {ε : Type} (main : Script ε Unit) (file : Bytes) : Prop :=
  Sat main
    (fun _ once => Sat main (fun _ twice => twice = once) (fun _ _ => False) once)
    (fun _ _ => True) file

end Patches
end Sm7225
