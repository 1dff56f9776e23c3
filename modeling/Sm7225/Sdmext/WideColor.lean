import Mathlib.Data.List.Chain
import Sm7225.Sdmext.Frames

/-!
# Wide-colour entries

The core appends one entry for each wide-colour layer of a frame and never
removes any.  {lit}`Start` trims the vector to the number of application layers.
This keeps the entries of earlier frames whenever a frame has other layers too.
-/

namespace Sm7225
namespace Sdmext

open Lib

variable {core : SdmCore}

/-!
# Frames with wide-colour layers
-/

/-- The application layers of a frame, a wide-colour layer with its entry. -/
structure WideFrame (core : SdmCore) where
  layers : List (Option core.PrimariesTransfer)

namespace WideFrame

/-- What the core appends for the frame, in the order of the layers. -/
def entries (frame : WideFrame core) : List core.PrimariesTransfer :=
  frame.layers.filterMap id

/-- The frame may follow the other one: that has left no entries, or every
application layer of this frame is wide-colour. -/
def MayFollow (earlier frame : WideFrame core) : Prop :=
  earlier.entries = [] ∨ frame.entries.length = frame.layers.length

theorem length_entries_le (frame : WideFrame core) :
    frame.entries.length <= frame.layers.length :=
  List.length_filterMap_le id frame.layers

end WideFrame

/-- What the core does before it calls {lit}`Start`. -/
def buildLayerStackStats (ptr : HWLayersPtr) (frame : WideFrame core) :
    Sdm core Unit :=
  modify fun s => s.modifyInfo ptr fun info =>
    { info with
      appLayerCount := frame.layers.length
      wideColorPrimaries := info.wideColorPrimaries ++ frame.entries }

/-- The frame is started, and the entries are read. -/
def startWideFrame (ptr : HWLayersPtr) (frame : WideFrame core) :
    Sdm core (List core.PrimariesTransfer) := do
  buildLayerStackStats ptr frame
  let _ ← start ptr
  let s ← get
  return (s.hwLayers ptr).info.wideColorPrimaries

/-!
# Trimming
-/

theorem trimFront_eq_drop {α : Type} (appLayerCount : Nat) (entries : List α) :
    trimFront appLayerCount entries =
      entries.drop (entries.length - appLayerCount) := by
  induction entries with
  | nil =>
      rw [List.drop_nil]
      rfl
  | cons entry rest ih =>
      rw [trimFront]
      by_cases hlong : appLayerCount < (entry :: rest).length
      · have hlength : (entry :: rest).length - appLayerCount =
            rest.length - appLayerCount + 1 := by
          rw [List.length_cons] at hlong ⊢
          lia
        rw [if_pos hlong, ih, hlength, List.drop_succ_cons]
      · have hlength : (entry :: rest).length - appLayerCount = 0 := by
          lia
        rw [if_neg hlong, hlength, List.drop_zero]

theorem trimFront_append_eq_iff {α : Type} {appLayerCount : Nat}
    {old new : List α} (hnew : new.length <= appLayerCount) :
    trimFront appLayerCount (old ++ new) = new <->
      old = [] ∨ new.length = appLayerCount := by
  rw [trimFront_eq_drop, List.length_append]
  constructor
  · intro htrim
    have hlength := congrArg List.length htrim
    rw [List.length_drop, List.length_append] at hlength
    by_cases hold : old = []
    · exact .inl hold
    · have hpos : 0 < old.length := List.length_pos_iff.mpr hold
      right
      lia
  · intro hcases
    rcases hcases with hold | hfull
    · have hdrop : old.length + new.length - appLayerCount = 0 := by
        rw [hold, List.length_nil]
        lia
      rw [hdrop, hold]
      rfl
    · have hdrop : old.length + new.length - appLayerCount = old.length := by
        lia
      rw [hdrop, List.drop_left]

/-!
# Runs of frames
-/

theorem startWideFrame_sat (ptr : HWLayersPtr) (frame : WideFrame core)
    (s : Display core) :
    Sat (startWideFrame ptr frame)
      (fun entries t =>
        entries = trimFront frame.layers.length
          ((s.hwLayers ptr).info.wideColorPrimaries ++ frame.entries) ∧
          (t.hwLayers ptr).info.wideColorPrimaries = entries)
      (fun _ _ => False) s := by
  unfold startWideFrame buildLayerStackStats start
  simp [-bind_pure_comp, Display.modifyInfo, HWLayersInfo.startFrame]

theorem run_startWideFrame_iff (ptr : HWLayersPtr)
    (frames : List (WideFrame core)) (earlier : WideFrame core)
    (s : Display core)
    (hs : (s.hwLayers ptr).info.wideColorPrimaries = earlier.entries) :
    Sat (run (startWideFrame ptr) frames)
        (fun vectors _ => vectors = frames.map WideFrame.entries)
        (fun _ _ => False) s <->
      (earlier :: frames).IsChain WideFrame.MayFollow := by
  induction frames generalizing earlier s with
  | nil =>
      constructor
      · intro _
        exact List.isChain_singleton earlier
      · intro _
        exact rfl
  | cons frame frames ih =>
      have hfirst := startWideFrame_sat ptr frame s
      have hkept : trimFront frame.layers.length
          (earlier.entries ++ frame.entries) = frame.entries <->
            earlier.MayFollow frame :=
        trimFront_append_eq_iff frame.length_entries_le
      rw [hs] at hfirst
      simp only [run, sat_bind, List.map_cons, List.isChain_cons_cons]
      cases hstart : startWideFrame ptr frame s with
      | error e t =>
          rw [sat_of_error hstart] at hfirst
          exact hfirst.elim
      | ok vector t =>
          rw [sat_of_ok hstart] at hfirst ⊢
          simp only [sat_pure, List.cons.injEq]
          by_cases hfollow : earlier.MayFollow frame
          · have htrim := hkept.mpr hfollow
            have hvector : vector = frame.entries := hfirst.1.trans htrim
            have hrest := ih frame t (hfirst.2.trans hvector)
            simp only [hvector, true_and, hfollow]
            exact hrest
          · constructor
            · intro hrun
              have hfalse : Sat (run (startWideFrame ptr) frames)
                  (fun _ _ => False) (fun _ _ => False) t := by
                apply hrun.imp
                intro _ _ hvectors
                exact hfollow (hkept.mp (hfirst.1.symm.trans hvectors.1))
              exact hfalse.elim.elim
            · intro hchain
              exact absurd hchain.1 hfollow

/-- After every {lit}`Start` the vector has exactly the entries of its frame, if and
only if a frame without an entry for each of its layers never follows a frame
with entries. -/
theorem start_keeps_current_entries_iff (ptr : HWLayersPtr)
    (frames : List (WideFrame core)) (s : Display core)
    (hs : (s.hwLayers ptr).info.wideColorPrimaries = []) :
    Sat (run (startWideFrame ptr) frames)
        (fun vectors _ => vectors = frames.map WideFrame.entries)
        (fun _ _ => False) s <->
      frames.IsChain WideFrame.MayFollow := by
  rw [run_startWideFrame_iff ptr frames ⟨[]⟩ s hs]
  cases frames with
  | nil =>
      constructor
      · intro _
        exact List.IsChain.nil
      · intro _
        exact List.isChain_singleton _
  | cons frame frames =>
      rw [List.isChain_cons_cons]
      constructor
      · intro hchain
        exact hchain.2
      · intro hchain
        exact ⟨.inl rfl, hchain⟩

/-- One of three layers is wide-colour, with another primary in each frame. -/
def oneWideOfThree : List (WideFrame wholeCore) :=
  [⟨[some 1, none, none]⟩, ⟨[some 2, none, none]⟩]

theorem start_keeps_current_entries_iff_three :
    Sat (run (startWideFrame 1) oneWideOfThree)
        (fun vectors _ => vectors = oneWideOfThree.map WideFrame.entries)
        (fun _ _ => False) (Display.initial panelConfig panelFrame.memory) <->
      oneWideOfThree.IsChain WideFrame.MayFollow :=
  start_keeps_current_entries_iff 1 oneWideOfThree _ rfl

/-- The entry of the first frame is still there after the second. -/
theorem start_keeps_stale_entry :
    ¬ Sat (run (startWideFrame 1) oneWideOfThree)
        (fun vectors _ => vectors = oneWideOfThree.map WideFrame.entries)
        (fun _ _ => False)
        (Display.initial panelConfig panelFrame.memory) := by
  show ¬ ([[1], [1, 2]] : List (List Nat)) = [[1], [2]]
  decide

end Sdmext
end Sm7225
