import Sm7225.Bqhelper.Reserve
import Sm7225.Bqhelper.Requests
import Sm7225.Lib.Notices

/-!
# The data space of a frame is told first

The component hears of the data space of a frame before it gets the frame, where the
data space differs from the one of the frame before it and can be converted.  Since its
start it takes the data space for the unknown one.
-/

namespace Sm7225
namespace Bqhelper

open Lib

/-!
# What the component hears
-/

abbrev Coloring := Int × Int

def VideoBuffer.coloring (item : VideoBuffer) : Coloring :=
  (item.mDataspace, item.mBuffer.mBuffer.mGraphicBuffer.format)

namespace Event

def coloring? : Event -> Option Coloring
  | .submitBuffer _ item _ _ _ _ => some item.coloring
  | _ => none

def notice? : Event -> Option (Notice Coloring)
  | .submitBuffer _ item _ _ _ _ => some (.used item.coloring)
  | .dispatchDataSpaceChanged dataSpace _ pixelFormat => some (.told (dataSpace, pixelFormat))
  | _ => none

theorem notice_of_mute (e : Event) (h : e.speaks = false) :
    e.notice? = none ∧ e.coloring? = none := by
  cases e <;> first | exact ⟨rfl, rfl⟩ | cases h

end Event

def colorings (log : List Event) : List Coloring :=
  log.filterMap Event.coloring?

def notices (log : List Event) : List (Notice Coloring) :=
  log.filterMap Event.notice?

theorem colorings_append (log more : List Event) :
    colorings (log ++ more) = colorings log ++ colorings more :=
  List.filterMap_append

theorem notices_append (log more : List Event) :
    notices (log ++ more) = notices log ++ notices more :=
  List.filterMap_append

/-- The component, which takes the data space for {lit}`cur` at first, is told what it
has to be told: of a frame that it gets it knows the data space if that can be
converted, and it is told such data spaces only, each for a change. -/
structure ToldInTime (converts : Int -> Bool) (cur : Int) (new : List Event) : Prop where
  notices : notices new = announced Prod.fst converts cur (colorings new)
  informed : Everywhere (fun past notice => KnowsUse Prod.fst converts cur past notice ∧
    IsChange Prod.fst converts cur past notice) (Bqhelper.notices new)

theorem toldInTime_of_notices {converts : Int -> Bool} {cur : Int} {new : List Event}
    (h : notices new = announced Prod.fst converts cur (colorings new)) :
    ToldInTime converts cur new where
  notices := h
  informed := by
    rw [h]
    exact everywhereFrom_announced _ (fun _ => rfl) rfl

/-!
# Functions
-/

def Speaks (converts : Int -> Bool) (s t : GraphicBufferSource) : Prop :=
  exists new, t.log = s.log ++ new ∧
    notices new = announced Prod.fst converts s.mLastDataspace (colorings new) ∧
      t.mLastDataspace = lastUsed Prod.fst s.mLastDataspace (colorings new)

structure Attached (converts : Int -> Bool) (s : GraphicBufferSource) : Prop where
  component : s.mComponent ≠ none
  converts : s.answers.convertDataSpaceToV0 = converts

def KeepsInformed (converts : Int -> Bool) (s t : GraphicBufferSource) : Prop :=
  Attached converts s -> Attached converts t ∧ Speaks converts s t

variable {converts : Int -> Bool} {s t u : GraphicBufferSource}

theorem Speaks.of_silent {new : List Event} (hlog : t.log = s.log ++ new)
    (hnotices : notices new = []) (hcolorings : colorings new = [])
    (hlast : t.mLastDataspace = s.mLastDataspace) : Speaks converts s t := by
  refine ⟨new, hlog, ?_, ?_⟩
  · rw [hnotices, hcolorings]
    rfl
  · rw [hcolorings, hlast]
    rfl

theorem Speaks.of_log (hlog : t.log = s.log) (hlast : t.mLastDataspace = s.mLastDataspace) :
    Speaks converts s t := by
  have hnothing : t.log = s.log ++ [] := by
    rw [hlog, List.append_nil]
  exact .of_silent hnothing rfl rfl hlast

theorem Speaks.trans (h : Speaks converts s t) (h' : Speaks converts t u) :
    Speaks converts s u := by
  rcases h with ⟨new, hlog, hnotices, hlast⟩
  rcases h' with ⟨new', hlog', hnotices', hlast'⟩
  refine ⟨new ++ new', by rw [hlog', hlog, List.append_assoc], ?_, ?_⟩
  · rw [notices_append, colorings_append, announced_append, hnotices, hnotices', hlast]
  · rw [hlast', hlast, colorings_append, lastUsed_append]

instance : Std.Refl (KeepsInformed converts) :=
  ⟨fun _ hs => ⟨hs, .of_log rfl rfl⟩⟩

instance : IsTrans GraphicBufferSource (KeepsInformed converts) :=
  ⟨fun _ _ _ h h' hs =>
    have ht := h hs
    have hu := h' ht.1
    ⟨hu.1, ht.2.trans hu.2⟩⟩

namespace KeepsInformed

theorem modifyControl {f : Control -> Control}
    (hlast : forall c, (f c).mLastDataspace = c.mLastDataspace)
    (hcomponent : forall c, (f c).mComponent = c.mComponent)
    (hconverts : forall c, (f c).answers.convertDataSpaceToV0 =
      c.answers.convertDataSpaceToV0) :
    Leads (KeepsInformed converts) (modifyControl f) := by
  apply leads_modify
  intro s hs
  refine ⟨⟨?_, ?_⟩, .of_log rfl (hlast s.toControl)⟩
  · show (f s.toControl).mComponent ≠ none
    rw [hcomponent]
    exact hs.component
  · show (f s.toControl).answers.convertDataSpaceToV0 = converts
    rw [hconverts]
    exact hs.converts

theorem modifyBuffers {f : Buffers -> Buffers} (h : forall b : Buffers, b.Mute (f b)) :
    Leads (KeepsInformed converts) (modifyBuffers f) := by
  apply leads_modify
  intro s hs
  rcases h s.toBuffers with ⟨new, hlog, hmute⟩
  refine ⟨⟨hs.component, hs.converts⟩, .of_silent hlog ?_ ?_ rfl⟩
  · exact List.filterMap_eq_nil_iff.mpr fun e he => (e.notice_of_mute (hmute e he)).1
  · exact List.filterMap_eq_nil_iff.mpr fun e he => (e.notice_of_mute (hmute e he)).2

theorem reserved : Reserved (KeepsInformed converts) := by
  apply Backstage.reserved
  · apply Backstage.of_discreet
    · intro f h
      exact modifyControl (fun c => congrArg Standing.mLastDataspace (h c))
        (fun c => congrArg Standing.mComponent (h c))
        (fun c => congrArg Standing.converts (h c))
    · intro f h
      exact modifyBuffers fun b => (h b).mute
  · intro dropper
    exact modifyControl (fun _ => rfl) (fun _ => rfl) (fun _ => rfl)
  · exact modifyControl (fun _ => rfl) (fun _ => rfl) (fun _ => rfl)
  · exact modifyControl (fun _ => rfl) (fun _ => rfl) (fun _ => rfl)

theorem performActions (itemTimeUs : Int) :
    Leads (KeepsInformed converts) (performActions itemTimeUs) :=
  leads_performActions
    (fun _ => modifyControl (fun _ => rfl) (fun _ => rfl) (fun _ => rfl))
    (fun _ => modifyControl (fun _ => rfl) (fun _ => rfl) (fun _ => rfl)) itemTimeUs

structure Told (converts : Int -> Bool) (s : GraphicBufferSource) (item : VideoBuffer)
    (t : GraphicBufferSource) : Prop where
  attached : Attached converts t
  remembered : t.mLastDataspace = item.mDataspace
  log : exists new, t.log = s.log ++ new ∧ colorings new = [] ∧
    notices new =
      if item.mDataspace ≠ s.mLastDataspace ∧ converts item.mDataspace then
        [.told item.coloring]
      else
        []

theorem updateDataspace_told (hs : Attached converts s) (item : VideoBuffer) :
    Sat (updateDataspace item) (fun _ t => Told converts s item t) (fun _ _ => False) s := by
  have hconverts := hs.converts
  unfold updateDataspace onDataspaceChanged_l
  simp only [sat_bind, sat_get, sat_ite, sat_modifyControl, sat_note, sat_throw, sat_pure]
  refine ⟨fun hchanged => ⟨fun hcan => ⟨fun hnone => hs.component hnone, fun _ => ?_⟩,
    fun hcannot => ?_⟩, fun hsame => ?_⟩
  · rw [hconverts] at hcan
    refine ⟨⟨hs.component, hconverts⟩, rfl, _, rfl, rfl, ?_⟩
    rw [if_pos ⟨hchanged, hcan⟩]
    rfl
  · rw [hconverts] at hcannot
    refine ⟨⟨hs.component, hconverts⟩, rfl, [], (List.append_nil _).symm, rfl, ?_⟩
    rw [if_neg fun h => hcannot h.2]
    rfl
  · rw [not_not] at hsame
    refine ⟨hs, hsame.symm, [], (List.append_nil _).symm, rfl, ?_⟩
    rw [if_neg fun h => h.1 hsame]
    rfl

theorem Told.speaks {item : VideoBuffer} (h : Told converts s item t) {more : List Event}
    (hlog : u.log = t.log ++ more) (hlast : u.mLastDataspace = t.mLastDataspace)
    (hcolorings : colorings more = [item.coloring])
    (hnotices : notices more = [.used item.coloring]) : Speaks converts s u := by
  rcases h.log with ⟨new, hnew, hnone, htold⟩
  refine ⟨new ++ more, by rw [hlog, hnew, List.append_assoc], ?_, ?_⟩
  · rw [notices_append, colorings_append, htold, hnone, hcolorings, hnotices,
      List.nil_append, announced]
    show _ = if item.mDataspace ≠ s.mLastDataspace ∧ converts item.mDataspace then _ else _
    split
    · rfl
    · rfl
  · rw [hlast, h.remembered, colorings_append, hnone, hcolorings]
    rfl

theorem submitBuffer_l (item : VideoBuffer) (origin : Origin) :
    Leads (KeepsInformed converts) (submitBuffer_l item origin) := by
  intro s
  by_cases hs : Attached converts s
  · unfold Bqhelper.submitBuffer_l
    rw [sat_bind, sat_get]
    cases s.mFreeCodecBuffers with
    | nil =>
        show KeepsInformed converts s s
        exact Std.Refl.refl s
    | cons codecBufferId rest =>
        cases s.clock.calculateCodecTimestamp_l s.mFrameDropper item.mTimestampNs with
        | none =>
            show KeepsInformed converts s s
            exact Std.Refl.refl s
        | some r =>
            rcases r with ⟨codecTimeUs, clock⟩
            rw [sat_bind, sat_modifyControl, sat_bind]
            have hclock : Attached converts
                { s with toControl := { s.toControl with clock := clock } } :=
              ⟨hs.component, hs.converts⟩
            apply (updateDataspace_told hclock item).total
            intro _ t ht
            unfold componentSubmitBuffer
            rw [sat_bind, sat_bind, sat_get, if_neg ht.attached.component, sat_bind,
              sat_modifyControl, sat_bind, sat_note, sat_pure]
            -- the state in which the call of the component is logged
            have hsubmitted : forall u : GraphicBufferSource,
                u.log = t.log ++ [.submitBuffer codecBufferId item origin codecTimeUs
                  item.mBuffer.getAcquireFenceFd (t.answers.submitBuffer.headD .ok)] ->
                u.mLastDataspace = t.mLastDataspace -> Attached converts u ->
                  KeepsInformed converts s u := by
              intro u hlog hlast hu _
              exact ⟨hu, ht.speaks hlog hlast rfl rfl⟩
            rw [sat_ite]
            constructor
            · intro _
              exact hsubmitted _ rfl rfl ⟨ht.attached.component, ht.attached.converts⟩
            · intro _
              refine Sat.after (R := KeepsInformed converts) (hsubmitted _ rfl rfl
                ⟨ht.attached.component, ht.attached.converts⟩) ?_
              exact (reserved.moveToSubmitted codecBufferId _).bind
                (fun _ => leads_pure) _
  · exact sat_true.mono (fun _ _ _ h => absurd h hs) (fun _ _ _ h => absurd h hs)

theorem fillCodecBuffer_l : Leads (KeepsInformed converts) fillCodecBuffer_l :=
  reserved.fillCodecBuffer_l fun _ => reserved.processFrame performActions
    (reserved.skipDropOrSubmit (fun item => submitBuffer_l item .fresh) _)
    (reserved.recordFrame fun _ => modifyBuffers fun _ => .of_log rfl)

theorem repeatLatestBuffer_l : Leads (KeepsInformed converts) repeatLatestBuffer_l :=
  leads_repeatLatestBuffer_l (fun latest => submitBuffer_l latest .repeated)
    reserved.countRepeat

theorem setSuspend (suspend : Bool) (suspendStartTimeUs : Int) :
    Leads (KeepsInformed converts) (setSuspend suspend suspendStartTimeUs) :=
  reserved.setSuspend repeatLatestBuffer_l
    (fun _ _ => modifyControl (fun _ => rfl) (fun _ => rfl) (fun _ => rfl))
    (fun _ => modifyControl (fun _ => rfl) (fun _ => rfl) (fun _ => rfl))
    suspend suspendStartTimeUs

theorem setStartTimeUs (skipFramesBeforeUs : Int) :
    Leads (KeepsInformed converts) (setStartTimeUs skipFramesBeforeUs) :=
  leads_setStartTimeUs
    (fun _ => modifyControl (fun _ => rfl) (fun _ => rfl) (fun _ => rfl)) skipFramesBeforeUs

theorem setStopTimeUs (stopTimeUs : Int) :
    Leads (KeepsInformed converts) (setStopTimeUs stopTimeUs) :=
  leads_setStopTimeUs
    (fun _ => modifyControl (fun _ => rfl) (fun _ => rfl) (fun _ => rfl)) stopTimeUs

end KeepsInformed

/-!
# Sessions
-/

/-- The request neither begins a session nor takes the component away, and the data
spaces are converted as before. -/
def InSession (converts : Int -> Bool) : Request -> Prop
  | .queueFrame _ => True
  | .call .start _ => False
  | .call (.configure _) _ => False
  | .call .release _ => False
  | .call _ answers => answers.convertDataSpaceToV0 = converts

theorem perform_keepsInformed {op : Op} {answers : Answers}
    (h : InSession converts (.call op answers)) :
    Leads (KeepsInformed converts) (perform op) := by
  have hordinary : op.isOrdinary = true -> Leads (KeepsInformed converts) (perform op) := by
    apply leads_perform KeepsInformed.reserved _ KeepsInformed.fillCodecBuffer_l
      KeepsInformed.repeatLatestBuffer_l
      (KeepsInformed.reserved.onFrameAvailable KeepsInformed.fillCodecBuffer_l
        fun _ => KeepsInformed.modifyBuffers fun _ => .of_log rfl)
    intro f hf
    exact KeepsInformed.modifyControl (fun c => (hf c).dataspace) (fun c => (hf c).component)
      (fun c => (hf c).converts)
  have hpace : forall {f : Control -> Control}, (forall c : Control, c.Repaced (f c)) ->
      Leads (KeepsInformed converts) (modifyControl f) := by
    intro f hf
    exact KeepsInformed.modifyControl (fun c => (hf c).keeps fun _ _ => rfl)
      (fun c => (hf c).keeps fun _ _ => rfl)
      (fun c => (hf c).keeps (g := fun c => c.answers.convertDataSpaceToV0)
        fun _ _ => rfl)
  cases op with
  | start => cases h
  | configure args => cases h
  | release => cases h
  | setSuspend suspend suspendStartTimeUs =>
      exact (KeepsInformed.setSuspend suspend suspendStartTimeUs).bind fun _ => leads_pure
  | setStartTimeUs skipFramesBeforeUs =>
      exact (KeepsInformed.setStartTimeUs skipFramesBeforeUs).bind fun _ => leads_pure
  | setStopTimeUs stopTimeUs =>
      exact (KeepsInformed.setStopTimeUs stopTimeUs).bind fun _ => leads_pure
  | setTimeOffsetUs timeOffsetUs => exact leads_setPace hpace rfl
  | setMaxFps maxFps => exact leads_setPace hpace rfl
  | setTimeLapseConfig fps captureFps => exact leads_setPace hpace rfl
  | _ => exact hordinary rfl

theorem exec_keepsInformed {r : Request} (h : InSession converts r) :
    Leads (KeepsInformed converts) (exec r) := by
  cases r with
  | queueFrame item =>
      refine .bind (KeepsInformed.modifyBuffers fun _ => ?_) fun _ => leads_pure
      exact .of_event rfl rfl
  | call op answers =>
      apply Leads.bind _ (fun _ => perform_keepsInformed h)
      apply leads_modify
      intro s hs
      refine ⟨⟨hs.component, ?_⟩, .of_log rfl rfl⟩
      cases op with
      | start => cases h
      | configure args => cases h
      | release => cases h
      | _ => exact h

def HearsOf (converts : Int -> Bool) (s t : GraphicBufferSource) : Prop :=
  exists new, t.log = s.log ++ new ∧ ToldInTime converts halDataspaceUnknown new

def GraphicBufferSource.begun (s : GraphicBufferSource) (answers : Answers) :
    GraphicBufferSource :=
  { s with
    answers := answers
    mExecuting := true
    mLastDataspace := halDataspaceUnknown }

theorem start_keepsInformed {answers : Answers} (hs : s.mComponent ≠ none)
    (hconverts : answers.convertDataSpaceToV0 = converts) :
    Sat (exec (.call .start answers))
      (fun _ t => KeepsInformed converts (s.begun answers) t)
      (fun _ t => HearsOf converts s t) s := by
  have hbegun : Attached converts (s.begun answers) := ⟨hs, hconverts⟩
  have hfill : Leads (KeepsInformed converts) fillCodecBuffer_l :=
    KeepsInformed.fillCodecBuffer_l
  have htail := KeepsInformed.reserved.startTail hfill
    (s.mAvailableBuffers.length + s.mNumAvailableUnacquiredBuffers.toNat)
    (s.begun answers)
  unfold exec perform start
  rw [sat_bind, sat_modifyControl, sat_bind, sat_bind, sat_get, sat_bind, sat_check]
  refine ⟨fun _ => ?_, fun _ => ?_⟩
  · rw [sat_bind, sat_modifyControl]
    apply htail.mono
    · intro _ t ht
      exact ht
    · intro _ t ht
      rcases (ht hbegun).2 with ⟨new, hlog, hnotices, _⟩
      exact ⟨new, hlog, toldInTime_of_notices hnotices⟩
  · exact ⟨[], (List.append_nil _).symm, toldInTime_of_notices rfl⟩

/-- However the requests end, the component hears of the data spaces in time. -/
structure InformsComponent (converts : Int -> Bool) (s : GraphicBufferSource)
    (requests : List Request) : Prop where
  hears : Sat (run exec requests) (fun _ t => HearsOf converts s t)
    (fun _ t => HearsOf converts s t) s

/-- In a session, from a start of an attached source on, the component is told the data
space of a frame right before it gets the frame, for every change to one that can be
converted and for nothing else.  So it knows the data space of each such frame. -/
theorem data_spaces_told (converts : Int -> Bool) (s : GraphicBufferSource)
    (hcomponent : s.mComponent ≠ none) (answers : Answers)
    (hconverts : answers.convertDataSpaceToV0 = converts) (session : List Request)
    (hsession : forall r, r ∈ session -> InSession converts r) :
    InformsComponent converts s (.call .start answers :: session) := by
  constructor
  have hbegun : Attached converts (s.begun answers) := ⟨hcomponent, hconverts⟩
  have hheard : forall t, KeepsInformed converts (s.begun answers) t ->
      HearsOf converts s t := by
    intro t ht
    rcases (ht hbegun).2 with ⟨new, hlog, hnotices, _⟩
    exact ⟨new, hlog, toldInTime_of_notices hnotices⟩
  have hrun : Leads (KeepsInformed converts) (run exec session) :=
    leads_run fun r hr => exec_keepsInformed (hsession r hr)
  rw [run, sat_bind]
  apply (start_keepsInformed hcomponent hconverts).imp
  intro _ t ht
  rw [sat_bind]
  apply (Sat.after ht (hrun t)).mono
  · intro _ u hu
    exact hheard u hu
  · intro _ u hu
    exact hheard u hu

/-- All data spaces but one can be converted. -/
def convertsMost (dataSpace : Int) : Bool :=
  decide (dataSpace ≠ 9)

def deliverColored (slot : SlotId) (dataSpace : Int) : List Request :=
  [.queueFrame { newFrame slot (slot + 1) (100 * (slot + 1)) with
      mDataSpace := dataSpace },
    .call .onFrameAvailable { convertDataSpaceToV0 := convertsMost }]

def coloredFrames : List Request :=
  deliverColored 0 7 ++ deliverColored 1 7 ++ deliverColored 2 9 ++ deliverColored 3 7

/-- A configured source with codec buffers, before its start. -/
def attachedSource : GraphicBufferSource :=
  final [configureFor 0, (Op.onInputBufferAdded 1).now, (Op.onInputBufferAdded 2).now,
    (Op.onInputBufferAdded 3).now, (Op.onInputBufferAdded 4).now]

theorem deliverColored_inSession (slot : SlotId) (dataSpace : Int) :
    forall r, r ∈ deliverColored slot dataSpace -> InSession convertsMost r := by
  intro r hr
  rcases List.mem_cons.mp hr with hr | hr
  · rw [hr]
    trivial
  · rw [List.mem_singleton.mp hr]
    exact rfl

theorem coloredFrames_inSession :
    forall r, r ∈ coloredFrames -> InSession convertsMost r := by
  intro r hr
  rcases List.mem_append.mp hr with hr | hr
  · rcases List.mem_append.mp hr with hr | hr
    · rcases List.mem_append.mp hr with hr | hr
      · exact deliverColored_inSession _ _ r hr
      · exact deliverColored_inSession _ _ r hr
    · exact deliverColored_inSession _ _ r hr
  · exact deliverColored_inSession _ _ r hr

theorem attachedSource_component : attachedSource.mComponent ≠ none := by
  decide +kernel

theorem data_spaces_told_coloredFrames :
    InformsComponent convertsMost attachedSource
      (.call .start { convertDataSpaceToV0 := convertsMost } :: coloredFrames) ∧
    Sat (run exec (.call .start { convertDataSpaceToV0 := convertsMost } :: coloredFrames))
      (fun _ t => notices t.log =
        [.told (7, 1), .used (7, 1), .used (7, 1), .used (9, 1), .told (7, 1),
          .used (7, 1)])
      (fun _ _ => False) attachedSource :=
  ⟨data_spaces_told convertsMost attachedSource attachedSource_component
    { convertDataSpaceToV0 := convertsMost } rfl coloredFrames coloredFrames_inSession,
    by decide +kernel⟩

end Bqhelper
end Sm7225
