import Sm7225.Bqhelper.TimeBounds
import Sm7225.Bqhelper.ActionReplay
import Sm7225.Bqhelper.Walks

/-!
# The bounds on times are kept

Most functions leave the fields that the bounds are about, or take frames away.  The
ones that repeat a frame use up one of the repeats that its time leaves room for.
-/

namespace Sm7225
namespace Bqhelper

open Lib

def KeepsTimes (s t : GraphicBufferSource) : Prop :=
  s.timesBounded -> t.timesBounded

instance : Std.Refl KeepsTimes :=
  ⟨fun _ h => h⟩

instance : IsTrans GraphicBufferSource KeepsTimes :=
  ⟨fun _ _ _ h h' hs => h' (h hs)⟩

namespace KeepsTimes

/-!
# Steps
-/

theorem modifyControl {f : Control -> Control}
    (h : forall c, (f c).timeFields = c.timeFields) :
    Leads KeepsTimes (modifyControl f) := by
  apply leads_modify
  intro s hs
  show TimesBounded s.toFrames (f s.toControl).timeFields
  rw [h]
  exact hs

theorem modifyBuffers {f : Buffers -> Buffers}
    (h : forall b times, TimesBounded b.toFrames times -> TimesBounded (f b).toFrames times) :
    Leads KeepsTimes (modifyBuffers f) :=
  leads_modify fun s hs => h s.toBuffers s.timeFields hs

theorem note (e : Event) : Leads KeepsTimes (note e) :=
  modifyBuffers fun _ _ h => h

theorem unhold (a : AcquiredBuffer) : Leads KeepsTimes (unhold a) := by
  apply modifyBuffers
  intro b times h
  rw [Buffers.unhold_toFrames]
  exact h

theorem unholdAll (as : List AcquiredBuffer) : Leads KeepsTimes (unholdAll as) := by
  apply modifyBuffers
  intro b times h
  rw [Buffers.unholdAll_toFrames]
  exact h

theorem of_bounded {α : Type} {m : Gbs α} {s : GraphicBufferSource}
    (h : s.timesBounded ->
      Sat m (fun _ t => KeepsTimes s t) (fun _ t => KeepsTimes s t) s) :
    Sat m (fun _ t => KeepsTimes s t) (fun _ t => KeepsTimes s t) s := by
  by_cases hs : s.timesBounded
  · exact h hs
  · exact sat_true.mono (fun _ _ _ hs' => absurd hs' hs) (fun _ _ _ hs' => absurd hs' hs)

theorem assignNone : Leads KeepsTimes (assignLatest none) := by
  apply leads_get
  intro s
  apply Leads.bind
  · apply modifyBuffers
    intro b times h
    refine ⟨h.fields, h.available, h.queue, fun latest hlatest => ?_⟩
    cases hlatest
  · intro _
    exact unholdAll _

theorem moveToSubmitted (id : CodecBufferId) (entry : Option AcquiredBuffer) :
    Leads KeepsTimes (moveToSubmitted id entry) := by
  apply leads_get
  intro s
  apply Leads.bind
  · exact modifyBuffers fun _ _ h => ⟨h.fields, h.available, h.queue, h.latest⟩
  · intro _
    exact unholdAll _

theorem intake : Intake KeepsTimes where
  answers := fun _ => modifyControl fun _ => rfl
  acquireFailed := fun _ _ => note _
  dequeue := modifyBuffers fun _ _ h =>
    ⟨h.fields, h.available, fun bi hbi => h.queue bi (List.mem_of_mem_tail hbi), h.latest⟩
  dropFromCache := fun _ => modifyBuffers fun _ _ h => h
  removeSlot := fun _ => modifyBuffers fun _ _ h => h
  cache := fun _ _ => modifyBuffers fun _ _ h => h
  acquire := fun _ _ => modifyBuffers fun _ _ h => h
  clearAvailable := modifyBuffers fun _ _ h =>
    ⟨h.fields, fun _ hitem => (List.not_mem_nil hitem).elim, h.queue, h.latest⟩
  unhold := unhold
  unholdAll := unholdAll

theorem submitEndOfInputStream_l : Leads KeepsTimes submitEndOfInputStream_l :=
  leads_submitEndOfInputStream_l (modifyControl fun _ => rfl) (fun _ _ => note _)
    (fun _ => moveToSubmitted _ none) (modifyControl fun _ => rfl) assignNone

theorem updateDataspace (item : VideoBuffer) : Leads KeepsTimes (updateDataspace item) :=
  leads_updateDataspace (fun _ => modifyControl fun _ => rfl) (fun _ _ _ => note _) item

theorem componentSubmitBuffer (id : CodecBufferId) (item : VideoBuffer) (origin : Origin)
    (codecTimeUs : Int) :
    Leads KeepsTimes (componentSubmitBuffer id item origin codecTimeUs) :=
  leads_componentSubmitBuffer (modifyControl fun _ => rfl) (fun _ _ _ _ _ _ => note _)
    id item origin codecTimeUs

theorem performActions (itemTimeUs : Int) : Leads KeepsTimes (performActions itemTimeUs) :=
  leads_performActions (fun _ => modifyControl fun _ => rfl)
    (fun _ => modifyControl fun _ => rfl) itemTimeUs

theorem queueFrameRepeat_l : Leads KeepsTimes queueFrameRepeat_l := by
  refine .bind (modifyControl fun _ => rfl) fun _ => ?_
  apply leads_get
  intro s
  apply leads_ite
  · intro _
    exact .bind (modifyControl fun _ => rfl) fun _ => note _
  · intro _
    exact leads_pure

end KeepsTimes

/-!
# Submission
-/

theorem CodecClock.calculateCodecTimestamp_l_offset {c : CodecClock}
    {dropper : Option FrameDropper} {bufferTimeNs : Int} {r : Int × CodecClock}
    (h : c.calculateCodecTimestamp_l dropper bufferTimeNs = some r) :
    r.2.mInputBufferTimeOffsetUs = c.mInputBufferTimeOffsetUs := by
  rw [CodecClock.calculateCodecTimestamp_l_settings h]

namespace KeepsTimes

theorem submitBuffer_l (item : VideoBuffer) (origin : Origin) :
    Leads KeepsTimes (submitBuffer_l item origin) := by
  intro s
  unfold Bqhelper.submitBuffer_l
  rw [sat_bind, sat_get]
  cases s.mFreeCodecBuffers with
  | nil => exact fun hs => hs
  | cons codecBufferId rest =>
      cases hclock : s.clock.calculateCodecTimestamp_l s.mFrameDropper
          item.mTimestampNs with
      | none => exact fun hs => hs
      | some r =>
          rcases r with ⟨codecTimeUs, clock⟩
          have hoffset := CodecClock.calculateCodecTimestamp_l_offset hclock
          have htimes : Control.timeFields { s.toControl with clock := clock } =
              s.timeFields :=
            congrArg (fun offset : Int =>
              { s.timeFields with mInputBufferTimeOffsetUs := offset }) hoffset
          have hset : KeepsTimes s { s with clock := clock } := by
            intro hs
            show TimesBounded s.toFrames _
            rw [htimes]
            exact hs
          have hrest : Leads KeepsTimes (do
              Bqhelper.updateDataspace item
              let err ← Bqhelper.componentSubmitBuffer codecBufferId item origin codecTimeUs
              if err ≠ .ok then
                return err
              else
                Bqhelper.moveToSubmitted codecBufferId (some item.mBuffer)
                return .ok) := by
            apply (updateDataspace item).bind
            intro _
            apply (componentSubmitBuffer codecBufferId item origin _).bind
            intro err
            apply leads_ite
            · intro _
              exact leads_pure
            · intro _
              exact (moveToSubmitted codecBufferId _).bind fun _ => leads_pure
          rw [sat_bind, sat_modifyControl]
          exact Sat.after hset (hrest _)

/-!
# Repeating the latest frame
-/

theorem countRepeat : Leads KeepsTimes countRepeat := by
  intro s
  unfold Bqhelper.countRepeat
  rw [sat_bind, sat_modifyControl, sat_bind, sat_get, sat_ite]
  constructor
  · intro hagain
    rw [sat_bind, sat_modifyBuffers]
    apply Sat.after _ (queueFrameRepeat_l _)
    intro hs
    have hagain' : 0 < s.mOutstandingFrameRepeatCount - 1 := hagain
    have hpositive : 0 < s.mFrameRepeatIntervalUs := by
      apply hs.fields.repeats
      show 1 < s.mOutstandingFrameRepeatCount
      lia
    refine ⟨?_, hs.available, hs.queue, fun retimed hretimed => ?_⟩
    · exact ⟨hs.fields.interval, fun _ => hpositive, hs.fields.offset,
        hs.fields.stopTime, hs.fields.lastFrame, hs.fields.dropper⟩
    · rcases Option.map_eq_some_iff.mp hretimed with ⟨latest, hlatest, heq⟩
      rw [← heq]
      exact (hs.latest latest hlatest).next hagain' hpositive hs.fields.interval
  · intro hlast hs
    have hlast' : ¬0 < s.mOutstandingFrameRepeatCount - 1 := hlast
    refine ⟨?_, hs.available, hs.queue, fun latest hlatest => ?_⟩
    · refine ⟨hs.fields.interval, fun hmore => ?_, hs.fields.offset,
        hs.fields.stopTime, hs.fields.lastFrame, hs.fields.dropper⟩
      have hmore' : 1 < s.mOutstandingFrameRepeatCount - 1 := hmore
      lia
    · apply (hs.latest latest hlatest).fewer
      show s.mOutstandingFrameRepeatCount - 1 <= s.mOutstandingFrameRepeatCount
      lia

theorem setLatestBuffer_l {item : VideoBuffer} {s : GraphicBufferSource}
    (htime : FrameTime item.mTimestampNs) (hpositive : 0 < s.mFrameRepeatIntervalUs) :
    Sat (setLatestBuffer_l item) (fun _ t => KeepsTimes s t) (fun _ t => KeepsTimes s t)
      s := by
  unfold Bqhelper.setLatestBuffer_l Bqhelper.assignLatest
  rw [sat_bind, sat_bind, sat_get, sat_bind, sat_modifyBuffers, sat_unholdAll, sat_bind,
    sat_modifyControl, sat_bind, sat_get, sat_bind, sat_modifyBuffers]
  apply Sat.after _ (queueFrameRepeat_l _)
  intro hs
  have hframes := Buffers.unholdAll_toFrames (s.toBuffers.setLatest (some item))
    s.toBuffers.latest
  have hdelay : s.mFrameRepeatIntervalUs <= maxRepeatDelayUs := hs.fields.interval
  constructor
  · exact ⟨hdelay, fun _ => hpositive, hs.fields.offset, hs.fields.stopTime,
      hs.fields.lastFrame, hs.fields.dropper⟩
  · intro available hmem
    exact hs.available available (congrArg Frames.mAvailableBuffers hframes ▸ hmem)
  · intro bi hmem
    exact hs.queue bi (congrArg Frames.queue hframes ▸ hmem)
  · intro latest hlatest
    rcases Option.map_eq_some_iff.mp hlatest with ⟨first, hfirst, heq⟩
    have hsame : first = item := by
      rw [hframes] at hfirst
      exact (Option.some.inj hfirst).symm
    rw [← heq, hsame]
    exact repeatsFit_first htime hpositive hdelay

theorem repeatLatestBuffer_l : Leads KeepsTimes repeatLatestBuffer_l :=
  leads_repeatLatestBuffer_l (fun latest => submitBuffer_l latest .repeated) countRepeat

end KeepsTimes

/-!
# New frames
-/

section Frames

variable {s : GraphicBufferSource} {item : VideoBuffer}

theorem acquireBuffer_l_frameTime (hs : s.timesBounded) (site : AcquireSite) :
    Sat (acquireBuffer_l site)
      (fun r _ => forall item, r = .ok item -> FrameTime item.mTimestampNs)
      (fun _ _ => True) s := by
  apply (acquireBuffer_l_takes site).mono
  · intro r t ht item hitem
    rw [hitem] at ht
    rcases ht.2 with ⟨bi, hbi, hadopts⟩
    rw [hadopts.time]
    exact hs.queue bi (List.mem_of_mem_head? hbi)
  · intro _ _ _
    trivial

theorem takeFrame_frameTime (hs : s.timesBounded) :
    Sat takeFrame (fun r _ => forall item, r = some item -> FrameTime item.mTimestampNs)
      (fun _ _ => True) s := by
  unfold takeFrame
  rw [sat_bind, sat_get]
  cases havailable : s.mAvailableBuffers with
  | nil =>
      apply (acquireBuffer_l_frameTime hs .oneFrame).bind
      intro r t ht
      cases r with
      | error err =>
          intro item hitem
          cases hitem
      | ok taken =>
          intro item hitem
          cases hitem
          exact ht taken rfl
  | cons first rest =>
      intro item hitem
      cases hitem
      apply hs.available
      rw [havailable]
      exact List.mem_cons_self

theorem offsetByStartTime_frameTime {c : Control} (htime : FrameTime item.mTimestampNs)
    (hstarted : c.mSkipFramesBeforeNs < 0 ∨ c.mSkipFramesBeforeNs <= item.mTimestampNs) :
    FrameTime (c.offsetByStartTime item).mTimestampNs := by
  unfold Control.offsetByStartTime
  by_cases hskip : 0 < c.mSkipFramesBeforeNs
  · rw [if_pos hskip]
    have hupper := htime.2
    constructor
    · show 0 <= item.mTimestampNs - c.mSkipFramesBeforeNs
      lia
    · show item.mTimestampNs - c.mSkipFramesBeforeNs <= maxFrameTimeNs
      lia
  · rw [if_neg hskip]
    exact htime

theorem skipDropOrSubmit_started (item : VideoBuffer) :
    Sat (skipDropOrSubmit item)
      (fun err t => err = .ok ->
        t.mSkipFramesBeforeNs < 0 ∨ t.mSkipFramesBeforeNs <= item.mTimestampNs)
      (fun _ _ => True) s := by
  by_cases hstarted : s.mSkipFramesBeforeNs < 0 ∨ s.mSkipFramesBeforeNs <= item.mTimestampNs
  · apply (skipDropOrSubmit_stays item s).mono
    · intro err t ht _
      rcases ht with ⟨offers, _, hstays⟩
      have hskip : t.toControl.lasting.mSkipFramesBeforeNs =
          s.toControl.lasting.mSkipFramesBeforeNs :=
        congrArg Control.mSkipFramesBeforeNs hstays.control
      change t.mSkipFramesBeforeNs = s.mSkipFramesBeforeNs at hskip
      rw [hskip]
      exact hstarted
    · intro _ _ _
      trivial
  · unfold skipDropOrSubmit
    rw [sat_bind, sat_get, if_neg hstarted]
    intro herr
    cases herr

end Frames

namespace KeepsTimes

variable {item : VideoBuffer}

theorem frameDropperDrops {timeUs : Int} (htime : 0 <= timeUs ∧ timeUs <= maxFrameTimeUs) :
    Leads KeepsTimes (frameDropperDrops timeUs) := by
  intro s
  unfold Bqhelper.frameDropperDrops
  rw [sat_bind, sat_get]
  cases hdropper : s.mFrameDropper with
  | none => exact fun hs => hs
  | some dropper =>
      intro hs
      refine ⟨?_, hs.available, hs.queue, hs.latest⟩
      refine ⟨hs.fields.interval, hs.fields.repeats, hs.fields.offset,
        hs.fields.stopTime, hs.fields.lastFrame, fun d hd => ?_⟩
      cases hd
      exact (hs.fields.dropper dropper hdropper).shouldDrop htime

theorem skipDropOrSubmit (htime : FrameTime item.mTimestampNs) :
    Leads KeepsTimes (skipDropOrSubmit item) := by
  apply leads_get
  intro s
  apply leads_ite
  · intro hstarted
    apply (frameDropperDrops (offsetByStartTime_frameTime htime hstarted).us).bind
    intro drops
    apply leads_ite
    · intro _
      exact (note _).bind fun _ => leads_pure
    · intro _
      exact submitBuffer_l _ .fresh
  · intro _
    exact leads_pure

theorem recordFrame {s : GraphicBufferSource} (htime : FrameTime item.mTimestampNs)
    (hstarted : s.mSkipFramesBeforeNs < 0 ∨ s.mSkipFramesBeforeNs <= item.mTimestampNs) :
    Sat (recordFrame item (Int.tdiv item.mTimestampNs 1000)) (fun _ t => KeepsTimes s t)
      (fun _ t => KeepsTimes s t) s := by
  have hlast : Leads KeepsTimes (Bqhelper.modifyControl fun c =>
      { c with mLastFrameTimestampUs := Int.tdiv item.mTimestampNs 1000 }) := by
    apply leads_modify
    intro t ht
    refine ⟨?_, ht.available, ht.queue, ht.latest⟩
    have hus := htime.us
    exact ⟨ht.fields.interval, ht.fields.repeats, ht.fields.offset, ht.fields.stopTime,
      ⟨le_trans (by decide) hus.1, hus.2⟩, ht.fields.dropper⟩
  unfold Bqhelper.recordFrame
  rw [sat_bind, sat_get, sat_ite]
  constructor
  · intro hpositive
    apply (setLatestBuffer_l (offsetByStartTime_frameTime htime hstarted)
      hpositive).leads_bind
    intro _
    exact hlast
  · intro _
    exact hlast s

theorem processFrame (htime : FrameTime item.mTimestampNs) :
    Leads KeepsTimes (processFrame item) := by
  apply (performActions _).bind
  intro seeStopAction
  apply leads_ite
  · intro _
    apply intake.releaseAllAvailableBuffers_l.bind
    intro _
    refine .bind (modifyControl fun _ => rfl) fun _ => ?_
    exact submitEndOfInputStream_l
  · intro _
    apply leads_get
    intro s
    apply leads_ite (fun _ => leads_pure)
    intro _ t
    rw [sat_bind]
    apply ((skipDropOrSubmit htime t).and (skipDropOrSubmit_started item)).mono
    · intro err u hu
      rw [sat_ite]
      refine ⟨fun _ => hu.1, fun hok => ?_⟩
      rw [not_not] at hok
      exact Sat.after hu.1 (recordFrame htime (hu.2 hok))
    · intro _ u hu
      exact hu.1

theorem takeFrame : Leads KeepsTimes takeFrame := by
  apply leads_get
  intro s
  cases s.mAvailableBuffers with
  | nil =>
      apply (intake.acquireBuffer_l .oneFrame).bind
      intro r
      cases r with
      | error err => exact leads_pure
      | ok item => exact leads_pure
  | cons item rest =>
      apply Leads.bind
      · apply modifyBuffers
        intro b times h
        cases hlist : b.mAvailableBuffers with
        | nil =>
            unfold Buffers.takeAvailable
            rw [hlist]
            exact h
        | cons first others =>
            rw [Buffers.takeAvailable_eq hlist]
            refine ⟨h.fields, fun item hitem => ?_, h.queue, h.latest⟩
            apply h.available
            rw [hlist]
            exact List.mem_cons_of_mem first hitem
      · intro _
        exact leads_pure

theorem fillCodecBuffer_l : Leads KeepsTimes fillCodecBuffer_l := by
  apply leads_get
  intro s
  apply (leads_check _ _).bind
  intro _
  apply leads_ite (fun _ => leads_pure)
  intro _ t
  apply of_bounded
  intro ht
  rw [sat_bind]
  apply ((takeFrame t).and (takeFrame_frameTime ht)).mono
  · intro r u hu
    cases r with
    | none => exact hu.1
    | some item =>
        apply Sat.after hu.1
        apply (processFrame (hu.2 item rfl) u).leads_bind
        intro _
        exact (unhold item.mBuffer).bind fun _ => leads_pure
  · intro _ u hu
    exact hu.1

theorem pushAvailable (htime : FrameTime item.mTimestampNs) :
    Leads KeepsTimes (Bqhelper.modifyBuffers fun b => b.pushAvailable item) := by
  apply modifyBuffers
  intro b times h
  refine ⟨h.fields, fun available havailable => ?_, h.queue, h.latest⟩
  rcases List.mem_append.mp havailable with hold | hnew
  · exact h.available available hold
  · rw [List.mem_singleton.mp hnew]
    exact htime

theorem onBufferAcquired_l (htime : FrameTime item.mTimestampNs) :
    Leads KeepsTimes (onBufferAcquired_l item) :=
  leads_onBufferAcquired_l (modifyControl fun _ => rfl) (pushAvailable htime)
    fillCodecBuffer_l

/-!
# Requests
-/

theorem start : Leads KeepsTimes start :=
  leads_start (modifyControl fun _ => rfl) fillCodecBuffer_l submitEndOfInputStream_l
    (leads_startLooper (modifyControl fun _ => rfl) queueFrameRepeat_l)

theorem release : Leads KeepsTimes release := by
  refine .bind (modifyControl fun _ => rfl) fun _ => ?_
  apply leads_get
  intro s
  apply Leads.bind
  · exact modifyBuffers fun _ _ h => ⟨h.fields, h.available, h.queue, h.latest⟩
  · intro _
    apply (unholdAll _).bind
    intro _
    apply assignNone.bind
    intro _
    exact .bind (modifyControl fun _ => rfl) fun _ => leads_pure

theorem onInputBufferAdded (bufferId : CodecBufferId) :
    Leads KeepsTimes (onInputBufferAdded bufferId) := by
  apply leads_get
  intro s
  apply leads_ite (fun _ => leads_pure)
  intro _
  apply Leads.bind
  · exact modifyBuffers fun _ _ h => ⟨h.fields, h.available, h.queue, h.latest⟩
  · intro _
    exact leads_pure

theorem reuseCodecBuffer : Leads KeepsTimes reuseCodecBuffer :=
  leads_reuseCodecBuffer fillCodecBuffer_l submitEndOfInputStream_l repeatLatestBuffer_l
    (modifyControl fun _ => rfl)

theorem autoclose (b : Buffers) (fd : Int) {times : TimeFields}
    (h : TimesBounded b.toFrames times) : TimesBounded (b.autoclose fd).toFrames times := by
  rw [Buffers.autoclose_toFrames]
  exact h

theorem takeBack (e : Event) (buffer : AcquiredBuffer) (bufferId : CodecBufferId)
    (fenceFd : Int) : Leads KeepsTimes (Bqhelper.modifyBuffers fun b =>
      ((b.note e).takeBack bufferId).addReleaseFenceFd buffer fenceFd) :=
  modifyBuffers fun _ _ h => ⟨h.fields, h.available, h.queue, h.latest⟩

theorem onInputBufferEmptied (bufferId : CodecBufferId) (fenceFd : Int) :
    Leads KeepsTimes (onInputBufferEmptied bufferId fenceFd) := by
  apply leads_get
  intro s
  cases s.mSubmittedCodecBuffers.find? bufferId with
  | none =>
      apply Leads.bind
      · exact modifyBuffers fun b _ h => autoclose _ fenceFd h
      · intro _
        exact leads_pure
  | some entry =>
      cases entry with
      | none =>
          apply Leads.bind
          · exact modifyBuffers fun b _ h =>
              autoclose _ fenceFd ⟨h.fields, h.available, h.queue, h.latest⟩
          · intro _
            exact leads_pure
      | some buffer =>
          apply leads_ite
          · intro _
            apply Leads.bind
            · exact modifyBuffers fun _ _ h => ⟨h.fields, h.available, h.queue, h.latest⟩
            · intro _
              apply (unhold buffer).bind
              intro _
              apply Leads.bind
              · exact modifyBuffers fun b _ h => autoclose b fenceFd h
              · intro _
                exact leads_pure
          · intro _
            apply (takeBack _ buffer bufferId fenceFd).bind
            intro _
            apply (unhold buffer).bind
            intro _
            exact reuseCodecBuffer.bind fun _ => leads_pure

theorem countAvailable : Leads KeepsTimes (Bqhelper.modifyBuffers Buffers.countAvailable) :=
  modifyBuffers fun _ _ h => ⟨h.fields, h.available, h.queue, h.latest⟩

theorem onFrameAvailable : Leads KeepsTimes onFrameAvailable := by
  apply countAvailable.bind
  intro _
  apply leads_get
  intro s
  apply leads_ite
  · intro _
    exact modifyControl fun _ => rfl
  · intro _ t
    apply of_bounded
    intro ht
    rw [sat_bind]
    apply ((intake.acquireBuffer_l .oneFrame t).and (acquireBuffer_l_frameTime ht _)).mono
    · intro r u hu
      cases r with
      | error err => exact hu.1
      | ok buffer =>
          apply Sat.after hu.1
          apply (onBufferAcquired_l (hu.2 buffer rfl) u).leads_bind
          intro _
          exact unhold _
    · intro _ u hu
      exact hu.1

theorem reset (dataSpace : Int) :
    Leads KeepsTimes (Bqhelper.modifyControl fun c => c.reset dataSpace) := by
  apply leads_modify
  intro s hs
  refine ⟨?_, hs.available, hs.queue, fun latest hlatest => ?_⟩
  · exact TimeFields.bounded_unset hs.fields.lastFrame
  · have hfit := hs.latest latest hlatest
    refine ⟨hfit.positive, ?_⟩
    have hle := hfit.le
    show latest.mTimestampNs + max (0 - 1) 0 * (maxRepeatDelayUs * 1000) <= int64Max
    rw [max_eq_right (by decide), zero_mul, add_zero]
    exact hle

theorem configure (args : ConfigureArgs) : Leads KeepsTimes (configure args) := by
  apply leads_get
  intro s
  cases args.component with
  | none => exact leads_pure
  | some component =>
      apply (leads_setMaxAcquiredBufferCount (note _) intake.onBuffersReleased).bind
      intro _
      apply leads_ite (fun _ => leads_pure)
      intro _
      refine .bind (modifyControl fun _ => rfl) fun _ => ?_
      apply (note _).bind
      intro _
      apply leads_ite (fun _ => leads_pure)
      intro _
      apply (note _).bind
      intro _
      apply (note _).bind
      intro _
      apply leads_ite (fun _ => leads_pure)
      intro _
      apply (note _).bind
      intro _
      apply (reset _).bind
      intro _
      apply (note _).bind
      intro _
      exact assignNone.bind fun _ => leads_pure

theorem setSuspend (suspend : Bool) (suspendStartTimeUs : Int) :
    Leads KeepsTimes (setSuspend suspend suspendStartTimeUs) := by
  apply leads_setSuspend
  · intro timeUs action
    exact modifyControl fun _ => rfl
  · exact modifyControl fun _ => rfl
  · exact intake.releaseAllAvailableBuffers_l
  · exact leads_resumeNow (modifyControl fun _ => rfl) repeatLatestBuffer_l
      (modifyControl fun _ => rfl)

theorem setRepeatPreviousFrameDelayUs {repeatAfterUs : Int}
    (hkeeps : (Op.setRepeatPreviousFrameDelayUs repeatAfterUs).keepsTimes) :
    Leads KeepsTimes (setRepeatPreviousFrameDelayUs repeatAfterUs) := by
  apply leads_get
  intro s
  apply leads_ite (fun _ => leads_pure)
  intro haccepted
  have hpositive : 0 < repeatAfterUs := by
    simp only [Bool.or_eq_true, decide_eq_true_eq, not_or, not_le] at haccepted
    exact haccepted.2
  apply Leads.bind
  · apply leads_modify
    intro t ht
    refine ⟨?_, ht.available, ht.queue, ht.latest⟩
    exact ⟨hkeeps, fun _ => hpositive, ht.fields.offset, ht.fields.stopTime,
      ht.fields.lastFrame, ht.fields.dropper⟩
  · intro _
    exact leads_pure

theorem setTimeOffsetUs {timeOffsetUs : Int} (htype : FitsInt64 timeOffsetUs) :
    Leads KeepsTimes (setTimeOffsetUs timeOffsetUs) := by
  apply leads_ite (fun _ => leads_pure)
  intro hnegative
  apply Leads.bind
  · apply leads_modify
    intro t ht
    refine ⟨?_, ht.available, ht.queue, ht.latest⟩
    exact ⟨ht.fields.interval, ht.fields.repeats, ⟨htype.1, (not_le.mp hnegative).le⟩,
      ht.fields.stopTime, ht.fields.lastFrame, ht.fields.dropper⟩
  · intro _
    exact leads_pure

theorem setMaxFps {maxFps : Binary32} (hkeeps : (Op.setMaxFps maxFps).keepsTimes) :
    Leads KeepsTimes (setMaxFps maxFps) := by
  have hdropper : forall dropper : Option FrameDropper,
      (forall d, dropper = some d -> d.Bounded) ->
        Leads KeepsTimes (Bqhelper.modifyControl fun c =>
          { c with mFrameDropper := dropper }) := by
    intro dropper hbounded
    apply leads_modify
    intro t ht
    refine ⟨?_, ht.available, ht.queue, ht.latest⟩
    exact ⟨ht.fields.interval, ht.fields.repeats, ht.fields.offset,
      ht.fields.stopTime, ht.fields.lastFrame, hbounded⟩
  apply leads_get
  intro s
  apply leads_ite (fun _ => leads_pure)
  intro _
  apply leads_ite
  · intro _
    apply (hdropper none _).bind
    · intro _
      exact leads_pure
    · intro d hd
      cases hd
  · intro _
    apply (hdropper (some _) _).bind
    · intro _
      exact leads_pure
    · intro d hd
      cases hd
      exact FrameDropper.bounded_setMaxFrameRate hkeeps

theorem setStopTimeUs {stopTimeUs : Int} (htype : FitsInt64 stopTimeUs)
    (hkeeps : (Op.setStopTimeUs stopTimeUs).keepsTimes) :
    Leads KeepsTimes (setStopTimeUs stopTimeUs) := by
  apply leads_get
  intro s
  apply leads_ite (fun _ => leads_pure)
  intro _
  apply leads_ite (fun _ => leads_pure)
  intro _
  apply Leads.bind
  · apply leads_modify
    intro t ht
    refine ⟨?_, ht.available, ht.queue, ht.latest⟩
    exact ⟨ht.fields.interval, ht.fields.repeats, ht.fields.offset,
      ⟨hkeeps, Int.le_sub_one_of_lt htype.2⟩, ht.fields.lastFrame, ht.fields.dropper⟩
  · intro _
    exact leads_pure

theorem signalEndOfInputStream : Leads KeepsTimes signalEndOfInputStream :=
  leads_signalEndOfInputStream (modifyControl fun _ => rfl) submitEndOfInputStream_l

theorem onMessageReceived (generation : Int) :
    Leads KeepsTimes (onMessageReceived generation) :=
  leads_onMessageReceived repeatLatestBuffer_l (modifyControl fun _ => rfl) generation

theorem perform {op : Op} (htype : op.int64Arguments) (hkeeps : op.keepsTimes) :
    Leads KeepsTimes (perform op) := by
  cases op with
  | start => exact start.bind fun _ => leads_pure
  | stop =>
      exact .bind (.bind (modifyControl fun _ => rfl) fun _ => leads_pure)
        fun _ => leads_pure
  | release => exact release.bind fun _ => leads_pure
  | onInputBufferAdded bufferId =>
      exact (onInputBufferAdded bufferId).bind fun _ => leads_pure
  | onInputBufferEmptied bufferId fenceFd =>
      exact (onInputBufferEmptied bufferId fenceFd).bind fun _ => leads_pure
  | onFrameAvailable => exact onFrameAvailable.bind fun _ => leads_pure
  | onBuffersReleased =>
      exact intake.onBuffersReleased.bind fun _ => leads_pure
  | configure args => exact (configure args).bind fun _ => leads_pure
  | setSuspend suspend time => exact (setSuspend suspend time).bind fun _ => leads_pure
  | setRepeatPreviousFrameDelayUs repeatAfterUs =>
      exact (setRepeatPreviousFrameDelayUs hkeeps).bind fun _ => leads_pure
  | setTimeOffsetUs timeOffsetUs => exact (setTimeOffsetUs htype).bind fun _ => leads_pure
  | setMaxFps maxFps => exact (setMaxFps hkeeps).bind fun _ => leads_pure
  | setStartTimeUs skipFramesBeforeUs =>
      exact .bind (.bind (modifyControl fun _ => rfl) fun _ => leads_pure)
        fun _ => leads_pure
  | setStopTimeUs stopTimeUs =>
      exact (setStopTimeUs htype hkeeps).bind fun _ => leads_pure
  | getStopTimeOffsetUs =>
      apply Leads.bind
      · apply leads_get
        intro s
        exact leads_ite (fun _ => leads_pure) (fun _ => leads_pure)
      · intro _
        exact leads_pure
  | setTimeLapseConfig fps captureFps =>
      apply Leads.bind
      · apply leads_get
        intro s
        apply leads_ite (fun _ => leads_pure)
        intro _
        exact .bind (modifyControl fun _ => rfl) fun _ => leads_pure
      · intro _
        exact leads_pure
  | setColorAspects aspectsPacked =>
      exact .bind (.bind (modifyControl fun _ => rfl) fun _ => leads_pure)
        fun _ => leads_pure
  | signalEndOfInputStream => exact signalEndOfInputStream.bind fun _ => leads_pure
  | onMessageReceived generation =>
      exact (onMessageReceived generation).bind fun _ => leads_pure

end KeepsTimes

/-- The frame is in time, and the source can compute with the arguments. -/
def Request.keepsTimes : Request -> Prop
  | .queueFrame item => FrameTime item.mTimestamp
  | .call op _ => op.int64Arguments ∧ op.keepsTimes

theorem exec_keepsTimes {r : Request} (h : r.keepsTimes) : Leads KeepsTimes (exec r) := by
  cases r with
  | queueFrame item =>
      apply Leads.bind
      · apply KeepsTimes.modifyBuffers
        intro b times hb
        refine ⟨hb.fields, hb.available, fun bi hbi => ?_, hb.latest⟩
        rcases List.mem_append.mp hbi with hold | hnew
        · exact hb.queue bi hold
        · rw [List.mem_singleton.mp hnew]
          exact h
      · intro _
        exact leads_pure
  | call op answers =>
      refine .bind (KeepsTimes.modifyControl fun _ => rfl) fun _ => ?_
      exact KeepsTimes.perform h.1 h.2

end Bqhelper
end Sm7225
