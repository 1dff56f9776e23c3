import Sm7225.Bqhelper.View

/-!
# Twins stay twins

Every function of the class runs alike from twins: it takes the same branches,
returns the same values up to identities, and hands over the same codec buffers.
-/

namespace Sm7225
namespace Bqhelper

open Lib

section Functions

variable {messages : Bool} {old old' : List Event}

/-!
# What twins share
-/

theorem Control.eq_of_session {α : Type} {c c' : Control}
    (h : c.session messages = c'.session messages) (f : Control -> α) :
    f (c.session messages) = f (c'.session messages) :=
  congrArg f h

namespace Twins

variable {s s' : GraphicBufferSource}

theorem free (h : Twins messages old old' s s') :
    s.mFreeCodecBuffers = s'.mFreeCodecBuffers :=
  congrArg View.free h.view

theorem queue (h : Twins messages old old' s s') : s.queue = s'.queue :=
  congrArg View.queue h.view

theorem unacquired (h : Twins messages old old' s s') :
    s.mNumAvailableUnacquiredBuffers = s'.mNumAvailableUnacquiredBuffers :=
  congrArg View.unacquired h.view

theorem available (h : Twins messages old old' s s') :
    s.mAvailableBuffers.map VideoBuffer.anonymous =
      s'.mAvailableBuffers.map VideoBuffer.anonymous :=
  congrArg View.available h.view

theorem length (h : Twins messages old old' s s') :
    s.mAvailableBuffers.length = s'.mAvailableBuffers.length := by
  have hlength := congrArg List.length h.available
  rw [List.length_map, List.length_map] at hlength
  exact hlength

theorem latest (h : Twins messages old old' s s') :
    s.mLatestBuffer.map VideoBuffer.anonymous =
      s'.mLatestBuffer.map VideoBuffer.anonymous :=
  congrArg View.latest h.view

theorem slot (h : Twins messages old old' s s') (i : SlotId) :
    (s.mBufferSlots.find? i).map CachedBuffer.anonymous =
      (s'.mBufferSlots.find? i).map CachedBuffer.anonymous :=
  congrFun (congrArg View.slots h.view) i

theorem submitted (h : Twins messages old old' s s') (id : CodecBufferId) :
    (s.mSubmittedCodecBuffers.find? id).map Option.isSome =
      (s'.mSubmittedCodecBuffers.find? id).map Option.isSome :=
  congrFun (congrArg View.submitted h.view) id

theorem haveAvailable (h : Twins messages old old' s s') :
    s.haveAvailableBuffers_l = s'.haveAvailableBuffers_l := by
  have hempty : s.mAvailableBuffers.isEmpty = s'.mAvailableBuffers.isEmpty := by
    have hempty := congrArg List.isEmpty h.available
    rw [List.isEmpty_map, List.isEmpty_map] at hempty
    exact hempty
  unfold Frames.haveAvailableBuffers_l
  rw [hempty, h.unacquired]

theorem field {α : Type} (h : Twins messages old old' s s') (f : Control -> α) :
    f (s.toControl.session messages) = f (s'.toControl.session messages) :=
  Control.eq_of_session h.control f

theorem answers (h : Twins messages old old' s s') : s.answers = s'.answers :=
  h.field Control.answers

theorem component (h : Twins messages old old' s s') :
    s.mComponent = s'.mComponent :=
  h.field Control.mComponent

theorem executing (h : Twins messages old old' s s') :
    s.mExecuting = s'.mExecuting :=
  h.field Control.mExecuting

theorem suspended (h : Twins messages old old' s s') :
    s.mSuspended = s'.mSuspended :=
  h.field Control.mSuspended

theorem eos (h : Twins messages old old' s s') :
    s.mEndOfStream = s'.mEndOfStream :=
  h.field Control.mEndOfStream

theorem sent (h : Twins messages old old' s s') :
    s.mEndOfStreamSent = s'.mEndOfStreamSent :=
  h.field Control.mEndOfStreamSent

theorem actions (h : Twins messages old old' s s') :
    s.mActionQueue = s'.mActionQueue :=
  h.field Control.mActionQueue

theorem stopTime (h : Twins messages old old' s s') :
    s.mStopTimeUs = s'.mStopTimeUs :=
  h.field Control.mStopTimeUs

theorem blocked (h : Twins messages old old' s s') :
    s.mFrameRepeatBlockedOnCodecBuffer = s'.mFrameRepeatBlockedOnCodecBuffer :=
  h.field Control.mFrameRepeatBlockedOnCodecBuffer

end Twins

/-!
# Primitive changes
-/

theorem alike_modifyBuffers {f f' : Buffers -> Buffers}
    (hview : forall b b', b.view = b'.view -> (f b).view = (f' b').view)
    (hlog : forall b, handovers (f b).log = handovers b.log)
    (hlog' : forall b, handovers (f' b).log = handovers b.log) :
    Alike (Twins messages old old') (fun _ _ => True) (modifyBuffers f) (modifyBuffers f') := by
  apply alike_modify
  intro s s' hs
  rcases hs.handed with ⟨new, hnew, hnew'⟩
  constructor
  · exact hview s.toBuffers s'.toBuffers hs.view
  · exact hs.control
  · exact hs.unblocked
  · exists new
    constructor
    · exact (hlog s.toBuffers).trans hnew
    · exact (hlog' s'.toBuffers).trans hnew'

theorem alike_modifyControl {f f' : Control -> Control}
    (h : forall c c', c.session messages = c'.session messages ->
      (f c).session messages = (f' c').session messages)
    (hblocked : forall c : Control,
      (messages = false -> c.mFrameRepeatBlockedOnCodecBuffer = false) ->
      messages = false -> (f c).mFrameRepeatBlockedOnCodecBuffer = false) :
    Alike (Twins messages old old') (fun _ _ => True) (modifyControl f)
      (modifyControl f') := by
  apply alike_modify
  intro s s' hs
  constructor
  · exact hs.view
  · exact h s.toControl s'.toControl hs.control
  · exact hblocked s.toControl hs.unblocked
  · exact hs.handed

theorem alike_set {f : Control -> Control}
    (h : forall c, (f c).session messages = f (c.session messages))
    (hblocked : forall c, (f c).mFrameRepeatBlockedOnCodecBuffer =
      c.mFrameRepeatBlockedOnCodecBuffer) :
    Alike (Twins messages old old') (fun _ _ => True) (modifyControl f)
      (modifyControl f) := by
  apply alike_modifyControl
  · intro c c' hc
    rw [h c, h c', hc]
  · intro c hc
    rw [hblocked c]
    exact hc

theorem alike_set_seq {α α' : Type} {Q : α -> α' -> Prop} {f : Control -> Control}
    {k : Gbs α} {k' : Gbs α'}
    (h : forall c, (f c).session messages = f (c.session messages))
    (hblocked : forall c, (f c).mFrameRepeatBlockedOnCodecBuffer =
      c.mFrameRepeatBlockedOnCodecBuffer)
    (hk : Alike (Twins messages old old') Q k k') :
    Alike (Twins messages old old') Q (modifyControl f >>= fun _ => k)
      (modifyControl f >>= fun _ => k') :=
  (alike_set h hblocked).seq hk

theorem alike_set_pure {α : Type} {f : Control -> Control} (r : α)
    (h : forall c, (f c).session messages = f (c.session messages))
    (hblocked : forall c, (f c).mFrameRepeatBlockedOnCodecBuffer =
      c.mFrameRepeatBlockedOnCodecBuffer) :
    Alike (Twins messages old old') (fun r r' => r = r')
      (modifyControl f >>= fun _ => pure r) (modifyControl f >>= fun _ => pure r) :=
  alike_set_seq h hblocked (alike_pure rfl)

theorem alike_note {e e' : Event} (h : e.handover? = e'.handover?) :
    Alike (Twins messages old old') (fun _ _ => True) (note e) (note e') := by
  apply alike_modify
  intro s s' hs
  rcases hs.handed with ⟨new, hnew, hnew'⟩
  constructor
  · exact hs.view
  · exact hs.control
  · exact hs.unblocked
  · exists new ++ e.handover?.toList
    constructor
    · show handovers (s.log ++ [e]) = _
      unfold handovers at *
      rw [List.filterMap_append, hnew, List.append_assoc]
      congr 2
    · show handovers (s'.log ++ [e']) = _
      unfold handovers at *
      rw [List.filterMap_append, hnew', List.append_assoc, h]
      congr 2

theorem alike_check {c : Check} {holds holds' : Bool} (h : holds = holds') :
    Alike (Twins messages old old') (fun _ _ => True) (check c holds) (check c holds') := by
  rw [h]
  unfold check
  apply alike_ite Iff.rfl
  · exact alike_pure trivial
  · exact alike_throw

theorem handovers_note (b : Buffers) {e : Event} (h : e.handover? = none) :
    handovers (b.note e).log = handovers b.log :=
  filterMap_snoc_of_none (f := Event.handover?) h b.log

theorem handovers_unhold (b : Buffers) (a : AcquiredBuffer) :
    handovers (b.unhold a).log = handovers b.log :=
  Buffers.filterMap_log_unhold handover_endsLife b a

theorem alike_unhold (a a' : AcquiredBuffer) :
    Alike (Twins messages old old') (fun _ _ => True) (unhold a) (unhold a') := by
  apply alike_modifyBuffers
  · intro b b' hb
    rw [Buffers.view_unhold, Buffers.view_unhold, hb]
  · intro b
    exact handovers_unhold b a
  · intro b
    exact handovers_unhold b a'

theorem view_unholdAll (b : Buffers) (as : List AcquiredBuffer) :
    (b.unholdAll as).view = b.view := by
  induction as generalizing b with
  | nil => rfl
  | cons a as ih => exact (ih (b.unhold a)).trans (Buffers.view_unhold b a)

theorem handovers_unholdAll (b : Buffers) (as : List AcquiredBuffer) :
    handovers (b.unholdAll as).log = handovers b.log := by
  induction as generalizing b with
  | nil => rfl
  | cons a as ih => exact (ih (b.unhold a)).trans (handovers_unhold b a)

theorem alike_unholdAll (as as' : List AcquiredBuffer) :
    Alike (Twins messages old old') (fun _ _ => True) (unholdAll as) (unholdAll as') := by
  apply alike_modifyBuffers
  · intro b b' hb
    rw [view_unholdAll, view_unholdAll, hb]
  · intro b
    exact handovers_unholdAll b as
  · intro b
    exact handovers_unholdAll b as'

/-!
# Acquiring
-/

def SameFrame : Except Status VideoBuffer -> Except Status VideoBuffer -> Prop
  | .error err, .error err' => err = err'
  | .ok item, .ok item' => item.anonymous = item'.anonymous
  | _, _ => False

theorem alike_consumerAcquireBuffer (site : AcquireSite) :
    Alike (Twins messages old old') (fun r r' => r = r') (consumerAcquireBuffer site)
      (consumerAcquireBuffer site) := by
  unfold consumerAcquireBuffer
  apply alike_get
  intro s s' hs
  rw [hs.answers, hs.queue]
  refine alike_set_seq (fun c => ?_) (fun c => ?_) ?_
  · rfl
  · rfl
  apply alike_ite Iff.rfl
  · apply (alike_note rfl).seq
    exact alike_pure rfl
  · cases s'.queue with
    | nil =>
        apply (alike_note rfl).seq
        exact alike_pure rfl
    | cons bi rest => exact alike_pure rfl

theorem alike_cache (slot : SlotId) (gb : GraphicBuffer) :
    Alike (Twins messages old old') (fun _ _ => True)
      (modifyBuffers fun b => b.cache slot gb)
      (modifyBuffers fun b => b.cache slot gb) := by
  apply alike_modifyBuffers
  · intro b b' hb
    rw [Buffers.view_cache, Buffers.view_cache, hb]
  · intro b
    rfl
  · intro b
    rfl

theorem alike_discardBufferAtSlotIndex_l (c c' : CachedBuffer) :
    Alike (Twins messages old old') (fun _ _ => True) (discardBufferAtSlotIndex_l c)
      (discardBufferAtSlotIndex_l c') := by
  apply alike_modifyBuffers
  · intro b b' hb
    rw [Buffers.view_dropFromCache, Buffers.view_dropFromCache, hb]
  · intro b
    exact filterMap_snoc_of_none (f := Event.handover?) rfl _
  · intro b
    exact filterMap_snoc_of_none (f := Event.handover?) rfl _

theorem alike_cacheBuffer (bi : BufferItem) :
    Alike (Twins messages old old') (fun c c' => c.anonymous = c'.anonymous)
      (cacheBuffer bi) (cacheBuffer bi) := by
  unfold cacheBuffer
  apply alike_get
  intro s s' hs
  have hslot := hs.slot bi.mSlot
  cases hgb : bi.mGraphicBuffer with
  | none =>
      cases hfind : s.mBufferSlots.find? bi.mSlot with
      | none =>
          cases hfind' : s'.mBufferSlots.find? bi.mSlot with
          | none => exact alike_throw
          | some c' =>
              rw [hfind, hfind'] at hslot
              cases hslot
      | some c =>
          cases hfind' : s'.mBufferSlots.find? bi.mSlot with
          | none =>
              rw [hfind, hfind'] at hslot
              cases hslot
          | some c' =>
              rw [hfind, hfind'] at hslot
              exact alike_pure (Option.some.inj hslot)
  | some gb =>
      cases hfind : s.mBufferSlots.find? bi.mSlot with
      | none =>
          cases hfind' : s'.mBufferSlots.find? bi.mSlot with
          | none =>
              apply (alike_cache bi.mSlot gb).seq
              exact alike_pure rfl
          | some c' =>
              rw [hfind, hfind'] at hslot
              cases hslot
      | some c =>
          cases hfind' : s'.mBufferSlots.find? bi.mSlot with
          | none =>
              rw [hfind, hfind'] at hslot
              cases hslot
          | some c' =>
              apply (alike_discardBufferAtSlotIndex_l c c').seq
              apply (alike_cache bi.mSlot gb).seq
              exact alike_pure rfl

theorem alike_adoptItem (bi : BufferItem) :
    Alike (Twins messages old old') (fun item item' => item.anonymous = item'.anonymous)
      (adoptItem bi) (adoptItem bi) := by
  unfold adoptItem
  apply Alike.seq (Q := fun _ _ => True)
  · apply alike_modifyBuffers
    · intro b b' hb
      rw [Buffers.view_dequeue, Buffers.view_dequeue, hb]
    · intro b
      rfl
    · intro b
      rfl
  apply (alike_cacheBuffer bi).bind
  intro c c' hc
  apply alike_get
  intro s s' hs
  apply Alike.seq (Q := fun _ _ => True)
  · apply alike_modifyBuffers
    · intro b b' hb
      rw [Buffers.view_acquire, Buffers.view_acquire, hb]
    · intro b
      exact filterMap_snoc_of_none (f := Event.handover?) rfl _
    · intro b
      exact filterMap_snoc_of_none (f := Event.handover?) rfl _
  apply alike_pure
  unfold VideoBuffer.anonymous AcquiredBuffer.anonymous Buffers.newAcquired
  rw [hc]

theorem alike_acquireBuffer_l (site : AcquireSite) :
    Alike (Twins messages old old') SameFrame (acquireBuffer_l site)
      (acquireBuffer_l site) := by
  unfold acquireBuffer_l
  apply (alike_consumerAcquireBuffer site).bind
  intro r r' hr
  rw [hr]
  cases r' with
  | error err => exact alike_pure rfl
  | ok bi =>
      apply (alike_adoptItem bi).bind
      intro item item' hitem
      exact alike_pure hitem

theorem alike_discardBufferInSlot_l (slot : SlotId) :
    Alike (Twins messages old old') (fun _ _ => True) (discardBufferInSlot_l slot)
      (discardBufferInSlot_l slot) := by
  unfold discardBufferInSlot_l
  apply alike_get
  intro s s' hs
  have hslot := hs.slot slot
  cases hfind : s.mBufferSlots.find? slot with
  | none =>
      cases hfind' : s'.mBufferSlots.find? slot with
      | none => exact alike_pure trivial
      | some c' =>
          rw [hfind, hfind'] at hslot
          cases hslot
  | some c =>
      cases hfind' : s'.mBufferSlots.find? slot with
      | none =>
          rw [hfind, hfind'] at hslot
          cases hslot
      | some c' =>
          apply (alike_discardBufferAtSlotIndex_l c c').seq
          apply Alike.seq (Q := fun _ _ => True)
          · apply alike_modifyBuffers
            · intro b b' hb
              rw [Buffers.view_removeSlot, Buffers.view_removeSlot, hb]
            · intro b
              rfl
            · intro b
              rfl
          exact alike_pure trivial

/-!
# Submission
-/

theorem VideoBuffer.eq_of_anonymous {α : Type} {item item' : VideoBuffer}
    (h : item.anonymous = item'.anonymous) (f : VideoBuffer -> α)
    (hf : forall v : VideoBuffer, f v = f v.anonymous) : f item = f item' := by
  rw [hf item, hf item', h]

theorem CodecClock.session_of_rescales {c : CodecClock} (h : c.rescales = true) :
    c.session = c := by
  have hrate : 0 < c.mCaptureFps := by
    unfold CodecClock.rescales at h
    exact (of_decide_eq_true h).1
  unfold CodecClock.session
  rw [decide_eq_true hrate, Bool.and_true]

theorem CodecClock.session_session (c : CodecClock) :
    c.session.session = c.session := by
  unfold CodecClock.session
  rw [Bool.and_assoc, Bool.and_self]

theorem CodecClock.calculateCodecTimestamp_l_session (c : CodecClock)
    (dropper : Option FrameDropper) (bufferTimeNs : Int) :
    (c.session.calculateCodecTimestamp_l dropper bufferTimeNs).map
        (Prod.map id CodecClock.session) =
      (c.calculateCodecTimestamp_l dropper bufferTimeNs).map
        (Prod.map id CodecClock.session) := by
  cases hrescales : c.rescales with
  | true => rw [CodecClock.session_of_rescales hrescales]
  | false =>
      have hsession : c.session.rescales = false := hrescales
      unfold CodecClock.calculateCodecTimestamp_l
      rw [hrescales, hsession]
      by_cases hback : Int.tdiv bufferTimeNs 1000 + c.mInputBufferTimeOffsetUs <=
          c.mPrevFrameUs ∧ CodecClock.dropsBackward dropper = true
      · have hback' : Int.tdiv bufferTimeNs 1000 +
            c.session.mInputBufferTimeOffsetUs <= c.session.mPrevFrameUs ∧
            CodecClock.dropsBackward dropper = true := hback
        dsimp only
        rw [if_pos hback, if_pos hback']
        rfl
      · have hback' : ¬(Int.tdiv bufferTimeNs 1000 +
            c.session.mInputBufferTimeOffsetUs <= c.session.mPrevFrameUs ∧
            CodecClock.dropsBackward dropper = true) := hback
        dsimp only
        rw [if_neg hback, if_neg hback']
        exact congrArg (fun d : CodecClock => some
          (Int.tdiv bufferTimeNs 1000 + c.mInputBufferTimeOffsetUs,
            { d with
              mPrevFrameUs :=
                Int.tdiv bufferTimeNs 1000 + c.mInputBufferTimeOffsetUs }))
          c.session_session

theorem alike_onDataspaceChanged_l (dataspace pixelFormat : Int) :
    Alike (Twins messages old old') (fun _ _ => True)
      (onDataspaceChanged_l dataspace pixelFormat)
      (onDataspaceChanged_l dataspace pixelFormat) := by
  unfold onDataspaceChanged_l
  refine alike_set_seq (fun c => ?_) (fun c => ?_) ?_
  · rfl
  · rfl
  apply alike_get
  intro s s' hs
  rw [hs.answers, hs.component]
  apply alike_ite Iff.rfl
  · apply alike_ite Iff.rfl
    · exact alike_throw
    · exact alike_note rfl
  · exact alike_pure trivial

theorem alike_updateDataspace {item item' : VideoBuffer}
    (hitem : item.anonymous = item'.anonymous) :
    Alike (Twins messages old old') (fun _ _ => True) (updateDataspace item)
      (updateDataspace item') := by
  have hdataspace : item.mDataspace = item'.mDataspace :=
    VideoBuffer.eq_of_anonymous hitem VideoBuffer.mDataspace (fun _ => rfl)
  have hformat : item.mBuffer.mBuffer.mGraphicBuffer.format =
      item'.mBuffer.mBuffer.mGraphicBuffer.format :=
    VideoBuffer.eq_of_anonymous hitem
      (fun v => v.mBuffer.mBuffer.mGraphicBuffer.format) (fun _ => rfl)
  unfold updateDataspace
  apply alike_get
  intro s s' hs
  have hlast : s.mLastDataspace = s'.mLastDataspace :=
    hs.field Control.mLastDataspace
  rw [hdataspace, hformat, hlast]
  apply alike_ite Iff.rfl
  · exact alike_onDataspaceChanged_l _ _
  · exact alike_pure trivial

theorem alike_componentSubmitBuffer (id : CodecBufferId) {item item' : VideoBuffer}
    (hitem : item.anonymous = item'.anonymous) (origin : Origin)
    (codecTimeUs : Int) :
    Alike (Twins messages old old') (fun err err' => err = err')
      (componentSubmitBuffer id item origin codecTimeUs)
      (componentSubmitBuffer id item' origin codecTimeUs) := by
  have hfence : item.mBuffer.getAcquireFenceFd = item'.mBuffer.getAcquireFenceFd :=
    VideoBuffer.eq_of_anonymous hitem (fun v => v.mBuffer.getAcquireFenceFd)
      (fun _ => rfl)
  unfold componentSubmitBuffer
  apply alike_get
  intro s s' hs
  rw [hs.answers, hs.component]
  apply alike_ite Iff.rfl
  · exact alike_throw
  · refine alike_set_seq (fun c => ?_) (fun c => ?_) ?_
    · rfl
    · rfl
    apply Alike.seq (Q := fun _ _ => True)
    · apply alike_note
      dsimp only [Event.handover?]
      rw [hitem, hfence]
    exact alike_pure rfl

theorem alike_componentSubmitEos (id : CodecBufferId) :
    Alike (Twins messages old old') (fun err err' => err = err')
      (componentSubmitEos id) (componentSubmitEos id) := by
  unfold componentSubmitEos
  apply alike_get
  intro s s' hs
  rw [hs.answers, hs.component]
  apply alike_ite Iff.rfl
  · exact alike_throw
  · refine alike_set_seq (fun c => ?_) (fun c => ?_) ?_
    · rfl
    · rfl
    apply (alike_note rfl).seq
    exact alike_pure rfl

theorem alike_moveToSubmitted (id : CodecBufferId)
    {entry entry' : Option AcquiredBuffer} (hentry : entry.isSome = entry'.isSome) :
    Alike (Twins messages old old') (fun _ _ => True) (moveToSubmitted id entry)
      (moveToSubmitted id entry') := by
  unfold moveToSubmitted
  apply alike_get
  intro s s' hs
  apply Alike.seq (Q := fun _ _ => True)
  · apply alike_modifyBuffers
    · intro b b' hb
      rw [Buffers.view_submit, Buffers.view_submit, hb, hentry]
    · intro b
      rfl
    · intro b
      rfl
  exact alike_unholdAll _ _

theorem alike_submitBuffer_l {item item' : VideoBuffer}
    (hitem : item.anonymous = item'.anonymous) (origin : Origin) :
    Alike (Twins messages old old') (fun err err' => err = err')
      (submitBuffer_l item origin) (submitBuffer_l item' origin) := by
  have htime : item.mTimestampNs = item'.mTimestampNs :=
    VideoBuffer.eq_of_anonymous hitem VideoBuffer.mTimestampNs (fun _ => rfl)
  unfold submitBuffer_l
  apply alike_get
  intro s s' hs
  have hdropper : s.mFrameDropper = s'.mFrameDropper :=
    hs.field Control.mFrameDropper
  have hclock : s.clock.session = s'.clock.session := hs.field Control.clock
  have hcalc := CodecClock.calculateCodecTimestamp_l_session s.clock
    s'.mFrameDropper item'.mTimestampNs
  have hcalc' := CodecClock.calculateCodecTimestamp_l_session s'.clock
    s'.mFrameDropper item'.mTimestampNs
  rw [hclock, hcalc'] at hcalc
  rw [hs.free, hdropper, htime]
  cases s'.mFreeCodecBuffers with
  | nil => exact alike_throw
  | cons codecBufferId rest =>
      cases hr : s.clock.calculateCodecTimestamp_l s'.mFrameDropper
          item'.mTimestampNs with
      | none =>
          cases hr' : s'.clock.calculateCodecTimestamp_l s'.mFrameDropper
              item'.mTimestampNs with
          | none => exact alike_pure rfl
          | some r' =>
              rw [hr, hr'] at hcalc
              cases hcalc
      | some r =>
          cases hr' : s'.clock.calculateCodecTimestamp_l s'.mFrameDropper
              item'.mTimestampNs with
          | none =>
              rw [hr, hr'] at hcalc
              cases hcalc
          | some r' =>
              rw [hr, hr'] at hcalc
              have hpair := Option.some.inj hcalc
              have hmedia : r'.1 = r.1 := (Prod.mk.inj hpair).1
              have hsession : r'.2.session = r.2.session := (Prod.mk.inj hpair).2
              dsimp only
              rw [hmedia]
              apply Alike.seq (Q := fun _ _ => True)
              · apply alike_modifyControl
                · intro c c' hc
                  unfold Control.session at *
                  rw [← hsession]
                  exact congrArg (fun c : Control =>
                    { c with clock := r'.2.session }) hc
                · intro c hc
                  exact hc
              apply (alike_updateDataspace hitem).seq
              apply (alike_componentSubmitBuffer codecBufferId hitem origin
                r.1).bind
              intro err err' herr
              rw [herr]
              apply alike_ite Iff.rfl
              · exact alike_pure rfl
              · apply Alike.seq (Q := fun _ _ => True)
                · exact alike_moveToSubmitted codecBufferId rfl
                · exact alike_pure rfl

theorem alike_assignLatest {item item' : Option VideoBuffer}
    (hitem : item.map VideoBuffer.anonymous = item'.map VideoBuffer.anonymous) :
    Alike (Twins messages old old') (fun _ _ => True) (assignLatest item)
      (assignLatest item') := by
  unfold assignLatest
  apply alike_get
  intro s s' hs
  apply Alike.seq (Q := fun _ _ => True)
  · apply alike_modifyBuffers
    · intro b b' hb
      rw [Buffers.view_setLatest, Buffers.view_setLatest, hb, hitem]
    · intro b
      rfl
    · intro b
      rfl
  exact alike_unholdAll _ _

theorem alike_bumpGeneration :
    Alike (Twins messages old old') (fun _ _ => True)
      (modifyControl fun c =>
        { c with mRepeatLastFrameGeneration := c.mRepeatLastFrameGeneration + 1 })
      (modifyControl fun c =>
        { c with
          mRepeatLastFrameGeneration := c.mRepeatLastFrameGeneration + 1 }) := by
  apply alike_modifyControl
  · intro c c' hc
    cases messages with
    | true =>
        exact congrArg (fun c : Control => { c with
          mRepeatLastFrameGeneration := c.mRepeatLastFrameGeneration + 1 }) hc
    | false => exact hc
  · intro c hc
    exact hc

theorem alike_submitEndOfInputStream_l :
    Alike (Twins messages old old') (fun _ _ => True) submitEndOfInputStream_l
      submitEndOfInputStream_l := by
  unfold submitEndOfInputStream_l
  apply alike_get
  intro s s' hs
  apply (alike_check hs.eos).seq
  rw [hs.sent, hs.free]
  apply alike_ite Iff.rfl
  · exact alike_pure trivial
  · cases s'.mFreeCodecBuffers with
    | nil => exact alike_pure trivial
    | cons codecBufferId rest =>
        apply (alike_componentSubmitEos codecBufferId).bind
        intro err err' herr
        rw [herr]
        apply alike_ite Iff.rfl
        · exact alike_pure trivial
        · apply (alike_moveToSubmitted codecBufferId rfl).seq
          apply Alike.seq (Q := fun _ _ => True)
          · apply alike_modifyControl
            · intro c c' hc
              cases messages with
              | true =>
                  exact congrArg (fun c : Control => { c with
                    mEndOfStreamSent := true
                    mRepeatLastFrameGeneration :=
                      c.mRepeatLastFrameGeneration + 1 }) hc
              | false =>
                  exact congrArg (fun c : Control => { c with
                    mEndOfStreamSent := true }) hc
            · intro c hc
              exact hc
          exact alike_assignLatest rfl

/-!
# Repeating the latest frame

While no message is delivered, nobody sees what is posted to the looper.
-/

structure Unseen (s t : GraphicBufferSource) : Prop where
  view : t.toBuffers.view = s.toBuffers.view
  control : t.toControl.session false = s.toControl.session false
  unblocked : t.mFrameRepeatBlockedOnCodecBuffer = false
  handed : handovers t.log = handovers s.log

def RunsUnseen (m : Gbs Unit) : Prop :=
  forall s, s.mFrameRepeatBlockedOnCodecBuffer = false ->
    Sat m (fun _ t => Unseen s t) (fun _ _ => False) s

theorem RunsUnseen.alike {m m' : Gbs Unit} (h : RunsUnseen m)
    (h' : RunsUnseen m') :
    Alike (Twins false old old') (fun _ _ => True) m m' := by
  intro s s' hs
  have hm := h s (hs.unblocked rfl)
  have hm' := h' s' (hs.blocked.symm.trans (hs.unblocked rfl))
  unfold Sat at hm hm'
  cases hms : m s with
  | error e t =>
      rw [hms] at hm
      exact hm.elim
  | ok a t =>
      cases hms' : m' s' with
      | error e t' =>
          rw [hms'] at hm'
          exact hm'.elim
      | ok a' t' =>
          rw [hms] at hm
          rw [hms'] at hm'
          constructor
          · trivial
          · constructor
            · exact hm.view.trans (hs.view.trans hm'.view.symm)
            · exact hm.control.trans (hs.control.trans hm'.control.symm)
            · intro _
              exact hm.unblocked
            · rw [hm.handed, hm'.handed]
              exact hs.handed

theorem queueFrameRepeat_l_unseen : RunsUnseen queueFrameRepeat_l := by
  intro s hs
  have hsession : ({ s.toControl with
      mFrameRepeatBlockedOnCodecBuffer := false } : Control).session false =
      s.toControl.session false := by
    rw [← hs]
  unfold queueFrameRepeat_l
  simp only [sat_bind, sat_modifyControl, sat_get, sat_ite, sat_note, sat_pure]
  constructor
  · intro _
    constructor
    · rfl
    · exact hsession
    · rfl
    · exact filterMap_snoc_of_none (f := Event.handover?) rfl _
  · intro _
    constructor
    · rfl
    · exact hsession
    · rfl
    · rfl

theorem startLooper_unseen : RunsUnseen startLooper := by
  intro s hs
  unfold startLooper
  simp only [sat_bind, sat_modifyControl, sat_get, sat_ite, sat_pure]
  constructor
  · intro _
    constructor
    · intro _
      apply (queueFrameRepeat_l_unseen _ _).imp
      · intro _ t ht
        constructor
        · exact ht.view
        · exact ht.control
        · exact ht.unblocked
        · exact ht.handed
      · exact hs
    · intro _
      exact ⟨rfl, rfl, hs, rfl⟩
  · intro _
    exact ⟨rfl, rfl, hs, rfl⟩

theorem alike_unblock {f : Control -> Control}
    (hf : f = fun c => { c with mFrameRepeatBlockedOnCodecBuffer := false }) :
    Alike (Twins messages old old') (fun _ _ => True) (modifyControl f)
      (modifyControl f) := by
  apply alike_modifyControl
  · intro c c' hc
    rw [hf]
    exact congrArg (fun c : Control => { c with
      mFrameRepeatBlockedOnCodecBuffer := false }) hc
  · intro c _ _
    rw [hf]

theorem alike_queueFrameRepeat_l :
    Alike (Twins messages old old') (fun _ _ => True) queueFrameRepeat_l
      queueFrameRepeat_l := by
  cases messages with
  | false => exact queueFrameRepeat_l_unseen.alike queueFrameRepeat_l_unseen
  | true =>
      unfold queueFrameRepeat_l
      apply (alike_unblock rfl).seq
      apply alike_get
      intro s s' hs
      have hreflector : s.mReflector = s'.mReflector :=
        hs.field Control.mReflector
      rw [hreflector]
      apply alike_ite Iff.rfl
      · apply alike_bumpGeneration.seq
        exact alike_note rfl
      · exact alike_pure trivial

theorem alike_startLooper :
    Alike (Twins messages old old') (fun _ _ => True) startLooper startLooper := by
  cases messages with
  | false => exact startLooper_unseen.alike startLooper_unseen
  | true =>
      unfold startLooper
      apply alike_get
      intro s s' hs
      have hinterval : s.mFrameRepeatIntervalUs = s'.mFrameRepeatIntervalUs :=
        hs.field Control.mFrameRepeatIntervalUs
      have hlooper : s.mLooper = s'.mLooper := hs.field Control.mLooper
      have hlatest := congrArg Option.isSome hs.latest
      rw [Option.isSome_map, Option.isSome_map] at hlatest
      rw [hinterval, hlooper, hlatest]
      apply alike_ite Iff.rfl
      · refine alike_set_seq (fun c => ?_) (fun c => ?_) ?_
        · rfl
        · rfl
        apply alike_ite Iff.rfl
        · exact alike_queueFrameRepeat_l
        · exact alike_pure trivial
      · exact alike_pure trivial

theorem alike_retimeLatest (deltaNs : Int) :
    Alike (Twins messages old old') (fun _ _ => True)
      (modifyBuffers fun b => b.retimeLatest deltaNs)
      (modifyBuffers fun b => b.retimeLatest deltaNs) := by
  apply alike_modifyBuffers
  · intro b b' hb
    rw [Buffers.view_retimeLatest, Buffers.view_retimeLatest, hb]
  · intro b
    rfl
  · intro b
    rfl

theorem alike_setLatestBuffer_l {item item' : VideoBuffer}
    (hitem : item.anonymous = item'.anonymous) :
    Alike (Twins messages old old') (fun _ _ => True) (setLatestBuffer_l item)
      (setLatestBuffer_l item') := by
  have hlatest : (some item).map VideoBuffer.anonymous =
      (some item').map VideoBuffer.anonymous := congrArg some hitem
  unfold setLatestBuffer_l
  apply (alike_assignLatest hlatest).seq
  refine alike_set_seq (fun c => ?_) (fun c => ?_) ?_
  · rfl
  · rfl
  apply alike_get
  intro s s' hs
  have hinterval : s.mFrameRepeatIntervalUs = s'.mFrameRepeatIntervalUs :=
    hs.field Control.mFrameRepeatIntervalUs
  rw [hinterval]
  apply (alike_retimeLatest _).seq
  exact alike_queueFrameRepeat_l

theorem alike_countRepeat :
    Alike (Twins messages old old') (fun _ _ => True) countRepeat countRepeat := by
  unfold countRepeat
  refine alike_set_seq (fun c => ?_) (fun c => ?_) ?_
  · rfl
  · rfl
  apply alike_get
  intro s s' hs
  have hinterval : s.mFrameRepeatIntervalUs = s'.mFrameRepeatIntervalUs :=
    hs.field Control.mFrameRepeatIntervalUs
  have hcount : s.mOutstandingFrameRepeatCount = s'.mOutstandingFrameRepeatCount :=
    hs.field Control.mOutstandingFrameRepeatCount
  rw [hinterval, hcount]
  apply alike_ite Iff.rfl
  · apply (alike_retimeLatest _).seq
    exact alike_queueFrameRepeat_l
  · exact alike_pure trivial

theorem alike_repeatLatestBuffer_l :
    Alike (Twins messages old old') (fun r r' => r = r') repeatLatestBuffer_l
      repeatLatestBuffer_l := by
  unfold repeatLatestBuffer_l
  apply alike_get
  intro s s' hs
  have hlatest := hs.latest
  have hidle : (s.mExecuting && !s.haveAvailableBuffers_l) =
      (s'.mExecuting && !s'.haveAvailableBuffers_l) := by
    rw [hs.executing, hs.haveAvailable]
  apply (alike_check hidle).seq
  rw [hs.suspended, hs.free]
  cases hitem : s.mLatestBuffer with
  | none =>
      cases hitem' : s'.mLatestBuffer with
      | none => exact alike_pure rfl
      | some latest' =>
          rw [hitem, hitem'] at hlatest
          cases hlatest
  | some latest =>
      cases hitem' : s'.mLatestBuffer with
      | none =>
          rw [hitem, hitem'] at hlatest
          cases hlatest
      | some latest' =>
          rw [hitem, hitem'] at hlatest
          apply alike_ite Iff.rfl
          · exact alike_pure rfl
          apply alike_ite Iff.rfl
          · exact alike_pure rfl
          apply (alike_submitBuffer_l (Option.some.inj hlatest) .repeated).bind
          intro err err' herr
          rw [herr]
          apply alike_ite Iff.rfl
          · exact alike_pure rfl
          · apply alike_countRepeat.seq
            exact alike_pure rfl

/-!
# Available frames
-/

theorem alike_drainUnacquired (n : Nat) :
    Alike (Twins messages old old') (fun _ _ => True) (drainUnacquired n)
      (drainUnacquired n) := by
  induction n with
  | zero => exact alike_pure trivial
  | succ n ih =>
      unfold drainUnacquired
      apply alike_get
      intro s s' hs
      rw [hs.unacquired]
      apply alike_ite Iff.rfl
      · apply (alike_acquireBuffer_l .drain).bind
        intro r r' hr
        cases r with
        | error err =>
            cases r' with
            | error err' => exact alike_pure trivial
            | ok item' => exact hr.elim
        | ok item =>
            cases r' with
            | error err' => exact hr.elim
            | ok item' =>
                apply Alike.seq (Q := fun _ _ => True)
                · exact alike_unhold _ _
                · exact ih
      · exact alike_pure trivial

theorem alike_releaseAllAvailableBuffers_l :
    Alike (Twins messages old old') (fun _ _ => True)
      releaseAllAvailableBuffers_l releaseAllAvailableBuffers_l := by
  unfold releaseAllAvailableBuffers_l
  apply alike_get
  intro s s' hs
  rw [hs.unacquired]
  apply Alike.seq (Q := fun _ _ => True)
  · apply alike_modifyBuffers
    · intro b b' hb
      rw [Buffers.view_clearAvailable, Buffers.view_clearAvailable, hb]
    · intro b
      rfl
    · intro b
      rfl
  apply Alike.seq (Q := fun _ _ => True)
  · exact alike_unholdAll _ _
  exact alike_drainUnacquired _

theorem handovers_takeAvailable (b : Buffers) :
    handovers b.takeAvailable.log = handovers b.log := by
  unfold Buffers.takeAvailable
  split
  · rfl
  · rfl

theorem alike_takeFrame :
    Alike (Twins messages old old')
      (fun r r' => r.map VideoBuffer.anonymous = r'.map VideoBuffer.anonymous)
      takeFrame takeFrame := by
  unfold takeFrame
  apply alike_get
  intro s s' hs
  have havailable := hs.available
  cases hlist : s.mAvailableBuffers with
  | nil =>
      cases hlist' : s'.mAvailableBuffers with
      | nil =>
          apply (alike_acquireBuffer_l .oneFrame).bind
          intro r r' hr
          cases r with
          | error err =>
              cases r' with
              | error err' => exact alike_pure rfl
              | ok item' => exact hr.elim
          | ok item =>
              cases r' with
              | error err' => exact hr.elim
              | ok item' => exact alike_pure (congrArg some hr)
      | cons item' rest' =>
          rw [hlist, hlist'] at havailable
          cases havailable
  | cons item rest =>
      cases hlist' : s'.mAvailableBuffers with
      | nil =>
          rw [hlist, hlist'] at havailable
          cases havailable
      | cons item' rest' =>
          rw [hlist, hlist', List.map_cons, List.map_cons] at havailable
          have hitem := (List.cons.inj havailable).1
          apply Alike.seq (Q := fun _ _ => True)
          · apply alike_modifyBuffers
            · intro b b' hb
              rw [Buffers.view_takeAvailable, Buffers.view_takeAvailable, hb]
            · exact handovers_takeAvailable
            · exact handovers_takeAvailable
          exact alike_pure (congrArg some hitem)

theorem alike_performActions (itemTimeUs : Int) :
    Alike (Twins messages old old') (fun r r' => r = r')
      (performActions itemTimeUs) (performActions itemTimeUs) := by
  unfold performActions
  apply alike_get
  intro s s' hs
  rw [hs.actions]
  cases s'.mActionQueue with
  | nil => exact alike_pure rfl
  | cons first rest =>
      apply alike_ite Iff.rfl
      · exact alike_pure rfl
      refine alike_set_seq (fun c => ?_) (fun c => ?_) ?_
      · rfl
      · rfl
      apply (alike_check rfl).seq
      cases (newestDueAction itemTimeUs first (first :: rest)).1.mAction with
      | pause =>
          refine alike_set_pure _ (fun c => ?_) (fun c => ?_)
          · rfl
          · rfl
      | resume =>
          refine alike_set_pure _ (fun c => ?_) (fun c => ?_)
          · rfl
          · rfl
      | stop =>
          refine alike_set_pure _ (fun c => ?_) (fun c => ?_)
          · rfl
          · rfl

theorem alike_frameDropperDrops (timeUs : Int) :
    Alike (Twins messages old old') (fun r r' => r = r')
      (frameDropperDrops timeUs) (frameDropperDrops timeUs) := by
  unfold frameDropperDrops
  apply alike_get
  intro s s' hs
  have hdropper : s.mFrameDropper = s'.mFrameDropper :=
    hs.field Control.mFrameDropper
  rw [hdropper]
  cases s'.mFrameDropper with
  | none => exact alike_pure rfl
  | some dropper =>
      refine alike_set_pure _ (fun c => ?_) (fun c => ?_)
      · rfl
      · rfl

theorem Twins.offset {s s' : GraphicBufferSource} {item item' : VideoBuffer}
    (hs : Twins messages old old' s s')
    (hitem : item.anonymous = item'.anonymous) :
    (s.offsetByStartTime item).anonymous =
      (s'.offsetByStartTime item').anonymous := by
  have hskip : s.mSkipFramesBeforeNs = s'.mSkipFramesBeforeNs :=
    hs.field Control.mSkipFramesBeforeNs
  unfold Control.offsetByStartTime
  rw [hskip]
  split
  · exact congrArg (fun v : VideoBuffer => { v with
      mTimestampNs := v.mTimestampNs - s'.mSkipFramesBeforeNs }) hitem
  · exact hitem

theorem alike_skipDropOrSubmit {item item' : VideoBuffer}
    (hitem : item.anonymous = item'.anonymous) :
    Alike (Twins messages old old') (fun err err' => err = err')
      (skipDropOrSubmit item) (skipDropOrSubmit item') := by
  have htime : item.mTimestampNs = item'.mTimestampNs :=
    VideoBuffer.eq_of_anonymous hitem VideoBuffer.mTimestampNs (fun _ => rfl)
  unfold skipDropOrSubmit
  apply alike_get
  intro s s' hs
  have hskip : s.mSkipFramesBeforeNs = s'.mSkipFramesBeforeNs :=
    hs.field Control.mSkipFramesBeforeNs
  have hoffset := hs.offset hitem
  have hoffsetTime : (s.offsetByStartTime item).mTimestampNs =
      (s'.offsetByStartTime item').mTimestampNs :=
    VideoBuffer.eq_of_anonymous hoffset VideoBuffer.mTimestampNs (fun _ => rfl)
  rw [hskip, htime, hoffsetTime]
  apply alike_ite Iff.rfl
  · apply (alike_frameDropperDrops _).bind
    intro drops drops' hdrops
    rw [hdrops]
    apply alike_ite Iff.rfl
    · have hnoted : (Event.dropped (s.offsetByStartTime item)).handover? =
          (Event.dropped (s'.offsetByStartTime item')).handover? := rfl
      exact (alike_note hnoted).seq (alike_pure rfl)
    · exact alike_submitBuffer_l hoffset .fresh
  · exact alike_pure rfl

theorem alike_recordFrame {item item' : VideoBuffer}
    (hitem : item.anonymous = item'.anonymous) (itemTimeUs : Int) :
    Alike (Twins messages old old') (fun _ _ => True)
      (recordFrame item itemTimeUs) (recordFrame item' itemTimeUs) := by
  unfold recordFrame
  apply alike_get
  intro s s' hs
  have hinterval : s.mFrameRepeatIntervalUs = s'.mFrameRepeatIntervalUs :=
    hs.field Control.mFrameRepeatIntervalUs
  rw [hinterval]
  apply alike_ite Iff.rfl
  · apply (alike_setLatestBuffer_l (hs.offset hitem)).seq
    apply alike_set
    · intro c
      rfl
    · intro c
      rfl
  · apply alike_set
    · intro c
      rfl
    · intro c
      rfl

theorem alike_processFrame {item item' : VideoBuffer}
    (hitem : item.anonymous = item'.anonymous) :
    Alike (Twins messages old old') (fun _ _ => True) (processFrame item)
      (processFrame item') := by
  have htime : item.mTimestampNs = item'.mTimestampNs :=
    VideoBuffer.eq_of_anonymous hitem VideoBuffer.mTimestampNs (fun _ => rfl)
  unfold processFrame
  rw [htime]
  apply (alike_performActions _).bind
  intro seeStopAction seeStopAction' hsee
  rw [hsee]
  apply alike_ite Iff.rfl
  · apply alike_releaseAllAvailableBuffers_l.seq
    refine alike_set_seq (fun c => ?_) (fun c => ?_) ?_
    · rfl
    · rfl
    exact alike_submitEndOfInputStream_l
  · apply alike_get
    intro s s' hs
    rw [hs.suspended]
    apply alike_ite Iff.rfl
    · exact alike_pure trivial
    · apply (alike_skipDropOrSubmit hitem).bind
      intro err err' herr
      rw [herr]
      apply alike_ite Iff.rfl
      · exact alike_pure trivial
      · exact alike_recordFrame hitem _

theorem alike_fillCodecBuffer_l :
    Alike (Twins messages old old') (fun r r' => r = r') fillCodecBuffer_l
      fillCodecBuffer_l := by
  unfold fillCodecBuffer_l
  apply alike_get
  intro s s' hs
  have hready : (s.mExecuting && s.haveAvailableBuffers_l) =
      (s'.mExecuting && s'.haveAvailableBuffers_l) := by
    rw [hs.executing, hs.haveAvailable]
  apply (alike_check hready).seq
  rw [hs.free]
  apply alike_ite Iff.rfl
  · exact alike_pure rfl
  apply alike_takeFrame.bind
  intro r r' hr
  cases r with
  | none =>
      cases r' with
      | none => exact alike_pure rfl
      | some item' => cases hr
  | some item =>
      cases r' with
      | none => cases hr
      | some item' =>
          apply (alike_processFrame (Option.some.inj hr)).seq
          apply Alike.seq (Q := fun _ _ => True)
          · exact alike_unhold _ _
          · exact alike_pure rfl

theorem Twins.discarding {s s' : GraphicBufferSource}
    (hs : Twins messages old old' s s') :
    s.areWeDiscardingAvailableBuffers_l =
      s'.areWeDiscardingAvailableBuffers_l := by
  unfold Control.areWeDiscardingAvailableBuffers_l
  rw [hs.sent, hs.component, hs.suspended, hs.actions, hs.executing]

theorem alike_onBufferAcquired_l {buffer buffer' : VideoBuffer}
    (hbuffer : buffer.anonymous = buffer'.anonymous) :
    Alike (Twins messages old old') (fun _ _ => True)
      (onBufferAcquired_l buffer) (onBufferAcquired_l buffer') := by
  unfold onBufferAcquired_l
  apply alike_get
  intro s s' hs
  rw [hs.sent, hs.component, hs.suspended, hs.actions, hs.executing]
  apply alike_ite Iff.rfl
  · exact alike_pure trivial
  apply alike_ite Iff.rfl
  · exact alike_pure trivial
  apply alike_bumpGeneration.seq
  apply Alike.seq (Q := fun _ _ => True)
  · apply alike_modifyBuffers
    · intro b b' hb
      rw [Buffers.view_pushAvailable, Buffers.view_pushAvailable, hb, hbuffer]
    · intro b
      rfl
    · intro b
      rfl
  apply alike_ite Iff.rfl
  · apply alike_fillCodecBuffer_l.bind
    intro _ _ _
    exact alike_pure trivial
  · exact alike_pure trivial

end Functions

end Bqhelper
end Sm7225
