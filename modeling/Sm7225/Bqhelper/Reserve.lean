import Sm7225.Bqhelper.Walks

/-!
# What says nothing to the component

Besides the end of the stream, the component hears of a frame and of its data space.
Every other step moves references, logs other calls, or changes control fields that do
not decide about these two.  A relation that allows such steps allows the functions,
once it allows those that fill a codec buffer and that repeat the latest frame.
-/

namespace Sm7225
namespace Bqhelper

open Lib

namespace Event

def speaks : Event -> Bool
  | .submitBuffer _ _ _ _ _ _ => true
  | .dispatchDataSpaceChanged _ _ _ => true
  | _ => false

theorem speaks_endsLife (e : Event) (h : e.endsLife = true) : e.speaks = false := by
  cases e <;> first | rfl | cases h

theorem acquisition_endsLife (e : Event) (h : e.endsLife = true) :
    e.acquisition? = none := by
  cases e <;> first | rfl | cases h

end Event

structure Standing where
  mLastDataspace : Int
  mComponent : Option ComponentId
  mExecuting : Bool
  mSuspended : Bool
  mActionQueue : List ActionItem
  mSkipFramesBeforeNs : Int
  mEndOfStream : Bool
  mEndOfStreamSent : Bool
  mStopTimeUs : Int
  mFrameDropper : Option FrameDropper
  clock : CodecClock
  converts : Int -> Bool

def Control.standing (c : Control) : Standing where
  mLastDataspace := c.mLastDataspace
  mComponent := c.mComponent
  mExecuting := c.mExecuting
  mSuspended := c.mSuspended
  mActionQueue := c.mActionQueue
  mSkipFramesBeforeNs := c.mSkipFramesBeforeNs
  mEndOfStream := c.mEndOfStream
  mEndOfStreamSent := c.mEndOfStreamSent
  mStopTimeUs := c.mStopTimeUs
  mFrameDropper := c.mFrameDropper
  clock := c.clock
  converts := c.answers.convertDataSpaceToV0

namespace Buffers

def Mute (b b' : Buffers) : Prop :=
  exists tail, b'.log = b.log ++ tail ∧ forall e, e ∈ tail -> e.speaks = false

variable {b b' b'' : Buffers}

theorem Mute.of_log (h : b'.log = b.log) : Mute b b' :=
  ⟨[], by rw [h, List.append_nil], fun _ he => (List.not_mem_nil he).elim⟩

theorem Mute.of_event {e : Event} (h : b'.log = b.log ++ [e]) (he : e.speaks = false) :
    Mute b b' := by
  refine ⟨[e], h, ?_⟩
  intro e' he'
  rw [List.mem_singleton.mp he']
  exact he

theorem Mute.trans (h : Mute b b') (h' : Mute b' b'') : Mute b b'' := by
  rcases h with ⟨tail, hlog, hmute⟩
  rcases h' with ⟨tail', hlog', hmute'⟩
  refine ⟨tail ++ tail', by rw [hlog', hlog, List.append_assoc], ?_⟩
  intro e he
  rcases List.mem_append.mp he with he | he
  · exact hmute e he
  · exact hmute' e he

structure Discreet (b b' : Buffers) : Prop where
  mute : Mute b b'
  available : b'.available.Sublist b.available

structure Stock where
  mAvailableBuffers : List VideoBuffer
  mLatestBuffer : Option VideoBuffer
  mBufferSlots : KeyedVector SlotId CachedBuffer

def stock (b : Buffers) : Stock where
  mAvailableBuffers := b.mAvailableBuffers
  mLatestBuffer := b.mLatestBuffer
  mBufferSlots := b.mBufferSlots

structure Stock.Shrinks (old new : Stock) : Prop where
  available : new.mAvailableBuffers.Sublist old.mAvailableBuffers
  latest : forall item, new.mLatestBuffer = some item -> exists item',
    old.mLatestBuffer = some item' ∧ item.mBuffer = item'.mBuffer ∧
      item.mDataspace = item'.mDataspace
  slots : forall slot c, new.mBufferSlots.find? slot = some c ->
    old.mBufferSlots.find? slot = some c

theorem Stock.Shrinks.refl (stock : Stock) : stock.Shrinks stock :=
  ⟨.refl _, fun item h => ⟨item, h, rfl, rfl⟩, fun _ _ h => h⟩

theorem Stock.Shrinks.trans {old mid new : Stock} (h : old.Shrinks mid)
    (h' : mid.Shrinks new) : old.Shrinks new := by
  constructor
  · exact h'.available.trans h.available
  · intro item hitem
    rcases h'.latest item hitem with ⟨item', hitem', hbuffer, hspace⟩
    rcases h.latest item' hitem' with ⟨item'', hitem'', hbuffer', hspace'⟩
    exact ⟨item'', hitem'', hbuffer.trans hbuffer', hspace.trans hspace'⟩
  · intro slot c hc
    exact h.slots slot c (h'.slots slot c hc)

structure Chore (b b' : Buffers) : Prop where
  log : exists tail, b'.log = b.log ++ tail ∧
    forall e, e ∈ tail -> e.speaks = false ∧ e.acquisition? = none
  stock : b.stock.Shrinks b'.stock

theorem Chore.discreet (h : Chore b b') : Discreet b b' := by
  rcases h.log with ⟨tail, hlog, htail⟩
  exact ⟨⟨tail, hlog, fun e he => (htail e he).1⟩, h.stock.available.map _⟩

theorem Chore.of_stock (h : b'.log = b.log) (hstock : b.stock.Shrinks b'.stock) :
    Chore b b' :=
  ⟨⟨[], by rw [h, List.append_nil], fun _ he => (List.not_mem_nil he).elim⟩, hstock⟩

theorem Chore.of_log (h : b'.log = b.log) (hstock : b'.stock = b.stock) : Chore b b' := by
  apply Chore.of_stock h
  rw [hstock]
  exact .refl _

theorem Chore.of_event {e : Event} (h : b'.log = b.log ++ [e])
    (he : e.speaks = false ∧ e.acquisition? = none) (hstock : b'.stock = b.stock) :
    Chore b b' := by
  refine ⟨⟨[e], h, ?_⟩, ?_⟩
  · intro e' he'
    rw [List.mem_singleton.mp he']
    exact he
  · rw [hstock]
    exact .refl _

theorem Chore.trans (h : Chore b b') (h' : Chore b' b'') : Chore b b'' := by
  refine ⟨?_, h.stock.trans h'.stock⟩
  rcases h.log with ⟨tail, hlog, htail⟩
  rcases h'.log with ⟨tail', hlog', htail'⟩
  refine ⟨tail ++ tail', by rw [hlog', hlog, List.append_assoc], ?_⟩
  intro e he
  rcases List.mem_append.mp he with he | he
  · exact htail e he
  · exact htail' e he

theorem stock_of_unhold {b b' : Buffers} (hframes : b'.toFrames = b.toFrames)
    (hslots : b'.mBufferSlots = b.mBufferSlots) : b'.stock = b.stock := by
  unfold stock
  rw [hframes, hslots]

theorem chore_unhold (b : Buffers) (a : AcquiredBuffer) : Chore b (b.unhold a) := by
  rcases unhold_log b a with ⟨tail, hlog, hends⟩
  refine ⟨⟨tail, hlog, ?_⟩, ?_⟩
  · intro e he
    exact ⟨e.speaks_endsLife (hends e he), e.acquisition_endsLife (hends e he)⟩
  · rw [stock_of_unhold (unhold_toFrames b a) (unhold_slots b a)]
    exact .refl _

theorem chore_unholdAll (b : Buffers) (as : List AcquiredBuffer) :
    Chore b (b.unholdAll as) := by
  induction as generalizing b with
  | nil => exact .of_log rfl rfl
  | cons a as ih => exact (b.chore_unhold a).trans (ih (b.unhold a))

theorem chore_takeAvailable (b : Buffers) : Chore b b.takeAvailable := by
  unfold takeAvailable
  split
  · exact .of_log rfl rfl
  · rename_i item rest hlist
    refine .of_stock rfl ⟨?_, fun item h => ⟨item, h, rfl, rfl⟩, fun _ _ h => h⟩
    show rest.Sublist b.mAvailableBuffers
    rw [hlist]
    exact List.sublist_cons_self _ _

theorem chore_clearAvailable (b : Buffers) : Chore b b.clearAvailable :=
  .of_stock rfl ⟨List.nil_sublist _, fun item h => ⟨item, h, rfl, rfl⟩, fun _ _ h => h⟩

theorem chore_setLatest_none (b : Buffers) : Chore b (b.setLatest none) :=
  .of_stock rfl ⟨.refl _, fun _ h => (nomatch h), fun _ _ h => h⟩

theorem chore_retimeLatest (b : Buffers) (deltaNs : Int) :
    Chore b (b.retimeLatest deltaNs) := by
  refine .of_stock rfl ⟨.refl _, ?_, fun _ _ h => h⟩
  intro item hitem
  rcases Option.map_eq_some_iff.mp hitem with ⟨item', hitem', hretimed⟩
  rw [← hretimed]
  exact ⟨item', hitem', rfl, rfl⟩

theorem chore_removeSlot (b : Buffers) (slot : SlotId) : Chore b (b.removeSlot slot) := by
  refine .of_stock rfl ⟨.refl _, fun item h => ⟨item, h, rfl, rfl⟩, ?_⟩
  intro slot' c hc
  have hfind : (b.mBufferSlots.remove slot).find? slot' = some c := hc
  rw [KeyedVector.find_remove] at hfind
  by_cases hsame : slot' = slot
  · rw [if_pos hsame] at hfind
    cases hfind
  · rw [if_neg hsame] at hfind
    exact hfind

theorem chore_autoclose (b : Buffers) (fd : Int) : Chore b (b.autoclose fd) := by
  unfold autoclose
  split
  · exact .of_event rfl ⟨rfl, rfl⟩ rfl
  · exact .of_log rfl rfl

end Buffers

/-- A relation that allows the steps behind the scenes, of which the component hears
nothing. -/
structure Backstage (R : GraphicBufferSource -> GraphicBufferSource -> Prop) : Prop where
  control : forall {f : Control -> Control}, (forall c, (f c).standing = c.standing) ->
    Leads R (modifyControl f)
  buffers : forall {f : Buffers -> Buffers}, (forall b : Buffers, b.Chore (f b)) ->
    Leads R (modifyBuffers f)
  acquire : forall site, Leads R (acquireBuffer_l site)

/-- The end of the stream is allowed besides, and the frame dropper. -/
structure Reserved (R : GraphicBufferSource -> GraphicBufferSource -> Prop) : Prop
    extends Backstage R where
  frameDropperDrops : forall timeUs, Leads R (frameDropperDrops timeUs)
  ends : Leads R (modifyControl fun c => { c with mEndOfStream := true })
  submitEndOfInputStream_l : Leads R submitEndOfInputStream_l

namespace Backstage

variable {R : GraphicBufferSource -> GraphicBufferSource -> Prop}

/-!
# Steps
-/

section Steps

theorem standing_popAcquire (c : Control) (site : AcquireSite) :
    Control.standing { c with answers := c.answers.popAcquire site } = c.standing := by
  cases site with
  | oneFrame => rfl
  | drain => rfl

theorem of_discreet [Std.Refl R] [IsTrans GraphicBufferSource R]
    (hcontrol : forall {f : Control -> Control}, (forall c, (f c).standing = c.standing) ->
      Leads R (modifyControl f))
    (hbuffers : forall {f : Buffers -> Buffers}, (forall b : Buffers, b.Discreet (f b)) ->
      Leads R (modifyBuffers f)) : Backstage R where
  control := hcontrol
  buffers := fun h => hbuffers fun b => (h b).discreet
  acquire := by
    have hintake : Intake R := {
      answers := fun site => hcontrol fun c => standing_popAcquire c site
      acquireFailed := fun _ _ => hbuffers fun _ => ⟨.of_event rfl rfl, .refl _⟩
      dequeue := hbuffers fun _ => ⟨.of_log rfl, .refl _⟩
      dropFromCache := fun _ => hbuffers fun _ => ⟨.of_event rfl rfl, .refl _⟩
      removeSlot := fun _ => hbuffers fun _ => ⟨.of_log rfl, .refl _⟩
      cache := fun _ _ => hbuffers fun _ => ⟨.of_log rfl, .refl _⟩
      acquire := fun _ _ => hbuffers fun _ => ⟨.of_event rfl rfl, .refl _⟩
      clearAvailable := hbuffers fun b => b.chore_clearAvailable.discreet
      unhold := fun a => hbuffers fun b => (b.chore_unhold a).discreet
      unholdAll := fun as => hbuffers fun b => (b.chore_unholdAll as).discreet }
    exact hintake.acquireBuffer_l

variable (h : Backstage R)
include h

theorem note {e : Event} (he : e.speaks = false ∧ e.acquisition? = none) :
    Leads R (note e) :=
  h.buffers fun _ => .of_event rfl he rfl

theorem unhold (a : AcquiredBuffer) : Leads R (unhold a) :=
  h.buffers fun b => b.chore_unhold a

theorem unholdAll (as : List AcquiredBuffer) : Leads R (unholdAll as) :=
  h.buffers fun b => b.chore_unholdAll as

theorem retimeLatest (deltaNs : Int) :
    Leads R (modifyBuffers fun b => b.retimeLatest deltaNs) :=
  h.buffers fun b => b.chore_retimeLatest deltaNs

end Steps

section Functions

variable [IsTrans GraphicBufferSource R]
variable (h : Backstage R)
include h

theorem moveToSubmitted (id : CodecBufferId) (entry : Option AcquiredBuffer) :
    Leads R (moveToSubmitted id entry) := by
  apply leads_get
  intro s
  apply Leads.bind
  · exact h.buffers fun _ => .of_log rfl rfl
  · intro _
    exact h.unholdAll _

theorem assignLatest {item : Option VideoBuffer}
    (hlatest : Leads R (modifyBuffers fun b => b.setLatest item)) :
    Leads R (assignLatest item) := by
  apply leads_get
  intro s
  exact hlatest.bind fun _ => h.unholdAll _

theorem assignNone : Leads R (Bqhelper.assignLatest none) :=
  h.assignLatest (h.buffers fun b => b.chore_setLatest_none)

theorem submitBuffer_l [Std.Refl R] {item : VideoBuffer} {origin : Origin}
    (hclock : forall clock, Leads R (modifyControl fun c => { c with clock := clock }))
    (hlast : forall dataspace,
      Leads R (modifyControl fun c => { c with mLastDataspace := dataspace }))
    (hdispatch : forall dataspace aspects pixelFormat,
      Leads R (Bqhelper.note (.dispatchDataSpaceChanged dataspace aspects pixelFormat)))
    (hnote : forall id codecTimeUs err, Leads R (Bqhelper.note
      (.submitBuffer id item origin codecTimeUs item.mBuffer.getAcquireFenceFd err))) :
    Leads R (submitBuffer_l item origin) := by
  apply leads_get
  intro s
  cases s.mFreeCodecBuffers with
  | nil => exact leads_throw
  | cons codecBufferId rest =>
      cases s.clock.calculateCodecTimestamp_l s.mFrameDropper item.mTimestampNs with
      | none => exact leads_pure
      | some r =>
          apply (hclock r.2).bind
          intro _
          apply (leads_updateDataspace hlast hdispatch item).bind
          intro _
          apply Leads.bind
          · apply leads_get
            intro t
            apply leads_ite
            · intro _
              exact leads_throw
            · intro _
              apply Leads.bind
              · exact h.control fun _ => rfl
              intro _
              exact (hnote _ _ _).bind fun _ => leads_pure
          · intro err
            apply leads_ite
            · intro _
              exact leads_pure
            · intro _
              exact (h.moveToSubmitted _ _).bind fun _ => leads_pure

end Functions

theorem reserved_of_drops [Std.Refl R] [IsTrans GraphicBufferSource R] (h : Backstage R)
    (hdrops : forall timeUs, Leads R (frameDropperDrops timeUs))
    (hends : Leads R (modifyControl fun c => { c with mEndOfStream := true }))
    (hsent : Leads R (modifyControl fun c =>
      { c with
        mEndOfStreamSent := true
        mRepeatLastFrameGeneration := c.mRepeatLastFrameGeneration + 1 })) :
    Reserved R where
  toBackstage := h
  frameDropperDrops := hdrops
  ends := hends
  submitEndOfInputStream_l :=
    leads_submitEndOfInputStream_l (h.control fun _ => rfl)
      (fun _ _ => h.note ⟨rfl, rfl⟩) (fun _ => h.moveToSubmitted _ none) hsent h.assignNone

theorem reserved [Std.Refl R] [IsTrans GraphicBufferSource R] (h : Backstage R)
    (hdropper : forall dropper,
      Leads R (modifyControl fun c => { c with mFrameDropper := dropper }))
    (hends : Leads R (modifyControl fun c => { c with mEndOfStream := true }))
    (hsent : Leads R (modifyControl fun c =>
      { c with
        mEndOfStreamSent := true
        mRepeatLastFrameGeneration := c.mRepeatLastFrameGeneration + 1 })) :
    Reserved R := by
  apply h.reserved_of_drops _ hends hsent
  intro timeUs
  apply leads_get
  intro s
  cases s.mFrameDropper with
  | none => exact leads_pure
  | some dropper => exact (hdropper _).bind fun _ => leads_pure

end Backstage

namespace Reserved

variable {R : GraphicBufferSource -> GraphicBufferSource -> Prop}

/-!
# Functions
-/

section Functions

variable [Std.Refl R] [IsTrans GraphicBufferSource R]
variable (h : Reserved R)
include h

theorem drainUnacquired (n : Nat) : Leads R (drainUnacquired n) :=
  leads_drainUnacquired (h.acquire .drain) h.unhold n

theorem releaseAllAvailableBuffers_l : Leads R releaseAllAvailableBuffers_l := by
  apply leads_get
  intro s
  apply Leads.bind
  · exact h.buffers fun b => b.chore_clearAvailable
  · intro _
    exact (h.unholdAll _).bind fun _ => h.drainUnacquired _

theorem discardMasked (n : Nat) (i : SlotId) (slotMask : BitVec 64) :
    Leads R (discardMasked n i slotMask) := by
  apply leads_discardMasked
  · intro buffer
    exact h.buffers fun _ => .of_event rfl ⟨rfl, rfl⟩ rfl
  · intro slot
    exact h.buffers fun b => b.chore_removeSlot slot

theorem takeFrame : Leads R takeFrame := by
  apply leads_get
  intro s
  cases s.mAvailableBuffers with
  | nil =>
      apply (h.acquire .oneFrame).bind
      intro r
      cases r with
      | error err => exact leads_pure
      | ok item => exact leads_pure
  | cons item rest =>
      apply Leads.bind
      · exact h.buffers fun b => b.chore_takeAvailable
      · intro _
        exact leads_pure

theorem queueFrameRepeat_l : Leads R queueFrameRepeat_l := by
  refine .bind (h.control fun _ => rfl) fun _ => ?_
  apply leads_get
  intro s
  apply leads_ite
  · intro _
    exact .bind (h.control fun _ => rfl) fun _ => h.note ⟨rfl, rfl⟩
  · intro _
    exact leads_pure

theorem recordFrame {item : VideoBuffer}
    (hlatest : forall timeNs, Leads R (modifyBuffers fun b =>
      b.setLatest (some { item with mTimestampNs := timeNs }))) (itemTimeUs : Int) :
    Leads R (recordFrame item itemTimeUs) := by
  apply leads_get
  intro s
  apply leads_ite
  · intro _
    apply Leads.bind
    · apply Leads.bind
      · apply h.assignLatest
        unfold Control.offsetByStartTime
        split
        · exact hlatest _
        · exact hlatest item.mTimestampNs
      intro _
      refine .bind (h.control fun _ => rfl) fun _ => ?_
      apply leads_get
      intro t
      exact (h.retimeLatest _).bind fun _ => h.queueFrameRepeat_l
    · intro _
      exact h.control fun _ => rfl
  · intro _
    exact h.control fun _ => rfl

theorem countRepeat : Leads R countRepeat :=
  leads_countRepeat (h.control fun _ => rfl) h.retimeLatest h.queueFrameRepeat_l

theorem skipDropOrSubmit (hsubmit : forall item, Leads R (submitBuffer_l item .fresh))
    (item : VideoBuffer) : Leads R (skipDropOrSubmit item) := by
  apply leads_get
  intro s
  apply leads_ite
  · intro _
    apply (h.frameDropperDrops _).bind
    intro drops
    apply leads_ite
    · intro _
      exact (h.note ⟨rfl, rfl⟩).bind fun _ => leads_pure
    · intro _
      exact hsubmit _
  · intro _
    exact leads_pure

theorem processFrame {item : VideoBuffer}
    (hactions : forall itemTimeUs, Leads R (performActions itemTimeUs))
    (hsubmit : Leads R (Bqhelper.skipDropOrSubmit item))
    (hrecord : forall itemTimeUs, Leads R (Bqhelper.recordFrame item itemTimeUs)) :
    Leads R (processFrame item) := by
  apply (hactions _).bind
  intro seeStopAction
  apply leads_ite
  · intro _
    apply h.releaseAllAvailableBuffers_l.bind
    intro _
    refine h.ends.bind fun _ => ?_
    exact h.submitEndOfInputStream_l
  · intro _
    apply leads_get
    intro s
    apply leads_ite (fun _ => leads_pure)
    intro _
    apply hsubmit.bind
    intro err
    exact leads_ite (fun _ => leads_pure) (fun _ => hrecord _)

theorem fillCodecBuffer_l (hprocess : forall item, Leads R (Bqhelper.processFrame item)) :
    Leads R fillCodecBuffer_l := by
  apply leads_get
  intro s
  apply (leads_check _ _).bind
  intro _
  apply leads_ite (fun _ => leads_pure)
  intro _
  apply h.takeFrame.bind
  intro r
  cases r with
  | none => exact leads_pure
  | some item =>
      apply (hprocess item).bind
      intro _
      exact (h.unhold item.mBuffer).bind fun _ => leads_pure

theorem startLooper : Leads R startLooper :=
  leads_startLooper (h.control fun _ => rfl) h.queueFrameRepeat_l

theorem release (hreleased : Leads R (modifyControl fun c =>
    { c with mComponent := none, mExecuting := false })) : Leads R release := by
  refine .bind (h.control fun _ => rfl) fun _ => ?_
  apply leads_get
  intro s
  apply Leads.bind
  · exact h.buffers fun _ => .of_event rfl ⟨rfl, rfl⟩ rfl
  · intro _
    apply (h.unholdAll _).bind
    intro _
    apply (h.assignNone).bind
    intro _
    exact hreleased.bind fun _ => leads_pure

theorem onInputBufferAdded (bufferId : CodecBufferId) :
    Leads R (onInputBufferAdded bufferId) := by
  apply leads_get
  intro s
  apply leads_ite (fun _ => leads_pure)
  intro _
  apply Leads.bind
  · exact h.buffers fun _ => .of_event rfl ⟨rfl, rfl⟩ rfl
  · intro _
    exact leads_pure

theorem onBuffersReleased : Leads R onBuffersReleased := by
  apply leads_get
  intro s
  exact h.discardMasked _ _ _

end Functions

/-!
# Requests that may hand over a frame
-/

section Requests

variable [Std.Refl R] [IsTrans GraphicBufferSource R]
variable (h : Reserved R) (hfill : Leads R Bqhelper.fillCodecBuffer_l)
variable (hrepeat : Leads R repeatLatestBuffer_l)
include h

include hfill in
theorem onFrameAvailable (hpush : forall item,
    Leads R (modifyBuffers fun b => b.pushAvailable item)) : Leads R onFrameAvailable := by
  apply Leads.bind
  · exact h.buffers fun _ => .of_event rfl ⟨rfl, rfl⟩ rfl
  · intro _
    apply leads_get
    intro s
    apply leads_ite
    · intro _
      exact h.control fun _ => rfl
    · intro _
      apply (h.acquire .oneFrame).bind
      intro r
      cases r with
      | error err => exact leads_pure
      | ok buffer =>
          apply Leads.bind
          · exact leads_onBufferAcquired_l (h.control fun _ => rfl)
              (hpush buffer) hfill
          · intro _
            exact h.unhold _

include hfill in
theorem startTail (frames : Nat) : Leads R (do
    loadAvailable frames
    sendPendingEos
    Bqhelper.startLooper
    return Status.ok) := by
  apply (leads_loadAvailable hfill frames).bind
  intro _
  apply Leads.bind
  · apply leads_get
    intro t
    exact leads_ite (fun _ => h.submitEndOfInputStream_l) (fun _ => leads_pure)
  · intro _
    exact h.startLooper.bind fun _ => leads_pure

include hfill hrepeat

theorem reuseCodecBuffer : Leads R reuseCodecBuffer :=
  leads_reuseCodecBuffer hfill h.submitEndOfInputStream_l hrepeat (h.control fun _ => rfl)

theorem onInputBufferEmptied (bufferId : CodecBufferId) (fenceFd : Int) :
    Leads R (onInputBufferEmptied bufferId fenceFd) := by
  have hreturned : forall (b : Buffers) (e : Event),
      e.speaks = false ∧ e.acquisition? = none ->
      b.Chore (((b.note e).takeBack bufferId).autoclose fenceFd) := by
    intro b e he
    have hback : b.Chore ((b.note e).takeBack bufferId) := .of_event rfl he rfl
    exact hback.trans (Buffers.chore_autoclose _ fenceFd)
  apply leads_get
  intro s
  cases s.mSubmittedCodecBuffers.find? bufferId with
  | none =>
      apply Leads.bind
      · apply h.buffers
        intro b
        have hnoted : b.Chore (b.note (.emptied bufferId fenceFd none false)) :=
          .of_event rfl ⟨rfl, rfl⟩ rfl
        exact hnoted.trans (Buffers.chore_autoclose _ fenceFd)
      · intro _
        exact leads_pure
  | some entry =>
      cases entry with
      | none =>
          apply Leads.bind
          · exact h.buffers fun b => hreturned b _ ⟨rfl, rfl⟩
          · intro _
            exact leads_pure
      | some buffer =>
          apply leads_ite
          · intro _
            apply Leads.bind
            · exact h.buffers fun _ => .of_event rfl ⟨rfl, rfl⟩ rfl
            · intro _
              apply (h.unhold buffer).bind
              intro _
              apply Leads.bind
              · exact h.buffers fun b => b.chore_autoclose fenceFd
              · intro _
                exact leads_pure
          · intro _
            apply Leads.bind
            · exact h.buffers fun _ => .of_event rfl ⟨rfl, rfl⟩ rfl
            · intro _
              apply (h.unhold buffer).bind
              intro _
              exact (h.reuseCodecBuffer hfill hrepeat).bind fun _ => leads_pure

omit hfill in
theorem setSuspend
    (hqueue : forall timeUs action, Leads R (modifyControl fun c =>
      { c with
        mLastActionTimeUs := timeUs
        mActionQueue := c.mActionQueue ++ [action] }))
    (hsuspended : forall suspended,
      Leads R (modifyControl fun c => { c with mSuspended := suspended }))
    (suspend : Bool) (suspendStartTimeUs : Int) :
    Leads R (setSuspend suspend suspendStartTimeUs) := by
  apply leads_setSuspend hqueue (hsuspended true) h.releaseAllAvailableBuffers_l
  exact leads_resumeNow (hsuspended false) hrepeat (h.control fun _ => rfl)

end Requests

section Sessions

variable [Std.Refl R] [IsTrans GraphicBufferSource R]
variable (h : Reserved R)
include h

theorem configure
    (hcomponent : forall component,
      Leads R (modifyControl fun c => { c with mComponent := some component }))
    (hreset : forall dataSpace, Leads R (modifyControl fun c => c.reset dataSpace))
    (args : ConfigureArgs) : Leads R (configure args) := by
  apply leads_get
  intro s
  cases args.component with
  | none => exact leads_pure
  | some component =>
      apply (leads_setMaxAcquiredBufferCount (h.note ⟨rfl, rfl⟩) h.onBuffersReleased).bind
      intro _
      apply leads_ite (fun _ => leads_pure)
      intro _
      apply (hcomponent component).bind
      intro _
      apply (h.note ⟨rfl, rfl⟩).bind
      intro _
      apply leads_ite (fun _ => leads_pure)
      intro _
      apply (h.note ⟨rfl, rfl⟩).bind
      intro _
      apply (h.note ⟨rfl, rfl⟩).bind
      intro _
      apply leads_ite (fun _ => leads_pure)
      intro _
      apply (h.note ⟨rfl, rfl⟩).bind
      intro _
      apply (hreset _).bind
      intro _
      apply (h.note ⟨rfl, rfl⟩).bind
      intro _
      exact (h.assignNone).bind fun _ => leads_pure

end Sessions

end Reserved

theorem leads_setStopTimeUs {R : GraphicBufferSource -> GraphicBufferSource -> Prop}
    [Std.Refl R] [IsTrans GraphicBufferSource R]
    (hstop : forall stopTimeUs, Leads R (modifyControl fun c =>
      { c with
        mLastActionTimeUs := stopTimeUs
        mActionQueue := c.mActionQueue ++
          [{ mAction := .stop, mActionTimeUs := stopTimeUs }]
        mStopTimeUs := stopTimeUs }))
    (stopTimeUs : Int) : Leads R (setStopTimeUs stopTimeUs) := by
  apply leads_get
  intro s
  apply leads_ite (fun _ => leads_pure)
  intro _
  apply leads_ite (fun _ => leads_pure)
  intro _
  exact (hstop stopTimeUs).bind fun _ => leads_pure

/-!
# Setters
-/

structure Control.Subdued (c c' : Control) : Prop where
  dataspace : c'.mLastDataspace = c.mLastDataspace
  component : c'.mComponent = c.mComponent
  converts : c'.answers.convertDataSpaceToV0 = c.answers.convertDataSpaceToV0
  suspended : c'.mSuspended = c.mSuspended
  queue : c'.mActionQueue = c.mActionQueue
  startTime : c'.mSkipFramesBeforeNs = c.mSkipFramesBeforeNs
  ended : c'.mEndOfStream = c.mEndOfStream
  sent : c'.mEndOfStreamSent = c.mEndOfStreamSent
  stopTime : c'.mStopTimeUs = c.mStopTimeUs
  dropper : c'.mFrameDropper = c.mFrameDropper
  clock : c'.clock = c.clock
  executing : c'.mExecuting = true -> c.mExecuting = true

theorem Control.Subdued.of_standing {c c' : Control} (h : c'.standing = c.standing) :
    c.Subdued c' where
  dataspace := congrArg Standing.mLastDataspace h
  component := congrArg Standing.mComponent h
  converts := congrArg Standing.converts h
  suspended := congrArg Standing.mSuspended h
  queue := congrArg Standing.mActionQueue h
  startTime := congrArg Standing.mSkipFramesBeforeNs h
  ended := congrArg Standing.mEndOfStream h
  sent := congrArg Standing.mEndOfStreamSent h
  stopTime := congrArg Standing.mStopTimeUs h
  dropper := congrArg Standing.mFrameDropper h
  clock := congrArg Standing.clock h
  executing := (congrArg Standing.mExecuting h).symm.trans

def Control.Repaced (c c' : Control) : Prop :=
  exists clock dropper, c' = { c with clock := clock, mFrameDropper := dropper }

theorem Control.Repaced.keeps {α : Type} {c c' : Control} (h : c.Repaced c')
    {g : Control -> α} (hg : forall clock dropper,
      g { c with clock := clock, mFrameDropper := dropper } = g c) : g c' = g c := by
  rcases h with ⟨clock, dropper, rfl⟩
  exact hg clock dropper

def Op.setsPace : Op -> Bool
  | .setTimeOffsetUs _ => true
  | .setMaxFps _ => true
  | .setTimeLapseConfig _ _ => true
  | _ => false

def Op.isPlainSetter : Op -> Bool
  | .setStopTimeUs _ => false
  | .setStartTimeUs _ => false
  | .setTimeOffsetUs _ => false
  | .setMaxFps _ => false
  | .setTimeLapseConfig _ _ => false
  | op => op.isSetter

theorem leads_setter {R : GraphicBufferSource -> GraphicBufferSource -> Prop} [Std.Refl R]
    [IsTrans GraphicBufferSource R]
    (hset : forall {f : Control -> Control}, (forall c : Control, c.Subdued (f c)) ->
      Leads R (modifyControl f)) {op : Op} (hop : op.isPlainSetter = true) :
    Leads R (perform op) := by
  cases op with
  | stop =>
      have hstopped : forall c : Control, c.Subdued { c with mExecuting := false } :=
        fun _ => ⟨rfl, rfl, rfl, rfl, rfl, rfl, rfl, rfl, rfl, rfl, rfl,
          fun h => (nomatch h)⟩
      exact .bind (.bind (hset hstopped) fun _ => leads_pure) fun _ => leads_pure
  | setRepeatPreviousFrameDelayUs repeatAfterUs =>
      refine .bind (leads_get fun s => leads_ite (fun _ => leads_pure) fun _ => ?_)
        fun _ => leads_pure
      exact .bind (hset fun _ => .of_standing rfl) fun _ => leads_pure
  | getStopTimeOffsetUs =>
      refine .bind (leads_get fun s => leads_ite (fun _ => leads_pure) fun _ => ?_)
        fun _ => leads_pure
      exact leads_pure
  | setColorAspects aspectsPacked =>
      exact .bind (.bind (hset fun _ => .of_standing rfl) fun _ => leads_pure)
        fun _ => leads_pure
  | _ => cases hop

theorem leads_setPace {R : GraphicBufferSource -> GraphicBufferSource -> Prop} [Std.Refl R]
    [IsTrans GraphicBufferSource R]
    (hpace : forall {f : Control -> Control}, (forall c : Control, c.Repaced (f c)) ->
      Leads R (modifyControl f)) {op : Op} (hop : op.setsPace = true) :
    Leads R (perform op) := by
  cases op with
  | setTimeOffsetUs timeOffsetUs =>
      refine .bind (leads_ite (fun _ => leads_pure) fun _ => ?_) fun _ => leads_pure
      exact .bind (hpace fun _ => ⟨_, _, rfl⟩) fun _ => leads_pure
  | setMaxFps maxFps =>
      refine .bind (leads_get fun s => leads_ite (fun _ => leads_pure) fun _ => ?_)
        fun _ => leads_pure
      apply leads_ite
      · intro _
        exact .bind (hpace fun _ => ⟨_, _, rfl⟩) fun _ => leads_pure
      · intro _
        exact .bind (hpace fun _ => ⟨_, _, rfl⟩) fun _ => leads_pure
  | setTimeLapseConfig fps captureFps =>
      refine .bind (leads_get fun s => leads_ite (fun _ => leads_pure) fun _ => ?_)
        fun _ => leads_pure
      exact .bind (hpace fun _ => ⟨_, _, rfl⟩) fun _ => leads_pure
  | _ => cases hop

theorem leads_setStartTimeUs {R : GraphicBufferSource -> GraphicBufferSource -> Prop}
    [Std.Refl R] [IsTrans GraphicBufferSource R]
    (hstart : forall skipFramesBeforeNs, Leads R (modifyControl fun c =>
      { c with mSkipFramesBeforeNs := skipFramesBeforeNs }))
    (skipFramesBeforeUs : Int) : Leads R (setStartTimeUs skipFramesBeforeUs) :=
  (hstart _).bind fun _ => leads_pure

/-!
# Requests
-/

def Op.isOrdinary : Op -> Bool
  | .start => false
  | .release => false
  | .configure _ => false
  | .setSuspend _ _ => false
  | .setStopTimeUs _ => false
  | .setStartTimeUs _ => false
  | .setTimeOffsetUs _ => false
  | .setMaxFps _ => false
  | .setTimeLapseConfig _ _ => false
  | _ => true

theorem leads_perform {R : GraphicBufferSource -> GraphicBufferSource -> Prop}
    [Std.Refl R] [IsTrans GraphicBufferSource R] (h : Reserved R)
    (hset : forall {f : Control -> Control}, (forall c : Control, c.Subdued (f c)) ->
      Leads R (modifyControl f))
    (hfill : Leads R fillCodecBuffer_l) (hrepeat : Leads R repeatLatestBuffer_l)
    (harrives : Leads R onFrameAvailable) {op : Op} (hop : op.isOrdinary = true) :
    Leads R (perform op) := by
  cases op with
  | start => cases hop
  | configure args => cases hop
  | release => cases hop
  | setSuspend suspend suspendStartTimeUs => cases hop
  | setStopTimeUs stopTimeUs => cases hop
  | setStartTimeUs skipFramesBeforeUs => cases hop
  | setTimeOffsetUs timeOffsetUs => cases hop
  | setMaxFps maxFps => cases hop
  | setTimeLapseConfig fps captureFps => cases hop
  | onInputBufferAdded bufferId =>
      exact (h.onInputBufferAdded bufferId).bind fun _ => leads_pure
  | onInputBufferEmptied bufferId fenceFd =>
      exact (h.onInputBufferEmptied hfill hrepeat bufferId fenceFd).bind
        fun _ => leads_pure
  | onFrameAvailable => exact harrives.bind fun _ => leads_pure
  | onBuffersReleased => exact h.onBuffersReleased.bind fun _ => leads_pure
  | signalEndOfInputStream =>
      exact (leads_signalEndOfInputStream h.ends
        h.submitEndOfInputStream_l).bind fun _ => leads_pure
  | onMessageReceived generation =>
      exact (leads_onMessageReceived hrepeat (h.control fun _ => rfl)
        generation).bind fun _ => leads_pure
  | _ => exact leads_setter hset rfl

end Bqhelper
end Sm7225
