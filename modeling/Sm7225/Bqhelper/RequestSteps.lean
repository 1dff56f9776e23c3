import Sm7225.Bqhelper.Requests
import Sm7225.Bqhelper.Tracking

/-!
# Every request takes steps

A request first has an arrival: the effect that only this request has, such as a
codec buffer coming back.  Everything after the arrival is made of steps.  So an
invariant of the buffers that holds after the arrivals and is kept by the steps
holds after every request.
-/

namespace Sm7225
namespace Bqhelper

open Lib

section Functions

variable {b : Buffers} {held : List AcquiredBuffer} {s : GraphicBufferSource}

theorem Tracks.sound {b' : Buffers} (h : Tracks b held b')
    (hb : Buffers.Sound b) : Buffers.Sound b' :=
  Buffers.sound_steps h.steps hb

/-!
# Filling a codec buffer
-/

theorem takeFrame_tracks (hb : Buffers.Sound b)
    (h : Tracks b held s.toBuffers)
    (havailable : s.haveAvailableBuffers_l = true) :
    Sat takeFrame
      (fun r t =>
        match r with
        | none => Tracks b held t.toBuffers
        | some item => Tracks b (item.mBuffer :: held) t.toBuffers ∧
            t.toBuffers.InOrder (item.mBuffer :: t.toBuffers.available))
      (EndsAfter b) s := by
  unfold takeFrame
  simp only [sat_bind, sat_get]
  have hs := h.sound hb
  have horder := hs.order
  unfold Buffers.available at horder
  cases hlist : s.mAvailableBuffers with
  | nil =>
      have hnum : 0 < s.mNumAvailableUnacquiredBuffers := by
        simpa [Frames.haveAvailableBuffers_l, hlist] using havailable
      simp only [sat_bind]
      apply (acquireBuffer_l_tracks h .oneFrame hnum).imp
      intro r t ht
      cases r with
      | error err => exact ht.1
      | ok item =>
          refine ⟨ht.1, ?_⟩
          unfold Buffers.available
          rw [ht.2.available, hlist]
          rw [hlist] at horder
          exact ht.2.order _ horder
  | cons item rest =>
      simp only [sat_bind, sat_modifyBuffers, sat_pure]
      rw [hlist] at horder
      have htake := s.toBuffers.takeAvailable_eq hlist
      have hlocals : s.toBuffers.takeAvailable.locals = item.mBuffer :: held := by
        rw [htake]
        exact congrArg (List.cons item.mBuffer) h.locals
      refine ⟨⟨h.steps.tail .takeAvailable, hlocals⟩, ?_⟩
      rw [htake]
      exact horder

theorem performActions_tracks (h : Tracks b held s.toBuffers)
    (itemTimeUs : Int) :
    Sat (performActions itemTimeUs) (fun _ t => t.toBuffers = s.toBuffers)
      (EndsAfter b) s := by
  unfold performActions
  simp only [sat_bind, sat_get]
  cases s.mActionQueue with
  | nil => rfl
  | cons first rest =>
      simp only [sat_ite, sat_pure, sat_bind, sat_modifyControl, sat_check]
      refine ⟨fun _ => trivial, fun _ =>
        ⟨fun _ => ?_, fun _ => h.endsAfter (.check .fillActionTimeReached)⟩⟩
      cases (newestDueAction itemTimeUs first (first :: rest)).1.mAction with
      | pause => rfl
      | resume => rfl
      | stop => rfl

theorem frameDropperDrops_sat (timeUs : Int) :
    Sat (frameDropperDrops timeUs) (fun _ t => t.toBuffers = s.toBuffers)
      (EndsAfter b) s := by
  unfold frameDropperDrops
  simp only [sat_bind, sat_get]
  cases s.mFrameDropper with
  | none => rfl
  | some dropper => rfl

@[simp] theorem offsetByStartTime_mBuffer (c : Control) (item : VideoBuffer) :
    (c.offsetByStartTime item).mBuffer = item.mBuffer := by
  unfold Control.offsetByStartTime
  split
  · rfl
  · rfl

theorem skipDropOrSubmit_tracks {item : VideoBuffer}
    (h : Tracks b (item.mBuffer :: held) s.toBuffers)
    (horder : s.toBuffers.InOrder (item.mBuffer :: s.toBuffers.available)) :
    Sat (skipDropOrSubmit item)
      (fun _ t => Tracks b (item.mBuffer :: held) t.toBuffers)
      (EndsAfter b) s := by
  unfold skipDropOrSubmit
  simp only [sat_bind, sat_get, sat_ite, sat_note, sat_pure]
  refine ⟨fun _ => ?_, fun _ => h⟩
  apply (frameDropperDrops_sat _).imp
  intro drops t ht
  rw [← ht] at h horder
  refine ⟨fun _ => h.note rfl, fun _ => ?_⟩
  apply submitBuffer_l_tracks h
  · rw [offsetByStartTime_mBuffer]
    apply List.mem_append_left
    rw [h.locals]
    exact List.mem_cons_self
  · intro _
    rw [offsetByStartTime_mBuffer]
    exact horder

theorem recordFrame_tracks {item : VideoBuffer}
    (h : Tracks b (item.mBuffer :: held) s.toBuffers) (itemTimeUs : Int) :
    Sat (recordFrame item itemTimeUs)
      (fun _ t => Tracks b (item.mBuffer :: held) t.toBuffers)
      (EndsAfter b) s := by
  unfold recordFrame
  simp only [sat_bind, sat_get, sat_ite, sat_modifyControl]
  refine ⟨fun _ => ?_, fun _ => h⟩
  apply setLatestBuffer_l_tracks h
  rw [offsetByStartTime_mBuffer]
  apply List.mem_append_left
  rw [h.locals]
  exact List.mem_cons_self

theorem processFrame_tracks {item : VideoBuffer}
    (h : Tracks b (item.mBuffer :: held) s.toBuffers)
    (horder : s.toBuffers.InOrder (item.mBuffer :: s.toBuffers.available)) :
    Sat (processFrame item)
      (fun _ t => Tracks b (item.mBuffer :: held) t.toBuffers)
      (EndsAfter b) s := by
  unfold processFrame
  apply Sat.bind (performActions_tracks h _)
  intro seeStopAction t ht
  rw [← ht] at h horder
  simp only [sat_ite, sat_bind, sat_get, sat_pure, sat_modifyControl]
  refine ⟨fun _ => ?_, fun _ => ⟨fun _ => h, fun _ => ?_⟩⟩
  · apply (releaseAllAvailableBuffers_l_tracks h).imp
    intro _ u hu
    exact submitEndOfInputStream_l_tracks hu
  · apply (skipDropOrSubmit_tracks h horder).imp
    intro err u hu
    exact ⟨fun _ => hu, fun _ => recordFrame_tracks hu _⟩

theorem fillCodecBuffer_l_tracks (hb : Buffers.Sound b)
    (h : Tracks b held s.toBuffers) :
    Sat fillCodecBuffer_l (fun _ t => Tracks b held t.toBuffers)
      (EndsAfter b) s := by
  unfold fillCodecBuffer_l
  simp only [sat_bind, sat_get, sat_check, sat_ite, sat_pure]
  refine ⟨fun hcheck => ⟨fun _ => h, fun _ => ?_⟩, fun _ => h.endsAfter _⟩
  apply (takeFrame_tracks hb h ?_).imp
  · intro r t ht
    cases r with
    | none => exact ht
    | some item =>
        apply Sat.bind (processFrame_tracks ht.1 ht.2)
        intro _ u hu
        exact hu.unhold
  · exact (Bool.and_eq_true_iff.mp hcheck).2

theorem onBufferAcquired_l_tracks (hb : Buffers.Sound b) {item : VideoBuffer}
    (h : Tracks b (item.mBuffer :: held) s.toBuffers)
    (horder : s.toBuffers.InOrder (s.toBuffers.available ++ [item.mBuffer])) :
    Sat (onBufferAcquired_l item)
      (fun _ t => Tracks b (item.mBuffer :: held) t.toBuffers)
      (EndsAfter b) s := by
  unfold onBufferAcquired_l
  simp only [sat_bind, sat_get, sat_ite, sat_pure, sat_modifyControl,
    sat_modifyBuffers]
  have hheld : item.mBuffer ∈ s.toBuffers.holders := by
    apply List.mem_append_left
    rw [h.locals]
    exact List.mem_cons_self
  have hpush : Tracks b (item.mBuffer :: held) (s.toBuffers.pushAvailable item) :=
    h.step (.pushAvailable item hheld horder) h.locals
  exact ⟨fun _ => h, fun _ => ⟨fun _ => h, fun _ =>
    ⟨fun _ => fillCodecBuffer_l_tracks hb hpush, fun _ => hpush⟩⟩⟩

/-!
# Start
-/

theorem loadAvailable_tracks (hb : Buffers.Sound b)
    (h : Tracks b held s.toBuffers) (n : Nat) :
    Sat (loadAvailable n) (fun _ t => Tracks b held t.toBuffers)
      (EndsAfter b) s := by
  induction n generalizing s with
  | zero => exact h
  | succ n ih =>
      unfold loadAvailable
      simp only [sat_bind, sat_get, sat_ite, sat_pure]
      refine ⟨fun _ => ?_, fun _ => h⟩
      apply (fillCodecBuffer_l_tracks hb h).imp
      intro filled t ht
      exact ⟨fun _ => ih ht, fun _ => ht⟩

theorem sendPendingEos_tracks (h : Tracks b held s.toBuffers) :
    Sat sendPendingEos (fun _ t => Tracks b held t.toBuffers)
      (EndsAfter b) s := by
  unfold sendPendingEos
  simp only [sat_bind, sat_get, sat_ite, sat_pure]
  exact ⟨fun _ => submitEndOfInputStream_l_tracks h, fun _ => h⟩

theorem startLooper_tracks (h : Tracks b held s.toBuffers) :
    Sat startLooper (fun _ t => Tracks b held t.toBuffers) (EndsAfter b) s := by
  unfold startLooper
  simp only [sat_bind, sat_get, sat_ite, sat_pure, sat_modifyControl]
  exact ⟨fun _ => ⟨fun _ => queueFrameRepeat_l_tracks h, fun _ => h⟩,
    fun _ => h⟩

theorem start_tracks (hb : Buffers.Sound b) (h : Tracks b held s.toBuffers) :
    Sat start (fun _ t => Tracks b held t.toBuffers) (EndsAfter b) s := by
  unfold start
  simp only [sat_bind, sat_get, sat_check, sat_modifyControl, sat_pure]
  refine ⟨fun _ => ?_, fun _ => h.endsAfter _⟩
  apply (loadAvailable_tracks hb (h.withControl _) _).imp
  intro _ t ht
  apply (sendPendingEos_tracks ht).imp
  intro _ u hu
  exact startLooper_tracks hu

/-!
# Slots
-/

theorem discardBufferInSlot_l_tracks (h : Tracks b held s.toBuffers)
    (slot : SlotId) :
    Sat (discardBufferInSlot_l slot) (fun _ t => Tracks b held t.toBuffers)
      (EndsAfter b) s := by
  unfold discardBufferInSlot_l discardBufferAtSlotIndex_l
  simp only [sat_bind, sat_get]
  cases hslot : s.mBufferSlots.find? slot with
  | none => exact h
  | some buffer => exact h.step (.discardSlot slot buffer hslot) h.locals

theorem discardMasked_tracks (h : Tracks b held s.toBuffers) (n : Nat)
    (i : SlotId) (slotMask : BitVec 64) :
    Sat (discardMasked n i slotMask) (fun _ t => Tracks b held t.toBuffers)
      (EndsAfter b) s := by
  induction n generalizing s i slotMask with
  | zero => exact h
  | succ n ih =>
      unfold discardMasked
      simp only [sat_ite, sat_bind]
      refine ⟨fun _ => ?_, fun _ => ih h _ _⟩
      apply (discardBufferInSlot_l_tracks h i).imp
      intro _ t ht
      exact ih ht _ _

/-!
# Using a returned codec buffer again
-/

theorem reuseCodecBuffer_tracks (hb : Buffers.Sound b)
    (h : Tracks b held s.toBuffers) :
    Sat reuseCodecBuffer (fun _ t => Tracks b held t.toBuffers)
      (EndsAfter b) s := by
  unfold reuseCodecBuffer
  simp only [sat_bind, sat_get, sat_check, sat_ite, sat_pure, sat_modifyControl]
  refine ⟨fun _ => ⟨fun _ => ?_, fun _ => h.endsAfter _⟩, fun _ =>
    ⟨fun _ => submitEndOfInputStream_l_tracks h, fun _ =>
      ⟨fun _ => ?_, fun _ => h⟩⟩⟩
  · exact fillCodecBuffer_l_tracks hb h
  · exact repeatLatestBuffer_l_tracks h

theorem resumeNow_tracks (h : Tracks b held s.toBuffers) :
    Sat resumeNow (fun _ t => Tracks b held t.toBuffers) (EndsAfter b) s := by
  unfold resumeNow
  simp only [sat_bind, sat_get, sat_ite, sat_pure, sat_modifyControl]
  refine ⟨fun _ => ?_, fun _ => h⟩
  apply (repeatLatestBuffer_l_tracks (h.withControl _)).imp
  intro repeated t ht
  exact ⟨fun _ => ht, fun _ => ht⟩

end Functions

/-!
# Arrivals
-/

namespace Buffers

def emptied (b : Buffers) (mExecuting : Bool) (id : CodecBufferId)
    (fenceFd : Int) : Buffers :=
  match b.mSubmittedCodecBuffers.find? id with
  | none => (b.note (.emptied id fenceFd none false)).autoclose fenceFd
  | some none =>
      ((b.note (.emptied id fenceFd (some none) false)).takeBack id).autoclose
        fenceFd
  | some (some buffer) =>
      if mExecuting then
        ((b.note (.emptied id fenceFd (some (some buffer)) true)).takeBack
          id).addReleaseFenceFd buffer fenceFd
      else
        (((b.note (.emptied id fenceFd (some (some buffer)) false)).takeBack
          id).unhold buffer).autoclose fenceFd

/-- What a codec buffer that is added does. -/
def added (b : Buffers) (mExecuting : Bool) (id : CodecBufferId) : Buffers :=
  if mExecuting then b else b.addCodecBuffer id

def arrival (b : Buffers) (mExecuting : Bool) : Request -> Buffers
  | .queueFrame item => b.queueFrame item
  | .call .onFrameAvailable _ => b.countAvailable
  | .call (.onInputBufferAdded id) _ => b.added mExecuting id
  | .call (.onInputBufferEmptied id fenceFd) _ =>
      b.emptied mExecuting id fenceFd
  | .call .release _ => b.clearCodecBuffers.note .released
  | .call _ _ => b

theorem sound_unhold {b : Buffers} (h : Sound b) (a : AcquiredBuffer) :
    Sound (b.unhold a) := by
  constructor
  · rw [unhold_toFrames]
    exact h.num
  · rw [inOrder_unhold]
    unfold available
    rw [unhold_toFrames]
    exact h.order

theorem sound_autoclose {b : Buffers} (h : Sound b) (fd : Int) :
    Sound (b.autoclose fd) := by
  unfold autoclose
  split
  · exact ⟨h.num, (inOrder_note rfl rfl).mpr h.order⟩
  · exact h

theorem sound_emptied {b : Buffers} (h : Sound b) (mExecuting : Bool)
    (id : CodecBufferId) (fenceFd : Int) :
    Sound (b.emptied mExecuting id fenceFd) := by
  have hback : forall held kept, Sound
      ((b.note (.emptied id fenceFd held kept)).takeBack id) := by
    intro held kept
    exact ⟨h.num, (inOrder_note (e := .emptied id fenceFd held kept) rfl rfl).mpr
      h.order⟩
  unfold emptied
  split
  · apply sound_autoclose
    exact ⟨h.num, (inOrder_note rfl rfl).mpr h.order⟩
  · apply sound_autoclose
    exact hback (some none) false
  · rename_i buffer _
    split
    · exact ⟨h.num, (hback (some (some buffer)) true).order⟩
    · apply sound_autoclose
      apply sound_unhold
      exact hback (some (some buffer)) false

theorem sound_added {b : Buffers} (h : Sound b) (mExecuting : Bool)
    (id : CodecBufferId) : Sound (b.added mExecuting id) := by
  unfold added
  split
  · exact h
  · exact ⟨h.num, (inOrder_note (e := .codecBufferAdded id) rfl rfl).mpr h.order⟩

theorem sound_arrival {b : Buffers} (h : Sound b) (mExecuting : Bool)
    (r : Request) : Sound (b.arrival mExecuting r) := by
  cases r with
  | queueFrame item =>
      exact ⟨h.num, (inOrder_note (e := .queued item) rfl rfl).mpr h.order⟩
  | call op answers =>
      cases op with
      | onFrameAvailable =>
          have hnum := h.num
          refine ⟨?_, (inOrder_note (e := .frameAvailable) rfl rfl).mpr h.order⟩
          show 0 <= b.mNumAvailableUnacquiredBuffers + 1
          lia
      | onInputBufferAdded id => exact sound_added h mExecuting id
      | onInputBufferEmptied id fenceFd =>
          exact sound_emptied h mExecuting id fenceFd
      | release =>
          exact ⟨h.num, (inOrder_note (e := .released) rfl rfl).mpr h.order⟩
      | _ => exact h

theorem autoclose_log (b : Buffers) (fd : Int) :
    exists tail, (b.autoclose fd).log = b.log ++ tail ∧
      forall e, e ∈ tail -> e.endsLife = true := by
  unfold autoclose
  split
  · refine ⟨[.closed fd], rfl, ?_⟩
    intro e he
    rw [List.mem_singleton.mp he]
    rfl
  · exact ⟨[], (List.append_nil _).symm, by simp⟩

theorem emptied_log (b : Buffers) (mExecuting : Bool) (id : CodecBufferId)
    (fenceFd : Int) :
    exists held kept tail,
      (b.emptied mExecuting id fenceFd).log =
        b.log ++ .emptied id fenceFd held kept :: tail ∧
      forall e, e ∈ tail -> e.endsLife = true := by
  unfold emptied
  split
  · rcases autoclose_log (b.note (.emptied id fenceFd none false)) fenceFd with
      ⟨tail, hlog, htail⟩
    refine ⟨none, false, tail, ?_, htail⟩
    rw [hlog]
    exact List.append_assoc _ _ _
  · rcases autoclose_log
      ((b.note (.emptied id fenceFd (some none) false)).takeBack id) fenceFd
      with ⟨tail, hlog, htail⟩
    refine ⟨some none, false, tail, ?_, htail⟩
    rw [hlog]
    exact List.append_assoc _ _ _
  · rename_i buffer _
    split
    · exact ⟨some (some buffer), true, [], rfl, by simp⟩
    · rcases unhold_log ((b.note (.emptied id fenceFd (some (some buffer))
        false)).takeBack id) buffer with ⟨tail, hlog, htail⟩
      rcases autoclose_log ((((b.note (.emptied id fenceFd (some (some buffer))
        false)).takeBack id).unhold buffer)) fenceFd with ⟨tail', hlog', htail'⟩
      refine ⟨some (some buffer), false, tail ++ tail', ?_, ?_⟩
      · rw [hlog', hlog]
        show ((b.log ++ [_]) ++ tail) ++ tail' = _
        rw [List.append_assoc, List.append_assoc]
        rfl
      · intro e he
        rcases List.mem_append.mp he with he | he
        · exact htail e he
        · exact htail' e he

@[simp] theorem autoclose_toFrames (b : Buffers) (fd : Int) :
    (b.autoclose fd).toFrames = b.toFrames := by
  unfold autoclose
  split
  · rfl
  · rfl

@[simp] theorem autoclose_nextId (b : Buffers) (fd : Int) :
    (b.autoclose fd).nextId = b.nextId := by
  unfold autoclose
  split
  · rfl
  · rfl

theorem emptied_nextId (b : Buffers) (mExecuting : Bool) (id : CodecBufferId)
    (fenceFd : Int) : (b.emptied mExecuting id fenceFd).nextId = b.nextId := by
  unfold emptied
  split
  · exact autoclose_nextId _ _
  · exact autoclose_nextId _ _
  · split
    · rfl
    · rw [autoclose_nextId, unhold_nextId]
      rfl

theorem emptied_queue (b : Buffers) (mExecuting : Bool) (id : CodecBufferId)
    (fenceFd : Int) : (b.emptied mExecuting id fenceFd).queue = b.queue ∧
      (b.emptied mExecuting id fenceFd).mNumAvailableUnacquiredBuffers =
        b.mNumAvailableUnacquiredBuffers := by
  unfold emptied
  split
  · rw [autoclose_toFrames]
    exact ⟨rfl, rfl⟩
  · rw [autoclose_toFrames]
    exact ⟨rfl, rfl⟩
  · split
    · exact ⟨rfl, rfl⟩
    · rw [autoclose_toFrames, unhold_toFrames]
      exact ⟨rfl, rfl⟩

theorem arrival_queue (b : Buffers) (mExecuting : Bool) (r : Request) :
    (exists item, r = .queueFrame item) ∨
    (exists answers, r = .call .onFrameAvailable answers) ∨
    exists tail, LeavesQueue b (b.arrival mExecuting r) tail := by
  cases r with
  | queueFrame item => exact Or.inl ⟨item, rfl⟩
  | call op answers =>
      cases op with
      | onFrameAvailable => exact Or.inr (Or.inl ⟨answers, rfl⟩)
      | onInputBufferAdded id =>
          right
          right
          show exists tail, LeavesQueue b (b.added mExecuting id) tail
          unfold added
          split
          · exact ⟨[], leavesQueue_nil rfl rfl rfl (le_refl _)⟩
          · exact ⟨_, leavesQueue_event rfl rfl rfl rfl rfl (by simp)⟩
      | onInputBufferEmptied id fenceFd =>
          right
          right
          rcases emptied_log b mExecuting id fenceFd with
            ⟨held, kept, tail, hlog, htail⟩
          have hqueue := emptied_queue b mExecuting id fenceFd
          refine ⟨_, hlog, hqueue.1, hqueue.2,
            le_of_eq (emptied_nextId b mExecuting id fenceFd).symm, ?_, ?_⟩
          · intro e he
            rcases List.mem_cons.mp he with he | he
            · rw [he]
              rfl
            · exact ofQueue_endsLife e (htail e he)
          · intro err waiting hmem
            rcases List.mem_cons.mp hmem with hmem | hmem
            · cases hmem
            · cases htail _ hmem
      | release =>
          exact Or.inr (Or.inr
            ⟨_, leavesQueue_event rfl rfl rfl rfl rfl (by simp)⟩)
      | _ =>
          exact Or.inr (Or.inr ⟨[], leavesQueue_nil rfl rfl rfl (le_refl _)⟩)

theorem named_arrival {b : Buffers} (h : Named b) (mExecuting : Bool)
    (r : Request) : Named (b.arrival mExecuting r) := by
  rcases arrival_queue b mExecuting r with
    ⟨item, rfl⟩ | ⟨answers, rfl⟩ | ⟨tail, hquiet⟩
  · have hframes : acquiredFrames (b.queueFrame item).log = acquiredFrames b.log :=
      filterMap_snoc_of_none (f := Event.acquiredBuffer?) rfl _
    constructor
    · intro a ha
      exact h.ids a (hframes ▸ ha)
    · exact hframes ▸ h.distinct
  · have hframes : acquiredFrames b.countAvailable.log = acquiredFrames b.log :=
      filterMap_snoc_of_none (f := Event.acquiredBuffer?) rfl _
    constructor
    · intro a ha
      exact h.ids a (hframes ▸ ha)
    · exact hframes ▸ h.distinct
  · exact h.of_tail hquiet.log hquiet.silent hquiet.nextId

end Buffers

/-!
# Requests
-/

section Requests

variable {b : Buffers} {held : List AcquiredBuffer} {s : GraphicBufferSource}

theorem Tracks.refl (b : Buffers) : Tracks b b.locals b :=
  ⟨.refl, rfl⟩

theorem release_tracks (hlocals : s.locals = []) :
    Sat release
      (fun _ t =>
        Tracks (s.toBuffers.clearCodecBuffers.note .released) [] t.toBuffers)
      (EndsAfter (s.toBuffers.clearCodecBuffers.note .released)) s := by
  have h := Tracks.refl (s.toBuffers.clearCodecBuffers.note .released)
  have hheld : (s.toBuffers.clearCodecBuffers.note .released).locals =
      s.toBuffers.submitted ++ [] :=
    congrArg (s.toBuffers.submitted ++ ·) hlocals
  rw [hheld] at h
  unfold release
  simp only [sat_bind, sat_get, sat_modifyControl, sat_modifyBuffers,
    sat_unholdAll, sat_pure]
  apply assignLatest_tracks h.unholdAll none
  intro v hv
  cases hv

theorem onInputBufferAdded_tracks (bufferId : CodecBufferId)
    (hlocals : s.locals = []) :
    Sat (onInputBufferAdded bufferId)
      (fun _ t => Tracks (s.toBuffers.added s.mExecuting bufferId) [] t.toBuffers)
      (EndsAfter (s.toBuffers.added s.mExecuting bufferId)) s := by
  unfold onInputBufferAdded Buffers.added
  simp only [sat_bind, sat_get, sat_ite, sat_modifyBuffers, sat_pure]
  constructor
  · intro hexec
    rw [if_pos hexec]
    exact ⟨.refl, hlocals⟩
  · intro hexec
    rw [if_neg hexec]
    exact ⟨.refl, hlocals⟩

theorem autoclose_locals (b : Buffers) (fd : Int) :
    (b.autoclose fd).locals = b.locals := by
  unfold Buffers.autoclose
  split
  · rfl
  · rfl

theorem onInputBufferEmptied_tracks (bufferId : CodecBufferId) (fenceFd : Int)
    (hs : Buffers.Sound s.toBuffers) (hlocals : s.locals = []) :
    Sat (onInputBufferEmptied bufferId fenceFd)
      (fun _ t => Tracks (s.toBuffers.emptied s.mExecuting bufferId fenceFd) []
        t.toBuffers)
      (EndsAfter (s.toBuffers.emptied s.mExecuting bufferId fenceFd)) s := by
  have hb := Buffers.sound_emptied hs s.mExecuting bufferId fenceFd
  unfold onInputBufferEmptied
  simp only [sat_bind, sat_get]
  unfold Buffers.emptied at hb ⊢
  cases hfind : s.mSubmittedCodecBuffers.find? bufferId with
  | none =>
      refine ⟨.refl, ?_⟩
      exact (autoclose_locals _ _).trans hlocals
  | some entry =>
      have htaken : forall held kept,
          ((s.toBuffers.note (.emptied bufferId fenceFd held kept)).takeBack
            bufferId).locals = entry.toList := by
        intro held kept
        show (s.mSubmittedCodecBuffers.find? bufferId).join.toList ++ s.locals =
          entry.toList
        rw [hfind, hlocals, List.append_nil]
        rfl
      cases entry with
      | none =>
          refine ⟨.refl, ?_⟩
          exact (autoclose_locals _ _).trans (htaken (some none) false)
      | some buffer =>
          rw [hfind] at hb
          simp only [sat_ite, sat_bind, sat_modifyBuffers, sat_unhold, sat_pure,
            Bool.not_eq_true', Bool.not_eq_false]
          constructor
          · intro hexec
            rw [hexec]
            refine ⟨.refl, ?_⟩
            rw [autoclose_locals, Buffers.unhold_locals,
              htaken (some (some buffer)) false]
            exact List.erase_cons_head buffer []
          · intro hexec
            rw [hexec] at hb ⊢
            have hmem : buffer ∈ ((s.toBuffers.note (.emptied bufferId fenceFd
                (some (some buffer)) true)).takeBack bufferId).locals := by
              rw [htaken]
              exact List.mem_cons_self
            apply reuseCodecBuffer_tracks hb
            refine ⟨.single (.unhold buffer hmem), ?_⟩
            rw [Buffers.unhold_locals]
            show List.erase ((s.toBuffers.note (.emptied bufferId fenceFd
                (some (some buffer)) true)).takeBack bufferId).locals buffer = []
            rw [htaken]
            exact List.erase_cons_head buffer []

theorem onFrameAvailable_tracks (hs : Buffers.Sound s.toBuffers)
    (hlocals : s.locals = []) :
    Sat onFrameAvailable
      (fun _ t => Tracks s.toBuffers.countAvailable [] t.toBuffers)
      (EndsAfter s.toBuffers.countAvailable) s := by
  have hb : Buffers.Sound s.toBuffers.countAvailable :=
    Buffers.sound_arrival hs false (.call .onFrameAvailable {})
  have h : Tracks s.toBuffers.countAvailable []
      s.toBuffers.countAvailable := ⟨.refl, hlocals⟩
  have hnum : 0 < s.toBuffers.countAvailable.mNumAvailableUnacquiredBuffers := by
    have hnonneg := hs.num
    show 0 < s.mNumAvailableUnacquiredBuffers + 1
    lia
  unfold onFrameAvailable
  simp only [sat_bind, sat_get, sat_modifyBuffers, sat_ite, sat_modifyControl]
  refine ⟨fun _ => h, fun _ => ?_⟩
  apply (acquireBuffer_l_tracks (h.withControl s.toControl) .oneFrame hnum).imp
  intro r t ht
  cases r with
  | error err => exact ht.1
  | ok item =>
      have horder : t.toBuffers.InOrder
          (t.toBuffers.available ++ [item.mBuffer]) := by
        have hkept := ht.2.order _ hb.order
        unfold Buffers.available at hkept ⊢
        rw [ht.2.available]
        exact hkept
      apply Sat.bind (onBufferAcquired_l_tracks hb ht.1 horder)
      intro _ u hu
      exact hu.unhold

theorem setMaxAcquiredBufferCount_tracks (bufferCount : Int)
    (h : Tracks b held s.toBuffers) :
    Sat (setMaxAcquiredBufferCount bufferCount) (fun _ t => Tracks b held t.toBuffers)
      (EndsAfter b) s := by
  have hnote := h.note (e := .setMaxAcquiredBufferCount bufferCount) rfl
  unfold setMaxAcquiredBufferCount
  simp only [sat_bind, sat_note, sat_get, sat_ite, sat_pure]
  exact ⟨fun _ => discardMasked_tracks (hnote.withControl s.toControl) _ _ _,
    fun _ => hnote⟩

theorem configure_tracks (args : ConfigureArgs)
    (h : Tracks b held s.toBuffers) :
    Sat (configure args) (fun _ t => Tracks b held t.toBuffers)
      (EndsAfter b) s := by
  unfold configure
  rw [sat_bind, sat_get]
  cases args.component with
  | none => exact h
  | some component =>
      apply (setMaxAcquiredBufferCount_tracks args.bufferCount h).bind
      intro _ t hmax
      simp only [sat_bind, sat_note, sat_ite, sat_pure, sat_modifyControl]
      have hsize := hmax.note
        (e := .setDefaultBufferSize args.frameWidth args.frameHeight) rfl
      have husage := hsize.note (e := .setConsumerUsageBits
        (args.consumerUsage ||| grallocUsageHwVideoEncoder)) rfl
      have hformat := husage.note
        (e := .setDefaultBufferFormat halPixelFormatImplementationDefined) rfl
      have hspace := hformat.note (e := .setDefaultBufferDataSpace args.dataSpace)
        rfl
      have hdone := hspace.note (e := .configured) rfl
      refine ⟨fun _ => hmax, fun _ => ⟨fun _ => hsize, fun _ =>
        ⟨fun _ => hformat, fun _ => ?_⟩⟩⟩
      apply assignLatest_tracks (hdone.withControl _) none
      intro v hv
      cases hv

theorem setSuspend_tracks (suspend : Bool) (suspendStartTimeUs : Int)
    (h : Tracks b held s.toBuffers) :
    Sat (setSuspend suspend suspendStartTimeUs)
      (fun _ t => Tracks b held t.toBuffers) (EndsAfter b) s := by
  unfold setSuspend
  simp only [sat_bind, sat_get, sat_ite, sat_pure, sat_modifyControl]
  refine ⟨fun _ => h, fun _ => ⟨fun _ => ⟨fun _ => h, fun _ => h⟩, fun _ =>
    ⟨fun _ => ?_, fun _ => ?_⟩⟩⟩
  · exact releaseAllAvailableBuffers_l_tracks (h.withControl _)
  · exact resumeNow_tracks h

theorem signalEndOfInputStream_tracks (h : Tracks b held s.toBuffers) :
    Sat signalEndOfInputStream (fun _ t => Tracks b held t.toBuffers)
      (EndsAfter b) s := by
  unfold signalEndOfInputStream
  simp only [sat_bind, sat_get, sat_ite, sat_pure, sat_modifyControl]
  exact ⟨fun _ => h, fun _ => ⟨fun _ =>
    submitEndOfInputStream_l_tracks (h.withControl _), fun _ => h⟩⟩

theorem onMessageReceived_tracks (generation : Int)
    (h : Tracks b held s.toBuffers) :
    Sat (onMessageReceived generation) (fun _ t => Tracks b held t.toBuffers)
      (EndsAfter b) s := by
  unfold onMessageReceived
  simp only [sat_bind, sat_get, sat_ite, sat_pure, sat_modifyControl]
  refine ⟨fun _ => h, fun _ => ⟨fun _ => h, fun _ => ?_⟩⟩
  apply (repeatLatestBuffer_l_tracks h).imp
  intro success t ht
  exact ⟨fun _ => ht, fun _ => ht⟩

def Op.isSetter : Op -> Bool
  | .stop => true
  | .setRepeatPreviousFrameDelayUs _ => true
  | .setTimeOffsetUs _ => true
  | .setMaxFps _ => true
  | .setStartTimeUs _ => true
  | .setStopTimeUs _ => true
  | .getStopTimeOffsetUs => true
  | .setTimeLapseConfig _ _ => true
  | .setColorAspects _ => true
  | _ => false

theorem setter_sat {E : Abort -> GraphicBufferSource -> Prop} {op : Op}
    (hop : op.isSetter = true) :
    Sat (perform op) (fun _ t => t.toBuffers = s.toBuffers) E s := by
  cases op with
  | stop => rfl
  | setRepeatPreviousFrameDelayUs repeatAfterUs =>
      unfold perform setRepeatPreviousFrameDelayUs
      simp only [sat_bind, sat_get, sat_ite, sat_pure, sat_modifyControl]
      exact ⟨fun _ => trivial, fun _ => trivial⟩
  | setTimeOffsetUs timeOffsetUs =>
      unfold perform setTimeOffsetUs
      simp only [sat_bind, sat_ite, sat_pure, sat_modifyControl]
      exact ⟨fun _ => trivial, fun _ => trivial⟩
  | setMaxFps maxFps =>
      unfold perform setMaxFps
      simp only [sat_bind, sat_get, sat_ite, sat_pure, sat_modifyControl]
      exact ⟨fun _ => trivial, fun _ => ⟨fun _ => trivial, fun _ => trivial⟩⟩
  | setStartTimeUs skipFramesBeforeUs => rfl
  | setStopTimeUs stopTimeUs =>
      unfold perform setStopTimeUs
      simp only [sat_bind, sat_get, sat_ite, sat_pure, sat_modifyControl]
      exact ⟨fun _ => trivial, fun _ => ⟨fun _ => trivial, fun _ => trivial⟩⟩
  | getStopTimeOffsetUs =>
      unfold perform getStopTimeOffsetUs
      simp only [sat_bind, sat_get, sat_ite, sat_pure]
      exact ⟨fun _ => trivial, fun _ => trivial⟩
  | setTimeLapseConfig fps captureFps =>
      unfold perform setTimeLapseConfig
      simp only [sat_bind, sat_get, sat_ite, sat_pure, sat_modifyControl]
      exact ⟨fun _ => trivial, fun _ => trivial⟩
  | setColorAspects aspectsPacked => rfl
  | _ => cases hop

theorem perform_tracks (op : Op) (answers : Answers)
    (hs : Buffers.Sound s.toBuffers) (hlocals : s.locals = []) :
    Sat (perform op)
      (fun _ t => Tracks (s.toBuffers.arrival s.mExecuting (.call op answers)) []
        t.toBuffers)
      (EndsAfter (s.toBuffers.arrival s.mExecuting (.call op answers))) s := by
  have h : Tracks s.toBuffers [] s.toBuffers := ⟨.refl, hlocals⟩
  have hsetter : op.isSetter = true -> Sat (perform op)
      (fun _ t => Tracks s.toBuffers [] t.toBuffers) (EndsAfter s.toBuffers) s := by
    intro hop
    apply (setter_sat hop).imp
    intro _ t ht
    rw [ht]
    exact h
  cases op with
  | start => exact sat_bind.mpr (start_tracks hs h)
  | release => exact sat_bind.mpr (release_tracks hlocals)
  | onInputBufferAdded bufferId =>
      exact sat_bind.mpr (onInputBufferAdded_tracks bufferId hlocals)
  | onInputBufferEmptied bufferId fenceFd =>
      exact sat_bind.mpr (onInputBufferEmptied_tracks bufferId fenceFd hs hlocals)
  | onFrameAvailable => exact sat_bind.mpr (onFrameAvailable_tracks hs hlocals)
  | onBuffersReleased => exact sat_bind.mpr (discardMasked_tracks h _ _ _)
  | configure args => exact sat_bind.mpr (configure_tracks args h)
  | setSuspend suspend suspendStartTimeUs =>
      exact sat_bind.mpr (setSuspend_tracks suspend suspendStartTimeUs h)
  | signalEndOfInputStream => exact sat_bind.mpr (signalEndOfInputStream_tracks h)
  | onMessageReceived generation =>
      exact sat_bind.mpr (onMessageReceived_tracks generation h)
  | _ => exact hsetter rfl

theorem exec_tracks (r : Request) (hs : Buffers.Sound s.toBuffers)
    (hlocals : s.locals = []) :
    Sat (exec r)
      (fun _ t => Tracks (s.toBuffers.arrival s.mExecuting r) [] t.toBuffers)
      (EndsAfter (s.toBuffers.arrival s.mExecuting r)) s := by
  cases r with
  | queueFrame item => exact ⟨.refl, hlocals⟩
  | call op answers => exact perform_tracks op answers hs hlocals

/-!
# Runs
-/

structure Between (s : GraphicBufferSource) : Prop where
  sound : Buffers.Sound s.toBuffers
  named : Buffers.Named s.toBuffers
  locals : s.locals = []

theorem between_initial : Between .initial := by
  constructor
  · constructor
    · exact le_refl 0
    · exact List.Sublist.refl []
  · constructor
    · intro a ha
      cases ha
    · exact List.nodup_nil
  · rfl

def Aborted (P : Buffers -> Prop) (_ : Abort) (s : GraphicBufferSource) : Prop :=
  exists b, Buffers.Sound b ∧ Buffers.Named b ∧ P b ∧ b.log = s.log

variable {P : Buffers -> Prop} {C : GraphicBufferSource -> Request -> Prop}

theorem exec_keeps
    (hstep : forall b b', Buffers.Step b b' -> P b -> P b')
    {r : Request} (hs : Between s)
    (harrival : P (s.toBuffers.arrival s.mExecuting r)) :
    Sat (exec r) (fun _ t => Between t ∧ P t.toBuffers) (Aborted P) s := by
  apply (exec_tracks r hs.sound hs.locals).mono
  · intro _ t ht
    have hsound := ht.sound (Buffers.sound_arrival hs.sound s.mExecuting r)
    have hnamed := Buffers.steps_keep (fun _ _ => Buffers.named_step) ht.steps
      (Buffers.named_arrival hs.named s.mExecuting r)
    exact ⟨⟨hsound, hnamed, ht.locals⟩,
      Buffers.steps_keep hstep ht.steps harrival⟩
  · intro _ t ht
    rcases ht with ⟨b', hsteps, hlog⟩
    exact ⟨b', Buffers.sound_steps hsteps (Buffers.sound_arrival hs.sound s.mExecuting r),
      Buffers.steps_keep (fun _ _ => Buffers.named_step) hsteps
        (Buffers.named_arrival hs.named s.mExecuting r),
      Buffers.steps_keep hstep hsteps harrival, hlog⟩

theorem run_keeps
    (hstep : forall b b', Buffers.Step b b' -> P b -> P b')
    (harrival : forall s r, Between s -> P s.toBuffers -> C s r ->
      P (s.toBuffers.arrival s.mExecuting r))
    (requests : List Request) (hs : Between s) (hP : P s.toBuffers)
    (hC : Along exec C requests s) :
    Sat (run exec requests) (fun _ t => Between t ∧ P t.toBuffers) (Aborted P)
      s := by
  apply run_sat (P := C) ?_ requests s ⟨hs, hP⟩ hC
  intro s r hinv hcond
  exact exec_keeps hstep hinv.1 (harrival s r hinv.1 hinv.2 hcond)

theorem reaches_keeps
    (hstep : forall b b', Buffers.Step b b' -> P b -> P b')
    (harrival : forall s r, Between s -> P s.toBuffers -> C s r ->
      P (s.toBuffers.arrival s.mExecuting r))
    (hinitial : P GraphicBufferSource.initial.toBuffers)
    {requests : List Request} (hs : Reaches requests s)
    (hC : Along exec C requests .initial) : Between s ∧ P s.toBuffers := by
  rcases hs with ⟨replies, hrun⟩
  have hsat := run_keeps hstep harrival requests between_initial hinitial hC
  exact (sat_of_ok hrun).mp hsat

theorem ends_keeps
    (hstep : forall b b', Buffers.Step b b' -> P b -> P b')
    (harrival : forall s r, Between s -> P s.toBuffers -> C s r ->
      P (s.toBuffers.arrival s.mExecuting r))
    (hinitial : P GraphicBufferSource.initial.toBuffers)
    {requests : List Request} (hs : Ends requests s)
    (hC : Along exec C requests .initial) :
    exists b, Buffers.Sound b ∧ Buffers.Named b ∧ P b ∧ b.log = s.log := by
  have hsat := run_keeps hstep harrival requests between_initial hinitial hC
  rcases hs with ⟨replies, hrun⟩ | ⟨e, hrun⟩
  · rcases (sat_of_ok hrun).mp hsat with ⟨hbetween, hP⟩
    exact ⟨s.toBuffers, hbetween.sound, hbetween.named, hP, rfl⟩
  · exact (sat_of_error hrun).mp hsat

end Requests

end Bqhelper
end Sm7225
