import Sm7225.Lib.Leads
import Sm7225.Bqhelper.ActionReplay
import Sm7225.Bqhelper.Order

/-!
# The arrival of a frame

The source should acquire a frame only if it can pass a frame on at once, or throws
the new one away.  It also acquires while it is not executing, and then it keeps the
frame.
-/

namespace Sm7225
namespace Bqhelper

open Lib

/-!
# What an arrival may do
-/

def GraphicBufferSource.defersArrival (s : GraphicBufferSource) : Bool :=
  !s.areWeDiscardingAvailableBuffers_l && s.mFreeCodecBuffers.isEmpty

structure LeavesFrame (s t : GraphicBufferSource) : Prop where
  frames : t.toFrames = s.toBuffers.countAvailable.toFrames
  acquisitions : acquisitions t.log = acquisitions s.log
  control : t.toControl = { s.toControl with
    mRepeatLastFrameGeneration :=
      if s.defersArrival then
        s.mRepeatLastFrameGeneration + 1
      else
        s.mRepeatLastFrameGeneration
    answers := t.answers }

structure PassesFrame (s t : GraphicBufferSource) : Prop where
  acquired : exists bi buffer others, s.queue.head? = some bi ∧
    acquisitions t.log = acquisitions s.log ++ (bi, buffer) :: others ∧
      (others = [] ∨ t.mAvailableBuffers = [])
  kept : t.mAvailableBuffers.length <= s.mAvailableBuffers.length

structure ServesArrival (s t : GraphicBufferSource) : Prop where
  frame : LeavesFrame s t ∨ PassesFrame s t
  discarded : s.areWeDiscardingAvailableBuffers_l = true ->
    t.mAvailableBuffers = s.mAvailableBuffers

/-- Each call of {lit}`onFrameAvailable` that returns has served the arrival. -/
def ArrivalServed (s : GraphicBufferSource) (r : Request) (_ : Reply)
    (t : GraphicBufferSource) : Prop :=
  forall answers, r = .call .onFrameAvailable answers -> ServesArrival s t

structure HandsOut (s : GraphicBufferSource) (answers : Answers) : Prop where
  status : answers.nextAcquire .oneFrame = .ok
  frame : exists bi, s.queue.head? = some bi ∧
    (bi.mGraphicBuffer.isSome = true ∨ (s.mBufferSlots.find? bi.mSlot).isSome = true)

structure OnlyIdle (c : Control) : Prop where
  executing : c.mExecuting = false
  sent : c.mEndOfStreamSent = false
  component : c.mComponent.isSome = true
  resumed : c.mSuspended = true -> c.mActionQueue ≠ []

/-- The source acquires the new frame and keeps it. -/
def KeepsArrival (s : GraphicBufferSource) : Request -> Prop
  | .call .onFrameAvailable answers => OnlyIdle s.toControl ∧ HandsOut s answers
  | _ => False

theorem onlyIdle_discards {c : Control} (h : OnlyIdle c) :
    c.areWeDiscardingAvailableBuffers_l = true := by
  unfold Control.areWeDiscardingAvailableBuffers_l
  rw [h.executing]
  simp

/-!
# What leaves the available frames alone
-/

structure SameFrames (s t : GraphicBufferSource) : Prop where
  available : t.mAvailableBuffers = s.mAvailableBuffers
  acquisitions : acquisitions t.log = acquisitions s.log

theorem SameFrames.trans {s t u : GraphicBufferSource} (h : SameFrames s t)
    (h' : SameFrames t u) : SameFrames s u :=
  ⟨h'.available.trans h.available, h'.acquisitions.trans h.acquisitions⟩

instance : Std.Refl SameFrames :=
  ⟨fun _ => ⟨rfl, rfl⟩⟩

instance : IsTrans GraphicBufferSource SameFrames :=
  ⟨fun _ _ _ h h' => h.trans h'⟩

theorem acquisition_endsLife (e : Event) (h : e.endsLife = true) :
    e.acquisition? = none := by
  cases e <;> first | rfl | cases h

namespace SameFrames

theorem modifyControl (f : Control -> Control) : Leads SameFrames (modifyControl f) :=
  leads_modify fun _ => ⟨rfl, rfl⟩

theorem unhold (a : AcquiredBuffer) : Leads SameFrames (unhold a) := by
  apply leads_modify
  intro s
  constructor
  · show (s.toBuffers.unhold a).mAvailableBuffers = _
    rw [Buffers.unhold_toFrames]
  · exact Buffers.filterMap_log_unhold acquisition_endsLife s.toBuffers a

theorem unholdAll (as : List AcquiredBuffer) : Leads SameFrames (unholdAll as) := by
  induction as with
  | nil => exact leads_modify fun _ => ⟨rfl, rfl⟩
  | cons a as ih => exact (unhold a).bind fun _ => ih

theorem walk : Walk SameFrames where
  control := fun _ => modifyControl _
  note := fun hnone => leads_modify fun _ => ⟨rfl, filterMap_snoc_of_none hnone _⟩
  unholdAll := unholdAll
  submit := fun _ _ => leads_modify fun _ => ⟨rfl, rfl⟩
  setLatest := fun _ => leads_modify fun _ => ⟨rfl, rfl⟩
  retimeLatest := fun _ => leads_modify fun _ => ⟨rfl, rfl⟩

theorem performActions (itemTimeUs : Int) :
    Leads SameFrames (performActions itemTimeUs) :=
  leads_performActions (fun _ => modifyControl _) (fun _ => modifyControl _) itemTimeUs

end SameFrames

/-!
# All frames are released
-/

structure DropsFrames (s t : GraphicBufferSource) : Prop where
  available : t.mAvailableBuffers = []
  acquisitions : acquisitions s.log <+: acquisitions t.log

theorem DropsFrames.same {s t u : GraphicBufferSource} (h : DropsFrames s t)
    (h' : SameFrames t u) : DropsFrames s u where
  available := h'.available.trans h.available
  acquisitions := by
    rw [h'.acquisitions]
    exact h.acquisitions

section Functions

variable {s : GraphicBufferSource}

theorem acquireBuffer_l_arrives :
    Sat (acquireBuffer_l .oneFrame)
      (fun r t =>
        match r with
        | .error _ => ¬HandsOut s s.answers ∧ t.toFrames = s.toFrames ∧
            acquisitions t.log = acquisitions s.log ∧
            t.toControl = { s.toControl with
              answers := s.answers.popAcquire .oneFrame }
        | .ok item => HandsOut s s.answers ∧ (exists bi, s.queue.head? = some bi ∧
              acquisitions t.log = acquisitions s.log ++ [(bi, item.mBuffer)]) ∧
            t.toFrames = s.toBuffers.dequeue.toFrames ∧
            t.toControl = { s.toControl with
              answers := s.answers.popAcquire .oneFrame })
      (fun _ _ => ¬HandsOut s s.answers) s := by
  unfold acquireBuffer_l consumerAcquireBuffer
  simp only [sat_bind, sat_get, sat_modifyControl, sat_ite, sat_note, sat_pure]
  constructor
  · intro herr
    refine ⟨fun h => herr h.status, rfl, ?_, trivial⟩
    exact filterMap_snoc_of_none (f := Event.acquisition?) rfl _
  · intro hok
    rw [not_not] at hok
    cases hqueue : s.queue with
    | nil =>
        refine ⟨fun h => ?_, rfl, ?_⟩
        · rcases h.frame with ⟨bi, hhead, _⟩
          rw [hqueue] at hhead
          cases hhead
        · exact ⟨filterMap_snoc_of_none (f := Event.acquisition?) rfl _, rfl⟩
    | cons bi rest =>
        unfold adoptItem cacheBuffer
        simp only [sat_bind, sat_pure, sat_modifyBuffers, sat_get]
        cases hgb : bi.mGraphicBuffer with
        | none =>
            cases hslot : s.mBufferSlots.find? bi.mSlot with
            | none =>
                simp only [Buffers.dequeue, hslot, sat_throw]
                intro h
                rcases h.frame with ⟨bi', hhead, hgb' | hslot'⟩
                · rw [hqueue] at hhead
                  cases hhead
                  rw [hgb] at hgb'
                  cases hgb'
                · rw [hqueue] at hhead
                  cases hhead
                  rw [hslot] at hslot'
                  cases hslot'
            | some c =>
                simp only [Buffers.dequeue, hslot, sat_pure]
                have hhands : HandsOut s s.answers :=
                  ⟨hok, bi, congrArg List.head? hqueue, Or.inr (by rw [hslot]; rfl)⟩
                exact ⟨hhands, ⟨bi, rfl,
                  filterMap_snoc_of_some (f := Event.acquisition?) rfl _⟩, rfl,
                  trivial⟩
        | some gb =>
            cases hslot : s.mBufferSlots.find? bi.mSlot with
            | none =>
                simp only [Buffers.dequeue, hslot, sat_pure, sat_bind,
                  sat_modifyBuffers]
                have hhands : HandsOut s s.answers :=
                  ⟨hok, bi, congrArg List.head? hqueue, Or.inl (by rw [hgb]; rfl)⟩
                exact ⟨hhands, ⟨bi, rfl,
                  filterMap_snoc_of_some (f := Event.acquisition?) rfl _⟩, rfl,
                  trivial⟩
            | some old =>
                simp only [Buffers.dequeue, hslot, sat_pure, sat_bind,
                  sat_modifyBuffers, discardBufferAtSlotIndex_l]
                have hhands : HandsOut s s.answers :=
                  ⟨hok, bi, congrArg List.head? hqueue, Or.inl (by rw [hgb]; rfl)⟩
                refine ⟨hhands, ⟨bi, rfl, ?_⟩, rfl, trivial⟩
                have hdiscarded : acquisitions (s.log ++ [.discarded old]) =
                    acquisitions s.log := filterMap_snoc_of_none (f := Event.acquisition?) rfl _
                rw [← hdiscarded]
                exact filterMap_snoc_of_some (f := Event.acquisition?) rfl _

theorem acquireBuffer_l_drains (hnone : s.mAvailableBuffers = []) :
    Sat (acquireBuffer_l .drain) (fun _ t => DropsFrames s t) (fun _ _ => True)
      s := by
  apply (acquireBuffer_l_takes .drain).mono
  · intro r t ht
    rcases ht with ⟨_, ht⟩
    cases r with
    | error err =>
        rcases ht with ⟨hframes, hlog, _⟩
        constructor
        · rw [hframes]
          exact hnone
        · rcases hlog with ⟨tail, hlog, _⟩
          unfold Bqhelper.acquisitions
          rw [hlog, List.filterMap_append]
          exact List.prefix_append _ _
    | ok item =>
        rcases ht with ⟨bi, _, hadopts⟩
        constructor
        · rw [hadopts.frames]
          exact hnone
        · rcases hadopts.log with ⟨quiet, ⟨tail, hquiet, _⟩, hlog⟩
          unfold Bqhelper.acquisitions
          rw [hlog, hquiet, List.filterMap_append, List.filterMap_append,
            List.append_assoc]
          exact List.prefix_append _ _
  · intro _ _ _
    trivial

theorem drainUnacquired_drops (n : Nat) (hnone : s.mAvailableBuffers = []) :
    Sat (drainUnacquired n) (fun _ t => DropsFrames s t) (fun _ _ => True) s := by
  induction n generalizing s with
  | zero => exact ⟨hnone, List.prefix_rfl⟩
  | succ n ih =>
      unfold drainUnacquired
      rw [sat_bind, sat_get, sat_ite]
      refine ⟨fun _ => ?_, fun _ => ⟨hnone, List.prefix_rfl⟩⟩
      apply (acquireBuffer_l_drains hnone).bind
      intro r t ht
      cases r with
      | error err => exact ht
      | ok item =>
          rw [sat_bind, sat_unhold]
          have hunhold := SameFrames.unhold item.mBuffer t
          have hu := ht.same hunhold
          apply (ih hu.available).imp
          intro _ v hv
          exact ⟨hv.available, hu.acquisitions.trans hv.acquisitions⟩

theorem releaseAllAvailableBuffers_l_drops :
    Sat releaseAllAvailableBuffers_l (fun _ t => DropsFrames s t) (fun _ _ => True)
      s := by
  unfold releaseAllAvailableBuffers_l
  rw [sat_bind, sat_get, sat_bind, sat_modifyBuffers, sat_bind]
  have hcleared : DropsFrames s { s with toBuffers := s.toBuffers.clearAvailable } :=
    ⟨rfl, List.prefix_rfl⟩
  apply (SameFrames.unholdAll _ _).mono
  · intro _ t ht
    have hdrops := hcleared.same ht
    apply (drainUnacquired_drops _ hdrops.available).imp
    intro _ u hu
    exact ⟨hu.available, hdrops.acquisitions.trans hu.acquisitions⟩
  · intro _ _ _
    trivial

theorem processFrame_passes (item : VideoBuffer) :
    Sat (processFrame item) (fun _ t => SameFrames s t ∨ DropsFrames s t)
      (fun _ _ => True) s := by
  unfold processFrame
  rw [sat_bind]
  apply (SameFrames.performActions _ s).mono
  · intro seeStopAction t ht
    cases seeStopAction with
    | true =>
        rw [if_pos rfl, sat_bind]
        apply releaseAllAvailableBuffers_l_drops.imp
        intro _ u hu
        have hall : DropsFrames s u :=
          ⟨hu.available, by
            rw [← ht.acquisitions]
            exact hu.acquisitions⟩
        rw [sat_bind, sat_modifyControl]
        apply (SameFrames.walk.submitEndOfInputStream_l _).mono
        · intro _ v hv
          exact Or.inr (hall.same ⟨hv.available, hv.acquisitions⟩)
        · intro _ _ _
          trivial
    | false =>
        rw [if_neg Bool.false_ne_true, sat_bind, sat_get, sat_ite]
        refine ⟨fun _ => Or.inl ht, fun _ => ?_⟩
        rw [sat_bind]
        apply (SameFrames.walk.skipDropOrSubmit item t).mono
        · intro err u hu
          rw [sat_ite]
          refine ⟨fun _ => Or.inl (ht.trans hu), fun _ => ?_⟩
          apply (SameFrames.walk.recordFrame item _ u).mono
          · intro _ v hv
            exact Or.inl ((ht.trans hu).trans hv)
          · intro _ _ _
            trivial
        · intro _ _ _
          trivial
  · intro _ _ _
    trivial

theorem fillCodecBuffer_l_passes {first : VideoBuffer} {rest : List VideoBuffer}
    (havailable : s.mAvailableBuffers = first :: rest)
    (hfree : s.mFreeCodecBuffers.isEmpty = false) :
    Sat fillCodecBuffer_l
      (fun _ t => (t.mAvailableBuffers = rest ∧
          acquisitions t.log = acquisitions s.log) ∨ DropsFrames s t)
      (fun _ _ => True) s := by
  unfold fillCodecBuffer_l
  rw [sat_bind, sat_get, sat_bind, sat_check]
  refine ⟨fun _ => ?_, fun _ => trivial⟩
  rw [hfree, if_neg Bool.false_ne_true, sat_bind]
  unfold takeFrame
  rw [sat_bind, sat_get, havailable]
  rw [sat_bind, sat_modifyBuffers, sat_pure]
  have htake := Buffers.takeAvailable_eq havailable
  have htaken : s.toBuffers.takeAvailable.mAvailableBuffers = rest := by
    rw [htake]
  have hlog : s.toBuffers.takeAvailable.log = s.log := by
    rw [htake]
  rw [sat_bind]
  apply (processFrame_passes first).imp
  intro _ t ht
  rw [sat_bind, sat_unhold, sat_pure]
  have hunhold := SameFrames.unhold first.mBuffer t
  rcases ht with hsame | hdrops
  · left
    have hboth := hsame.trans hunhold
    constructor
    · exact hboth.available.trans htaken
    · rw [← hlog]
      exact hboth.acquisitions
  · right
    have hboth := hdrops.same hunhold
    constructor
    · exact hboth.available
    · rw [← hlog]
      exact hboth.acquisitions

theorem onBufferAcquired_l_passes (item : VideoBuffer)
    (hfree : s.areWeDiscardingAvailableBuffers_l = false ->
      s.mFreeCodecBuffers.isEmpty = false) :
    Sat (onBufferAcquired_l item)
      (fun _ t => (s.areWeDiscardingAvailableBuffers_l = true ->
          ¬OnlyIdle s.toControl -> SameFrames s t) ∧
        (s.areWeDiscardingAvailableBuffers_l = false ->
          (t.mAvailableBuffers.length = s.mAvailableBuffers.length ∧
            acquisitions t.log = acquisitions s.log) ∨ DropsFrames s t))
      (fun _ _ => s.areWeDiscardingAvailableBuffers_l = false) s := by
  unfold onBufferAcquired_l
  rw [sat_bind, sat_get, sat_ite]
  constructor
  · intro hsent
    refine ⟨fun _ _ => ⟨rfl, rfl⟩, fun hnot => ?_⟩
    unfold Control.areWeDiscardingAvailableBuffers_l at hnot
    rw [hsent] at hnot
    cases hnot
  · intro hsent
    rw [Bool.not_eq_true] at hsent
    rw [sat_ite]
    constructor
    · intro hignored
      refine ⟨fun _ _ => ⟨rfl, rfl⟩, fun hnot => ?_⟩
      unfold Control.areWeDiscardingAvailableBuffers_l at hnot
      rw [hsent, Bool.false_or, hignored] at hnot
      cases hnot
    · intro hignored
      rw [Bool.not_eq_true] at hignored
      rw [sat_bind, sat_modifyControl, sat_bind, sat_modifyBuffers, sat_ite]
      have hdiscards : s.areWeDiscardingAvailableBuffers_l = !s.mExecuting := by
        unfold Control.areWeDiscardingAvailableBuffers_l
        rw [hsent, Bool.false_or, hignored, Bool.false_or]
      rw [Bool.or_eq_false_iff] at hignored
      constructor
      · intro hexecuting
        have hexecuting' : s.mExecuting = true := hexecuting
        rw [hexecuting'] at hdiscards
        have hpushed : exists first rest,
            s.mAvailableBuffers ++ [item] = first :: rest := by
          cases s.mAvailableBuffers with
          | nil => exact ⟨item, [], rfl⟩
          | cons first rest => exact ⟨first, rest ++ [item], rfl⟩
        rcases hpushed with ⟨first, rest, hpushed⟩
        have hlength := congrArg List.length hpushed
        rw [List.length_append, List.length_singleton, List.length_cons] at hlength
        have hpasses := fillCodecBuffer_l_passes (s := { s with
          toBuffers := s.toBuffers.pushAvailable item
          mRepeatLastFrameGeneration := s.mRepeatLastFrameGeneration + 1 }) hpushed
          (hfree hdiscards)
        rw [sat_bind]
        apply hpasses.mono
        · intro _ t ht
          rw [sat_pure]
          refine ⟨fun hdiscarding => ?_, fun _ => ?_⟩
          · rw [hdiscards] at hdiscarding
            cases hdiscarding
          · rcases ht with ⟨havailable, hacquisitions⟩ | hdrops
            · left
              constructor
              · rw [havailable]
                exact (Nat.add_right_cancel hlength).symm
              · exact hacquisitions
            · exact Or.inr ⟨hdrops.available, hdrops.acquisitions⟩
        · intro _ _ _
          exact hdiscards
      · intro hidle
        have hidle' : s.mExecuting = false := Bool.eq_false_iff.mpr hidle
        rw [hidle'] at hdiscards
        rw [sat_pure]
        refine ⟨fun _ hnot => ?_, fun hnot => ?_⟩
        · -- nothing but the idle state discards the frame
          exact absurd (OnlyIdle.mk hidle' hsent (by simpa using hignored.1)
            (by simpa using hignored.2)) hnot
        · rw [hdiscards] at hnot
          cases hnot

theorem onBufferAcquired_l_keeps (item : VideoBuffer) (hidle : OnlyIdle s.toControl) :
    Sat (onBufferAcquired_l item)
      (fun _ t => t.mAvailableBuffers = s.mAvailableBuffers ++ [item])
      (fun _ _ => False) s := by
  have hignored :
      (s.mComponent.isNone || (s.mSuspended && s.mActionQueue.isEmpty)) = false := by
    rw [Bool.or_eq_false_iff]
    constructor
    · simpa using hidle.component
    · simpa using hidle.resumed
  unfold onBufferAcquired_l
  rw [sat_bind, sat_get, hidle.sent, if_neg Bool.false_ne_true, hignored,
    if_neg Bool.false_ne_true, sat_bind, sat_modifyControl, sat_bind, sat_modifyBuffers,
    hidle.executing, if_neg Bool.false_ne_true]
  rfl

theorem onFrameAvailable_keeps {answers : Answers} (hidle : OnlyIdle s.toControl)
    (hhands : HandsOut s answers) :
    Sat (exec (.call .onFrameAvailable answers))
      (fun _ t => exists item, t.mAvailableBuffers = s.mAvailableBuffers ++ [item])
      (fun _ _ => False) s := by
  show Sat (perform .onFrameAvailable) _ _ { s with answers := answers }
  have hdiscards := onlyIdle_discards hidle
  unfold perform onFrameAvailable
  rw [sat_bind, sat_bind, sat_modifyBuffers, sat_bind, sat_get, sat_ite]
  constructor
  · intro hnot
    have hnot' : (!s.areWeDiscardingAvailableBuffers_l &&
        s.mFreeCodecBuffers.isEmpty) = true := hnot
    rw [hdiscards] at hnot'
    cases hnot'
  · intro _
    rw [sat_bind]
    apply acquireBuffer_l_arrives.mono
    · intro r t ht
      cases r with
      | error err => exact absurd ⟨hhands.status, hhands.frame⟩ ht.1
      | ok item =>
          rcases ht with ⟨_, _, hframes, hcontrol⟩
          have hidle' : OnlyIdle t.toControl := by
            rw [hcontrol]
            exact ⟨hidle.executing, hidle.sent, hidle.component, hidle.resumed⟩
          rw [sat_bind]
          apply (onBufferAcquired_l_keeps item hidle').imp
          intro _ u hu
          rw [sat_unhold]
          exists item
          show (u.toBuffers.unhold item.mBuffer).mAvailableBuffers = _
          rw [Buffers.unhold_toFrames, hu, hframes]
          rfl
    · intro _ t hnot
      exact absurd ⟨hhands.status, hhands.frame⟩ hnot

theorem onBufferAcquired_l_serves {t : GraphicBufferSource} {item : VideoBuffer}
    {bi : BufferItem} (hhead : s.queue.head? = some bi)
    (hacquired : acquisitions t.log = acquisitions s.log ++ [(bi, item.mBuffer)])
    (havailable : t.mAvailableBuffers = s.mAvailableBuffers)
    (hdiscards : t.areWeDiscardingAvailableBuffers_l =
      s.areWeDiscardingAvailableBuffers_l)
    (hfree : t.areWeDiscardingAvailableBuffers_l = false ->
      t.mFreeCodecBuffers.isEmpty = false)
    (hidle : ¬OnlyIdle t.toControl) :
    Sat (onBufferAcquired_l item)
      (fun _ u => forall v, SameFrames u v -> ServesArrival s v) (fun _ _ => True) t := by
  apply (onBufferAcquired_l_passes item hfree).mono
  · intro _ u hu v hsame
    rw [hdiscards] at hu
    rw [hacquired, havailable] at hu
    cases hcase : s.areWeDiscardingAvailableBuffers_l with
    | true =>
        have hboth := (hu.1 hcase hidle).trans hsame
        refine ⟨Or.inr ⟨⟨bi, item.mBuffer, [], hhead, ?_, Or.inl rfl⟩, ?_⟩,
          fun _ => hboth.available.trans havailable⟩
        · rw [hboth.acquisitions, hacquired]
        · rw [hboth.available, havailable]
    | false =>
        refine ⟨Or.inr ?_, fun htrue => ?_⟩
        · rcases hu.2 hcase with ⟨hlength, hacquisitions⟩ | hdrops
          · refine ⟨⟨bi, item.mBuffer, [], hhead, ?_, Or.inl rfl⟩, ?_⟩
            · rw [hsame.acquisitions, hacquisitions]
            · rw [hsame.available, hlength]
          · have hall := hdrops.same hsame
            rcases hall.acquisitions with ⟨others, hothers⟩
            rw [hacquired, List.append_assoc] at hothers
            refine ⟨⟨bi, item.mBuffer, others, hhead, hothers.symm,
              Or.inr hall.available⟩, ?_⟩
            rw [hall.available]
            exact Nat.zero_le _
        · rw [hcase] at htrue
          cases htrue
  · intro _ _ _
    trivial

theorem onFrameAvailable_serves (answers : Answers) :
    Sat (exec (.call .onFrameAvailable answers)) (fun _ t => ServesArrival s t)
        (fun _ _ => True) s <->
      ¬(OnlyIdle s.toControl ∧ HandsOut s answers) := by
  constructor
  · intro hserves hkeeps
    apply (hserves.and (onFrameAvailable_keeps hkeeps.1 hkeeps.2)).mono _ _ |>.elim
    · intro _ t ht
      rcases ht with ⟨hserved, item, havailable⟩
      have hsame := hserved.discarded (onlyIdle_discards hkeeps.1)
      rw [havailable] at hsame
      simp at hsame
    · intro _ _ ht
      exact ht.2
  · intro hnot
    show Sat (perform .onFrameAvailable) _ _ { s with answers := answers }
    unfold perform onFrameAvailable
    rw [sat_bind, sat_bind, sat_modifyBuffers, sat_bind, sat_get, sat_ite]
    have hcounted : acquisitions (s.log ++ [.frameAvailable]) = acquisitions s.log :=
      filterMap_snoc_of_none (f := Event.acquisition?) rfl _
    constructor
    · intro hdefers
      have hdefers' : s.defersArrival = true := hdefers
      refine ⟨Or.inl ⟨rfl, hcounted, ?_⟩, fun _ => rfl⟩
      rw [if_pos hdefers']
    · intro hacquires
      have hacquires' : ¬s.defersArrival = true := hacquires
      have hfree : s.areWeDiscardingAvailableBuffers_l = false ->
          s.mFreeCodecBuffers.isEmpty = false := by
        intro hdiscards
        unfold GraphicBufferSource.defersArrival at hacquires'
        rw [hdiscards] at hacquires'
        simpa using hacquires'
      rw [sat_bind]
      apply acquireBuffer_l_arrives.mono
      · intro r t ht
        cases r with
        | error err =>
            rcases ht with ⟨_, hframes, hacquisitions, hcontrol⟩
            refine ⟨Or.inl ⟨hframes, hacquisitions.trans hcounted, ?_⟩,
              fun _ => ?_⟩
            · rw [if_neg hacquires', hcontrol]
            · show t.mAvailableBuffers = _
              rw [hframes]
              rfl
        | ok item =>
            rcases ht with ⟨hhands, ⟨bi, hhead, hacquired⟩, hframes, hcontrol⟩
            have hdiscards : t.areWeDiscardingAvailableBuffers_l =
                s.areWeDiscardingAvailableBuffers_l := by
              rw [hcontrol]
              rfl
            have hidle : ¬OnlyIdle t.toControl := by
              intro hidle
              rw [hcontrol] at hidle
              apply hnot
              exact ⟨⟨hidle.executing, hidle.sent, hidle.component, hidle.resumed⟩,
                hhands.status, hhands.frame⟩
            have havailable : t.mAvailableBuffers = s.mAvailableBuffers := by
              rw [hframes]
              rfl
            have hacquired' : acquisitions t.log =
                acquisitions s.log ++ [(bi, item.mBuffer)] := by
              rw [← hcounted]
              exact hacquired
            rw [sat_bind]
            apply (onBufferAcquired_l_serves (s := s) hhead hacquired' havailable
              hdiscards ?_ hidle).imp
            · intro _ u hu
              rw [sat_unhold, sat_pure]
              exact hu _ (SameFrames.unhold item.mBuffer u)
            · intro hnone
              rw [hdiscards] at hnone
              rw [hframes]
              exact hfree hnone
      · intro _ _ _
        trivial

end Functions

/-!
# Runs
-/

theorem arrivalServed_iff (s : GraphicBufferSource) (r : Request) :
    Sat (exec r) (fun reply t => ArrivalServed s r reply t) (fun _ _ => True) s <->
      ¬KeepsArrival s r := by
  by_cases harrival : exists answers, r = .call .onFrameAvailable answers
  · rcases harrival with ⟨answers, hr⟩
    rw [hr]
    unfold KeepsArrival
    dsimp only
    rw [← onFrameAvailable_serves]
    constructor
    · intro h
      apply h.imp
      intro _ t ht
      exact ht answers rfl
    · intro h
      apply h.imp
      intro _ t ht _ _
      exact ht
  · constructor
    · intro _ hkeeps
      unfold KeepsArrival at hkeeps
      split at hkeeps
      · exact harrival ⟨_, rfl⟩
      · exact hkeeps
    · intro _
      apply sat_true.mono
      · intro _ _ _ answers hr
        exact absurd ⟨answers, hr⟩ harrival
      · intro _ _ _
        trivial

/-- Every arrival of a run is served if and only if none comes while the source is
only idle and the BufferQueue hands out a frame. -/
theorem arrivals_served_iff (requests : List Request) :
    EachReply exec ArrivalServed requests .initial <->
      Along exec (fun s r => ¬KeepsArrival s r) requests .initial :=
  eachReply_iff_along arrivalServed_iff requests .initial

/-- A frame that comes after {lit}`configure` and before {lit}`start`. -/
def earlyFrame : List Request :=
  [configureFor 0, .queueFrame (newFrame 0 1 100), Op.onFrameAvailable.now]

/-- The early frame is acquired and kept. -/
theorem earlyFrame_kept : ¬EachReply exec ArrivalServed earlyFrame .initial := by
  intro h
  rw [eachReply_iff_along arrivalServed_iff, along_iff_forall] at h
  let before : List Request := [configureFor 0, .queueFrame (newFrame 0 1 100)]
  have hreaches : Reaches before (final before) := reaches_final rfl
  rcases hreaches with ⟨replies, hrun⟩
  apply h before Op.onFrameAvailable.now [] replies (final before) rfl hrun
  constructor
  · exact ⟨rfl, rfl, rfl, fun hsuspended => absurd hsuspended Bool.false_ne_true⟩
  · exact ⟨rfl, newFrame 0 1 100, rfl, Or.inl rfl⟩

end Bqhelper
end Sm7225
