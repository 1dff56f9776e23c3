import Sm7225.Bqhelper.Stays
import Sm7225.Bqhelper.Waiting

/-!
# The queue of actions

A client queues PAUSE and RESUME actions and at most one STOP, which is the last.
The actions are in the order of their times, so the ones that are due at a frame
are a prefix of the queue, and replaying them one by one is the same as
performing the newest of them.
-/

namespace Sm7225
namespace Bqhelper

open Lib

/-!
# Replaying actions
-/

def ActionItem.due (itemTimeUs : Int) (a : ActionItem) : Bool :=
  decide (a.mActionTimeUs <= itemTimeUs)

def ActionItem.suspends (mSuspended : Bool) (a : ActionItem) : Bool :=
  match a.mAction with
  | .pause => true
  | .resume => false
  | .stop => mSuspended

def replayActions (mSuspended : Bool) (actions : List ActionItem) : Bool :=
  actions.foldl ActionItem.suspends mSuspended

def Ordered (queue : List ActionItem) : Prop :=
  queue.Pairwise fun a a' => a.mActionTimeUs <= a'.mActionTimeUs ∧ a.mAction ≠ .stop

def StopDue (itemTimeUs : Int) (queue : List ActionItem) : Prop :=
  exists a, a ∈ queue ∧ a.mAction = .stop ∧ a.mActionTimeUs <= itemTimeUs

theorem suspends_const {a : ActionItem} (h : a.mAction ≠ .stop)
    (mSuspended mSuspended' : Bool) :
    a.suspends mSuspended = a.suspends mSuspended' := by
  unfold ActionItem.suspends
  cases haction : a.mAction with
  | pause => rfl
  | resume => rfl
  | stop => exact absurd haction h

theorem StopDue.cons {itemTimeUs : Int} {queue : List ActionItem} (a : ActionItem)
    (h : StopDue itemTimeUs queue) : StopDue itemTimeUs (a :: queue) := by
  rcases h with ⟨stop, hmem, hstop⟩
  exact ⟨stop, List.mem_cons_of_mem a hmem, hstop⟩

theorem Ordered.filter_of_not_due {itemTimeUs : Int} {a : ActionItem}
    {rest : List ActionItem} (h : Ordered (a :: rest))
    (ha : ¬a.mActionTimeUs <= itemTimeUs) :
    (a :: rest).filter (ActionItem.due itemTimeUs) = [] ∧
      (a :: rest).filter (fun a => !a.due itemTimeUs) = a :: rest := by
  have hlate : forall a', a' ∈ a :: rest -> a'.due itemTimeUs = false := by
    intro a' ha'
    apply decide_eq_false
    rcases List.mem_cons.mp ha' with heq | hmem
    · rw [heq]
      exact ha
    · have hle := ((List.pairwise_cons.mp h).1 a' hmem).1
      lia
  constructor
  · apply List.filter_eq_nil_iff.mpr
    intro a' ha'
    rw [hlate a' ha']
    exact Bool.false_ne_true
  · apply List.filter_eq_self.mpr
    intro a' ha'
    rw [hlate a' ha']
    rfl

/-!
# The newest action that is due
-/

theorem newestDueAction_of_stop (itemTimeUs : Int) {nextAction : ActionItem}
    (h : nextAction.mAction = .stop) (queue : List ActionItem) :
    newestDueAction itemTimeUs nextAction queue = (nextAction, queue) := by
  cases queue with
  | nil => rfl
  | cons a rest =>
      unfold newestDueAction
      rw [if_neg (fun hgo => hgo.2 h)]

theorem newestDueAction_replays {itemTimeUs : Int} {queue : List ActionItem}
    (h : Ordered queue) (hnone : ¬StopDue itemTimeUs queue)
    {nextAction : ActionItem} (hnext : nextAction.mAction ≠ .stop) :
    (newestDueAction itemTimeUs nextAction queue).1.mAction ≠ .stop ∧
      (newestDueAction itemTimeUs nextAction queue).2 =
        queue.filter (fun a => !a.due itemTimeUs) ∧
      forall mSuspended,
        (newestDueAction itemTimeUs nextAction queue).1.suspends mSuspended =
          replayActions (nextAction.suspends mSuspended)
            (queue.filter (ActionItem.due itemTimeUs)) := by
  induction queue generalizing nextAction with
  | nil => exact ⟨hnext, rfl, fun _ => rfl⟩
  | cons a rest ih =>
      unfold newestDueAction
      by_cases hdue : a.mActionTimeUs <= itemTimeUs
      · have ha : a.mAction ≠ .stop := by
          intro hstop
          exact hnone ⟨a, List.mem_cons_self, hstop, hdue⟩
        have htail := ih (List.pairwise_cons.mp h).2
          (fun hstop => hnone (hstop.cons a)) ha
        have hdue' : a.due itemTimeUs = true := decide_eq_true hdue
        rw [if_pos ⟨hdue, hnext⟩, List.filter_cons_of_pos hdue',
          List.filter_cons_of_neg (by simp [hdue'])]
        refine ⟨htail.1, htail.2.1, ?_⟩
        intro mSuspended
        rw [htail.2.2 mSuspended, suspends_const ha mSuspended
          (nextAction.suspends mSuspended)]
        rfl
      · have hfilter := h.filter_of_not_due hdue
        rw [if_neg (fun hgo => hdue hgo.1), hfilter.1, hfilter.2]
        exact ⟨hnext, rfl, fun _ => rfl⟩

theorem newestDueAction_stops {itemTimeUs : Int} {queue : List ActionItem}
    (h : Ordered queue) (hstop : StopDue itemTimeUs queue)
    {nextAction : ActionItem} (hnext : nextAction.mAction ≠ .stop) :
    (newestDueAction itemTimeUs nextAction queue).1.mAction = .stop := by
  induction queue generalizing nextAction with
  | nil =>
      rcases hstop with ⟨stop, hmem, _⟩
      cases hmem
  | cons a rest ih =>
      rcases hstop with ⟨stop, hmem, hstop, hdue⟩
      unfold newestDueAction
      rcases List.mem_cons.mp hmem with heq | hmem
      · rw [heq] at hstop hdue
        rw [if_pos ⟨hdue, hnext⟩, newestDueAction_of_stop itemTimeUs hstop]
        exact hstop
      · have hfirst := (List.pairwise_cons.mp h).1 stop hmem
        rw [if_pos ⟨hfirst.1.trans hdue, hnext⟩]
        exact ih (List.pairwise_cons.mp h).2 ⟨stop, hmem, hstop, hdue⟩ hfirst.2

section Functions

variable {s : GraphicBufferSource}

theorem performActions_replays {itemTimeUs : Int} (h : Ordered s.mActionQueue)
    (hnone : ¬StopDue itemTimeUs s.mActionQueue)
    {E : Abort -> GraphicBufferSource -> Prop} :
    Sat (performActions itemTimeUs)
      (fun seeStopAction t => seeStopAction = false ∧
        t = { s with
          mActionQueue := s.mActionQueue.filter (fun a => !a.due itemTimeUs)
          mSuspended := replayActions s.mSuspended
            (s.mActionQueue.filter (ActionItem.due itemTimeUs)) }) E s := by
  unfold performActions
  simp only [sat_bind, sat_get]
  cases hqueue : s.mActionQueue with
  | nil =>
      refine ⟨rfl, ?_⟩
      show s = { s with mActionQueue := [] }
      rw [← hqueue]
  | cons first rest =>
      rw [hqueue] at h hnone
      simp only [sat_ite, sat_pure, sat_bind, sat_modifyControl, sat_check]
      refine ⟨fun hlt => ?_, fun hge => ⟨fun _ => ?_, fun hlate => ?_⟩⟩
      · have hlate : ¬first.mActionTimeUs <= itemTimeUs := by
          lia
        have hfilter := h.filter_of_not_due hlate
        rw [hfilter.1, hfilter.2, ← hqueue]
        exact ⟨trivial, rfl⟩
      · have hdue : first.mActionTimeUs <= itemTimeUs := by
          lia
        have hfirst : first.mAction ≠ .stop := by
          intro hstop
          exact hnone ⟨first, List.mem_cons_self, hstop, hdue⟩
        rcases newestDueAction_replays h hnone hfirst with ⟨hnot, hrest, hreplay⟩
        have hsuspended :
            (newestDueAction itemTimeUs first (first :: rest)).1.suspends
                s.mSuspended =
              replayActions s.mSuspended
                ((first :: rest).filter (ActionItem.due itemTimeUs)) := by
          have hdue' : first.due itemTimeUs = true := decide_eq_true hdue
          rw [hreplay, List.filter_cons_of_pos hdue']
          unfold replayActions
          rw [List.foldl_cons, List.foldl_cons,
            suspends_const hfirst (first.suspends s.mSuspended) s.mSuspended]
        rw [← hsuspended, ← hrest]
        unfold ActionItem.suspends
        cases haction : (newestDueAction itemTimeUs first (first :: rest)).1.mAction with
        | pause => exact ⟨rfl, rfl⟩
        | resume => exact ⟨rfl, rfl⟩
        | stop => exact absurd haction hnot
      · have hdue := newestDueAction_due itemTimeUs first (first :: rest)
          (not_lt.mp hge)
        rw [decide_eq_true hdue] at hlate
        cases hlate

theorem performActions_stops {itemTimeUs : Int} (h : Ordered s.mActionQueue)
    (hstop : StopDue itemTimeUs s.mActionQueue)
    {E : Abort -> GraphicBufferSource -> Prop} :
    Sat (performActions itemTimeUs)
      (fun seeStopAction t => seeStopAction = true ∧
        t = { s with mActionQueue := [] }) E s := by
  unfold performActions
  simp only [sat_bind, sat_get]
  cases hqueue : s.mActionQueue with
  | nil =>
      rw [hqueue] at hstop
      rcases hstop with ⟨stop, hmem, _⟩
      cases hmem
  | cons first rest =>
      rw [hqueue] at h hstop
      have hdue : first.mActionTimeUs <= itemTimeUs := by
        rcases hstop with ⟨stop, hmem, _, hdue⟩
        rcases List.mem_cons.mp hmem with heq | hmem
        · rw [← heq]
          exact hdue
        · exact ((List.pairwise_cons.mp h).1 stop hmem).1.trans hdue
      have haction : (newestDueAction itemTimeUs first (first :: rest)).1.mAction =
          .stop := by
        by_cases hfirst : first.mAction = .stop
        · rw [newestDueAction_of_stop itemTimeUs hfirst]
          exact hfirst
        · exact newestDueAction_stops h hstop hfirst
      simp only [sat_ite, sat_pure, sat_bind, sat_modifyControl, sat_check]
      refine ⟨fun hlt => ?_, fun _ => ⟨fun _ => ?_, fun hlate => ?_⟩⟩
      · lia
      · rw [haction]
        exact ⟨rfl, rfl⟩
      · rw [decide_eq_true (newestDueAction_due itemTimeUs first _ hdue)] at hlate
        cases hlate

end Functions

/-!
# What leaves the actions alone
-/

def SameActions (s t : GraphicBufferSource) : Prop :=
  t.actions = s.actions

instance : Std.Refl SameActions :=
  ⟨fun _ => rfl⟩

instance : IsTrans GraphicBufferSource SameActions :=
  ⟨fun _ _ _ h h' => h'.trans h⟩

namespace SameActions

theorem modifyBuffers (f : Buffers -> Buffers) :
    Leads SameActions (modifyBuffers f) :=
  leads_modify fun _ => rfl

theorem modifyControl {f : Control -> Control}
    (h : forall c, (f c).actions = c.actions) :
    Leads SameActions (modifyControl f) :=
  leads_modify fun s => h s.toControl

theorem walk : Walk SameActions where
  control := modifyControl
  note := fun _ => modifyBuffers _
  unholdAll := fun _ => modifyBuffers _
  submit := fun _ _ => modifyBuffers _
  setLatest := fun _ => modifyBuffers _
  retimeLatest := fun _ => modifyBuffers _

theorem of_stays {α : Type} {m : Gbs α} (h : Leads (Stays []) m) : Leads SameActions m := by
  apply h.mono
  intro s t hst
  have hlasting : t.lasting.actions = s.lasting.actions :=
    congrArg Control.actions hst.control
  exact hlasting

theorem takeFrame : Leads SameActions takeFrame := by
  apply leads_get
  intro s
  cases s.mAvailableBuffers with
  | nil =>
      apply (of_stays (Stays.intake.acquireBuffer_l .oneFrame)).bind
      intro r
      cases r with
      | error err => exact leads_pure
      | ok item => exact leads_pure
  | cons item rest => exact (SameActions.modifyBuffers _).bind fun _ => leads_pure

end SameActions

/-!
# What only drops actions
-/

structure DropsActions (s t : GraphicBufferSource) : Prop where
  queue : t.mActionQueue <:+ s.mActionQueue
  last : t.mLastActionTimeUs = s.mLastActionTimeUs
  stop : t.mStopTimeUs = s.mStopTimeUs

instance : Std.Refl DropsActions :=
  ⟨fun _ => ⟨List.suffix_refl _, rfl, rfl⟩⟩

instance : IsTrans GraphicBufferSource DropsActions :=
  ⟨fun _ _ _ h h' => ⟨h'.queue.trans h.queue, h'.last.trans h.last,
    h'.stop.trans h.stop⟩⟩

theorem SameActions.drops {s t : GraphicBufferSource} (h : SameActions s t) :
    DropsActions s t := by
  refine ⟨?_, congrArg Actions.mLastActionTimeUs h, congrArg Actions.mStopTimeUs h⟩
  have hqueue : t.mActionQueue = s.mActionQueue := congrArg Actions.mActionQueue h
  exact hqueue ▸ List.suffix_refl _

theorem newestDueAction_suffix (itemTimeUs : Int) (nextAction : ActionItem)
    (queue : List ActionItem) :
    (newestDueAction itemTimeUs nextAction queue).2 <:+ queue := by
  induction queue generalizing nextAction with
  | nil => exact List.suffix_refl _
  | cons a rest ih =>
      unfold newestDueAction
      split
      · exact (ih a).trans (List.suffix_cons a rest)
      · exact List.suffix_refl _

namespace DropsActions

theorem of_same {α : Type} {m : Gbs α} (h : Leads SameActions m) :
    Leads DropsActions m :=
  h.mono fun _ _ hst => hst.drops

theorem modifyBuffers (f : Buffers -> Buffers) :
    Leads DropsActions (modifyBuffers f) :=
  of_same (SameActions.modifyBuffers f)

theorem modifyControl {f : Control -> Control}
    (h : forall c, (f c).actions = c.actions) : Leads DropsActions (modifyControl f) :=
  of_same (SameActions.modifyControl h)

theorem performActions (itemTimeUs : Int) :
    Leads DropsActions (performActions itemTimeUs) := by
  intro s
  unfold Bqhelper.performActions
  rw [sat_bind, sat_get]
  cases hqueue : s.mActionQueue with
  | nil => exact Std.Refl.refl s
  | cons first rest =>
      have hrest : DropsActions s { s with
          mActionQueue := (newestDueAction itemTimeUs first (first :: rest)).2 } := by
        refine ⟨?_, rfl, rfl⟩
        rw [hqueue]
        exact newestDueAction_suffix itemTimeUs first (first :: rest)
      simp only [sat_ite, sat_pure, sat_bind, sat_modifyControl, sat_check]
      refine ⟨fun _ => Std.Refl.refl s, fun _ => ⟨fun _ => ?_, fun _ => hrest⟩⟩
      cases (newestDueAction itemTimeUs first (first :: rest)).1.mAction with
      | pause => exact ⟨hrest.queue, rfl, rfl⟩
      | resume => exact ⟨hrest.queue, rfl, rfl⟩
      | stop => exact ⟨List.nil_suffix, rfl, rfl⟩

theorem processFrame (item : VideoBuffer) :
    Leads DropsActions (processFrame item) := by
  apply (DropsActions.performActions _).bind
  intro seeStopAction
  apply leads_ite
  · intro _
    apply (of_same (SameActions.of_stays Stays.intake.releaseAllAvailableBuffers_l)).bind
    intro _
    refine .bind (DropsActions.modifyControl fun _ => rfl) fun _ => ?_
    exact of_same SameActions.walk.submitEndOfInputStream_l
  · intro _
    apply leads_get
    intro s
    apply leads_ite (fun _ => leads_pure)
    intro _
    apply (of_same (SameActions.walk.skipDropOrSubmit item)).bind
    intro err
    apply leads_ite (fun _ => leads_pure)
    intro _
    exact of_same (SameActions.walk.recordFrame item _)

theorem fillCodecBuffer_l : Leads DropsActions fillCodecBuffer_l := by
  apply leads_get
  intro s
  apply (leads_check _ _).bind
  intro _
  apply leads_ite (fun _ => leads_pure)
  intro _
  apply (of_same SameActions.takeFrame).bind
  intro r
  cases r with
  | none => exact leads_pure
  | some item =>
      apply (DropsActions.processFrame item).bind
      intro _
      exact (DropsActions.modifyBuffers _).bind fun _ => leads_pure

theorem start : Leads DropsActions start :=
  leads_start (DropsActions.modifyControl fun _ => rfl) DropsActions.fillCodecBuffer_l
    (of_same SameActions.walk.submitEndOfInputStream_l)
    (leads_startLooper (DropsActions.modifyControl fun _ => rfl)
      (of_same SameActions.walk.queueFrameRepeat_l))

theorem release : Leads DropsActions release := by
  refine .bind (DropsActions.modifyControl fun _ => rfl) fun _ => ?_
  apply leads_get
  intro s
  apply (DropsActions.modifyBuffers _).bind
  intro _
  apply (DropsActions.modifyBuffers _).bind
  intro _
  apply (of_same (SameActions.walk.assignLatest none)).bind
  intro _
  exact .bind (DropsActions.modifyControl fun _ => rfl) fun _ => leads_pure

theorem onInputBufferAdded (bufferId : CodecBufferId) :
    Leads DropsActions (onInputBufferAdded bufferId) := by
  apply leads_get
  intro s
  apply leads_ite (fun _ => leads_pure)
  intro _
  exact (DropsActions.modifyBuffers _).bind fun _ => leads_pure

theorem reuseCodecBuffer : Leads DropsActions reuseCodecBuffer :=
  leads_reuseCodecBuffer DropsActions.fillCodecBuffer_l
    (of_same SameActions.walk.submitEndOfInputStream_l)
    (of_same SameActions.walk.repeatLatestBuffer_l)
    (DropsActions.modifyControl fun _ => rfl)

theorem onInputBufferEmptied (bufferId : CodecBufferId) (fenceFd : Int) :
    Leads DropsActions (onInputBufferEmptied bufferId fenceFd) := by
  apply leads_get
  intro s
  cases s.mSubmittedCodecBuffers.find? bufferId with
  | none => exact (DropsActions.modifyBuffers _).bind fun _ => leads_pure
  | some entry =>
      cases entry with
      | none => exact (DropsActions.modifyBuffers _).bind fun _ => leads_pure
      | some buffer =>
          apply leads_ite
          · intro _
            apply (DropsActions.modifyBuffers _).bind
            intro _
            apply (DropsActions.modifyBuffers _).bind
            intro _
            exact (DropsActions.modifyBuffers _).bind fun _ => leads_pure
          · intro _
            apply (DropsActions.modifyBuffers _).bind
            intro _
            apply (DropsActions.modifyBuffers _).bind
            intro _
            exact DropsActions.reuseCodecBuffer.bind fun _ => leads_pure

theorem onBufferAcquired_l (buffer : VideoBuffer) :
    Leads DropsActions (onBufferAcquired_l buffer) :=
  leads_onBufferAcquired_l (DropsActions.modifyControl fun _ => rfl)
    (DropsActions.modifyBuffers _) DropsActions.fillCodecBuffer_l

theorem onFrameAvailable : Leads DropsActions onFrameAvailable := by
  apply (DropsActions.modifyBuffers _).bind
  intro _
  apply leads_get
  intro s
  apply leads_ite
  · intro _
    exact DropsActions.modifyControl fun _ => rfl
  · intro _
    apply (of_same (SameActions.of_stays (Stays.intake.acquireBuffer_l .oneFrame))).bind
    intro r
    cases r with
    | error err => exact leads_pure
    | ok buffer =>
        apply (DropsActions.onBufferAcquired_l buffer).bind
        intro _
        exact DropsActions.modifyBuffers _

theorem onBuffersReleased : Leads DropsActions onBuffersReleased :=
  of_same (SameActions.of_stays Stays.intake.onBuffersReleased)

theorem onMessageReceived (generation : Int) :
    Leads DropsActions (onMessageReceived generation) :=
  leads_onMessageReceived (of_same SameActions.walk.repeatLatestBuffer_l)
    (DropsActions.modifyControl fun _ => rfl) generation

theorem signalEndOfInputStream : Leads DropsActions signalEndOfInputStream :=
  leads_signalEndOfInputStream (DropsActions.modifyControl fun _ => rfl)
    (of_same SameActions.walk.submitEndOfInputStream_l)

end DropsActions

/-!
# Runs
-/

/-- The queue is ordered, its times are not above the last one accepted, and with
a STOP action in it the stop time is set. -/
structure Queued (c : Control) : Prop where
  ordered : Ordered c.mActionQueue
  last : forall a, a ∈ c.mActionQueue ->
    c.mLastActionTimeUs ≠ -1 ∧ a.mActionTimeUs <= c.mLastActionTimeUs
  stop : forall a, a ∈ c.mActionQueue -> a.mAction = .stop -> c.mStopTimeUs ≠ -1

theorem Queued.drops {s t : GraphicBufferSource} (h : Queued s.toControl)
    (hdrops : DropsActions s t) : Queued t.toControl := by
  constructor
  · exact h.ordered.sublist hdrops.queue.sublist
  · intro a ha
    rw [hdrops.last]
    exact h.last a (hdrops.queue.mem ha)
  · intro a ha hstop
    rw [hdrops.stop]
    exact h.stop a (hdrops.queue.mem ha) hstop

theorem Queued.push {c : Control} (h : Queued c) (action : ActionItem)
    (mStopTimeUs : Int) (hnone : c.mStopTimeUs = -1)
    (haccepts : c.acceptsActionTime action.mActionTimeUs = true)
    (htime : action.mActionTimeUs ≠ -1)
    (hstop : action.mAction = .stop -> mStopTimeUs ≠ -1) :
    Queued { c with
      mLastActionTimeUs := action.mActionTimeUs
      mActionQueue := c.mActionQueue ++ [action]
      mStopTimeUs := mStopTimeUs } := by
  have hnoStop : forall a, a ∈ c.mActionQueue -> a.mAction ≠ .stop := by
    intro a ha hstop
    exact h.stop a ha hstop hnone
  have hle : forall a, a ∈ c.mActionQueue ->
      a.mActionTimeUs <= action.mActionTimeUs := by
    intro a ha
    rcases h.last a ha with ⟨hset, hlast⟩
    unfold Control.acceptsActionTime at haccepts
    simp only [Bool.and_eq_true, Bool.or_eq_true, decide_eq_true_eq] at haccepts
    rcases haccepts.2 with hunset | hlate
    · exact absurd hunset hset
    · exact hlast.trans hlate
  constructor
  · apply List.pairwise_append.mpr
    refine ⟨h.ordered, List.pairwise_singleton _ _, ?_⟩
    intro a ha a' ha'
    rw [List.mem_singleton.mp ha']
    exact ⟨hle a ha, hnoStop a ha⟩
  · intro a ha
    rcases List.mem_append.mp ha with ha | ha
    · exact ⟨htime, hle a ha⟩
    · rw [List.mem_singleton.mp ha]
      exact ⟨htime, le_refl _⟩
  · intro a ha haction
    rcases List.mem_append.mp ha with ha | ha
    · exact absurd haction (hnoStop a ha)
    · rw [List.mem_singleton.mp ha] at haction
      exact hstop haction

/-- A stop time of -1, which stands for no stop time, is not accepted. -/
def NamesStopTime (s : GraphicBufferSource) : Request -> Prop
  | .call (.setStopTimeUs stopTimeUs) answers =>
      stopTimeUs = -1 -> s.mStopTimeUs ≠ -1 ∨
        Control.acceptsActionTime { s.toControl with answers := answers }
          stopTimeUs = false
  | _ => True

instance (s : GraphicBufferSource) (r : Request) :
    Decidable (NamesStopTime s r) := by
  unfold NamesStopTime
  split
  · exact inferInstance
  · exact inferInstance

section Requests

variable {s : GraphicBufferSource}

theorem setSuspend_queued (h : Queued s.toControl) (suspend : Bool)
    (suspendStartTimeUs : Int) :
    Sat (setSuspend suspend suspendStartTimeUs) (fun _ t => Queued t.toControl)
      (fun _ _ => True) s := by
  have hset : DropsActions s
      { s with toControl := { s.toControl with mSuspended := true } } :=
    ⟨List.suffix_refl _, rfl, rfl⟩
  unfold setSuspend
  rw [sat_bind, sat_get, sat_ite]
  refine ⟨fun _ => h, fun hnone => ?_⟩
  rw [not_not] at hnone
  rw [sat_ite]
  constructor
  · intro htime
    rw [sat_ite]
    refine ⟨fun _ => h, fun haccepts => ?_⟩
    rw [sat_bind, sat_modifyControl, sat_pure]
    have haccepts' : s.acceptsActionTime suspendStartTimeUs = true := by
      simpa using haccepts
    have hpushed := h.push
      { mAction := if suspend then .pause else .resume
        mActionTimeUs := suspendStartTimeUs } s.mStopTimeUs hnone haccepts' htime
      (by cases suspend <;> intro hstop <;> cases hstop)
    exact hpushed
  · intro _
    rw [sat_ite]
    constructor
    · intro _
      rw [sat_bind, sat_modifyControl, sat_bind]
      have hrelease : Leads DropsActions releaseAllAvailableBuffers_l :=
        DropsActions.of_same (SameActions.of_stays Stays.intake.releaseAllAvailableBuffers_l)
      apply (hrelease _).mono
      · intro _ t ht
        exact (h.drops hset).drops ht
      · intro _ _ _
        trivial
    · intro _
      rw [sat_bind]
      have hresume : Leads DropsActions resumeNow :=
        leads_resumeNow (leads_modify fun _ => ⟨List.suffix_refl _, rfl, rfl⟩)
          (DropsActions.of_same SameActions.walk.repeatLatestBuffer_l)
          (DropsActions.modifyControl fun _ => rfl)
      apply (hresume s).mono
      · intro _ t ht
        exact h.drops ht
      · intro _ _ _
        trivial

theorem setStopTimeUs_queued (h : Queued s.toControl) (stopTimeUs : Int)
    (hnames : stopTimeUs = -1 -> s.mStopTimeUs ≠ -1 ∨
      s.acceptsActionTime stopTimeUs = false) :
    Sat (setStopTimeUs stopTimeUs) (fun _ t => Queued t.toControl)
      (fun _ _ => True) s := by
  unfold setStopTimeUs
  rw [sat_bind, sat_get, sat_ite]
  refine ⟨fun _ => h, fun hnone => ?_⟩
  rw [not_not] at hnone
  rw [sat_ite]
  refine ⟨fun _ => h, fun haccepts => ?_⟩
  have haccepts' : s.acceptsActionTime stopTimeUs = true := by
    simpa using haccepts
  have htime : stopTimeUs ≠ -1 := by
    intro htime
    rcases hnames htime with hset | hnot
    · exact hset hnone
    · rw [haccepts'] at hnot
      cases hnot
  rw [sat_bind, sat_modifyControl, sat_pure]
  have hpushed := h.push { mAction := .stop, mActionTimeUs := stopTimeUs }
    stopTimeUs hnone haccepts' htime (fun _ => htime)
  exact hpushed

theorem configure_queued (h : Queued s.toControl) (args : ConfigureArgs) :
    Sat (configure args) (fun _ t => Queued t.toControl) (fun _ _ => True) s := by
  unfold configure
  rw [sat_bind, sat_get]
  cases args.component with
  | none => exact h
  | some component =>
      apply ((SameActions.of_stays
        (Stays.setMaxAcquiredBufferCount args.bufferCount) s).mono
          (fun _ _ hdone => hdone) fun _ _ _ => trivial).bind
      intro _ u hu
      have hmax : Queued u.toControl := h.drops hu.drops
      have hsame : forall mComponent,
          Queued { u.toControl with mComponent := mComponent } :=
        fun _ => ⟨hmax.ordered, hmax.last, hmax.stop⟩
      simp only [sat_bind, sat_note, sat_ite, sat_pure, sat_modifyControl]
      refine ⟨fun _ => hmax, fun _ => ⟨fun _ => hsame _, fun _ =>
        ⟨fun _ => hsame _, fun _ => ?_⟩⟩⟩
      apply (SameActions.walk.assignLatest none _).mono
      · intro _ t ht
        have hnone : t.mActionQueue = [] := congrArg Actions.mActionQueue ht
        constructor
        · rw [hnone]
          exact List.Pairwise.nil
        · rw [hnone]
          intro a ha
          cases ha
        · rw [hnone]
          intro a ha
          cases ha
      · intro _ _ _
        trivial

theorem perform_drops {op : Op}
    (hsuspend : forall suspend time, op ≠ .setSuspend suspend time)
    (hstop : forall time, op ≠ .setStopTimeUs time)
    (hconfigure : forall args, op ≠ .configure args) :
    Leads DropsActions (perform op) := by
  cases op with
  | start => exact DropsActions.start.bind fun _ => leads_pure
  | stop =>
      refine .bind ?_ fun _ => leads_pure
      exact .bind (DropsActions.modifyControl fun _ => rfl)
        fun _ => leads_pure
  | release => exact DropsActions.release.bind fun _ => leads_pure
  | onInputBufferAdded bufferId =>
      exact (DropsActions.onInputBufferAdded bufferId).bind fun _ => leads_pure
  | onInputBufferEmptied bufferId fenceFd =>
      exact (DropsActions.onInputBufferEmptied bufferId fenceFd).bind
        fun _ => leads_pure
  | onFrameAvailable => exact DropsActions.onFrameAvailable.bind fun _ => leads_pure
  | onBuffersReleased =>
      exact DropsActions.onBuffersReleased.bind fun _ => leads_pure
  | configure args => exact absurd rfl (hconfigure args)
  | setSuspend suspend time => exact absurd rfl (hsuspend suspend time)
  | setRepeatPreviousFrameDelayUs repeatAfterUs =>
      refine .bind ?_ fun _ => leads_pure
      apply leads_get
      intro s
      apply leads_ite (fun _ => leads_pure)
      intro _
      exact .bind (DropsActions.modifyControl fun _ => rfl)
        fun _ => leads_pure
  | setTimeOffsetUs timeOffsetUs =>
      refine .bind ?_ fun _ => leads_pure
      apply leads_ite (fun _ => leads_pure)
      intro _
      exact .bind (DropsActions.modifyControl fun _ => rfl)
        fun _ => leads_pure
  | setMaxFps maxFps =>
      refine .bind ?_ fun _ => leads_pure
      apply leads_get
      intro s
      apply leads_ite (fun _ => leads_pure)
      intro _
      exact leads_ite
        (fun _ => .bind
          (DropsActions.modifyControl fun _ => rfl)
          fun _ => leads_pure)
        (fun _ => .bind
          (DropsActions.modifyControl fun _ => rfl)
          fun _ => leads_pure)
  | setStartTimeUs skipFramesBeforeUs =>
      refine .bind ?_ fun _ => leads_pure
      exact .bind (DropsActions.modifyControl fun _ => rfl)
        fun _ => leads_pure
  | setStopTimeUs time => exact absurd rfl (hstop time)
  | getStopTimeOffsetUs =>
      refine .bind ?_ fun _ => leads_pure
      apply leads_get
      intro s
      exact leads_ite (fun _ => leads_pure) (fun _ => leads_pure)
  | setTimeLapseConfig fps captureFps =>
      refine .bind ?_ fun _ => leads_pure
      apply leads_get
      intro s
      apply leads_ite (fun _ => leads_pure)
      intro _
      exact .bind (DropsActions.modifyControl fun _ => rfl)
        fun _ => leads_pure
  | setColorAspects aspectsPacked =>
      refine .bind ?_ fun _ => leads_pure
      exact .bind (DropsActions.modifyControl fun _ => rfl)
        fun _ => leads_pure
  | signalEndOfInputStream =>
      exact DropsActions.signalEndOfInputStream.bind fun _ => leads_pure
  | onMessageReceived generation =>
      exact (DropsActions.onMessageReceived generation).bind fun _ => leads_pure

theorem exec_queued (r : Request) (h : Queued s.toControl)
    (hnames : NamesStopTime s r) :
    Sat (exec r) (fun _ t => Queued t.toControl) (fun _ _ => True) s := by
  cases r with
  | queueFrame item => exact h
  | call op answers =>
      show Sat (perform op) _ _
        { s with toControl := { s.toControl with answers := answers } }
      have hanswers : Queued { s.toControl with answers := answers } :=
        ⟨h.ordered, h.last, h.stop⟩
      by_cases hsuspend : exists suspend time, op = .setSuspend suspend time
      · rcases hsuspend with ⟨suspend, time, hop⟩
        rw [hop]
        exact sat_bind.mpr (setSuspend_queued hanswers suspend time)
      by_cases hstop : exists time, op = .setStopTimeUs time
      · rcases hstop with ⟨time, hop⟩
        rw [hop] at hnames ⊢
        exact sat_bind.mpr (setStopTimeUs_queued hanswers time hnames)
      by_cases hconfigure : exists args, op = .configure args
      · rcases hconfigure with ⟨args, hop⟩
        rw [hop]
        exact sat_bind.mpr (configure_queued hanswers args)
      · apply (perform_drops (fun suspend time hop => hsuspend ⟨suspend, time, hop⟩)
          (fun time hop => hstop ⟨time, hop⟩)
          (fun args hop => hconfigure ⟨args, hop⟩) _).mono
        · intro _ t ht
          exact hanswers.drops ht
        · intro _ _ _
          trivial

end Requests

theorem reaches_queued {requests : List Request} {s : GraphicBufferSource}
    (hnames : Along exec NamesStopTime requests .initial)
    (h : Reaches requests s) : Queued s.toControl := by
  have hinitial : Queued GraphicBufferSource.initial.toControl :=
    ⟨List.Pairwise.nil, fun a ha => (List.not_mem_nil ha).elim,
      fun a ha => (List.not_mem_nil ha).elim⟩
  have hrun := run_sat (E := fun _ _ => True)
    (fun s r hs hr => exec_queued r hs hr) requests .initial hinitial hnames
  rcases h with ⟨replies, hrun'⟩
  rw [sat_of_ok hrun'] at hrun
  exact hrun

end Bqhelper
end Sm7225
