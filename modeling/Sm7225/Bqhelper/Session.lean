import Sm7225.Bqhelper.TwinRequests

/-!
# A new session

{lit}`configure` is meant to start over.  Two sources that agree on their
buffers are configured with the same arguments and then get the same requests.
They answer alike exactly when they agree on the two times that
{lit}`configure` does not reset.
-/

namespace Sm7225
namespace Bqhelper

open Lib

/-!
# Outcomes
-/

structure Outcome where
  abort : Option Abort
  replies : List Reply
  handedOver : List Event
  deriving DecidableEq, Repr

def handedSince (s t : GraphicBufferSource) : List Event :=
  (handovers t.log).drop (handovers s.log).length

def outcome (requests : List Request) (s : GraphicBufferSource) : Outcome :=
  match run exec requests s with
  | .ok replies t =>
      { abort := none, replies := replies, handedOver := handedSince s t }
  | .error e t =>
      { abort := some e, replies := [], handedOver := handedSince s t }

/-- The sources agree on their slots, their available and unacquired frames and
their codec buffers.  The identities of the buffers may differ. -/
def SameBuffers (s s' : GraphicBufferSource) : Prop :=
  { s.toBuffers.view with latest := none } =
    { s'.toBuffers.view with latest := none }

/-- After a successful {lit}`configure` with equal arguments, equal requests have
equal outcomes.  Messages from the looper are among the requests only when
{lit}`messages` are delivered. -/
def ConfiguresFresh (messages : Bool) (s s' : GraphicBufferSource) : Prop :=
  forall args answers t t',
    exec (.call (.configure args) answers) s = .ok (.status .ok) t ->
    exec (.call (.configure args) answers) s' = .ok (.status .ok) t' ->
    forall requests : List Request,
      (forall request, request ∈ requests -> request.isMessage = true ->
        messages = true) ->
      outcome requests t = outcome requests t'

/-- The times that {lit}`configure` does not reset. -/
structure SameTimes (s s' : GraphicBufferSource) : Prop where
  action : s.mLastActionTimeUs = s'.mLastActionTimeUs
  frame : s.mLastFrameTimestampUs = s'.mLastFrameTimestampUs

/-- The looper, which {lit}`configure` does not stop. -/
structure SameLooper (s s' : GraphicBufferSource) : Prop where
  looper : s.mLooper = s'.mLooper
  reflector : s.mReflector = s'.mReflector

/-!
# The configured source
-/

def View.without (v : View) (released : SlotId -> Bool) : View :=
  { v with slots := fun slot => if released slot then none else v.slots slot }

structure Configured (args : ConfigureArgs) (answers : Answers)
    (released : SlotId -> Bool) (s t : GraphicBufferSource) : Prop where
  view : t.toBuffers.view = { s.toBuffers.view.without released with latest := none }
  control : t.toControl = { s.toControl with
    answers := answers
    mComponent := args.component }.reset args.dataSpace
  handed : handovers t.log = handovers s.log

structure Discards (released : SlotId -> Bool) (s t : GraphicBufferSource) : Prop where
  view : t.toBuffers.view = s.toBuffers.view.without released
  control : t.toControl = s.toControl
  handed : handovers t.log = handovers s.log

theorem discards_none (s : GraphicBufferSource) : Discards (fun _ => false) s s :=
  ⟨rfl, rfl, rfl⟩

theorem discardBufferInSlot_l_discards (slot : SlotId) (s : GraphicBufferSource) :
    Sat (discardBufferInSlot_l slot)
      (fun _ t => Discards (fun j => decide (j = slot)) s t) (fun _ _ => False) s := by
  unfold discardBufferInSlot_l discardBufferAtSlotIndex_l
  rw [sat_bind, sat_get]
  cases hslot : s.mBufferSlots.find? slot with
  | none =>
      have hslots : s.toBuffers.view.slots =
          fun j => if decide (j = slot) then none else s.toBuffers.view.slots j := by
        funext j
        by_cases hj : j = slot
        · rw [hj]
          simp [Buffers.view, hslot]
        · simp [hj]
      refine ⟨?_, rfl, rfl⟩
      unfold View.without
      rw [← hslots]
  | some buffer =>
      simp only [sat_bind, sat_modifyBuffers, sat_pure]
      refine ⟨?_, rfl, ?_⟩
      · rw [Buffers.view_removeSlot, Buffers.view_dropFromCache]
        simp [View.without]
      · exact filterMap_snoc_of_none (f := Event.handover?) rfl s.log

theorem discardMasked_discards (n : Nat) (i : SlotId) (slotMask : BitVec 64) :
    exists released, forall s, Sat (discardMasked n i slotMask)
      (fun _ t => Discards released s t) (fun _ _ => False) s := by
  induction n generalizing i slotMask with
  | zero => exact ⟨fun _ => false, discards_none⟩
  | succ n ih =>
      rcases ih (i + 1) (slotMask >>> 1) with ⟨released, hrest⟩
      by_cases hbit : slotMask.getLsbD 0 = true
      · refine ⟨fun j => released j || decide (j = i), fun s => ?_⟩
        unfold discardMasked
        rw [if_pos hbit]
        apply (discardBufferInSlot_l_discards i s).bind
        intro _ t ht
        apply (hrest t).imp
        intro _ u hu
        refine ⟨?_, hu.control.trans ht.control, hu.handed.trans ht.handed⟩
        rw [hu.view, ht.view]
        unfold View.without
        congr 1
        funext j
        by_cases hj : released j = true
        · simp [hj]
        · simp [hj]
      · refine ⟨released, fun s => ?_⟩
        unfold discardMasked
        rw [if_neg hbit]
        exact hrest s

theorem setMaxAcquiredBufferCount_discards (bufferCount : Int) (answers : Answers) :
    exists released, forall s : GraphicBufferSource, s.answers = answers ->
      Sat (setMaxAcquiredBufferCount bufferCount) (fun _ t => Discards released s t)
        (fun _ _ => False) s := by
  unfold setMaxAcquiredBufferCount
  by_cases hcalled : answers.countReleasesBuffers = true
  · rcases discardMasked_discards numBufferSlots 0
      (answers.releasedBuffers.getD (BitVec.allOnes 64)) with ⟨released, hdiscards⟩
    refine ⟨released, fun s hanswers => ?_⟩
    rw [sat_bind, sat_note, sat_bind, sat_get]
    show Sat (if s.answers.countReleasesBuffers then onBuffersReleased else pure ()) _ _ _
    rw [hanswers, if_pos hcalled]
    unfold onBuffersReleased
    rw [sat_bind, sat_get]
    show Sat (discardMasked _ _ (s.answers.releasedBuffers.getD _)) _ _ _
    rw [hanswers]
    apply (hdiscards _).imp
    intro _ t ht
    refine ⟨ht.view, ht.control, ht.handed.trans ?_⟩
    exact handovers_note s.toBuffers rfl
  · refine ⟨fun _ => false, fun s hanswers => ?_⟩
    rw [sat_bind, sat_note, sat_bind, sat_get]
    show Sat (if s.answers.countReleasesBuffers then onBuffersReleased else pure ()) _ _ _
    rw [hanswers, if_neg hcalled]
    exact ⟨rfl, rfl, handovers_note s.toBuffers rfl⟩

theorem configure_configured (args : ConfigureArgs) (answers : Answers) :
    exists released, forall s, Sat (exec (.call (.configure args) answers))
      (fun r t => r = .status .ok -> Configured args answers released s t)
      (fun _ _ => True) s := by
  rcases setMaxAcquiredBufferCount_discards args.bufferCount answers with
    ⟨released, hdiscards⟩
  refine ⟨released, fun s => ?_⟩
  unfold exec perform configure
  cases hcomponent : args.component with
  | none =>
      simp only [sat_bind, sat_modifyControl, sat_get, sat_pure, hcomponent]
      intro h
      cases h
  | some component =>
      rw [sat_bind, sat_modifyControl, sat_bind, sat_bind, sat_get]
      simp only [hcomponent]
      rw [sat_bind]
      apply (hdiscards _ rfl).total
      intro _ u hu
      simp only [sat_bind, sat_modifyControl, sat_pure, sat_note,
        sat_ite, assignLatest, sat_modifyBuffers, sat_unholdAll, sat_get]
      constructor
      · intro hfails h
        injection h with h
        exact absurd h hfails
      · intro _
        constructor
        · intro hfails h
          injection h with h
          exact absurd h hfails
        · intro _
          constructor
          · intro hfails h
            injection h with h
            exact absurd h hfails
          · intro _ _
            constructor
            · simp only [view_unholdAll, Buffers.view_setLatest,
                Buffers.view_note, Option.map_none, hu.view]
            · rw [hcomponent, hu.control]
            · rw [handovers_unholdAll]
              show handovers (Buffers.note _ _).log = _
              rw [handovers_note _ rfl, handovers_note _ rfl,
                handovers_note _ rfl, handovers_note _ rfl,
                handovers_note _ rfl]
              exact hu.handed

theorem twins_of_configured {messages : Bool} {args : ConfigureArgs}
    {answers : Answers} {released : SlotId -> Bool} {s s' t t' : GraphicBufferSource}
    (hbuffers : SameBuffers s s') (htimes : SameTimes s s')
    (hlooper : messages = true -> SameLooper s s')
    (ht : Configured args answers released s t)
    (ht' : Configured args answers released s' t') :
    Twins messages (handovers t.log) (handovers t'.log) t t' := by
  constructor
  · rw [ht.view, ht'.view]
    exact congrArg (fun v : View => v.without released) hbuffers
  · rw [ht.control, ht'.control]
    apply Control.session_reset
    · rfl
    · rfl
    · exact htimes.action
    · exact htimes.frame
    · intro hmessages
      exact ⟨(hlooper hmessages).looper, (hlooper hmessages).reflector⟩
  · intro _
    rw [ht.control]
    rfl
  · exists []
    rw [List.append_nil, List.append_nil]
    exact ⟨rfl, rfl⟩

theorem outcome_eq_of_twins {messages : Bool} {s s' : GraphicBufferSource}
    {requests : List Request}
    (h : Twins messages (handovers s.log) (handovers s'.log) s s')
    (hrequests : forall request, request ∈ requests ->
      request.isMessage = true -> messages = true) :
    outcome requests s = outcome requests s' := by
  have hsince : forall t t' : GraphicBufferSource,
      Twins messages (handovers s.log) (handovers s'.log) t t' ->
      handedSince s t = handedSince s' t' := by
    intro t t' ht
    rcases ht.handed with ⟨new, hnew, hnew'⟩
    unfold handedSince
    rw [hnew, hnew', List.drop_left, List.drop_left]
  have halike : Alike (Twins messages (handovers s.log) (handovers s'.log))
      (fun rs rs' => rs = rs') (run exec requests) (run exec requests) :=
    alike_run (fun request hmem => alike_exec request (hrequests request hmem))
  have hends := halike s s' h
  unfold outcome
  cases hrun : run exec requests s with
  | ok replies t =>
      cases hrun' : run exec requests s' with
      | ok replies' t' =>
          rw [hrun, hrun'] at hends
          dsimp only
          rw [hends.1, hsince t t' hends.2]
      | error e' t' =>
          rw [hrun, hrun'] at hends
          exact hends.elim
  | error e t =>
      cases hrun' : run exec requests s' with
      | ok replies' t' =>
          rw [hrun, hrun'] at hends
          exact hends.elim
      | error e' t' =>
          rw [hrun, hrun'] at hends
          dsimp only
          rw [hends.1, hsince t t' hends.2]

theorem configuresFresh_of_sameTimes {messages : Bool}
    {s s' : GraphicBufferSource} (hbuffers : SameBuffers s s')
    (htimes : SameTimes s s') (hlooper : messages = true -> SameLooper s s') :
    ConfiguresFresh messages s s' := by
  intro args answers t t' ht ht' requests hrequests
  rcases configure_configured args answers with ⟨released, hconfigures⟩
  have hconfigured : Configured args answers released s t :=
    (sat_of_ok ht).mp (hconfigures s) rfl
  have hconfigured' : Configured args answers released s' t' :=
    (sat_of_ok ht').mp (hconfigures s') rfl
  have htwins : Twins messages (handovers t.log) (handovers t'.log) t t' :=
    twins_of_configured hbuffers htimes hlooper hconfigured hconfigured'
  exact outcome_eq_of_twins htwins hrequests

/-!
# Reading the two times off the replies
-/

def stopAt (stopTimeUs : Int) : Request :=
  .call (.setStopTimeUs stopTimeUs) { systemTimeNs := stopTimeUs * 1000 }

def Control.servingStopAt (c : Control) (stopTimeUs : Int) : Control :=
  { c with answers := { systemTimeNs := stopTimeUs * 1000 } }

def Control.afterLastAction (c : Control) (timeUs : Int) : Prop :=
  c.mLastActionTimeUs = -1 ∨ c.mLastActionTimeUs <= timeUs

theorem accepts_stopAt (c : Control) (stopTimeUs : Int) :
    (c.servingStopAt stopTimeUs).acceptsActionTime stopTimeUs = true <->
      c.afterLastAction stopTimeUs := by
  have hnow : stopTimeUs <= Int.tdiv (stopTimeUs * 1000) 1000 := by
    rw [Int.mul_tdiv_cancel stopTimeUs (by decide)]
  unfold Control.acceptsActionTime Control.afterLastAction Control.servingStopAt
  rw [decide_eq_true hnow, Bool.true_and, Bool.or_eq_true, decide_eq_true_iff,
    decide_eq_true_iff]

theorem stopAt_accepted {s : GraphicBufferSource} {stopTimeUs : Int}
    (hstop : s.mStopTimeUs = -1) (hafter : s.afterLastAction stopTimeUs) :
    Sat (exec (stopAt stopTimeUs))
      (fun r t => r = .status .ok ∧ t.mStopTimeUs = stopTimeUs ∧
        t.mLastFrameTimestampUs = s.mLastFrameTimestampUs)
      (fun _ _ => False) s := by
  have haccepts := (accepts_stopAt s.toControl stopTimeUs).mpr hafter
  unfold Control.servingStopAt at haccepts
  unfold stopAt exec perform setStopTimeUs
  simp only [sat_bind, sat_modifyControl, sat_get, sat_pure, sat_ite]
  constructor
  · intro hset
    exact absurd hstop hset
  · intro _
    constructor
    · intro hrejects
      rw [haccepts] at hrejects
      cases hrejects
    · intro _
      exact ⟨trivial, trivial, trivial⟩

theorem stopAt_rejected {s : GraphicBufferSource} {stopTimeUs : Int}
    (hstop : s.mStopTimeUs = -1) (hbefore : ¬s.afterLastAction stopTimeUs) :
    Sat (exec (stopAt stopTimeUs)) (fun r _ => r = .status .invalidOperation)
      (fun _ _ => False) s := by
  have hrejects : (s.toControl.servingStopAt stopTimeUs).acceptsActionTime
      stopTimeUs = false := by
    apply Bool.eq_false_iff.mpr
    intro haccepts
    exact hbefore ((accepts_stopAt s.toControl stopTimeUs).mp haccepts)
  unfold Control.servingStopAt at hrejects
  unfold stopAt exec perform setStopTimeUs
  simp only [sat_bind, sat_modifyControl, sat_get, sat_pure, sat_ite]
  constructor
  · intro hset
    exact absurd hstop hset
  · intro _
    constructor
    · intro _
      trivial
    · intro haccepts
      rw [hrejects] at haccepts
      exact absurd rfl haccepts

theorem offset_reply {s : GraphicBufferSource} (answers : Answers)
    (hstop : s.mStopTimeUs ≠ -1) :
    Sat (exec (.call .getStopTimeOffsetUs answers))
      (fun r _ => r = .stopTimeOffset .ok
        (some (if s.mLastFrameTimestampUs = -1 then 0
          else s.mStopTimeUs - s.mLastFrameTimestampUs)))
      (fun _ _ => False) s := by
  unfold exec perform getStopTimeOffsetUs
  simp only [sat_bind, sat_modifyControl, sat_get, sat_pure, sat_ite]
  constructor
  · intro hunset
    exact absurd hunset hstop
  · intro _
    trivial

theorem replies_of_sat {requests : List Request} {replies : List Reply}
    {s : GraphicBufferSource}
    (h : Sat (run exec requests) (fun rs _ => rs = replies) (fun _ _ => False) s) :
    (outcome requests s).replies = replies := by
  rcases h.returns with ⟨rs, t, hrun, hrs⟩
  unfold outcome
  rw [hrun]
  exact hrs

theorem replies_accepted {s : GraphicBufferSource} {stopTimeUs : Int}
    (hstop : s.mStopTimeUs = -1) (hafter : s.afterLastAction stopTimeUs) :
    (outcome [stopAt stopTimeUs] s).replies = [.status .ok] := by
  apply replies_of_sat
  apply (stopAt_accepted hstop hafter).bind
  intro r t hr
  rw [hr.1]
  exact rfl

theorem replies_rejected {s : GraphicBufferSource} {stopTimeUs : Int}
    (hstop : s.mStopTimeUs = -1) (hbefore : ¬s.afterLastAction stopTimeUs) :
    (outcome [stopAt stopTimeUs] s).replies = [.status .invalidOperation] := by
  apply replies_of_sat
  apply (stopAt_rejected hstop hbefore).bind
  intro r t hr
  rw [hr]
  exact rfl

theorem replies_offset {s : GraphicBufferSource} {stopTimeUs : Int}
    (hstop : s.mStopTimeUs = -1) (hafter : s.afterLastAction stopTimeUs)
    (hset : stopTimeUs ≠ -1) :
    (outcome [stopAt stopTimeUs, Op.getStopTimeOffsetUs.now] s).replies =
      [.status .ok, .stopTimeOffset .ok
        (some (if s.mLastFrameTimestampUs = -1 then 0
          else stopTimeUs - s.mLastFrameTimestampUs))] := by
  apply replies_of_sat
  apply (stopAt_accepted hstop hafter).bind
  intro r t hr
  rcases hr with ⟨hr, hstopped, hframe⟩
  have hset' : t.mStopTimeUs ≠ -1 := by
    rw [hstopped]
    exact hset
  have hoffset := offset_reply {} hset'
  rw [hstopped, hframe] at hoffset
  apply Sat.bind (Q := fun rs _ => rs = [.stopTimeOffset .ok
    (some (if s.mLastFrameTimestampUs = -1 then 0
      else stopTimeUs - s.mLastFrameTimestampUs))])
  · apply hoffset.bind
    intro r' t' hr'
    rw [hr']
    exact rfl
  · intro rs t' hrs
    rw [hr, hrs]
    exact rfl

theorem lastAction_eq {s s' : GraphicBufferSource} (hstop : s.mStopTimeUs = -1)
    (hstop' : s'.mStopTimeUs = -1)
    (h : forall stopTimeUs, outcome [stopAt stopTimeUs] s =
      outcome [stopAt stopTimeUs] s') :
    s.mLastActionTimeUs = s'.mLastActionTimeUs := by
  have hsame : forall stopTimeUs,
      s.afterLastAction stopTimeUs <-> s'.afterLastAction stopTimeUs := by
    intro stopTimeUs
    have hreplies := congrArg Outcome.replies (h stopTimeUs)
    by_cases hafter : s.afterLastAction stopTimeUs
    · by_cases hafter' : s'.afterLastAction stopTimeUs
      · exact ⟨fun _ => hafter', fun _ => hafter⟩
      · rw [replies_accepted hstop hafter, replies_rejected hstop' hafter']
          at hreplies
        cases hreplies
    · by_cases hafter' : s'.afterLastAction stopTimeUs
      · rw [replies_rejected hstop hafter, replies_accepted hstop' hafter']
          at hreplies
        cases hreplies
      · exact ⟨fun h => absurd h hafter, fun h => absurd h hafter'⟩
  unfold Control.afterLastAction at hsame
  have hat := hsame s.mLastActionTimeUs
  have hat' := hsame s'.mLastActionTimeUs
  have hbefore := hsame (s.mLastActionTimeUs - 1)
  have hbefore' := hsame (s'.mLastActionTimeUs - 1)
  omega

theorem lastFrame_eq {s s' : GraphicBufferSource} (hstop : s.mStopTimeUs = -1)
    (hstop' : s'.mStopTimeUs = -1)
    (haction : s.mLastActionTimeUs = s'.mLastActionTimeUs)
    (h : forall stopTimeUs,
      outcome [stopAt stopTimeUs, Op.getStopTimeOffsetUs.now] s =
        outcome [stopAt stopTimeUs, Op.getStopTimeOffsetUs.now] s') :
    s.mLastFrameTimestampUs = s'.mLastFrameTimestampUs := by
  have hoffsets : forall stopTimeUs, 0 <= stopTimeUs ->
      s.mLastActionTimeUs <= stopTimeUs ->
      (if s.mLastFrameTimestampUs = -1 then 0
        else stopTimeUs - s.mLastFrameTimestampUs) =
      (if s'.mLastFrameTimestampUs = -1 then 0
        else stopTimeUs - s'.mLastFrameTimestampUs) := by
    intro stopTimeUs hpositive hlate
    have hafter : s.afterLastAction stopTimeUs := Or.inr hlate
    have hafter' : s'.afterLastAction stopTimeUs := by
      unfold Control.afterLastAction
      rw [← haction]
      exact Or.inr hlate
    have hset : stopTimeUs ≠ -1 := by omega
    have hreplies := congrArg Outcome.replies (h stopTimeUs)
    rw [replies_offset hstop hafter hset, replies_offset hstop' hafter' hset]
      at hreplies
    injection hreplies with _ hreplies
    injection hreplies with hreply
    injection hreply with _ hoffset
    exact Option.some.inj hoffset
  have hfirst := hoffsets (max s.mLastActionTimeUs 0) (by omega) (by omega)
  have hsecond := hoffsets (max s.mLastActionTimeUs 0 + 1) (by omega) (by omega)
  by_cases hframe : s.mLastFrameTimestampUs = -1
  · by_cases hframe' : s'.mLastFrameTimestampUs = -1
    · rw [hframe, hframe']
    · rw [if_pos hframe, if_neg hframe'] at hfirst hsecond
      omega
  · by_cases hframe' : s'.mLastFrameTimestampUs = -1
    · rw [if_neg hframe, if_pos hframe'] at hfirst hsecond
      omega
    · rw [if_neg hframe, if_neg hframe'] at hfirst
      omega

def configured (s : GraphicBufferSource) : GraphicBufferSource :=
  match exec (configureFor 0) s with
  | .ok _ t => t
  | .error _ t => t

theorem exec_configureFor (s : GraphicBufferSource) :
    exec (configureFor 0) s = .ok (.status .ok) (configured s) := rfl

theorem ConfiguresFresh.outcome_eq {messages : Bool} {s s' : GraphicBufferSource}
    (h : ConfiguresFresh messages s s') (requests : List Request)
    (hrequests : forall request, request ∈ requests ->
      request.isMessage = true -> messages = true) :
    outcome requests (configured s) = outcome requests (configured s') :=
  h _ _ (configured s) (configured s') (exec_configureFor s)
    (exec_configureFor s') requests hrequests

theorem configured_stopTime (s : GraphicBufferSource) :
    (configured s).mStopTimeUs = -1 := rfl

theorem sameTimes_of_configuresFresh {messages : Bool} {s s' : GraphicBufferSource}
    (h : ConfiguresFresh messages s s') : SameTimes s s' := by
  have haction : (configured s).mLastActionTimeUs =
      (configured s').mLastActionTimeUs := by
    apply lastAction_eq (configured_stopTime s) (configured_stopTime s')
    intro stopTimeUs
    apply h.outcome_eq
    intro request hmem hmessage
    rw [List.mem_singleton.mp hmem] at hmessage
    cases hmessage
  have hframe : (configured s).mLastFrameTimestampUs =
      (configured s').mLastFrameTimestampUs := by
    apply lastFrame_eq (configured_stopTime s) (configured_stopTime s') haction
    intro stopTimeUs
    apply h.outcome_eq
    intro request hmem hmessage
    rcases List.mem_pair.mp hmem with hmem | hmem
    · rw [hmem] at hmessage
      cases hmessage
    · rw [hmem] at hmessage
      cases hmessage
  constructor
  · exact haction
  · exact hframe

/-!
# The main result
-/

/-- Two sources with the same buffers start alike after {lit}`configure` exactly
when they agree on the times of their last action and their last frame.  With
messages from the looper, they also have to agree on the looper. -/
theorem configure_starts_fresh (s s' : GraphicBufferSource)
    (hbuffers : SameBuffers s s') :
    (ConfiguresFresh false s s' <-> SameTimes s s') ∧
      (SameLooper s s' -> (ConfiguresFresh true s s' <-> SameTimes s s')) := by
  constructor
  · constructor
    · exact sameTimes_of_configuresFresh
    · intro htimes
      apply configuresFresh_of_sameTimes hbuffers htimes
      intro hfalse
      cases hfalse
  · intro hlooper
    constructor
    · exact sameTimes_of_configuresFresh
    · intro htimes
      apply configuresFresh_of_sameTimes hbuffers htimes
      intro _
      exact hlooper

/-- A session with settings of its own, left before its start. -/
def settingsSession : List Request :=
  [configureFor 0, (Op.onInputBufferAdded 1).now] ++ deliver (newFrame 0 1 100) ++
    [(Op.setTimeOffsetUs (-250)).now, (Op.setMaxFps 30).now,
      Op.signalEndOfInputStream.now]

/-- A session with one codec buffer and one frame, and nothing else. -/
def plainSession : List Request :=
  [configureFor 1, (Op.onInputBufferAdded 1).now] ++ deliver (newFrame 0 1 100)

theorem configure_starts_fresh_settings :
    ConfiguresFresh false (final settingsSession) (final plainSession) ∧
      ConfiguresFresh true (final settingsSession) (final plainSession) := by
  have hbuffers : SameBuffers (final settingsSession) (final plainSession) := by
    unfold SameBuffers
    rfl
  have htimes : SameTimes (final settingsSession) (final plainSession) := by
    constructor
    · decide +kernel
    · decide +kernel
  have hlooper : SameLooper (final settingsSession) (final plainSession) := by
    constructor
    · decide +kernel
    · decide +kernel
  have hfresh := configure_starts_fresh (final settingsSession)
    (final plainSession) hbuffers
  constructor
  · exact hfresh.1.mpr htimes
  · exact (hfresh.2 hlooper).mpr htimes

/-!
# Earlier sessions that show
-/

/-- A session in which a stop was requested for the first second. -/
def stoppedSession : List Request :=
  [configureFor 0, stopAt 1000000]

/-- A session in which nothing happened. -/
def emptySession : List Request :=
  [configureFor 0]

/-- The next session rejects a stop after half a second. -/
theorem stopTime_outlives_configure :
    Reaches stoppedSession (final stoppedSession) ∧
      Reaches emptySession (final emptySession) ∧
      SameBuffers (final stoppedSession) (final emptySession) ∧
      SameLooper (final stoppedSession) (final emptySession) ∧
      ¬ConfiguresFresh false (final stoppedSession) (final emptySession) := by
  constructor
  · exact reaches_final (by decide +kernel)
  constructor
  · exact reaches_final (by decide +kernel)
  constructor
  · unfold SameBuffers
    rfl
  constructor
  · exact ⟨by decide +kernel, by decide +kernel⟩
  · intro hfresh
    have houtcome := hfresh.outcome_eq [stopAt 500000] (by decide)
    exact absurd houtcome (by decide +kernel)

def frameSession : List Request :=
  session 0 [1] ++ deliver (newFrame 0 1 5000000) ++
    [(Op.onInputBufferEmptied 1 (-1)).now]

def discardingSession : List Request :=
  [configureFor 0, (Op.onInputBufferAdded 1).now] ++
    deliver (newFrame 0 1 5000000) ++ [(Op.setSuspend true (-1)).now]

theorem frameTime_outlives_configure :
    Reaches frameSession (final frameSession) ∧
      Reaches discardingSession (final discardingSession) ∧
      SameBuffers (final frameSession) (final discardingSession) ∧
      SameLooper (final frameSession) (final discardingSession) ∧
      ¬ConfiguresFresh false (final frameSession) (final discardingSession) := by
  constructor
  · exact reaches_final (by decide +kernel)
  constructor
  · exact reaches_final (by decide +kernel)
  constructor
  · unfold SameBuffers
    rfl
  constructor
  · exact ⟨by decide +kernel, by decide +kernel⟩
  · intro hfresh
    have houtcome := hfresh.outcome_eq
      [stopAt 500000, Op.getStopTimeOffsetUs.now] (by decide)
    exact absurd houtcome (by decide +kernel)

def repeatingSession : List Request :=
  [configureFor 0, (Op.setRepeatPreviousFrameDelayUs 1000).now, Op.start.now]

theorem looper_outlives_configure :
    SameBuffers (final repeatingSession) (final emptySession) ∧
      SameTimes (final repeatingSession) (final emptySession) ∧
      ¬ConfiguresFresh true (final repeatingSession) (final emptySession) := by
  constructor
  · unfold SameBuffers
    rfl
  constructor
  · exact ⟨by decide +kernel, by decide +kernel⟩
  · intro hfresh
    have houtcome := hfresh.outcome_eq
      ([(Op.setRepeatPreviousFrameDelayUs 1000).now,
        (Op.onInputBufferAdded 1).now, (Op.onInputBufferAdded 2).now,
        (Op.onInputBufferAdded 3).now] ++ deliver (newFrame 0 1 100) ++
        deliver (newFrame 1 2 200) ++
        [Op.start.now, (Op.onMessageReceived 3).now])
      (fun _ _ _ => rfl)
    exact absurd houtcome (by decide +kernel)

end Bqhelper
end Sm7225
