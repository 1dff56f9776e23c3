import Sm7225.Bqhelper.Requests

/-!
# Refused calls

A call that returns an error should leave the source as it was.  Two calls put the new
value in place before the step that can fail: {lit}`configure` its component, and
{lit}`setMaxFps` its frame dropper.  Before that, {lit}`configure` may have made the
BufferQueue call {lit}`onBuffersReleased`.
-/

namespace Sm7225
namespace Bqhelper

open Lib

structure SameFields (s t : GraphicBufferSource) : Prop where
  frames : t.toFrames = s.toFrames
  memory : { t.toMemory with log := s.log } = s.toMemory
  control : { t.toControl with answers := s.answers } = s.toControl

def Op.controls : Op -> Bool
  | .configure _ => true
  | .setSuspend _ _ => true
  | .setStopTimeUs _ => true
  | .setRepeatPreviousFrameDelayUs _ => true
  | .setTimeOffsetUs _ => true
  | .setMaxFps _ => true
  | .setTimeLapseConfig _ _ => true
  | .signalEndOfInputStream => true
  | .onInputBufferAdded _ => true
  | _ => false

def Reply.refuses : Reply -> Bool
  | .status err => decide (err ≠ .ok)
  | _ => false

/-- A control call that returns an error changes nothing. -/
def RefusalKeeps (s : GraphicBufferSource) (r : Request) (reply : Reply)
    (t : GraphicBufferSource) : Prop :=
  forall op answers, r = .call op answers -> op.controls = true ->
    reply.refuses = true -> SameFields s t

structure ConfiguresHalf (s : GraphicBufferSource) (args : ConfigureArgs)
    (answers : Answers) : Prop where
  component : exists component, args.component = some component ∧
    s.mComponent ≠ some component
  accepted : answers.setMaxAcquiredBufferCount = .ok
  fails : answers.setDefaultBufferSize ≠ .ok ∨ answers.setDefaultBufferFormat ≠ .ok

structure ReleasesCached (s : GraphicBufferSource) (answers : Answers) : Prop where
  called : answers.countReleasesBuffers = true
  cached : exists slot : Nat, slot < numBufferSlots ∧
    (answers.releasedBuffers.getD (BitVec.allOnes 64)).getLsbD slot = true ∧
      s.mBufferSlots.find? (slot : SlotId) ≠ none

structure FailsAfterRelease (s : GraphicBufferSource) (args : ConfigureArgs)
    (answers : Answers) : Prop where
  component : args.component ≠ none
  released : ReleasesCached s answers
  fails : answers.setMaxAcquiredBufferCount ≠ .ok ∨ answers.setDefaultBufferSize ≠ .ok ∨
    answers.setDefaultBufferFormat ≠ .ok

structure LosesDropper (s : GraphicBufferSource) (maxFps : Binary32) : Prop where
  executing : s.mExecuting = false
  rate : maxFps = 0
  dropper : s.mFrameDropper ≠ none

def FailsHalfway (s : GraphicBufferSource) : Request -> Prop
  | .call (.configure args) answers =>
      ConfiguresHalf s args answers ∨ FailsAfterRelease s args answers
  | .call (.setMaxFps maxFps) _ => LosesDropper s maxFps
  | _ => False

section Functions

variable {s : GraphicBufferSource} {answers : Answers}

theorem sameFields_answers : SameFields s { s with answers := answers } :=
  ⟨rfl, rfl, rfl⟩

theorem not_refuses_ok {p : Prop} (h : Reply.refuses (.status .ok) = true) : p := by
  cases h

/-!
# Calls that check first
-/

theorem setSuspend_refuses (suspend : Bool) (suspendStartTimeUs : Int) :
    Sat (exec (.call (.setSuspend suspend suspendStartTimeUs) answers))
      (fun reply t => reply.refuses = true -> SameFields s t) (fun _ _ => True) s := by
  show Sat (perform (.setSuspend suspend suspendStartTimeUs)) _ _
    { s with answers := answers }
  unfold perform setSuspend
  rw [sat_bind, sat_bind, sat_get, sat_ite]
  refine ⟨fun _ _ => sameFields_answers, fun _ => ?_⟩
  rw [sat_ite]
  constructor
  · intro _
    rw [sat_ite]
    exact ⟨fun _ _ => sameFields_answers, fun _ => not_refuses_ok⟩
  · intro _
    rw [sat_ite]
    constructor
    · intro _
      rw [sat_bind, sat_modifyControl, sat_bind]
      apply sat_true.imp
      intro _ _ _
      exact not_refuses_ok
    · intro _
      rw [sat_bind]
      apply sat_true.imp
      intro _ _ _
      exact not_refuses_ok

theorem setStopTimeUs_refuses (stopTimeUs : Int) :
    Sat (exec (.call (.setStopTimeUs stopTimeUs) answers))
      (fun reply t => reply.refuses = true -> SameFields s t) (fun _ _ => True) s := by
  show Sat (perform (.setStopTimeUs stopTimeUs)) _ _ { s with answers := answers }
  unfold perform setStopTimeUs
  rw [sat_bind, sat_bind, sat_get, sat_ite]
  refine ⟨fun _ => not_refuses_ok, fun _ => ?_⟩
  rw [sat_ite]
  exact ⟨fun _ _ => sameFields_answers, fun _ => not_refuses_ok⟩

theorem signalEndOfInputStream_refuses :
    Sat (exec (.call .signalEndOfInputStream answers))
      (fun reply t => reply.refuses = true -> SameFields s t) (fun _ _ => True) s := by
  show Sat (perform .signalEndOfInputStream) _ _ { s with answers := answers }
  unfold perform signalEndOfInputStream
  rw [sat_bind, sat_bind, sat_get, sat_ite]
  refine ⟨fun _ _ => sameFields_answers, fun _ => ?_⟩
  rw [sat_bind, sat_modifyControl, sat_ite]
  constructor
  · intro _
    rw [sat_bind]
    apply sat_true.imp
    intro _ _ _
    exact not_refuses_ok
  · intro _
    exact not_refuses_ok

theorem checked_refuses {op : Op} (hcontrols : op.controls = true)
    (hconfigure : forall args, op ≠ .configure args)
    (hmaxFps : forall maxFps, op ≠ .setMaxFps maxFps) :
    Sat (exec (.call op answers))
      (fun reply t => reply.refuses = true -> SameFields s t) (fun _ _ => True) s := by
  cases op with
  | configure args => exact absurd rfl (hconfigure args)
  | setMaxFps maxFps => exact absurd rfl (hmaxFps maxFps)
  | setSuspend suspend suspendStartTimeUs =>
      exact setSuspend_refuses suspend suspendStartTimeUs
  | setStopTimeUs stopTimeUs => exact setStopTimeUs_refuses stopTimeUs
  | signalEndOfInputStream => exact signalEndOfInputStream_refuses
  | onInputBufferAdded bufferId =>
      show Sat (perform (.onInputBufferAdded bufferId)) _ _ { s with answers := answers }
      unfold perform onInputBufferAdded
      rw [sat_bind, sat_bind, sat_get, sat_ite]
      exact ⟨fun _ _ => sameFields_answers, fun _ => not_refuses_ok⟩
  | setRepeatPreviousFrameDelayUs repeatAfterUs =>
      show Sat (perform (.setRepeatPreviousFrameDelayUs repeatAfterUs)) _ _
        { s with answers := answers }
      unfold perform setRepeatPreviousFrameDelayUs
      rw [sat_bind, sat_bind, sat_get, sat_ite]
      exact ⟨fun _ _ => sameFields_answers, fun _ => not_refuses_ok⟩
  | setTimeOffsetUs timeOffsetUs =>
      show Sat (perform (.setTimeOffsetUs timeOffsetUs)) _ _ { s with answers := answers }
      unfold perform setTimeOffsetUs
      rw [sat_bind, sat_ite]
      exact ⟨fun _ _ => sameFields_answers, fun _ => not_refuses_ok⟩
  | setTimeLapseConfig fps captureFps =>
      show Sat (perform (.setTimeLapseConfig fps captureFps)) _ _
        { s with answers := answers }
      unfold perform setTimeLapseConfig
      rw [sat_bind, sat_bind, sat_get, sat_ite]
      exact ⟨fun _ _ => sameFields_answers, fun _ => not_refuses_ok⟩
  | _ => cases hcontrols

/-!
# Calls that set first
-/

theorem setMaxFrameRate_status (d : FrameDropper) (maxFps : Binary32) :
    (d.setMaxFrameRate maxFps).1 ≠ .ok <-> maxFps = 0 := by
  unfold FrameDropper.setMaxFrameRate
  constructor
  · intro hfails
    split at hfails
    · exact absurd rfl hfails
    · split at hfails
      · assumption
      · exact absurd rfl hfails
  · intro hzero
    rw [hzero, if_neg (by decide), if_pos rfl]
    exact Status.noConfusion

theorem setMaxFps_refuses (maxFps : Binary32) :
    Sat (exec (.call (.setMaxFps maxFps) answers))
        (fun reply t => reply.refuses = true -> SameFields s t) (fun _ _ => True) s <->
      ¬LosesDropper s maxFps := by
  show Sat (perform (.setMaxFps maxFps)) _ _ { s with answers := answers } <-> _
  unfold perform setMaxFps
  rw [sat_bind, sat_bind, sat_get, sat_ite, sat_ite]
  constructor
  · intro h hloses
    have hidle : ¬s.mExecuting = true := by
      rw [hloses.executing]
      exact Bool.false_ne_true
    have hfails := (setMaxFrameRate_status .new maxFps).mpr hloses.rate
    have hsame := (h.2 hidle).1 hfails (decide_eq_true hfails)
    exact hloses.dropper (congrArg Control.mFrameDropper hsame.control).symm
  · intro hkept
    refine ⟨fun _ _ => sameFields_answers, fun hidle => ⟨fun hfails _ => ?_, fun _ =>
      not_refuses_ok⟩⟩
    have hnone : s.mFrameDropper = none := by
      by_contra hsome
      exact hkept ⟨Bool.eq_false_iff.mpr hidle,
        (setMaxFrameRate_status .new maxFps).mp hfails, hsome⟩
    refine ⟨rfl, rfl, ?_⟩
    show { s.toControl with mFrameDropper := none } = s.toControl
    rw [← hnone]

theorem discardMasked_keeps (n : Nat) (i : SlotId) (slotMask : BitVec 64)
    (hnone : forall k : Nat, k < n -> slotMask.getLsbD k = true ->
      s.mBufferSlots.find? (i + k) = none) :
    Sat (discardMasked n i slotMask) (fun _ t => t = s) (fun _ _ => False) s := by
  induction n generalizing i slotMask with
  | zero => exact rfl
  | succ n ih =>
      have hrest : Sat (discardMasked n (i + 1) (slotMask >>> 1)) (fun _ t => t = s)
          (fun _ _ => False) s := by
        apply ih
        intro k hk hbit
        rw [BitVec.getLsbD_ushiftRight, Nat.add_comm] at hbit
        have hslot := hnone (k + 1) (by lia) hbit
        rwa [show i + ((k + 1 : Nat) : Int) = i + 1 + k by push_cast; ring] at hslot
      unfold discardMasked
      rw [sat_ite]
      refine ⟨fun hbit => ?_, fun _ => hrest⟩
      have hslot := hnone 0 (by lia) hbit
      rw [Nat.cast_zero, add_zero] at hslot
      unfold discardBufferInSlot_l
      rw [sat_bind, sat_bind, sat_get, hslot]
      exact hrest

theorem discardMasked_empties (n : Nat) (i : SlotId) (slotMask : BitVec 64) :
    Sat (discardMasked n i slotMask)
      (fun _ t => (forall k : Nat, k < n -> slotMask.getLsbD k = true ->
          t.mBufferSlots.find? (i + k) = none) ∧
        forall slot, s.mBufferSlots.find? slot = none ->
          t.mBufferSlots.find? slot = none)
      (fun _ _ => False) s := by
  induction n generalizing s i slotMask with
  | zero => exact ⟨fun k hk => absurd hk (Nat.not_lt_zero k), fun _ h => h⟩
  | succ n ih =>
      -- the slots after the first, from a state in which the first is empty if it is
      -- in the mask
      have hrest : forall u : GraphicBufferSource,
          (slotMask.getLsbD 0 = true -> u.mBufferSlots.find? i = none) ->
          (forall slot, s.mBufferSlots.find? slot = none ->
            u.mBufferSlots.find? slot = none) ->
          Sat (discardMasked n (i + 1) (slotMask >>> 1))
            (fun _ t => (forall k : Nat, k < n + 1 -> slotMask.getLsbD k = true ->
                t.mBufferSlots.find? (i + k) = none) ∧
              forall slot, s.mBufferSlots.find? slot = none ->
                t.mBufferSlots.find? slot = none)
            (fun _ _ => False) u := by
        intro u hfirst hold
        apply (ih (i + 1) (slotMask >>> 1)).imp
        intro _ t ht
        refine ⟨fun k hk hbit => ?_, fun slot hslot => ht.2 slot (hold slot hslot)⟩
        cases k with
        | zero =>
            rw [Nat.cast_zero, add_zero]
            exact ht.2 i (hfirst hbit)
        | succ k =>
            have hslot := ht.1 k (by lia)
              (by rw [BitVec.getLsbD_ushiftRight, Nat.add_comm]; exact hbit)
            rwa [show i + 1 + (k : Int) = i + ((k + 1 : Nat) : Int) by push_cast; ring]
              at hslot
      unfold discardMasked
      rw [sat_ite]
      constructor
      · intro _
        unfold discardBufferInSlot_l discardBufferAtSlotIndex_l
        rw [sat_bind, sat_bind, sat_get]
        cases hslot : s.mBufferSlots.find? i with
        | none => exact hrest s (fun _ => hslot) fun _ h => h
        | some buffer =>
            simp only [sat_bind, sat_modifyBuffers, sat_pure]
            apply hrest
            · intro _
              show (s.mBufferSlots.remove i).find? i = none
              rw [KeyedVector.find_remove, if_pos rfl]
            · intro slot hempty
              show (s.mBufferSlots.remove i).find? slot = none
              rw [KeyedVector.find_remove]
              split
              · rfl
              · exact hempty
      · intro hbit
        exact hrest s (fun h => absurd h hbit) fun _ h => h

theorem setMaxAcquiredBufferCount_keeps (bufferCount : Int)
    (hkept : ¬ReleasesCached s s.answers) :
    Sat (setMaxAcquiredBufferCount bufferCount)
      (fun _ t => exists log, t = { s with log := log }) (fun _ _ => False) s := by
  unfold setMaxAcquiredBufferCount
  rw [sat_bind, sat_note, sat_bind, sat_get, sat_ite]
  constructor
  · intro hcalled
    apply (discardMasked_keeps (s := { s with
      toBuffers := s.toBuffers.note (.setMaxAcquiredBufferCount bufferCount) })
        numBufferSlots 0 _ ?_).imp
    · intro _ t ht
      exact ⟨_, ht⟩
    · intro k hk hbit
      by_contra hcached
      rw [zero_add] at hcached
      exact hkept ⟨hcalled, k, hk, hbit, hcached⟩
  · intro _
    exact ⟨_, rfl⟩

theorem setMaxAcquiredBufferCount_releases (bufferCount : Int)
    (hreleased : ReleasesCached s s.answers) :
    Sat (setMaxAcquiredBufferCount bufferCount)
      (fun _ t => t.mBufferSlots ≠ s.mBufferSlots) (fun _ _ => False) s := by
  rcases hreleased with ⟨hcalled, slot, hslot, hbit, hcached⟩
  unfold setMaxAcquiredBufferCount
  rw [sat_bind, sat_note, sat_bind, sat_get, sat_ite]
  constructor
  · intro _
    apply (discardMasked_empties (s := { s with
      toBuffers := s.toBuffers.note (.setMaxAcquiredBufferCount bufferCount) })
        numBufferSlots 0 _).imp
    intro _ t ht hsame
    have hempty := ht.1 slot hslot hbit
    rw [zero_add, hsame] at hempty
    exact hcached hempty
  · intro hnot
    exact absurd hcalled hnot

theorem configure_refuses (args : ConfigureArgs) :
    Sat (exec (.call (.configure args) answers))
        (fun reply t => reply.refuses = true -> SameFields s t) (fun _ _ => True) s <->
      ¬(ConfiguresHalf s args answers ∨ FailsAfterRelease s args answers) := by
  show Sat (perform (.configure args)) _ _ { s with answers := answers } <-> _
  unfold perform configure
  rw [sat_bind, sat_bind, sat_get]
  cases hcomponent : args.component with
  | none =>
      constructor
      · intro _ hhalf
        rcases hhalf with hhalf | hhalf
        · rcases hhalf.component with ⟨component, hsome, _⟩
          rw [hcomponent] at hsome
          cases hsome
        · exact hhalf.component hcomponent
      · intro _ _
        exact sameFields_answers
  | some component =>
      have hcalls : ReleasesCached { s with answers := answers } answers <->
          ReleasesCached s answers := ⟨fun h => ⟨h.called, h.cached⟩,
        fun h => ⟨h.called, h.cached⟩⟩
      by_cases hreleased : ReleasesCached s answers
      · rcases (setMaxAcquiredBufferCount_releases args.bufferCount
          (hcalls.mpr hreleased)).returns with ⟨_, t, hexec, hslots⟩
        simp only
        rw [sat_bind, sat_of_ok hexec]
        simp only [sat_bind, sat_note, sat_ite, sat_pure, sat_modifyControl]
        -- a refusal after the release is seen in the slots
        have hchanged : forall {u : GraphicBufferSource}, SameFields s u ->
            u.mBufferSlots ≠ t.mBufferSlots := by
          intro u hsame hu
          have hkept := congrArg Memory.mBufferSlots hsame.memory
          exact hslots (hu.symm.trans hkept)
        constructor
        · intro h hhalf
          have hmax : answers.setMaxAcquiredBufferCount = .ok := by
            by_contra hfails
            exact hchanged (h.1 hfails (decide_eq_true hfails)) rfl
          have hrest := h.2 (not_not.mpr hmax)
          have hsize : answers.setDefaultBufferSize = .ok := by
            by_contra hfails
            exact hchanged (hrest.1 hfails (decide_eq_true hfails)) rfl
          have hformat : answers.setDefaultBufferFormat = .ok := by
            by_contra hfails
            exact hchanged
              ((hrest.2 (not_not.mpr hsize)).1 hfails (decide_eq_true hfails)) rfl
          have hfails : answers.setDefaultBufferSize ≠ .ok ∨
              answers.setDefaultBufferFormat ≠ .ok := by
            rcases hhalf with hhalf | hhalf
            · exact hhalf.fails
            · exact hhalf.fails.resolve_left (not_not.mpr hmax)
          rcases hfails with hfails | hfails
          · exact hfails hsize
          · exact hfails hformat
        · intro hwhole
          have hok : answers.setMaxAcquiredBufferCount = .ok ∧
              answers.setDefaultBufferSize = .ok ∧ answers.setDefaultBufferFormat = .ok := by
            by_contra hfails
            refine hwhole (.inr ⟨by simp [hcomponent], hreleased, ?_⟩)
            rw [← not_and_or, ← not_and_or]
            exact hfails
          refine ⟨fun hfails => absurd hok.1 hfails, fun _ =>
            ⟨fun hfails => absurd hok.2.1 hfails, fun _ =>
              ⟨fun hfails => absurd hok.2.2 hfails, fun _ => ?_⟩⟩⟩
          apply sat_true.imp
          intro _ _ _
          exact not_refuses_ok
      · rcases (setMaxAcquiredBufferCount_keeps args.bufferCount
          (fun h => hreleased (hcalls.mp h))).returns with ⟨_, t, hexec, log, ht⟩
        simp only
        rw [sat_bind, sat_of_ok hexec, ht]
        simp only [sat_bind, sat_note, sat_ite, sat_pure, sat_modifyControl]
        -- the state in which a later step fails
        have hinstalled : forall log, SameFields s { s with
            answers := answers, log := log, mComponent := some component } ->
              s.mComponent = some component := by
          intro log hsame
          exact (congrArg Control.mComponent hsame.control).symm
        constructor
        · intro h hfails
          have hhalf : ConfiguresHalf s args answers :=
            hfails.resolve_right fun hafter => hreleased hafter.released
          rcases hhalf.component with ⟨component', hsome, hnew⟩
          rw [hcomponent] at hsome
          cases hsome
          have hsize := (h.2 (not_not.mpr hhalf.accepted)).1
          have hformat := (h.2 (not_not.mpr hhalf.accepted)).2
          by_cases hfails : answers.setDefaultBufferSize = .ok
          · have hfails' := hhalf.fails.resolve_left (not_not.mpr hfails)
            exact hnew (hinstalled _
              ((hformat (not_not.mpr hfails)).1 hfails' (decide_eq_true hfails')))
          · exact hnew (hinstalled _ (hsize hfails (decide_eq_true hfails)))
        · intro hwhole
          have hsame : answers.setMaxAcquiredBufferCount = .ok ->
              (answers.setDefaultBufferSize ≠ .ok ∨
                answers.setDefaultBufferFormat ≠ .ok) ->
                s.mComponent = some component := by
            intro haccepted hfails
            by_contra hnew
            exact hwhole (.inl ⟨⟨component, hcomponent, hnew⟩, haccepted, hfails⟩)
          have hkept : forall log, s.mComponent = some component ->
              SameFields s { s with
                answers := answers, log := log, mComponent := some component } := by
            intro log hold
            refine ⟨rfl, rfl, ?_⟩
            show { s.toControl with mComponent := some component } = s.toControl
            rw [← hold]
          refine ⟨fun _ _ => ⟨rfl, rfl, rfl⟩, fun haccepted => ?_⟩
          rw [not_not] at haccepted
          refine ⟨fun hsize _ => hkept _ (hsame haccepted (Or.inl hsize)), fun _ => ?_⟩
          refine ⟨fun hformat _ => hkept _ (hsame haccepted (Or.inr hformat)), fun _ => ?_⟩
          apply sat_true.imp
          intro _ _ _
          exact not_refuses_ok

end Functions

/-!
# Runs
-/

theorem refusalKeeps_iff (s : GraphicBufferSource) (r : Request) :
    Sat (exec r) (fun reply t => RefusalKeeps s r reply t) (fun _ _ => True) s <->
      ¬FailsHalfway s r := by
  cases r with
  | queueFrame item =>
      constructor
      · intro _ hfails
        exact hfails
      · intro _ op answers hr
        cases hr
  | call op answers =>
      have hcall : Sat (exec (.call op answers))
            (fun reply t => RefusalKeeps s (.call op answers) reply t)
            (fun _ _ => True) s <->
          Sat (exec (.call op answers))
            (fun reply t => op.controls = true -> reply.refuses = true -> SameFields s t)
            (fun _ _ => True) s := by
        constructor
        · intro h
          apply h.imp
          intro reply t ht
          exact ht op answers rfl
        · intro h
          apply h.imp
          intro reply t ht op' answers' hr
          cases hr
          exact ht
      rw [hcall]
      cases hcontrols : op.controls with
      | false =>
          constructor
          · intro _ hfails
            cases op with
            | configure args => cases hcontrols
            | setMaxFps maxFps => cases hcontrols
            | _ => exact hfails
          · intro _
            apply sat_true.imp
            intro _ _ _ htrue
            cases htrue
      | true =>
          have hdrop : Sat (exec (.call op answers))
                (fun reply t => true = true -> reply.refuses = true -> SameFields s t)
                (fun _ _ => True) s <->
              Sat (exec (.call op answers))
                (fun reply t => reply.refuses = true -> SameFields s t)
                (fun _ _ => True) s := by
            simp only [forall_const]
          rw [hdrop]
          by_cases hconfigure : exists args, op = .configure args
          · rcases hconfigure with ⟨args, hop⟩
            rw [hop]
            exact configure_refuses args
          by_cases hmaxFps : exists maxFps, op = .setMaxFps maxFps
          · rcases hmaxFps with ⟨maxFps, hop⟩
            rw [hop]
            exact setMaxFps_refuses maxFps
          · constructor
            · intro _ hfails
              unfold FailsHalfway at hfails
              split at hfails
              · next args hr =>
                  cases hr
                  exact hconfigure ⟨_, rfl⟩
              · next hr =>
                  cases hr
                  exact hmaxFps ⟨_, rfl⟩
              · exact hfails
            · intro _
              exact checked_refuses hcontrols (fun args hop => hconfigure ⟨args, hop⟩)
                (fun maxFps hop => hmaxFps ⟨maxFps, hop⟩)

/-- Every control call of a run that returns an error changes nothing if and only if
no {lit}`configure` fails after its component was set to another one or after a cached
slot was released, and no {lit}`setMaxFps` fails where there was a frame dropper. -/
theorem refusals_keep_iff (requests : List Request) :
    EachReply exec RefusalKeeps requests .initial <->
      Along exec (fun s r => ¬FailsHalfway s r) requests .initial :=
  eachReply_iff_along refusalKeeps_iff requests .initial

/-- A frame rate of 30, and one of 0 that is refused. -/
def refusedRate : List Request :=
  [(Op.setMaxFps 30).now, (Op.setMaxFps 0).now]

/-- A second component whose buffer size is refused. -/
def refusedComponent : List Request :=
  [configureFor 0, .call (.configure {
    component := some 1
    dataSpace := 0
    bufferCount := 4
    frameWidth := 0
    frameHeight := 0
    consumerUsage := 0 }) { setDefaultBufferSize := .badValue }]

/-- The same component with a smaller count, which releases the slot of a frame, and a
refused buffer size. -/
def refusedSize : List Request :=
  session 0 [1] ++ deliver (newFrame 0 1 100) ++ [.call (.configure {
    component := some 0
    dataSpace := 0
    bufferCount := 1
    frameWidth := 0
    frameHeight := 0
    consumerUsage := 0 })
      { countReleasesBuffers := true, setDefaultBufferSize := .badValue }]

/-- The refused rate takes the frame dropper away, the refused component stays, and so
does the release of the slot. -/
theorem refusals_change : ¬EachReply exec RefusalKeeps refusedRate .initial ∧
    ¬EachReply exec RefusalKeeps refusedComponent .initial ∧
    ¬EachReply exec RefusalKeeps refusedSize .initial := by
  refine ⟨?_, ?_, ?_⟩
  · intro h
    rw [eachReply_iff_along refusalKeeps_iff] at h
    exact h.2.1 ⟨rfl, rfl, Option.some_ne_none _⟩
  · intro h
    rw [eachReply_iff_along refusalKeeps_iff] at h
    exact h.2.1 (.inl ⟨⟨1, rfl, by decide +kernel⟩, rfl, Or.inl Status.noConfusion⟩)
  · intro h
    rw [eachReply_iff_along refusalKeeps_iff] at h
    exact h.2.2.2.2.2.1 (.inr ⟨Option.some_ne_none _, ⟨rfl, 0, by decide, by decide,
      by decide +kernel⟩, .inr (.inl Status.noConfusion)⟩)

end Bqhelper
end Sm7225
