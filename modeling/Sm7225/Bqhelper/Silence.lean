import Sm7225.Bqhelper.ActionQueue
import Sm7225.Bqhelper.Reserve

/-!
# A stopped or suspended source is silent

While it does not execute, and while it is suspended and no RESUME is queued, the source
hands no frame to the component, neither a fresh one nor a repeat of the latest one.
What the BufferQueue, the codec and the looper do meanwhile does not matter, and the
client may queue PAUSE and STOP actions.
-/

namespace Sm7225
namespace Bqhelper

open Lib

def Control.Dozes (c : Control) : Prop :=
  c.mSuspended = true ∧ forall action, action ∈ c.mActionQueue -> action.mAction ≠ .resume

instance (c : Control) : Decidable c.Dozes :=
  inferInstanceAs (Decidable (_ ∧ _))

def SaysNothing (s t : GraphicBufferSource) : Prop :=
  s.toBuffers.Mute t.toBuffers

def KeepsDozing (s t : GraphicBufferSource) : Prop :=
  s.Dozes -> t.Dozes ∧ SaysNothing s t

def KeepsStopped (s t : GraphicBufferSource) : Prop :=
  s.mExecuting = false -> t.mExecuting = false ∧ SaysNothing s t

instance : Std.Refl KeepsDozing :=
  ⟨fun _ h => ⟨h, .of_log rfl⟩⟩

instance : IsTrans GraphicBufferSource KeepsDozing :=
  ⟨fun _ _ _ h h' hs =>
    have ht := h hs
    have hu := h' ht.1
    ⟨hu.1, ht.2.trans hu.2⟩⟩

instance : Std.Refl KeepsStopped :=
  ⟨fun _ h => ⟨h, .of_log rfl⟩⟩

instance : IsTrans GraphicBufferSource KeepsStopped :=
  ⟨fun _ _ _ h h' hs =>
    have ht := h hs
    have hu := h' ht.1
    ⟨hu.1, ht.2.trans hu.2⟩⟩

/-!
# Suspended
-/

namespace KeepsDozing

theorem modifyBuffers {f : Buffers -> Buffers} (h : forall b : Buffers, b.Mute (f b)) :
    Leads KeepsDozing (modifyBuffers f) :=
  leads_modify fun s hs => ⟨hs, h s.toBuffers⟩

theorem modifyControl {f : Control -> Control}
    (h : forall c : Control, c.Dozes -> (f c).Dozes) :
    Leads KeepsDozing (modifyControl f) :=
  leads_modify fun s hs => ⟨h s.toControl hs, .of_log rfl⟩

theorem reserved : Reserved KeepsDozing := by
  apply Backstage.reserved
  · apply Backstage.of_discreet
    · intro f h
      apply modifyControl
      intro c hc
      have hsuspended : (f c).mSuspended = c.mSuspended :=
        congrArg Standing.mSuspended (h c)
      have hqueue : (f c).mActionQueue = c.mActionQueue :=
        congrArg Standing.mActionQueue (h c)
      refine ⟨hsuspended.trans hc.1, ?_⟩
      rw [hqueue]
      exact hc.2
    · intro f h
      exact modifyBuffers fun b => (h b).mute
  · intro dropper
    exact modifyControl fun _ h => h
  · exact modifyControl fun _ h => h
  · exact modifyControl fun _ h => h

theorem newestDueAction_mem (itemTimeUs : Int) (nextAction : ActionItem)
    (queue : List ActionItem) :
    (newestDueAction itemTimeUs nextAction queue).1 ∈ nextAction :: queue := by
  induction queue generalizing nextAction with
  | nil => exact List.mem_cons_self
  | cons a rest ih =>
      unfold newestDueAction
      split
      · exact List.mem_cons_of_mem nextAction (ih a)
      · exact List.mem_cons_self

theorem performActions (itemTimeUs : Int) :
    Leads KeepsDozing (performActions itemTimeUs) := by
  intro s
  unfold Bqhelper.performActions
  have hsame : KeepsDozing s s := Std.Refl.refl s
  rw [sat_bind, sat_get]
  cases hqueue : s.mActionQueue with
  | nil => exact hsame
  | cons first rest =>
      have hrest : KeepsDozing s { s with
          mActionQueue := (newestDueAction itemTimeUs first (first :: rest)).2 } := by
        intro hs
        refine ⟨⟨hs.1, ?_⟩, .of_log rfl⟩
        intro action haction
        apply hs.2
        rw [hqueue]
        exact (newestDueAction_suffix itemTimeUs first (first :: rest)).subset haction
      simp only [sat_ite, sat_pure, sat_bind, sat_modifyControl, sat_check]
      refine ⟨fun _ => hsame, fun _ => ⟨fun _ => ?_, fun _ => hrest⟩⟩
      cases hnext : (newestDueAction itemTimeUs first (first :: rest)).1.mAction with
      | pause => exact fun hs => ⟨⟨rfl, (hrest hs).1.2⟩, .of_log rfl⟩
      | resume =>
          intro hs
          have hmem : (newestDueAction itemTimeUs first (first :: rest)).1 ∈
              s.mActionQueue := by
            rw [hqueue]
            rcases List.mem_cons.mp (newestDueAction_mem itemTimeUs first (first :: rest))
              with heq | hmem
            · rw [heq]
              exact List.mem_cons_self
            · exact hmem
          exact absurd hnext (hs.2 _ hmem)
      | stop =>
          intro hs
          exact ⟨⟨hs.1, fun action haction => by cases haction⟩, .of_log rfl⟩

theorem processFrame (item : VideoBuffer) : Leads KeepsDozing (processFrame item) := by
  intro s
  by_cases hs : s.Dozes
  · unfold Bqhelper.processFrame
    apply (performActions _ s).bind
    intro seeStopAction t ht
    have hkept := ht hs
    have hstart : KeepsDozing s t := fun _ => hkept
    rw [sat_ite]
    constructor
    · intro _
      apply Sat.after hstart
      have hends : Leads KeepsDozing (do
          releaseAllAvailableBuffers_l
          Bqhelper.modifyControl fun c => { c with mEndOfStream := true }
          submitEndOfInputStream_l) :=
        reserved.releaseAllAvailableBuffers_l.bind fun _ =>
          reserved.ends.bind fun _ => reserved.submitEndOfInputStream_l
      exact hends t
    · intro _
      rw [sat_bind, sat_get, if_pos hkept.1.1, sat_pure]
      exact hstart
  · exact sat_true.mono (fun _ _ _ h => absurd h hs) (fun _ _ _ h => absurd h hs)

theorem fillCodecBuffer_l : Leads KeepsDozing fillCodecBuffer_l :=
  reserved.fillCodecBuffer_l processFrame

theorem repeatLatestBuffer_l : Leads KeepsDozing repeatLatestBuffer_l := by
  intro s
  by_cases hs : s.Dozes
  · unfold Bqhelper.repeatLatestBuffer_l
    rw [sat_bind, sat_get]
    apply (leads_check _ _ s).leads_bind
    intro _
    cases s.mLatestBuffer with
    | none => exact leads_pure
    | some latest =>
        show Leads KeepsDozing (if s.mSuspended = true then _ else _)
        rw [if_pos hs.1]
        exact leads_pure
  · exact sat_true.mono (fun _ _ _ h => absurd h hs) (fun _ _ _ h => absurd h hs)

theorem start : Leads KeepsDozing start :=
  leads_start (modifyControl fun _ h => h) fillCodecBuffer_l
    reserved.submitEndOfInputStream_l reserved.startLooper

end KeepsDozing

/-!
# Stopped
-/

namespace KeepsStopped

theorem modifyBuffers {f : Buffers -> Buffers} (h : forall b : Buffers, b.Mute (f b)) :
    Leads KeepsStopped (modifyBuffers f) :=
  leads_modify fun s hs => ⟨hs, h s.toBuffers⟩

theorem modifyControl {f : Control -> Control}
    (h : forall c : Control, c.mExecuting = false -> (f c).mExecuting = false) :
    Leads KeepsStopped (modifyControl f) :=
  leads_modify fun s hs => ⟨h s.toControl hs, .of_log rfl⟩

theorem reserved : Reserved KeepsStopped := by
  apply Backstage.reserved
  · apply Backstage.of_discreet
    · intro f h
      apply modifyControl
      intro c hc
      have hexecuting : (f c).mExecuting = c.mExecuting :=
        congrArg Standing.mExecuting (h c)
      exact hexecuting.trans hc
    · intro f h
      exact modifyBuffers fun b => (h b).mute
  · intro dropper
    exact modifyControl fun _ h => h
  · exact modifyControl fun _ h => h
  · exact modifyControl fun _ h => h

theorem of_check {α : Type} (c : Check) {others : GraphicBufferSource -> Bool}
    {rest : GraphicBufferSource -> Gbs α} :
    Leads KeepsStopped (do
      let s ← get
      check c (s.mExecuting && others s)
      rest s) := by
  intro s
  by_cases hs : s.mExecuting = false
  · rw [sat_bind, sat_get, sat_bind, sat_check, hs]
    exact ⟨fun h => Bool.noConfusion h, fun _ => Std.Refl.refl s⟩
  · exact sat_true.mono (fun _ _ _ h => absurd h hs) (fun _ _ _ h => absurd h hs)

theorem fillCodecBuffer_l : Leads KeepsStopped fillCodecBuffer_l :=
  of_check .fillExecutingWithFrame

theorem repeatLatestBuffer_l : Leads KeepsStopped repeatLatestBuffer_l :=
  of_check .repeatExecutingWithoutFrame

end KeepsStopped

/-!
# Requests
-/

def Control.Silenced (c : Control) : Prop :=
  c.mExecuting = false ∨ c.Dozes

instance (c : Control) : Decidable c.Silenced :=
  inferInstanceAs (Decidable (_ ∨ _))

def KeepsSilent (s t : GraphicBufferSource) : Prop :=
  s.Silenced -> t.Silenced ∧ SaysNothing s t

instance : Std.Refl KeepsSilent :=
  ⟨fun _ h => ⟨h, .of_log rfl⟩⟩

instance : IsTrans GraphicBufferSource KeepsSilent :=
  ⟨fun _ _ _ h h' hs =>
    have ht := h hs
    have hu := h' ht.1
    ⟨hu.1, ht.2.trans hu.2⟩⟩

def Request.starts : Request -> Bool
  | .call .start _ => true
  | _ => false

def Request.resumes : Request -> Bool
  | .call (.setSuspend suspend _) _ => !suspend
  | _ => false

/-- The request begins nothing: no start of a source that is awake, and no end of the
suspension, now or later, while the source executes. -/
def Undisturbed (s : GraphicBufferSource) (r : Request) : Prop :=
  (r.starts = true -> s.Dozes) ∧ (r.resumes = true -> s.mExecuting = false)

instance (s : GraphicBufferSource) (r : Request) : Decidable (Undisturbed s r) :=
  inferInstanceAs (Decidable (_ ∧ _))

namespace KeepsSilent

theorem of_both {α : Type} {m : Gbs α} (hdozing : Leads KeepsDozing m)
    (hstopped : Leads KeepsStopped m) : Leads KeepsSilent m := by
  intro s
  apply ((hdozing s).and (hstopped s)).mono
  · intro _ t ht hs
    rcases hs with hs | hs
    · exact ⟨Or.inl (ht.2 hs).1, (ht.2 hs).2⟩
    · exact ⟨Or.inr (ht.1 hs).1, (ht.1 hs).2⟩
  · intro _ t ht hs
    rcases hs with hs | hs
    · exact ⟨Or.inl (ht.2 hs).1, (ht.2 hs).2⟩
    · exact ⟨Or.inr (ht.1 hs).1, (ht.1 hs).2⟩

theorem of_dozing {α : Type} {m : Gbs α} (hdozing : Leads KeepsDozing m)
    {s : GraphicBufferSource} (hs : s.Dozes) :
    Sat m (fun _ t => KeepsSilent s t) (fun _ t => KeepsSilent s t) s := by
  apply (hdozing s).mono
  · intro _ t ht _
    exact ⟨Or.inr (ht hs).1, (ht hs).2⟩
  · intro _ t ht _
    exact ⟨Or.inr (ht hs).1, (ht hs).2⟩

theorem of_stopped {α : Type} {m : Gbs α} (hstopped : Leads KeepsStopped m)
    {s : GraphicBufferSource} (hs : s.mExecuting = false) :
    Sat m (fun _ t => KeepsSilent s t) (fun _ t => KeepsSilent s t) s := by
  apply (hstopped s).mono
  · intro _ t ht _
    exact ⟨Or.inl (ht hs).1, (ht hs).2⟩
  · intro _ t ht _
    exact ⟨Or.inl (ht hs).1, (ht hs).2⟩

theorem modifyControl {f : Control -> Control}
    (h : forall c : Control, c.Silenced -> (f c).Silenced) :
    Leads KeepsSilent (modifyControl f) :=
  leads_modify fun s hs => ⟨h s.toControl hs, .of_log rfl⟩

theorem reserved : Reserved KeepsSilent where
  control := fun h => of_both (KeepsDozing.reserved.control h)
    (KeepsStopped.reserved.control h)
  buffers := fun h => of_both (KeepsDozing.reserved.buffers h)
    (KeepsStopped.reserved.buffers h)
  acquire := fun site => of_both (KeepsDozing.reserved.acquire site)
    (KeepsStopped.reserved.acquire site)
  frameDropperDrops := fun timeUs => of_both (KeepsDozing.reserved.frameDropperDrops timeUs)
    (KeepsStopped.reserved.frameDropperDrops timeUs)
  ends := of_both KeepsDozing.reserved.ends KeepsStopped.reserved.ends
  submitEndOfInputStream_l := of_both KeepsDozing.reserved.submitEndOfInputStream_l
    KeepsStopped.reserved.submitEndOfInputStream_l

theorem ordinary {op : Op} (hop : op.isOrdinary = true) :
    Leads KeepsSilent (perform op) := by
  have hfill : Leads KeepsSilent Bqhelper.fillCodecBuffer_l :=
    of_both KeepsDozing.fillCodecBuffer_l KeepsStopped.fillCodecBuffer_l
  apply leads_perform reserved _ hfill _ _ hop
  · intro f hf
    apply modifyControl
    intro c hc
    rcases hc with hc | hc
    · left
      cases hexecuting : (f c).mExecuting with
      | false => rfl
      | true =>
          rw [(hf c).executing hexecuting] at hc
          cases hc
    · refine Or.inr ⟨(hf c).suspended.trans hc.1, ?_⟩
      rw [(hf c).queue]
      exact hc.2
  · exact of_both KeepsDozing.repeatLatestBuffer_l KeepsStopped.repeatLatestBuffer_l
  · apply reserved.onFrameAvailable hfill
    intro item
    exact of_both (KeepsDozing.modifyBuffers fun _ => .of_log rfl)
      (KeepsStopped.modifyBuffers fun _ => .of_log rfl)

theorem repaced {f : Control -> Control} (h : forall c : Control, c.Repaced (f c)) :
    Leads KeepsSilent (Bqhelper.modifyControl f) := by
  apply modifyControl
  intro c hc
  rcases hc with hc | hc
  · exact Or.inl (((h c).keeps fun _ _ => rfl).trans hc)
  · have hqueue : (f c).mActionQueue = c.mActionQueue := (h c).keeps fun _ _ => rfl
    refine Or.inr ⟨((h c).keeps fun _ _ => rfl).trans hc.1, ?_⟩
    rw [hqueue]
    exact hc.2

theorem configure (args : ConfigureArgs) : Leads KeepsSilent (configure args) :=
  reserved.configure (fun _ => modifyControl fun _ h => h)
    (fun _ => modifyControl fun _ _ => Or.inl rfl) args

theorem setSuspend_stopped (suspend : Bool) (suspendStartTimeUs : Int) :
    Leads KeepsStopped (setSuspend suspend suspendStartTimeUs) :=
  KeepsStopped.reserved.setSuspend KeepsStopped.repeatLatestBuffer_l
    (fun _ _ => KeepsStopped.modifyControl fun _ h => h)
    (fun _ => KeepsStopped.modifyControl fun _ h => h) suspend suspendStartTimeUs

theorem queues_dozing {f : Control -> Control} {action : ActionItem}
    (haction : action.mAction ≠ .resume)
    (hsuspended : forall c, (f c).mSuspended = c.mSuspended)
    (hqueue : forall c, (f c).mActionQueue = c.mActionQueue ++ [action]) :
    Leads KeepsDozing (Bqhelper.modifyControl f) := by
  apply KeepsDozing.modifyControl
  intro c hc
  refine ⟨(hsuspended c).trans hc.1, ?_⟩
  rw [hqueue]
  intro action' haction'
  rcases List.mem_append.mp haction' with haction' | haction'
  · exact hc.2 action' haction'
  · rw [List.mem_singleton.mp haction']
    exact haction

theorem setSuspend_dozing (suspendStartTimeUs : Int) :
    Leads KeepsDozing (setSuspend true suspendStartTimeUs) := by
  apply leads_get
  intro s
  apply leads_ite (fun _ => leads_pure)
  intro _
  apply leads_ite
  · intro _
    apply leads_ite (fun _ => leads_pure)
    intro _
    refine .bind (queues_dozing ?_ (fun _ => rfl) fun _ => rfl) fun _ => leads_pure
    intro hresume
    cases hresume
  · intro _
    apply leads_ite
    · intro _
      refine .bind (KeepsDozing.modifyControl fun _ h => ⟨rfl, h.2⟩) fun _ => ?_
      exact KeepsDozing.reserved.releaseAllAvailableBuffers_l.bind
        fun _ => leads_pure
    · intro hresumes
      exact absurd rfl hresumes

theorem setStartTimeUs (skipFramesBeforeUs : Int) :
    Leads KeepsSilent (setStartTimeUs skipFramesBeforeUs) :=
  leads_setStartTimeUs (fun _ => modifyControl fun _ h => h) skipFramesBeforeUs

theorem setStopTimeUs (stopTimeUs : Int) : Leads KeepsSilent (setStopTimeUs stopTimeUs) := by
  apply leads_setStopTimeUs
  intro timeUs
  apply of_both
  · refine queues_dozing ?_ (fun _ => rfl) fun _ => rfl
    intro hresume
    cases hresume
  · exact KeepsStopped.modifyControl fun _ h => h

theorem perform {s : GraphicBufferSource} {op : Op} {answers : Answers}
    (h : Undisturbed s (.call op answers)) :
    Sat (perform op) (fun _ t => KeepsSilent s t) (fun _ t => KeepsSilent s t) s := by
  have hreleased : forall c : Control, c.Silenced ->
      Control.Silenced { c with mComponent := none, mExecuting := false } :=
    fun _ _ => Or.inl rfl
  cases op with
  | start => exact of_dozing (KeepsDozing.start.bind fun _ => leads_pure) (h.1 rfl)
  | configure args => exact ((configure args).bind fun _ => leads_pure) s
  | release =>
      exact ((reserved.release (modifyControl hreleased)).bind fun _ => leads_pure) s
  | setSuspend suspend suspendStartTimeUs =>
      cases suspend with
      | false =>
          have hstopped : s.mExecuting = false := h.2 rfl
          exact of_stopped ((setSuspend_stopped _ _).bind fun _ => leads_pure) hstopped
      | true =>
          exact of_both ((setSuspend_dozing _).bind fun _ => leads_pure)
            ((setSuspend_stopped true _).bind fun _ => leads_pure) s
  | setStartTimeUs skipFramesBeforeUs =>
      exact ((setStartTimeUs skipFramesBeforeUs).bind fun _ => leads_pure) s
  | setStopTimeUs stopTimeUs =>
      exact ((setStopTimeUs stopTimeUs).bind fun _ => leads_pure) s
  | setTimeOffsetUs timeOffsetUs => exact leads_setPace repaced rfl s
  | setMaxFps maxFps => exact leads_setPace repaced rfl s
  | setTimeLapseConfig fps captureFps => exact leads_setPace repaced rfl s
  | _ => exact ordinary rfl s

end KeepsSilent

theorem exec_silent {s : GraphicBufferSource} {r : Request} (hs : s.Silenced)
    (h : Undisturbed s r) :
    Sat (exec r) (fun _ t => t.Silenced ∧ SaysNothing s t) (fun _ t => SaysNothing s t) s := by
  cases r with
  | queueFrame item => exact ⟨hs, .of_event rfl rfl⟩
  | call op answers =>
      unfold exec
      rw [sat_bind, sat_modifyControl]
      have hanswers : Undisturbed { s with answers := answers } (.call op answers) := h
      apply (KeepsSilent.perform (s := { s with answers := answers }) hanswers).mono
      · intro _ t ht
        exact ht hs
      · intro _ t ht
        exact (ht hs).2

/-- The source says nothing to the component while these requests are served. -/
structure StaysSilent (s : GraphicBufferSource) (requests : List Request) : Prop where
  silent : Sat (run exec requests) (fun _ t => t.Silenced ∧ SaysNothing s t)
    (fun _ t => SaysNothing s t) s

/-- A stopped source is silent until it is started, and a suspended one until it is
resumed or a RESUME is queued, whatever the BufferQueue, the codec, the looper and the
client do meanwhile. -/
theorem silenced_stays_silent (s : GraphicBufferSource) (hs : s.Silenced)
    (requests : List Request) (halong : Along exec Undisturbed requests s) :
    StaysSilent s requests := by
  constructor
  have hrun : Sat (run exec requests) (fun _ t => t.Silenced ∧ SaysNothing s t)
      (fun _ t => SaysNothing s t) s := by
    refine run_sat ?_ requests s ⟨hs, .of_log rfl⟩ halong
    intro t r ht hr
    apply (exec_silent ht.1 hr).mono
    · intro _ u hu
      exact ⟨hu.1, ht.2.trans hu.2⟩
    · intro _ u hu
      exact ht.2.trans hu
  exact hrun

/-- A recording with a frame is suspended. -/
def suspendedSource : GraphicBufferSource :=
  final (session 0 [1, 2] ++ deliver (newFrame 0 1 100) ++ [(Op.setSuspend true (-1)).now])

/-- Frames arrive, the codec buffer comes back, a message is late, the source is stopped
and started again, and a PAUSE and a STOP are queued. -/
def requestsWhileSuspended : List Request :=
  deliver (newFrame 1 2 200) ++ [(Op.onInputBufferEmptied 1 (-1)).now,
    (Op.onMessageReceived 1).now, Op.stop.now, Op.start.now,
    .call (.setSuspend true 250) { systemTimeNs := 500000 },
    .call (.setStopTimeUs 280) { systemTimeNs := 500000 }] ++ deliver (newFrame 2 3 300)

theorem silenced_stays_silent_suspended :
    StaysSilent suspendedSource requestsWhileSuspended ∧
      completes (session 0 [1, 2] ++ deliver (newFrame 0 1 100) ++
        [(Op.setSuspend true (-1)).now] ++ requestsWhileSuspended) = true :=
  ⟨silenced_stays_silent suspendedSource (by decide +kernel) requestsWhileSuspended
    (by decide +kernel), by decide +kernel⟩

end Bqhelper
end Sm7225
