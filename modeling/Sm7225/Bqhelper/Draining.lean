import Sm7225.Lib.Progress
import Sm7225.Lib.WaitingLine
import Sm7225.Bqhelper.Reserve
import Sm7225.Bqhelper.FeedingLoops

/-!
# No frame waits for ever

The frames of the producer are a waiting line: those that are acquired, in this order,
have arrived, and the available ones wait.  Every codec buffer that comes back from the
component takes the first frame out of the line, whatever happens meanwhile.
-/

namespace Sm7225
namespace Bqhelper

open Lib

/-!
# The line of frames
-/

def Buffers.line (b : Buffers) : Line AcquiredBuffer where
  arrived := acquiredFrames b.log
  waiting := b.available

def KeepsLine (s t : GraphicBufferSource) : Prop :=
  s.toBuffers.line.Moves t.toBuffers.line

instance : Std.Refl KeepsLine :=
  ⟨fun s => .refl s.toBuffers.line⟩

instance : IsTrans GraphicBufferSource KeepsLine :=
  ⟨fun _ _ _ h h' => h.trans h'⟩

theorem line_moves {b b' : Buffers} {tail : List Event} (hlog : b'.log = b.log ++ tail)
    (havailable : b'.available.Sublist b.available) : b.line.Moves b'.line := by
  refine ⟨acquiredFrames tail, ?_, ?_⟩
  · show acquiredFrames b'.log = acquiredFrames b.log ++ acquiredFrames tail
    rw [hlog]
    exact List.filterMap_append
  · exact havailable.trans (List.sublist_append_left _ _)

theorem Between.orderly {s : GraphicBufferSource} (h : Between s) :
    s.toBuffers.line.Orderly :=
  ⟨(List.sublist_append_right _ _).trans h.sound.order, h.named.distinct⟩

namespace KeepsLine

theorem modifyControl (f : Control -> Control) : Leads KeepsLine (modifyControl f) :=
  leads_modify fun s => .refl s.toBuffers.line

theorem modifyBuffers {f : Buffers -> Buffers} (h : forall b : Buffers, b.Discreet (f b)) :
    Leads KeepsLine (modifyBuffers f) := by
  apply leads_modify
  intro s
  rcases (h s.toBuffers).mute with ⟨tail, hlog, _⟩
  exact line_moves hlog (h s.toBuffers).available

theorem reserved : Reserved KeepsLine :=
  Backstage.reserved (.of_discreet (fun _ => modifyControl _) modifyBuffers)
    (fun _ => modifyControl _) (modifyControl _) (modifyControl _)

theorem note (e : Event) : Leads KeepsLine (note e) :=
  leads_modify fun _ => line_moves rfl (List.Sublist.refl _)

theorem walk : Walk KeepsLine where
  control := fun _ => modifyControl _
  note := fun _ => note _
  unholdAll := reserved.unholdAll
  submit := fun _ _ => reserved.buffers fun _ => .of_log rfl rfl
  setLatest := fun _ => modifyBuffers fun _ => ⟨.of_log rfl, .refl _⟩
  retimeLatest := reserved.retimeLatest

theorem processFrame (item : VideoBuffer) : Leads KeepsLine (processFrame item) :=
  reserved.processFrame
    (leads_performActions (fun _ => modifyControl _) (fun _ => modifyControl _))
    (walk.skipDropOrSubmit item) (walk.recordFrame item)

theorem fillCodecBuffer_l : Leads KeepsLine fillCodecBuffer_l :=
  reserved.fillCodecBuffer_l processFrame

end KeepsLine

/-!
# New frames
-/

section Functions

variable {s t : GraphicBufferSource}

structure Brings (s : GraphicBufferSource) (a : AcquiredBuffer)
    (t : GraphicBufferSource) : Prop where
  arrived : t.toBuffers.line.arrived = s.toBuffers.line.arrived ++ [a]
  waiting : t.toBuffers.line.waiting = s.toBuffers.line.waiting

theorem Brings.keepsLine {a : AcquiredBuffer} (h : Brings s a t) : KeepsLine s t := by
  refine ⟨[a], h.arrived, ?_⟩
  rw [h.waiting]
  exact List.sublist_append_left _ _

theorem acquireBuffer_l_brings :
    Sat (acquireBuffer_l .oneFrame)
      (fun r t => match r with
        | .error _ => KeepsLine s t ∧
            (s.answers.nextAcquire .oneFrame ≠ .ok ∨ s.queue = [])
        | .ok item => Brings s item.mBuffer t)
      (fun _ t => KeepsLine s t) s := by
  have hkeeps := KeepsLine.reserved.acquire .oneFrame s
  apply ((acquireBuffer_l_arrives.and (acquireBuffer_l_takes .oneFrame)).and hkeeps).mono
  · intro r t ht
    rcases ht with ⟨⟨harrives, htakes⟩, hline⟩
    cases r with
    | error err => exact ⟨hline, htakes.2.2.2⟩
    | ok item =>
        rcases harrives with ⟨_, ⟨bi, _, hacquired⟩, hframes, _⟩
        constructor
        · show acquiredFrames t.log = acquiredFrames s.log ++ [item.mBuffer]
          rw [← acquisitions_map_snd, hacquired, List.map_append, acquisitions_map_snd]
          rfl
        · show t.mAvailableBuffers.map VideoBuffer.mBuffer = s.toBuffers.available
          rw [hframes]
          rfl
  · intro _ t ht
    exact ht.2

theorem onBufferAcquired_l_keepsLine {item : VideoBuffer} (h : Brings s item.mBuffer t) :
    Sat (onBufferAcquired_l item) (fun _ u => KeepsLine s u) (fun _ u => KeepsLine s u)
      t := by
  unfold onBufferAcquired_l
  simp only [sat_bind, sat_get, sat_ite, sat_pure, sat_modifyControl, sat_modifyBuffers]
  refine ⟨fun _ => h.keepsLine, fun _ => ⟨fun _ => h.keepsLine, fun _ => ?_⟩⟩
  have hpushed : s.toBuffers.line.Moves (t.toBuffers.pushAvailable item).line := by
    refine ⟨[item.mBuffer], h.arrived, ?_⟩
    have hwaiting : (t.toBuffers.pushAvailable item).line.waiting =
        t.toBuffers.line.waiting ++ [item.mBuffer] := List.map_append
    rw [hwaiting, h.waiting]
  constructor
  · intro _
    exact Sat.after (R := KeepsLine) hpushed (KeepsLine.fillCodecBuffer_l _)
  · intro _
    exact hpushed

theorem onFrameAvailable_keepsLine : Leads KeepsLine onFrameAvailable := by
  apply Leads.bind
  · exact KeepsLine.reserved.buffers fun _ => .of_event rfl ⟨rfl, rfl⟩ rfl
  · intro _
    apply leads_get
    intro s
    apply leads_ite
    · intro _
      exact KeepsLine.modifyControl _
    · intro _ t
      apply acquireBuffer_l_brings.bind
      intro r u hu
      cases r with
      | error err => exact hu.1
      | ok item =>
          apply (onBufferAcquired_l_keepsLine hu).bind
          intro _ v hv
          exact (KeepsLine.reserved.unhold item.mBuffer v).after hv

theorem perform_keepsLine (op : Op) : Leads KeepsLine (perform op) := by
  have hcontrol : forall f, Leads KeepsLine (modifyControl f) := KeepsLine.modifyControl
  have hrepeat := KeepsLine.walk.repeatLatestBuffer_l
  have hordinary : op.isOrdinary = true -> Leads KeepsLine (perform op) :=
    leads_perform KeepsLine.reserved (fun _ => hcontrol _) KeepsLine.fillCodecBuffer_l
      hrepeat onFrameAvailable_keepsLine
  cases op with
  | start =>
      exact (leads_start (hcontrol _) KeepsLine.fillCodecBuffer_l
        KeepsLine.reserved.submitEndOfInputStream_l
        KeepsLine.reserved.startLooper).bind fun _ => leads_pure
  | configure args =>
      exact (KeepsLine.reserved.configure (fun _ => hcontrol _) (fun _ => hcontrol _)
        args).bind fun _ => leads_pure
  | release =>
      exact (KeepsLine.reserved.release (hcontrol _)).bind fun _ => leads_pure
  | setSuspend suspend suspendStartTimeUs =>
      exact (KeepsLine.reserved.setSuspend hrepeat (fun _ _ => hcontrol _)
        (fun _ => hcontrol _) suspend suspendStartTimeUs).bind fun _ => leads_pure
  | setStartTimeUs skipFramesBeforeUs =>
      exact (leads_setStartTimeUs (fun _ => hcontrol _) _).bind fun _ => leads_pure
  | setStopTimeUs stopTimeUs =>
      exact (leads_setStopTimeUs (fun _ => hcontrol _) stopTimeUs).bind fun _ => leads_pure
  | setTimeOffsetUs timeOffsetUs => exact leads_setPace (fun _ => hcontrol _) rfl
  | setMaxFps maxFps => exact leads_setPace (fun _ => hcontrol _) rfl
  | setTimeLapseConfig fps captureFps => exact leads_setPace (fun _ => hcontrol _) rfl
  | _ => exact hordinary rfl

theorem exec_keepsLine (r : Request) : Leads KeepsLine (exec r) := by
  cases r with
  | queueFrame item =>
      refine .bind (KeepsLine.reserved.buffers fun _ => ?_) fun _ => leads_pure
      exact .of_event rfl ⟨rfl, rfl⟩ rfl
  | call op answers =>
      exact (KeepsLine.modifyControl _).bind fun _ => perform_keepsLine op

/-!
# Codec buffers that come back
-/

structure Serviceable (ans : Answers) (b : Buffers) : Prop where
  nextAcquire : ans.nextAcquire .oneFrame = .ok
  queued : b.mNumAvailableUnacquiredBuffers <= b.queue.length

def Attends (b : Buffers) (t : GraphicBufferSource) : Prop :=
  (exists l, b.line.Serves l ∧ l.Moves t.toBuffers.line) ∨
    b.haveAvailableBuffers_l = false ∧ b.line.Moves t.toBuffers.line

theorem takeFrame_serves (havailable : s.haveAvailableBuffers_l = true)
    (h : Serviceable s.answers s.toBuffers) :
    Sat takeFrame
      (fun r t => exists item, r = some item ∧ s.toBuffers.line.Serves t.toBuffers.line)
      (fun _ _ => True) s := by
  unfold takeFrame
  rw [sat_bind, sat_get]
  cases hlist : s.mAvailableBuffers with
  | nil =>
      have hnum : 0 < s.mNumAvailableUnacquiredBuffers := by
        simpa [Frames.haveAvailableBuffers_l, hlist] using havailable
      have hqueue : s.queue ≠ [] := by
        intro hnil
        have hqueued := h.queued
        rw [hnil] at hqueued
        exact absurd hnum (Int.not_lt.mpr hqueued)
      have hnone : s.toBuffers.line.waiting = [] := by
        show s.mAvailableBuffers.map VideoBuffer.mBuffer = []
        rw [hlist]
        rfl
      rw [sat_bind]
      apply acquireBuffer_l_brings.mono
      · intro r t ht
        cases r with
        | error err =>
            rcases ht.2 with hfailed | hempty
            · exact absurd h.nextAcquire hfailed
            · exact absurd hempty hqueue
        | ok item =>
            exact ⟨item, rfl, Or.inr ⟨hnone, item.mBuffer, ht.arrived,
              ht.waiting.trans hnone⟩⟩
      · intro _ _ _
        trivial
  | cons item rest =>
      rw [sat_bind, sat_modifyBuffers, sat_pure, Buffers.takeAvailable_eq hlist]
      refine ⟨item, rfl, Or.inl ⟨item.mBuffer, ?_, rfl⟩⟩
      show s.mAvailableBuffers.map VideoBuffer.mBuffer = _
      rw [hlist]
      rfl

theorem fillCodecBuffer_l_serves (havailable : s.haveAvailableBuffers_l = true)
    (hfree : s.mFreeCodecBuffers ≠ []) (h : Serviceable s.answers s.toBuffers) :
    Sat fillCodecBuffer_l
      (fun _ t => exists l, s.toBuffers.line.Serves l ∧ l.Moves t.toBuffers.line)
      (fun _ _ => True) s := by
  unfold fillCodecBuffer_l
  rw [sat_bind, sat_get, sat_bind, sat_check]
  refine ⟨fun _ => ?_, fun _ => trivial⟩
  rw [if_neg (fun hempty => hfree (List.isEmpty_iff.mp hempty))]
  apply (takeFrame_serves havailable h).bind
  intro r t ht
  rcases ht with ⟨item, rfl, hserves⟩
  have hrest : Leads KeepsLine (do
      processFrame item
      unhold item.mBuffer
      return true) :=
    (KeepsLine.processFrame item).bind fun _ =>
      (KeepsLine.reserved.unhold item.mBuffer).bind fun _ => leads_pure
  apply (hrest t).mono
  · intro _ u hu
    exact ⟨t.toBuffers.line, hserves, hu⟩
  · intro _ _ _
    trivial

theorem reuseCodecBuffer_attends (hfree : s.mFreeCodecBuffers ≠ [])
    (h : Serviceable s.answers s.toBuffers) :
    Sat reuseCodecBuffer (fun _ t => Attends s.toBuffers t) (fun _ _ => True) s := by
  cases havailable : s.haveAvailableBuffers_l with
  | true =>
      unfold reuseCodecBuffer
      rw [sat_bind, sat_get, if_pos havailable, sat_bind, sat_check]
      refine ⟨fun _ => ?_, fun _ => trivial⟩
      apply (fillCodecBuffer_l_serves havailable hfree h).bind
      intro _ t ht
      exact Or.inl ht
  | false =>
      have hkeeps := KeepsLine.reserved.reuseCodecBuffer KeepsLine.fillCodecBuffer_l
        KeepsLine.walk.repeatLatestBuffer_l s
      apply hkeeps.mono
      · intro _ t ht
        exact Or.inr ⟨havailable, ht⟩
      · intro _ _ _
        trivial

theorem line_unhold (b : Buffers) (a : AcquiredBuffer) : (b.unhold a).line = b.line := by
  unfold Buffers.line Buffers.available acquiredFrames
  rw [Buffers.unhold_toFrames, Buffers.filterMap_log_unhold Buffers.acquiredBuffer_endsLife]

theorem onInputBufferEmptied_attends {bufferId : CodecBufferId} {buffer : AcquiredBuffer}
    (fenceFd : Int) (hexecuting : s.mExecuting = true)
    (hsubmitted : s.mSubmittedCodecBuffers.find? bufferId = some (some buffer))
    (h : Serviceable s.answers s.toBuffers) :
    Sat (onInputBufferEmptied bufferId fenceFd) (fun _ t => Attends s.toBuffers t)
      (fun _ _ => True) s := by
  unfold onInputBufferEmptied
  simp only [sat_bind, sat_get, hsubmitted, sat_ite, sat_modifyBuffers, sat_unhold,
    sat_pure]
  refine ⟨fun hnot => ?_, fun _ => ?_⟩
  · rw [hexecuting] at hnot
    cases hnot
  let taken : Buffers := ((s.toBuffers.note (.emptied bufferId fenceFd
    (some (some buffer)) true)).takeBack bufferId).addReleaseFenceFd buffer fenceFd
  have hframes : (taken.unhold buffer).toFrames = taken.toFrames :=
    Buffers.unhold_toFrames taken buffer
  have hline : (taken.unhold buffer).line = s.toBuffers.line := by
    rw [line_unhold]
    have harrived : acquiredFrames taken.log = acquiredFrames s.log :=
      filterMap_snoc_of_none (f := Event.acquiredBuffer?) rfl _
    show Line.mk (acquiredFrames taken.log) s.toBuffers.available = s.toBuffers.line
    rw [harrived]
    rfl
  have hservice : Serviceable s.answers (taken.unhold buffer) := by
    refine ⟨h.nextAcquire, ?_⟩
    rw [hframes]
    exact h.queued
  have hfree : (taken.unhold buffer).mFreeCodecBuffers ≠ [] := by
    rw [hframes]
    exact List.append_ne_nil_of_right_ne_nil _ (List.cons_ne_nil _ _)
  have hattends := reuseCodecBuffer_attends
    (s := { s with toBuffers := taken.unhold buffer }) hfree hservice
  apply hattends.imp
  intro _ t ht
  rcases ht with ⟨l, hserves, hmoves⟩ | ⟨hnone, hmoves⟩
  · rw [hline] at hserves
    exact Or.inl ⟨l, hserves, hmoves⟩
  · rw [hline] at hmoves
    refine Or.inr ⟨?_, hmoves⟩
    rw [← hnone, hframes]
    rfl

/-!
# Requests
-/

/-- The codec gives a buffer back. -/
def Request.returns : Request -> Bool
  | .call (.onInputBufferEmptied _ _) _ => true
  | _ => false

/-- The buffer that comes back held a frame, the source executes, and an acquire
succeeds. -/
def ReturnsFrame (s : GraphicBufferSource) (r : Request) : Prop :=
  r.returned?.elim True fun (bufferId, answers) =>
    s.mExecuting = true ∧ (s.mSubmittedCodecBuffers.find? bufferId).join.isSome = true ∧
      answers.nextAcquire .oneFrame = .ok

instance (s : GraphicBufferSource) (r : Request) : Decidable (ReturnsFrame s r) :=
  decidableElim _ _

theorem entry_of_returnsFrame {bufferId : CodecBufferId} {fenceFd : Int}
    {answers : Answers}
    (h : ReturnsFrame s (.call (.onInputBufferEmptied bufferId fenceFd) answers)) :
    exists buffer, s.mSubmittedCodecBuffers.find? bufferId = some (some buffer) := by
  rcases Option.isSome_iff_exists.mp h.2.1 with ⟨buffer, hbuffer⟩
  exact ⟨buffer, Option.join_eq_some_iff.mp hbuffer⟩

theorem exec_attends {r : Request} (hfifo : Buffers.Fifo s.toBuffers)
    (h : ReturnsFrame s r) (hreturns : r.returns = true) :
    Sat (exec r) (fun _ t => Attends s.toBuffers t) (fun _ _ => True) s := by
  cases r with
  | queueFrame item => cases hreturns
  | call op answers =>
      cases op with
      | onInputBufferEmptied bufferId fenceFd =>
          rcases entry_of_returnsFrame h with ⟨buffer, hentry⟩
          rcases h with ⟨hexecuting, _, hacquire⟩
          unfold exec perform
          rw [sat_bind, sat_modifyControl, sat_bind]
          exact onInputBufferEmptied_attends (s := { s with answers := answers }) fenceFd
            hexecuting hentry ⟨hacquire, hfifo.num_le⟩
      | _ => cases hreturns

end Functions

/-!
# The frames that are overdue
-/

def overdueFrames (n : Nat) (s : GraphicBufferSource) : Nat :=
  s.toBuffers.line.overdue n

structure Serving (n : Nat) (s : GraphicBufferSource) : Prop where
  between : Between s
  fifo : Buffers.Fifo s.toBuffers
  announced : n <= announcements s.log

theorem announcements_le {log log' : List Event} (h : log <+: log') :
    announcements log <= announcements log' :=
  (h.filterMap _).length_le

theorem log_arrival (b : Buffers) (mExecuting : Bool) (r : Request) :
    b.log <+: (b.arrival mExecuting r).log := by
  rcases b.arrival_queue mExecuting r with ⟨item, rfl⟩ | ⟨answers, rfl⟩ | ⟨tail, hquiet⟩
  · exact List.prefix_append _ _
  · exact List.prefix_append _ _
  · rw [hquiet.log]
    exact List.prefix_append _ _

theorem overdueFrames_eq_zero {n : Nat} {s : GraphicBufferSource} (h : Serving n s)
    (hnone : s.haveAvailableBuffers_l = false) : overdueFrames n s = 0 := by
  unfold Frames.haveAvailableBuffers_l at hnone
  rw [Bool.or_eq_false_iff, decide_eq_false_iff_not, Bool.not_eq_false'] at hnone
  have hwaiting : s.toBuffers.line.waiting = [] := by
    show s.mAvailableBuffers.map VideoBuffer.mBuffer = []
    rw [List.isEmpty_iff.mp hnone.1]
    rfl
  unfold overdueFrames
  rw [Line.overdue_of_none hwaiting]
  show n - (acquiredFrames s.log).length = 0
  have hcount := h.fifo.count
  have hannounced := h.announced
  rw [← acquisitions_map_snd, List.length_map]
  lia

theorem exec_serving {n : Nat} {s : GraphicBufferSource} {r : Request} (h : Serving n s)
    (hannounced : Announced s r) (hreturns : ReturnsFrame s r) :
    Sat (exec r)
      (fun _ t => Serving n t ∧ overdueFrames n t <= overdueFrames n s - r.returns.toNat)
      (fun _ _ => True) s := by
  have hkeeps := exec_keeps (r := r)
    (P := fun b => Buffers.Fifo b ∧ n <= announcements b.log)
    (fun _ _ hstep hb => ⟨Buffers.fifo_step hstep hb.1,
      hb.2.trans (announcements_le (Buffers.step_log_grows hstep))⟩)
    h.between ⟨fifo_arrival s r h.fifo hannounced,
      h.announced.trans (announcements_le (log_arrival _ _ r))⟩
  have horderly := h.between.orderly
  cases hreturn : r.returns with
  | false =>
      apply (hkeeps.and (exec_keepsLine r s)).mono
      · intro _ t ht
        rcases ht with ⟨⟨hbetween, hfifo, hn⟩, hline⟩
        refine ⟨⟨hbetween, hfifo, hn⟩, ?_⟩
        exact Line.Moves.overdue_le hline horderly hbetween.named.distinct
      · intro _ _ _
        trivial
  | true =>
      apply (hkeeps.and (exec_attends h.fifo hreturns hreturn)).mono
      · intro _ t ht
        rcases ht with ⟨⟨hbetween, hfifo, hn⟩, hattends⟩
        refine ⟨⟨hbetween, hfifo, hn⟩, ?_⟩
        have honce := hbetween.named.distinct
        rcases hattends with ⟨l, hserves, hmoves⟩ | ⟨hnone, hmoves⟩
        · have hlonce : l.arrived.Nodup := by
            rcases hmoves with ⟨new, harrived, _⟩
            have honce' : t.toBuffers.line.arrived.Nodup := honce
            rw [harrived] at honce'
            exact (List.nodup_append.mp honce').1
          have hfirst := hserves.overdue_le horderly (n := n)
          have hrest := hmoves.overdue_le (hserves.orderly horderly hlonce) honce (n := n)
          exact hrest.trans hfirst
        · have hzero := overdueFrames_eq_zero h hnone
          have hle := hmoves.overdue_le horderly honce (n := n)
          unfold overdueFrames at hzero ⊢
          lia
      · intro _ _ _
        trivial

/-- The frames that {lit}`s` had been told of are not waiting any more. -/
structure FramesLeave (s t : GraphicBufferSource) : Prop where
  acquired : announcements s.log <= (acquiredFrames t.log).length
  left : forall a, a ∈ (acquiredFrames t.log).take (announcements s.log) ->
    a ∉ t.toBuffers.available

/-- Once the codec has given back as many buffers as frames could be taken, every frame
that was announced before has left the line, whatever else happens meanwhile. -/
theorem waiting_frames_leave (earlier later : List Request) (s t : GraphicBufferSource)
    (hs : Reaches earlier s) (ht : Reaches (earlier ++ later) t)
    (hannounced : Along exec Announced earlier .initial)
    (hlater : Along exec (fun s r => Announced s r ∧ ReturnsFrame s r) later s)
    (hturns : s.takeable <= turns Request.returns later) : FramesLeave s t := by
  rcases ht with ⟨replies, hrun⟩
  rcases run_append_ok hrun with ⟨_, s', _, hfirst, hrest⟩
  rcases hs with ⟨_, hs⟩
  rw [hs] at hfirst
  cases hfirst
  rcases reaches_fifo ⟨_, hs⟩ hannounced with ⟨hbetween, hfifo⟩
  have hserving : Serving (announcements s.log) s := ⟨hbetween, hfifo, Nat.le_refl _⟩
  have hrank : overdueFrames (announcements s.log) s <= s.takeable := by
    apply (Line.overdue_le _ _).trans
    show (s.mAvailableBuffers.map VideoBuffer.mBuffer).length +
      (announcements s.log - (acquiredFrames s.log).length) <= s.takeable
    have hcount := hfifo.count
    rw [List.length_map, ← acquisitions_map_snd, List.length_map]
    unfold Frames.takeable
    lia
  have hzero : Sat (run exec later)
      (fun _ t => Serving (announcements s.log) t ∧ overdueFrames (announcements s.log) t = 0)
      (fun _ _ => True) s :=
    run_sat_rank_zero (fun _ _ h hr => exec_serving h hr.1 hr.2) hserving hlater
      (hrank.trans hturns)
  rw [sat_of_ok hrest] at hzero
  rcases Line.overdue_eq_zero hzero.2 with ⟨hacquired, hleft⟩
  exact ⟨hacquired, hleft⟩

/-- Five frames for two codec buffers: three wait. -/
def fiveFrames : List Request :=
  session 0 [1, 2] ++ deliver (newFrame 0 1 100) ++ deliver (newFrame 1 2 200) ++
    deliver (newFrame 2 3 300) ++ deliver (newFrame 3 4 400) ++ deliver (newFrame 4 5 500)

/-- Both buffers come back, the first one twice, while another frame arrives. -/
def threeReturns : List Request :=
  [(Op.onInputBufferEmptied 1 (-1)).now] ++ deliver (newFrame 0 6 600) ++
    [(Op.onInputBufferEmptied 2 (-1)).now, (Op.onMessageReceived 1).now,
      (Op.onInputBufferEmptied 1 (-1)).now]

theorem waiting_frames_leave_fiveFrames :
    FramesLeave (final fiveFrames) (final (fiveFrames ++ threeReturns)) ∧
      (final fiveFrames).takeable = 3 ∧
      (final (fiveFrames ++ threeReturns)).takeable = 1 :=
  ⟨waiting_frames_leave fiveFrames threeReturns _ _ (reaches_final (by decide +kernel))
    (reaches_final (by decide +kernel)) (by decide +kernel) (by decide +kernel)
    (by decide +kernel), by decide +kernel, by decide +kernel⟩

end Bqhelper
end Sm7225
