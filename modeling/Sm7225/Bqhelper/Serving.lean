import Sm7225.Bqhelper.Order
import Sm7225.Bqhelper.NewFrame

/-!
# Serving a request

For every request: what is asked of the state it arrives in, and what holds of
the state that it leaves.
-/

namespace Sm7225
namespace Bqhelper

open Lib

section Functions

variable {s t : GraphicBufferSource} {fed loads settles : Prop}

/-!
# Requests that change few fields
-/

structure Sets (s t : GraphicBufferSource) : Prop where
  frames : t.toFrames = s.toFrames
  log : QuietTail s.log t.log
  sent : t.mEndOfStreamSent = s.mEndOfStreamSent
  eos : t.mEndOfStream = s.mEndOfStream
  executing : t.mExecuting = true -> s.mExecuting = true
  stopTime : t.mStopTimeUs = -1 -> s.mStopTimeUs = -1

theorem Sets.refl (s : GraphicBufferSource) : Sets s s :=
  ⟨rfl, .refl _, rfl, rfl, fun h => h, fun h => h⟩

theorem Sets.serves (h : Sets s t) (hs : Quiet s) :
    Serves fed loads settles s t := by
  apply Tame.serves (hs.of_frames h.frames h.log h.sent)
  intro _ hexec
  constructor
  · exact h.executing hexec
  · exact h.stopTime
  · intro hsent
    exact h.sent.symm.trans hsent
  · rw [h.frames]
    exact fun hfree => hfree
  · rw [h.frames]
    exact fun hnone => hnone
  · intro heos
    exact h.eos.trans heos
  · rw [h.frames]
    exact fun hzero => hzero

theorem setter_outcome {E : Abort -> GraphicBufferSource -> Prop} {op : Op}
    (hop : op.isSetter = true) : Sat (perform op) (fun _ t => Sets s t) E s := by
  have hsame := Sets.refl s
  have hcontrol : forall c : Control,
      c.phase = s.toControl.phase -> Sets s { s with toControl := c } := by
    intro c hphase
    have hexec : c.mExecuting = s.mExecuting := congrArg Phase.mExecuting hphase
    have hstop : c.mStopTimeUs = s.mStopTimeUs := congrArg Phase.mStopTimeUs hphase
    constructor
    · rfl
    · exact .refl _
    · exact congrArg Phase.mEndOfStreamSent hphase
    · exact congrArg Phase.mEndOfStream hphase
    · intro h
      exact hexec.symm.trans h
    · intro h
      exact hstop.symm.trans h
  cases op with
  | stop => exact { hsame with executing := fun h => by cases h }
  | setRepeatPreviousFrameDelayUs repeatAfterUs =>
      unfold perform setRepeatPreviousFrameDelayUs
      simp only [sat_bind, sat_get, sat_ite, sat_pure, sat_modifyControl]
      exact ⟨fun _ => hsame, fun _ => hcontrol _ rfl⟩
  | setTimeOffsetUs timeOffsetUs =>
      unfold perform setTimeOffsetUs
      simp only [sat_bind, sat_ite, sat_pure, sat_modifyControl]
      exact ⟨fun _ => hsame, fun _ => hcontrol _ rfl⟩
  | setMaxFps maxFps =>
      unfold perform setMaxFps
      simp only [sat_bind, sat_get, sat_ite, sat_pure, sat_modifyControl]
      exact ⟨fun _ => hsame, fun _ =>
        ⟨fun _ => hcontrol _ rfl, fun _ => hcontrol _ rfl⟩⟩
  | setStartTimeUs skipFramesBeforeUs => exact hcontrol _ rfl
  | setStopTimeUs stopTimeUs =>
      unfold perform setStopTimeUs
      simp only [sat_bind, sat_get, sat_ite, sat_pure, sat_modifyControl]
      refine ⟨fun _ => hsame, fun hunset => ⟨fun _ => hsame, fun _ => ?_⟩⟩
      exact { hsame with stopTime := fun _ => not_not.mp hunset }
  | getStopTimeOffsetUs =>
      unfold perform getStopTimeOffsetUs
      simp only [sat_bind, sat_get, sat_ite, sat_pure]
      exact ⟨fun _ => hsame, fun _ => hsame⟩
  | setTimeLapseConfig fps captureFps =>
      unfold perform setTimeLapseConfig
      simp only [sat_bind, sat_get, sat_ite, sat_pure, sat_modifyControl]
      exact ⟨fun _ => hsame, fun _ => hcontrol _ rfl⟩
  | setColorAspects aspectsPacked => exact hcontrol _ rfl
  | _ => cases hop

theorem discardMasked_outcome (n : Nat) (i : SlotId) (slotMask : BitVec 64)
    {E : Abort -> GraphicBufferSource -> Prop} :
    Sat (discardMasked n i slotMask) (fun _ t => LeavesFrames s t) E s := by
  induction n generalizing i slotMask s with
  | zero => exact ⟨rfl, .refl _, rfl⟩
  | succ n ih =>
      unfold discardMasked discardBufferInSlot_l discardBufferAtSlotIndex_l
      simp only [sat_ite, sat_bind, sat_get]
      constructor
      · intro _
        cases s.mBufferSlots.find? i with
        | none => exact ih (i + 1) (slotMask >>> 1)
        | some buffer =>
            simp only [sat_bind, sat_modifyBuffers, sat_pure]
            apply (ih (i + 1) (slotMask >>> 1)).imp
            intro _ t ht
            exact ⟨ht.phase, QuietTail.trans (.of_event rfl) ht.log, ht.frames⟩
      · intro _
        exact ih (i + 1) (slotMask >>> 1)

theorem onInputBufferAdded_outcome (bufferId : CodecBufferId) (h : Quiet s)
    {E : Abort -> GraphicBufferSource -> Prop} :
    Sat (onInputBufferAdded bufferId)
      (fun _ t => Serves fed loads settles s t) E s := by
  unfold onInputBufferAdded
  simp only [sat_bind, sat_get, sat_ite, sat_modifyBuffers, sat_pure]
  constructor
  · intro _
    exact (Sets.refl s).serves h
  · intro hexec
    rw [Bool.not_eq_true] at hexec
    have hquiet : Quiet { s with
        toBuffers := s.toBuffers.addCodecBuffer bufferId } :=
      ⟨h.num, h.log.quiet (.of_event rfl), h.backlog, h.latest⟩
    exact serves_of_not_executing hquiet hexec

theorem release_outcome (h : Quiet s) {E : Abort -> GraphicBufferSource -> Prop} :
    Sat release (fun _ t => Serves fed loads settles s t) E s := by
  unfold release
  simp only [sat_bind, sat_get, sat_modifyControl, sat_modifyBuffers,
    sat_unholdAll, sat_pure]
  apply (assignLatest_outcome none).imp
  intro _ t ht
  rcases ht with ⟨hcontrol, hquiet, hframes⟩
  have hkept := Buffers.unholdAll_toFrames
    (s.toBuffers.clearCodecBuffers.note .released) s.submitted
  have hlog : QuietTail s.log t.log :=
    QuietTail.trans (.of_event rfl)
      (QuietTail.trans (quietTail_unholdAll _ s.submitted) hquiet)
  have hframes' : t.toFrames = { s.toFrames with
      mFreeCodecBuffers := []
      mSubmittedCodecBuffers := KeyedVector.empty
      mLatestBuffer := none } := by
    rw [hframes]
    show { ((s.toBuffers.clearCodecBuffers.note .released).unholdAll
      s.submitted).toFrames with mLatestBuffer := none } = _
    rw [hkept]
    rfl
  have hsent : t.mEndOfStreamSent = s.mEndOfStreamSent := by
    rw [hcontrol]
  apply serves_of_not_executing ?_ rfl
  constructor
  · show 0 <= t.mNumAvailableUnacquiredBuffers
    rw [hframes']
    exact h.num
  · show EosLog t.log t.mEndOfStreamSent
    rw [hsent]
    exact h.log.quiet hlog
  · show t.mEndOfStreamSent = true -> t.backlog = 0
    rw [hsent, hframes']
    exact h.backlog
  · intro _
    show t.mLatestBuffer = none
    rw [hframes']

theorem setMaxAcquiredBufferCount_outcome (bufferCount : Int)
    {E : Abort -> GraphicBufferSource -> Prop} :
    Sat (setMaxAcquiredBufferCount bufferCount) (fun _ t => LeavesFrames s t) E s := by
  have hnote : QuietTail s.log _ :=
    .of_event (e := .setMaxAcquiredBufferCount bufferCount) rfl
  unfold setMaxAcquiredBufferCount
  rw [sat_bind, sat_note, sat_bind, sat_get, sat_ite]
  constructor
  · intro _
    apply (discardMasked_outcome _ _ _).imp
    intro _ t ht
    exact ⟨ht.phase, hnote.trans ht.log, ht.frames⟩
  · intro _
    exact ⟨rfl, hnote, rfl⟩

theorem LeavesFrames.sets (h : LeavesFrames s t) (b : Buffers)
    (mComponent : Option ComponentId) (hframes : b.toFrames = t.toFrames)
    (hlog : QuietTail t.log b.log) :
    Sets s { t with toBuffers := b, mComponent := mComponent } where
  frames := hframes.trans h.frames
  log := h.log.trans hlog
  sent := congrArg Phase.mEndOfStreamSent h.phase
  eos := congrArg Phase.mEndOfStream h.phase
  executing := fun hexec => (congrArg Phase.mExecuting h.phase).symm.trans hexec
  stopTime := fun hstop => (congrArg Phase.mStopTimeUs h.phase).symm.trans hstop

theorem configure_outcome (args : ConfigureArgs) (h : Quiet s)
    {E : Abort -> GraphicBufferSource -> Prop} :
    Sat (configure args) (fun _ t => Serves fed loads settles s t) E s := by
  unfold configure
  rw [sat_bind, sat_get]
  cases args.component with
  | none => exact (Sets.refl s).serves h
  | some component =>
      apply (setMaxAcquiredBufferCount_outcome args.bufferCount).bind
      intro _ t ht
      simp only [sat_bind, sat_note, sat_ite, sat_pure, sat_modifyControl]
      have hsize : QuietTail t.log _ := .of_event
        (e := .setDefaultBufferSize args.frameWidth args.frameHeight) rfl
      have husage := hsize.trans (.of_event (e := .setConsumerUsageBits
        (args.consumerUsage ||| grallocUsageHwVideoEncoder)) rfl)
      have hformat := husage.trans (.of_event
        (e := .setDefaultBufferFormat halPixelFormatImplementationDefined) rfl)
      have hspace := hformat.trans (.of_event
        (e := .setDefaultBufferDataSpace args.dataSpace) rfl)
      refine ⟨fun _ => ?_, fun _ => ⟨fun _ => ?_, fun _ => ⟨fun _ => ?_, fun _ =>
        ?_⟩⟩⟩
      · exact ht.serves h
      · exact Sets.serves (ht.sets _ _ rfl hsize) h
      · exact Sets.serves (ht.sets _ _ rfl hformat) h
      · apply (assignLatest_outcome none).imp
        intro _ u hu
        rcases hu with ⟨hcontrol, hquiet, hframes⟩
        have hsent : u.mEndOfStreamSent = false := by
          rw [hcontrol]
          rfl
        have hexec : u.mExecuting = false := by
          rw [hcontrol]
          rfl
        apply serves_of_not_executing ?_ hexec
        apply quiet_of_not_sent hsent
        · rw [hframes]
          show 0 <= t.mNumAvailableUnacquiredBuffers
          rw [congrArg Frames.mNumAvailableUnacquiredBuffers ht.frames]
          exact h.num
        · exact (h.log.quiet (ht.log.trans hspace)).configured.quiet hquiet

/-!
# Requests that submit or let go
-/

theorem serves_of_repeat (hquiet : Quiet t)
    (hphase : t.toControl.phase = s.toControl.phase)
    (hframes : SubmitsOne s.toFrames t.toFrames) :
    Serves fed loads settles s t := by
  apply Tame.serves hquiet
  intro _ hexec
  have hkeeps : Keeps s t := keeps_of_same_phase hphase hframes
  apply hkeeps.tame hexec (congrArg Phase.mEndOfStream hphase)
  intro hzero
  exact hframes.backlog.trans hzero

theorem setSuspend_outcome (suspend : Bool) (suspendStartTimeUs : Int)
    (h : Quiet s) :
    Sat (setSuspend suspend suspendStartTimeUs)
      (fun _ t => Serves (Fed s) loads settles s t) AbortsQuietly s := by
  have hsame := Sets.refl s
  have hquiet : Quiet { s with toControl := { s.toControl with
      mSuspended := suspend } } := h.of_frames rfl (.refl _) rfl
  unfold setSuspend resumeNow
  simp only [sat_bind, sat_get, sat_ite, sat_pure, sat_modifyControl]
  refine ⟨fun _ => hsame.serves h, fun _ => ⟨fun _ => ⟨fun _ => hsame.serves h,
    fun _ => ?_⟩, fun _ => ⟨fun hsuspend => ?_, fun hresume => ⟨fun hblocked =>
    ?_, fun _ => ?_⟩⟩⟩⟩
  · exact Sets.serves ⟨rfl, .refl _, rfl, rfl, fun h => h, fun h => h⟩ h
  · rw [hsuspend] at hquiet
    apply (releaseAllAvailableBuffers_l_outcome hquiet).imp
    intro _ t ht
    apply Tame.serves ht.quiet
    intro hfed hexec
    have hdrained := ht.drained (hfed.drains.congr rfl rfl)
    have hkeeps : Keeps s t := { ht.keeps with }
    apply hkeeps.tame hexec ht.eos
    intro _
    exact hdrained
  · rcases hblocked with ⟨hexec, hnone, _⟩
    rw [Bool.not_eq_true] at hresume
    rw [hresume] at hquiet
    rw [Bool.not_eq_true'] at hnone
    apply (repeatLatestBuffer_l_outcome hquiet hexec hnone).imp
    intro repeated t ht
    rcases ht with ⟨hquietT, hphase, hframes⟩
    constructor
    · intro _
      exact serves_of_repeat (hquietT.of_frames rfl (.refl _) rfl) hphase hframes
    · intro _
      exact serves_of_repeat hquietT hphase hframes
  · exact Sets.serves ⟨rfl, .refl _, rfl, rfl, fun h => h, fun h => h⟩ h

theorem onMessageReceived_outcome (generation : Int) (h : Quiet s) :
    Sat (onMessageReceived generation)
      (fun _ t => Serves fed loads settles s t) AbortsQuietly s := by
  have hsame := Sets.refl s
  unfold onMessageReceived
  simp only [sat_bind, sat_get, sat_ite, sat_pure, sat_modifyControl]
  refine ⟨fun _ => hsame.serves h, fun _ => ⟨fun _ => hsame.serves h, fun hlive =>
    ?_⟩⟩
  rw [Bool.not_eq_true, Bool.or_eq_false_iff, Bool.not_eq_false'] at hlive
  apply (repeatLatestBuffer_l_outcome h hlive.1 hlive.2).imp
  intro success t ht
  rcases ht with ⟨hquietT, hphase, hframes⟩
  constructor
  · intro _
    exact serves_of_repeat hquietT hphase hframes
  · intro _
    exact serves_of_repeat (hquietT.of_frames rfl (.refl _) rfl) hphase hframes

theorem signalEndOfInputStream_outcome (h : Quiet s) :
    Sat signalEndOfInputStream
      (fun _ t => Serves fed loads settles s t) AbortsQuietly s := by
  have hquiet : Quiet { s with toControl := { s.toControl with
      mEndOfStream := true } } := h.of_frames rfl (.refl _) rfl
  have hmarked : Keeps s { s with toControl := { s.toControl with
      mEndOfStream := true } } := { Keeps.refl s with eos := fun _ => rfl }
  unfold signalEndOfInputStream
  simp only [sat_bind, sat_get, sat_ite, sat_pure, sat_modifyControl]
  refine ⟨fun _ => (Sets.refl s).serves h, fun _ => ⟨fun hgo => ?_, fun hnot => ?_⟩⟩
  · have hzero := h.backlog_eq_zero (by simpa using hgo.2.2)
    apply (submitEndOfInputStream_l_outcome (s := { s with
      toControl := { s.toControl with mEndOfStream := true } }) rfl h.log).imp
    intro _ t ht
    have hkeeps := hmarked.trans ht.keeps
    refine ⟨ht.quiet hquiet hzero, ?_, ?_⟩
    · intro _ _ _ _ _
      exact ht.frames.backlog.trans hzero
    · intro _ hok _ _ _ _ hsent _ hfree
      rw [ht.sent hok (hkeeps.free hfree)] at hsent
      cases hsent
  · refine ⟨hquiet, ?_, ?_⟩
    · intro _ _ hidle
      exact hidle
    · intro _ _ _ hready hexec hstop hsent hnone hfree
      have hboth := hready hexec hstop hsent hnone hfree
      have hnothing := (haveAvailable_eq_false h.num).mpr hboth.2
      exact absurd ⟨hstop, hexec, by simp [hnothing]⟩ hnot

/-!
# Every request
-/

def AbortsFor (op : Op) (s : GraphicBufferSource) (e : Abort)
    (t : GraphicBufferSource) : Prop :=
  (forall c, e = .check c -> op = .start ∧ s.mExecuting = true) ∧
    Everywhere NothingAfterEos t.log ∧ ReleasedUnused t.log

theorem AbortsQuietly.abortsFor {e : Abort} (h : AbortsQuietly e t) (op : Op) :
    AbortsFor op s e t :=
  ⟨fun c hc => absurd hc (h.1 c), h.2⟩

def Clean (s : GraphicBufferSource) : Op -> Prop
  | .start => s.mEndOfStreamSent = false -> StopsClean s
  | .onInputBufferEmptied _ _ => s.mEndOfStreamSent = false -> StopsClean s
  | .onFrameAvailable => (s.mEndOfStreamSent = true -> AcquiresLate s) ∧
      (s.mEndOfStreamSent = false -> StopsClean s.announced)
  | _ => True

def Op.begins (s : GraphicBufferSource) : Op -> GraphicBufferSource
  | .onFrameAvailable => s.announced
  | _ => s

def LoadsEnough (s : GraphicBufferSource) (op : Op) : Prop :=
  op.returned?.elim True fun bufferId => NoFrameLeft bufferId s

def SettlesEnough (s : GraphicBufferSource) (op : Op) : Prop :=
  op.returned?.elim True fun bufferId => NothingLeft bufferId s

theorem start_serves (h : Quiet s)
    (hclean : s.mEndOfStreamSent = false -> StopsClean s) :
    Sat start (fun _ t => Serves (Fed s) True True s t) (AbortsFor .start s) s := by
  cases hexec : s.mExecuting with
  | true =>
      unfold start
      simp only [sat_bind, sat_get, sat_check]
      constructor
      · intro hcheck
        rw [hexec] at hcheck
        cases hcheck
      · intro _
        exact ⟨fun _ _ => ⟨rfl, hexec⟩, h.log.nothing, h.log.unused⟩
  | false =>
      apply (start_outcome h hexec hclean).mono
      · intro _ t ht
        refine ⟨ht.quiet, ?_, ?_⟩
        · intro hfed _ _ _ hfree
          exact ht.loaded hfed hfree
        · intro hfed hok _ _ _ hstop hsent _ hfree
          refine ⟨?_, ht.loaded hfed hfree⟩
          rw [← Bool.not_eq_true]
          intro heos
          rw [ht.sent hfed hok hstop heos hfree] at hsent
          cases hsent
      · intro e t ht
        exact ht.abortsFor .start

theorem perform_serves (op : Op) (hbetween : Between s)
    (haccounts : Buffers.Accounts s.toBuffers) (h : Quiet s)
    (hclean : Clean s op) :
    Sat (perform op)
      (fun _ t => Serves (Fed (op.begins s)) (LoadsEnough s op)
        (SettlesEnough s op) s t) (AbortsFor op s) s := by
  have hquietly : forall {α : Type} {m : Gbs α} {Q : α -> GraphicBufferSource -> Prop},
      Sat m Q AbortsQuietly s -> Sat m Q (AbortsFor op s) s := by
    intro α m Q hm
    apply hm.mono (fun _ _ ht => ht)
    intro e t ht
    exact ht.abortsFor op
  have hsetter : op.isSetter = true -> Sat (perform op)
      (fun _ t => Serves (Fed (op.begins s)) (LoadsEnough s op)
        (SettlesEnough s op) s t) (AbortsFor op s) s := by
    intro hop
    apply (setter_outcome hop).imp
    intro _ t ht
    exact ht.serves h
  cases op with
  | start => exact sat_bind.mpr (start_serves h hclean)
  | release => exact sat_bind.mpr (release_outcome h)
  | onInputBufferAdded bufferId =>
      exact sat_bind.mpr (onInputBufferAdded_outcome bufferId h)
  | onInputBufferEmptied bufferId fenceFd =>
      exact sat_bind.mpr
        (hquietly (onInputBufferEmptied_outcome bufferId fenceFd h hclean))
  | onFrameAvailable =>
      exact sat_bind.mpr (hquietly
        (onFrameAvailable_outcome hbetween haccounts h hclean.1 hclean.2))
  | onBuffersReleased =>
      apply sat_bind.mpr
      apply (discardMasked_outcome _ _ _).imp
      intro _ t ht
      exact ht.serves h
  | configure args => exact sat_bind.mpr (configure_outcome args h)
  | setSuspend suspend suspendStartTimeUs =>
      exact sat_bind.mpr (hquietly (setSuspend_outcome suspend suspendStartTimeUs h))
  | signalEndOfInputStream =>
      exact sat_bind.mpr (hquietly (signalEndOfInputStream_outcome h))
  | onMessageReceived generation =>
      exact sat_bind.mpr (hquietly (onMessageReceived_outcome generation h))
  | _ => exact hsetter rfl

/-!
# From calls to requests
-/

def GraphicBufferSource.given (s : GraphicBufferSource) (answers : Answers) :
    GraphicBufferSource :=
  { s with toControl := { s.toControl with answers := answers } }

def CleanFor (s : GraphicBufferSource) : Request -> Prop
  | .queueFrame _ => True
  | .call op answers => Clean (s.given answers) op

/-- Every acquire that finds a frame in the queue succeeds. -/
def AcquiresOk : Request -> Prop
  | .queueFrame _ => True
  | .call _ answers => (forall st, st ∈ answers.acquireBuffer -> st = .ok) ∧
      forall st, st ∈ answers.drainAcquireBuffer -> st = .ok

/-- The component takes the end of the stream whenever it is submitted. -/
def TakesEos : Request -> Prop
  | .queueFrame _ => True
  | .call _ answers => forall st, st ∈ answers.submitEos -> st = .ok

def LoadsFor (s : GraphicBufferSource) : Request -> Prop
  | .queueFrame _ => True
  | .call op answers => LoadsEnough (s.given answers) op

def SettlesFor (s : GraphicBufferSource) : Request -> Prop
  | .queueFrame _ => True
  | .call op answers => SettlesEnough (s.given answers) op

def AbortsRequest (s : GraphicBufferSource) (r : Request) (e : Abort)
    (t : GraphicBufferSource) : Prop :=
  (forall c, e = .check c ->
      exists answers, r = .call .start answers ∧ s.mExecuting = true) ∧
    Everywhere NothingAfterEos t.log ∧ ReleasedUnused t.log

theorem queueFrame_serves (item : BufferItem) (h : Quiet s) :
    Serves fed loads settles s
      { s with toBuffers := s.toBuffers.queueFrame item } := by
  have hquiet : Quiet { s with toBuffers := s.toBuffers.queueFrame item } :=
    ⟨h.num, h.log.quiet (.of_event rfl), h.backlog, h.latest⟩
  exact ⟨hquiet, fun _ _ hidle => hidle, fun _ _ _ hready => hready⟩

structure Leaves (s : GraphicBufferSource) (r : Request)
    (t : GraphicBufferSource) : Prop where
  idle : LoadsFor s r -> Idle s -> Idle t
  ready : TakesEos r -> SettlesFor s r -> EosReady s -> EosReady t

structure Calm (s : GraphicBufferSource) : Prop where
  between : Between s
  accounts : Buffers.Accounts s.toBuffers
  quiet : Quiet s

theorem exec_call_serves (op : Op) (answers : Answers) (h : Calm s)
    (hclean : Clean (s.given answers) op) :
    Sat (exec (.call op answers))
      (fun _ t => Serves (Fed (op.begins (s.given answers)))
        (LoadsEnough (s.given answers) op) (SettlesEnough (s.given answers) op)
        (s.given answers) t)
      (AbortsRequest s (.call op answers)) s := by
  have hbetween : Between (s.given answers) :=
    ⟨h.between.sound, h.between.named, h.between.locals⟩
  have hquiet : Quiet (s.given answers) := h.quiet.of_frames rfl (.refl _) rfl
  apply sat_bind.mpr
  apply (perform_serves op hbetween h.accounts hquiet hclean).mono
  · intro _ t ht
    exact ht
  · intro e t ht
    constructor
    · intro c hc
      rcases ht.1 c hc with ⟨hop, hexec⟩
      rw [hop]
      exact ⟨answers, rfl, hexec⟩
    · exact ht.2

theorem exec_calm (r : Request) (h : Calm s) (hclean : CleanFor s r) :
    Sat (exec r) (fun _ t => Calm t) (AbortsRequest s r) s := by
  have hkeeps := exec_keeps (r := r) (fun _ _ => Buffers.accounts_step) h.between
    (Buffers.accounts_arrival h.accounts s.mExecuting r)
  have hquiet : Sat (exec r) (fun _ t => Quiet t) (AbortsRequest s r) s := by
    cases r with
    | queueFrame item =>
        have hserves : Serves True True True s _ := queueFrame_serves item h.quiet
        exact hserves.quiet
    | call op answers =>
        apply (exec_call_serves op answers h hclean).imp
        intro _ t ht
        exact ht.quiet
  apply (hkeeps.and hquiet).mono
  · intro _ t ht
    exact ⟨ht.1.1, ht.1.2, ht.2⟩
  · intro e t ht
    exact ht.2

theorem fed_of_fifo {op : Op} {answers : Answers} (hfifo : Buffers.Fifo s.toBuffers)
    (hannounced : Announced s (.call op answers))
    (hok : AcquiresOk (.call op answers)) : Fed (op.begins (s.given answers)) := by
  have harrival := fifo_arrival s (.call op answers) hfifo hannounced
  cases op with
  | onFrameAvailable => exact ⟨hok.1, hok.2, harrival.num_le⟩
  | _ => exact ⟨hok.1, hok.2, hfifo.num_le⟩

theorem Fed.clean {op : Op} (h : Fed (op.begins s)) (hquiet : Quiet s) :
    Clean s op := by
  cases op with
  | start => exact fun _ => Or.inr (Or.inr h.drains)
  | onInputBufferEmptied bufferId fenceFd => exact fun _ => Or.inr (Or.inr h.drains)
  | onFrameAvailable =>
      constructor
      · intro _
        have hnum : 0 < s.announced.mNumAvailableUnacquiredBuffers := by
          have hnonneg := hquiet.num
          show 0 < s.mNumAvailableUnacquiredBuffers + 1
          lia
        exact ⟨h.nextAcquire, h.queue_ne_nil hnum⟩
      · exact fun _ => Or.inr (Or.inr h.drains)
  | _ => trivial

structure Steady (s : GraphicBufferSource) : Prop where
  calm : Calm s
  fifo : Buffers.Fifo s.toBuffers

theorem steady_clean {r : Request} (h : Steady s) (hannounced : Announced s r)
    (hok : AcquiresOk r) : CleanFor s r := by
  cases r with
  | queueFrame item => trivial
  | call op answers =>
      have hfed := fed_of_fifo h.fifo hannounced hok
      exact hfed.clean (h.calm.quiet.of_frames rfl (.refl _) rfl)

theorem exec_leaves (r : Request) (h : Steady s) (hannounced : Announced s r)
    (hok : AcquiresOk r) :
    Sat (exec r) (fun _ t => Leaves s r t) (AbortsRequest s r) s := by
  cases r with
  | queueFrame item => exact ⟨fun _ hidle => hidle, fun _ _ hready => hready⟩
  | call op answers =>
      have hfed := fed_of_fifo h.fifo hannounced hok
      have hclean := steady_clean h hannounced hok
      apply (exec_call_serves op answers h.calm hclean).imp
      intro _ t ht
      exact ⟨ht.idle hfed, ht.ready hfed⟩

theorem exec_steady (r : Request) (h : Steady s) (hannounced : Announced s r)
    (hok : AcquiresOk r) :
    Sat (exec r) (fun _ t => Steady t ∧ Leaves s r t) (AbortsRequest s r) s := by
  have hkeeps := exec_keeps (r := r) (fun _ _ => Buffers.fifo_step)
    h.calm.between (fifo_arrival s r h.fifo hannounced)
  have hcalm := exec_calm r h.calm (steady_clean h hannounced hok)
  apply ((hkeeps.and hcalm).and (exec_leaves r h hannounced hok)).mono
  · intro _ t ht
    exact ⟨⟨ht.1.2, ht.1.1.2⟩, ht.2⟩
  · intro e t ht
    exact ht.2

theorem calm_initial : Calm .initial := by
  constructor
  · exact between_initial
  · exact Buffers.accounts_initial
  · exact quiet_of_not_sent rfl (le_refl 0) .initial

theorem steady_initial : Steady .initial :=
  ⟨calm_initial, fifo_initial⟩

end Functions

end Bqhelper
end Sm7225
