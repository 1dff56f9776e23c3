import Sm7225.Lib.Computations
import Sm7225.Bqhelper.Requests

/-!
# Time arithmetic

The source computes with times in {lit}`int64_t`, and the functions above with integers.
Here are the computations of each function on times, under the function's own name and
in the order of the source: the start time, the time offset, the repeat time, the stop
time offset, and the times of the frame dropper.
-/

namespace Sm7225
namespace Bqhelper

open Lib

namespace Times

/-!
# The frame dropper
-/

def setMaxFrameRate (maxFrameRate : Binary32) : List Computation :=
  if maxFrameRate.lt 0 then
    []
  else if maxFrameRate = 0 then
    []
  else
    [.convert (.div 1000000 maxFrameRate)]

def shouldDrop (d : FrameDropper) (timeUs : Int) : List Computation :=
  if d.mMinIntervalUs <= 0 then
    []
  else if d.mDesiredMinTimeUs < 0 then
    [.add timeUs d.mMinIntervalUs]
  else if timeUs < d.mDesiredMinTimeUs - kMaxJitterUs then
    [.sub d.mDesiredMinTimeUs kMaxJitterUs]
  else
    let n := Int.tdiv (timeUs - d.mDesiredMinTimeUs + kMaxJitterUs)
      d.mMinIntervalUs
    [.sub d.mDesiredMinTimeUs kMaxJitterUs,
      .sub timeUs d.mDesiredMinTimeUs,
      .add (timeUs - d.mDesiredMinTimeUs) kMaxJitterUs,
      .add n 1,
      .mul (n + 1) d.mMinIntervalUs,
      .add d.mDesiredMinTimeUs ((n + 1) * d.mMinIntervalUs)]

/-!
# Submission
-/

def calculateCodecTimestamp_l (c : CodecClock) (bufferTimeNs : Int) :
    List Computation :=
  [.add (Int.tdiv bufferTimeNs 1000) c.mInputBufferTimeOffsetUs]

def submitBuffer_l (item : VideoBuffer) (s : GraphicBufferSource) :
    List Computation :=
  match s.mFreeCodecBuffers with
  | [] => []
  | _ :: _ => calculateCodecTimestamp_l s.clock item.mTimestampNs

/-!
# Repeating the latest frame
-/

def retimeLatest (c : Control) (timestampNs : Int) : List Computation :=
  [.mul c.mFrameRepeatIntervalUs 1000,
    .add timestampNs (c.mFrameRepeatIntervalUs * 1000)]

def setLatestBuffer_l (item : VideoBuffer) (s : GraphicBufferSource) :
    List Computation :=
  retimeLatest s.toControl item.mTimestampNs

def countRepeat (s : GraphicBufferSource) : List Computation :=
  if 0 < s.mOutstandingFrameRepeatCount - 1 then
    match s.mLatestBuffer with
    | none => []
    | some latest => retimeLatest s.toControl latest.mTimestampNs
  else
    []

def repeatLatestBuffer_l (s : GraphicBufferSource) : List Computation :=
  after
    (check .repeatExecutingWithoutFrame
      (s.mExecuting && !s.haveAvailableBuffers_l))
    (fun _ s =>
      match s.mLatestBuffer with
      | none => []
      | some latest =>
          if s.mSuspended then
            []
          else if s.mFreeCodecBuffers.isEmpty then
            []
          else
            submitBuffer_l latest s ++
              after (Bqhelper.submitBuffer_l latest .repeated)
                (fun err t => if err ≠ .ok then [] else countRepeat t) s) s

/-!
# Available frames
-/

def offsetByStartTime (c : Control) (item : VideoBuffer) : List Computation :=
  if 0 < c.mSkipFramesBeforeNs then
    [.sub item.mTimestampNs c.mSkipFramesBeforeNs]
  else
    []

def frameDropperDrops (timeUs : Int) (s : GraphicBufferSource) :
    List Computation :=
  match s.mFrameDropper with
  | none => []
  | some dropper => shouldDrop dropper timeUs

def skipDropOrSubmit (item : VideoBuffer) (s : GraphicBufferSource) :
    List Computation :=
  if s.mSkipFramesBeforeNs < 0 ∨ s.mSkipFramesBeforeNs <= item.mTimestampNs then
    let timeUs := Int.tdiv (s.offsetByStartTime item).mTimestampNs 1000
    offsetByStartTime s.toControl item ++ frameDropperDrops timeUs s ++
      after (Bqhelper.frameDropperDrops timeUs)
        (fun drops t =>
          if drops then [] else submitBuffer_l (s.offsetByStartTime item) t) s
  else
    []

def recordFrame (item : VideoBuffer) (s : GraphicBufferSource) :
    List Computation :=
  if 0 < s.mFrameRepeatIntervalUs then
    setLatestBuffer_l (s.offsetByStartTime item) s
  else
    []

def processFrame (item : VideoBuffer) (s : GraphicBufferSource) :
    List Computation :=
  after (performActions (Int.tdiv item.mTimestampNs 1000))
    (fun seeStopAction t =>
      if seeStopAction then
        []
      else if t.mSuspended then
        []
      else
        skipDropOrSubmit item t ++
          after (Bqhelper.skipDropOrSubmit item)
            (fun err u => if err ≠ .ok then [] else recordFrame item u) t) s

def fillCodecBuffer_l (s : GraphicBufferSource) : List Computation :=
  after (check .fillExecutingWithFrame (s.mExecuting && s.haveAvailableBuffers_l))
    (fun _ s =>
      if s.mFreeCodecBuffers.isEmpty then
        []
      else
        after takeFrame
          (fun r t =>
            match r with
            | none => []
            | some item => processFrame item t) s) s

def onBufferAcquired_l (buffer : VideoBuffer) (s : GraphicBufferSource) :
    List Computation :=
  if s.mEndOfStreamSent then
    []
  else if s.mComponent.isNone || (s.mSuspended && s.mActionQueue.isEmpty) then
    []
  else
    after
      (do
        modifyControl fun c =>
          { c with mRepeatLastFrameGeneration := c.mRepeatLastFrameGeneration + 1 }
        modifyBuffers fun b => b.pushAvailable buffer)
      (fun _ t => if s.mExecuting then fillCodecBuffer_l t else []) s

/-!
# The requests
-/

def loadAvailable : Nat -> GraphicBufferSource -> List Computation
  | 0, _ => []
  | n + 1, s =>
      if s.haveAvailableBuffers_l then
        fillCodecBuffer_l s ++
          after Bqhelper.fillCodecBuffer_l
            (fun filled t => if filled then loadAvailable n t else []) s
      else
        []

def start (s : GraphicBufferSource) : List Computation :=
  after
    (do
      check .startNotExecuting (!s.mExecuting)
      modifyControl fun c =>
        { c with mExecuting := true, mLastDataspace := halDataspaceUnknown })
    (fun _ t =>
      loadAvailable
        (s.mAvailableBuffers.length + s.mNumAvailableUnacquiredBuffers.toNat) t) s

def reuseCodecBuffer (s : GraphicBufferSource) : List Computation :=
  if s.haveAvailableBuffers_l then
    after (check .emptiedBeforeEosSent (!s.mEndOfStreamSent))
      (fun _ t => fillCodecBuffer_l t) s
  else if s.mEndOfStream ∧ s.mStopTimeUs = -1 then
    []
  else if s.mFrameRepeatBlockedOnCodecBuffer then
    repeatLatestBuffer_l s
  else
    []

def onInputBufferEmptied (bufferId : CodecBufferId) (fenceFd : Int)
    (s : GraphicBufferSource) : List Computation :=
  match s.mSubmittedCodecBuffers.find? bufferId with
  | none => []
  | some none => []
  | some (some buffer) =>
      if !s.mExecuting then
        []
      else
        after
          (do
            modifyBuffers fun b =>
              ((b.note (.emptied bufferId fenceFd (some (some buffer)) true)).takeBack
                bufferId).addReleaseFenceFd buffer fenceFd
            unhold buffer)
          (fun _ t => reuseCodecBuffer t) s

def onFrameAvailable (s : GraphicBufferSource) : List Computation :=
  after (modifyBuffers Buffers.countAvailable)
    (fun _ s =>
      if !s.areWeDiscardingAvailableBuffers_l && s.mFreeCodecBuffers.isEmpty then
        []
      else
        after (acquireBuffer_l .oneFrame)
          (fun r t =>
            match r with
            | .error _ => []
            | .ok buffer => onBufferAcquired_l buffer t) s) s

def resumeNow (s : GraphicBufferSource) : List Computation :=
  after (modifyControl fun c => { c with mSuspended := false })
    (fun _ s =>
      if s.mExecuting ∧ !s.haveAvailableBuffers_l ∧
          s.mFrameRepeatBlockedOnCodecBuffer then
        repeatLatestBuffer_l s
      else
        []) s

def setSuspend (suspend : Bool) (suspendStartTimeUs : Int)
    (s : GraphicBufferSource) : List Computation :=
  if s.mStopTimeUs ≠ -1 then
    []
  else if suspendStartTimeUs ≠ -1 then
    []
  else if suspend then
    []
  else
    resumeNow s

def setMaxFps (maxFps : Binary32) (s : GraphicBufferSource) : List Computation :=
  if s.mExecuting then [] else setMaxFrameRate maxFps

def setStartTimeUs (skipFramesBeforeUs : Int) : List Computation :=
  if 0 < skipFramesBeforeUs ∧ skipFramesBeforeUs <= Int.tdiv int64Max 1000 then
    [.mul skipFramesBeforeUs 1000]
  else
    []

def getStopTimeOffsetUs (s : GraphicBufferSource) : List Computation :=
  if s.mStopTimeUs = -1 then
    []
  else if s.mLastFrameTimestampUs = -1 then
    []
  else
    [.sub s.mStopTimeUs s.mLastFrameTimestampUs]

def onMessageReceived (generation : Int) (s : GraphicBufferSource) :
    List Computation :=
  if generation ≠ s.mRepeatLastFrameGeneration then
    []
  else if !s.mExecuting || s.haveAvailableBuffers_l then
    []
  else
    repeatLatestBuffer_l s

def perform (op : Op) (s : GraphicBufferSource) : List Computation :=
  match op with
  | .start => start s
  | .onInputBufferEmptied bufferId fenceFd => onInputBufferEmptied bufferId fenceFd s
  | .onFrameAvailable => onFrameAvailable s
  | .setSuspend suspend suspendStartTimeUs => setSuspend suspend suspendStartTimeUs s
  | .setMaxFps maxFps => setMaxFps maxFps s
  | .setStartTimeUs skipFramesBeforeUs => setStartTimeUs skipFramesBeforeUs
  | .getStopTimeOffsetUs => getStopTimeOffsetUs s
  | .onMessageReceived generation => onMessageReceived generation s
  | _ => []

def exec (r : Request) (s : GraphicBufferSource) : List Computation :=
  match r with
  | .queueFrame _ => []
  | .call op answers => perform op { s with answers := answers }

/-!
# The results

The last computation of a function gives the time that the function stores or returns.
-/

section Results

variable {timeUs : Int}

theorem setMaxFrameRate_result (d : FrameDropper) {maxFrameRate : Binary32}
    (h : maxFrameRate.lt 0 = false) :
    (d.setMaxFrameRate maxFrameRate).2.mMinIntervalUs =
      lastResult (setMaxFrameRate maxFrameRate) d.mMinIntervalUs := by
  unfold FrameDropper.setMaxFrameRate setMaxFrameRate
  rw [h, if_neg Bool.false_ne_true, if_neg Bool.false_ne_true]
  by_cases hzero : maxFrameRate = 0
  · rw [if_pos hzero, if_pos hzero]
    rfl
  · rw [if_neg hzero, if_neg hzero]
    rfl

theorem shouldDrop_result (d : FrameDropper) (hexact : AllExact (shouldDrop d timeUs))
    (hkeeps : (d.shouldDrop timeUs).1 = false) :
    (d.shouldDrop timeUs).2.mDesiredMinTimeUs =
      lastResult (shouldDrop d timeUs) d.mDesiredMinTimeUs := by
  unfold FrameDropper.shouldDrop at hkeeps ⊢
  unfold shouldDrop at hexact ⊢
  by_cases hdisabled : d.mMinIntervalUs <= 0
  · rw [if_pos hdisabled, if_pos hdisabled]
    rfl
  rw [if_neg hdisabled] at hkeeps hexact ⊢
  rw [if_neg hdisabled]
  by_cases hfirst : d.mDesiredMinTimeUs < 0
  · rw [if_pos hfirst] at hexact ⊢
    rw [if_pos hfirst]
    exact (lastResult_snoc [] hexact rfl).symm
  rw [if_neg hfirst] at hkeeps hexact ⊢
  rw [if_neg hfirst]
  by_cases hearly : timeUs < d.mDesiredMinTimeUs - kMaxJitterUs
  · rw [if_pos hearly] at hkeeps
    cases hkeeps
  · rw [if_neg hearly] at hexact ⊢
    rw [if_neg hearly]
    exact (lastResult_snoc [_, _, _, _, _] hexact rfl).symm

theorem calculateCodecTimestamp_l_result {c c' : CodecClock} {dropper : Option FrameDropper}
    {bufferTimeNs codecTimeUs : Int} (hplain : c.rescales = false)
    (hexact : AllExact (calculateCodecTimestamp_l c bufferTimeNs))
    (h : c.calculateCodecTimestamp_l dropper bufferTimeNs = some (codecTimeUs, c')) :
    codecTimeUs = lastResult (calculateCodecTimestamp_l c bufferTimeNs) 0 := by
  unfold CodecClock.calculateCodecTimestamp_l at h
  rw [hplain] at h
  dsimp only at h
  rw [if_neg Bool.false_ne_true] at h
  split at h
  · cases h
  · cases h
    exact (lastResult_snoc [] hexact rfl).symm

theorem retimeLatest_result {c : Control} {b : Buffers} {latest : VideoBuffer}
    (hexact : AllExact (retimeLatest c latest.mTimestampNs))
    (h : b.mLatestBuffer = some latest) :
    (b.retimeLatest (c.mFrameRepeatIntervalUs * 1000)).mLatestBuffer =
      some { latest with
        mTimestampNs := lastResult (retimeLatest c latest.mTimestampNs) 0 } := by
  have hlast : lastResult (retimeLatest c latest.mTimestampNs) 0 =
      latest.mTimestampNs + c.mFrameRepeatIntervalUs * 1000 :=
    lastResult_snoc [_] hexact rfl
  rw [hlast]
  unfold Buffers.retimeLatest
  rw [h]
  rfl

theorem offsetByStartTime_result {c : Control} {item : VideoBuffer}
    (hexact : AllExact (offsetByStartTime c item)) :
    (c.offsetByStartTime item).mTimestampNs =
      lastResult (offsetByStartTime c item) item.mTimestampNs := by
  unfold Control.offsetByStartTime
  unfold offsetByStartTime at hexact ⊢
  by_cases hskip : 0 < c.mSkipFramesBeforeNs
  · rw [if_pos hskip] at hexact ⊢
    rw [if_pos hskip]
    exact (lastResult_snoc [] hexact rfl).symm
  · rw [if_neg hskip, if_neg hskip]
    rfl

theorem setStartTimeUs_result {skipFramesBeforeUs : Int}
    (hexact : AllExact (setStartTimeUs skipFramesBeforeUs)) (s : GraphicBufferSource) :
    Sat (Bqhelper.setStartTimeUs skipFramesBeforeUs)
      (fun _ t => t.mSkipFramesBeforeNs = lastResult (setStartTimeUs skipFramesBeforeUs) (-1))
      (fun _ _ => False) s := by
  unfold Bqhelper.setStartTimeUs
  unfold setStartTimeUs at hexact ⊢
  rw [sat_bind, sat_modifyControl, sat_pure]
  by_cases haccepted : 0 < skipFramesBeforeUs ∧
      skipFramesBeforeUs <= Int.tdiv int64Max 1000
  · rw [if_pos haccepted] at hexact ⊢
    rw [if_pos haccepted]
    exact (lastResult_snoc [] hexact rfl).symm
  · rw [if_neg haccepted, if_neg haccepted]
    rfl

theorem getStopTimeOffsetUs_result {s : GraphicBufferSource}
    (hexact : AllExact (getStopTimeOffsetUs s)) (h : s.mStopTimeUs ≠ -1) :
    Sat Bqhelper.getStopTimeOffsetUs
      (fun r _ => r = (.ok, some (lastResult (getStopTimeOffsetUs s) 0)))
      (fun _ _ => False) s := by
  unfold Bqhelper.getStopTimeOffsetUs
  unfold getStopTimeOffsetUs at hexact ⊢
  rw [sat_bind, sat_get, if_neg h, if_neg h, sat_pure]
  rw [if_neg h] at hexact
  by_cases hlast : s.mLastFrameTimestampUs = -1
  · rw [if_pos hlast, if_pos hlast]
    rfl
  · rw [if_neg hlast] at hexact ⊢
    rw [if_neg hlast]
    congr 2
    exact (lastResult_snoc [] hexact rfl).symm

end Results

/-- The listed computations are those of the functions: an exact list ends with the
time that the function stores or returns. -/
structure Results : Prop where
  setMaxFrameRate : forall (d : FrameDropper) (maxFrameRate : Binary32),
    maxFrameRate.lt 0 = false ->
      (d.setMaxFrameRate maxFrameRate).2.mMinIntervalUs =
        lastResult (setMaxFrameRate maxFrameRate) d.mMinIntervalUs
  shouldDrop : forall (d : FrameDropper) timeUs, AllExact (shouldDrop d timeUs) ->
    (d.shouldDrop timeUs).1 = false ->
      (d.shouldDrop timeUs).2.mDesiredMinTimeUs =
        lastResult (shouldDrop d timeUs) d.mDesiredMinTimeUs
  calculateCodecTimestamp_l : forall (c c' : CodecClock) dropper bufferTimeNs codecTimeUs,
    c.rescales = false -> AllExact (calculateCodecTimestamp_l c bufferTimeNs) ->
      c.calculateCodecTimestamp_l dropper bufferTimeNs = some (codecTimeUs, c') ->
        codecTimeUs = lastResult (calculateCodecTimestamp_l c bufferTimeNs) 0
  retimeLatest : forall (c : Control) (b : Buffers) latest,
    AllExact (retimeLatest c latest.mTimestampNs) -> b.mLatestBuffer = some latest ->
      (b.retimeLatest (c.mFrameRepeatIntervalUs * 1000)).mLatestBuffer =
        some { latest with
          mTimestampNs := lastResult (retimeLatest c latest.mTimestampNs) 0 }
  offsetByStartTime : forall (c : Control) item, AllExact (offsetByStartTime c item) ->
    (c.offsetByStartTime item).mTimestampNs =
      lastResult (offsetByStartTime c item) item.mTimestampNs
  setStartTimeUs : forall skipFramesBeforeUs, AllExact (setStartTimeUs skipFramesBeforeUs) ->
    forall s, Sat (Bqhelper.setStartTimeUs skipFramesBeforeUs)
      (fun _ t => t.mSkipFramesBeforeNs = lastResult (setStartTimeUs skipFramesBeforeUs) (-1))
      (fun _ _ => False) s
  getStopTimeOffsetUs : forall s, AllExact (getStopTimeOffsetUs s) -> s.mStopTimeUs ≠ -1 ->
    Sat Bqhelper.getStopTimeOffsetUs
      (fun r _ => r = (.ok, some (lastResult (getStopTimeOffsetUs s) 0)))
      (fun _ _ => False) s

theorem results : Results where
  setMaxFrameRate := fun d _ h => setMaxFrameRate_result d h
  shouldDrop := fun d _ hexact h => shouldDrop_result d hexact h
  calculateCodecTimestamp_l := fun _ _ _ _ _ hplain hexact h =>
    calculateCodecTimestamp_l_result hplain hexact h
  retimeLatest := fun _ _ _ hexact h => retimeLatest_result hexact h
  offsetByStartTime := fun _ _ hexact => offsetByStartTime_result hexact
  setStartTimeUs := fun _ hexact s => setStartTimeUs_result hexact s
  getStopTimeOffsetUs := fun _ hexact h => getStopTimeOffsetUs_result hexact h

end Times

def TimesExact (s : GraphicBufferSource) (r : Request) : Prop :=
  AllExact (Times.exec r s)

instance (s : GraphicBufferSource) (r : Request) : Decidable (TimesExact s r) :=
  inferInstanceAs (Decidable (AllExact _))

end Bqhelper
end Sm7225
