import Sm7225.Bqhelper.Finality

/-!
# Stalls

A source stalls when something waits in it that no later event will fetch: a
frame beside an idle codec buffer, or the end of the stream while every codec
buffer is free.  Both happen because a returned codec buffer is offered one
waiting frame only, and that frame may be dropped.
-/

namespace Sm7225
namespace Bqhelper

open Lib

/-!
# Conditions on a run
-/

instance (bufferId : CodecBufferId) (s : GraphicBufferSource) :
    Decidable (NoFrameLeft bufferId s) := by
  unfold NoFrameLeft
  apply @instDecidableForall _ _ inferInstance ?_
  split
  · exact inferInstance
  · exact inferInstance
  · exact inferInstance

instance (bufferId : CodecBufferId) (s : GraphicBufferSource) :
    Decidable (NothingLeft bufferId s) := by
  unfold NothingLeft
  have hleft : Decidable (match s.mSubmittedCodecBuffers.find? bufferId with
    | none => True
    | some none => s.mEndOfStream = false ∧ s.backlog = 0
    | some (some _) => s.backlog = 0 ∨ s.headSettles = true ∨
        s.mEndOfStream = false ∧ s.backlog <= 1) := by
    split
    · exact inferInstance
    · exact inferInstance
    · exact inferInstance
  exact inferInstance

instance (s : GraphicBufferSource) (op : Op) : Decidable (LoadsEnough s op) :=
  decidableElim _ _

instance (s : GraphicBufferSource) (op : Op) : Decidable (SettlesEnough s op) :=
  decidableElim _ _

instance (s : GraphicBufferSource) (r : Request) : Decidable (LoadsFor s r) :=
  match r with
  | .queueFrame _ => isTrue trivial
  | .call op answers =>
      inferInstanceAs (Decidable (LoadsEnough (s.given answers) op))

instance (s : GraphicBufferSource) (r : Request) : Decidable (SettlesFor s r) :=
  match r with
  | .queueFrame _ => isTrue trivial
  | .call op answers =>
      inferInstanceAs (Decidable (SettlesEnough (s.given answers) op))

instance (r : Request) : Decidable (TakesEos r) :=
  match r with
  | .queueFrame _ => isTrue trivial
  | .call _ answers =>
      inferInstanceAs (Decidable
        (forall st, st ∈ answers.submitEos -> st = .ok))

/-!
# No frame waits beside an idle codec buffer
-/

theorem reaches_idle {requests : List Request} {s : GraphicBufferSource}
    (hs : Reaches requests s)
    (hannounced : Along exec Announced requests .initial)
    (hok : Along exec (fun _ r => AcquiresOk r) requests .initial)
    (hloads : Along exec LoadsFor requests .initial) : Steady s ∧ Idle s := by
  rcases hs with ⟨replies, hrun⟩
  have hidle : Idle .initial := by
    intro hexec
    cases hexec
  have hsat := run_sat (E := fun _ _ => True)
    (I := fun s => Steady s ∧ Idle s)
    (P := fun s r => (Announced s r ∧ AcquiresOk r) ∧ LoadsFor s r) ?_ requests
    .initial ⟨steady_initial, hidle⟩ ((hannounced.and hok).and hloads)
  · exact (sat_of_ok hrun).mp hsat
  · intro s r h hcond
    apply (exec_steady r h.1 hcond.1.1 hcond.1.2).mono
    · intro _ t ht
      exact ⟨ht.1, ht.2.idle hcond.2 h.2⟩
    · intro e t _
      trivial

def NoFrameAvailable (s : GraphicBufferSource) : Prop :=
  s.mAvailableBuffers = [] ∧ s.mNumAvailableUnacquiredBuffers = 0

theorem noFrameAvailable_of_backlog {s : GraphicBufferSource} (h : Quiet s)
    (hzero : s.backlog = 0) : NoFrameAvailable s := by
  have hnum := h.num
  unfold Frames.backlog at hzero
  constructor
  · apply List.eq_nil_of_length_eq_zero
    lia
  · lia

theorem no_frame_beside_idle_codec_buffer (requests : List Request)
    (s : GraphicBufferSource) (hs : Reaches requests s)
    (hannounced : Along exec Announced requests .initial)
    (hok : Along exec (fun _ r => AcquiresOk r) requests .initial)
    (hloads : Along exec LoadsFor requests .initial)
    (hexec : s.mExecuting = true) (hfree : s.mFreeCodecBuffers ≠ []) :
    NoFrameAvailable s := by
  rcases reaches_idle hs hannounced hok hloads with ⟨hsteady, hidle⟩
  exact noFrameAvailable_of_backlog hsteady.calm.quiet (hidle hexec hfree)

/-- A frame waits for the only codec buffer and gets it. -/
def oneFrameWaits : List Request :=
  session 0 [1] ++ deliver (newFrame 0 1 100) ++ deliver (newFrame 1 2 200) ++
    [(Op.onInputBufferEmptied 1 (-1)).now, (Op.onInputBufferEmptied 1 (-1)).now]

theorem no_frame_beside_idle_codec_buffer_oneFrameWaits :
    NoFrameAvailable (final oneFrameWaits) ∧
      (freshFrames (final oneFrameWaits).log).length = 2 := by
  constructor
  · exact no_frame_beside_idle_codec_buffer oneFrameWaits (final oneFrameWaits)
      (reaches_final (by decide +kernel)) (by decide +kernel) (by decide +kernel)
      (by decide +kernel) (by decide +kernel) (by decide +kernel)
  · decide +kernel

/-- Two frames wait for the only codec buffer, and the first of them goes back
in time. -/
def twoFramesWait : List Request :=
  session 0 [1] ++ deliver (newFrame 0 1 1000) ++ deliver (newFrame 1 2 500) ++
    deliver (newFrame 2 3 2000) ++ [(Op.onInputBufferEmptied 1 (-1)).now]

/-- The first one is dropped, and the second one is left beside the idle codec
buffer. -/
theorem twoFramesWait_idles :
    Reaches twoFramesWait (final twoFramesWait) ∧
      Along exec Announced twoFramesWait .initial ∧
      Along exec (fun _ r => AcquiresOk r) twoFramesWait .initial ∧
      (final twoFramesWait).mExecuting = true ∧
      (final twoFramesWait).mFreeCodecBuffers = [1] ∧
      (final twoFramesWait).mNumAvailableUnacquiredBuffers = 1 := by
  refine ⟨reaches_final (by decide +kernel), ?_⟩
  decide +kernel

/-!
# The end of the stream gets out
-/

theorem reaches_eosReady {requests : List Request} {s : GraphicBufferSource}
    (hs : Reaches requests s)
    (hannounced : Along exec Announced requests .initial)
    (hok : Along exec (fun _ r => AcquiresOk r ∧ TakesEos r) requests .initial)
    (hsettles : Along exec SettlesFor requests .initial) :
    Steady s ∧ EosReady s := by
  rcases hs with ⟨replies, hrun⟩
  have hready : EosReady .initial := by
    intro hexec
    cases hexec
  have hsat := run_sat (E := fun _ _ => True)
    (I := fun s => Steady s ∧ EosReady s)
    (P := fun s r => (Announced s r ∧ AcquiresOk r ∧ TakesEos r) ∧ SettlesFor s r)
    ?_ requests .initial ⟨steady_initial, hready⟩ ((hannounced.and hok).and hsettles)
  · exact (sat_of_ok hrun).mp hsat
  · intro s r h hcond
    apply (exec_steady r h.1 hcond.1.1 hcond.1.2.1).mono
    · intro _ t ht
      exact ⟨ht.1, ht.2.ready hcond.1.2.2 hcond.2 h.2⟩
    · intro e t _
      trivial

/-- The end of the stream was signalled and has not been sent. -/
structure EosWaits (s : GraphicBufferSource) : Prop where
  executing : s.mExecuting = true
  eos : s.mEndOfStream = true
  stopTime : s.mStopTimeUs = -1
  sent : s.mEndOfStreamSent = false

instance (s : GraphicBufferSource) : Decidable (EosWaits s) :=
  decidable_of_iff (s.mExecuting = true ∧ s.mEndOfStream = true ∧
      s.mStopTimeUs = -1 ∧ s.mEndOfStreamSent = false)
    ⟨fun h => ⟨h.1, h.2.1, h.2.2.1, h.2.2.2⟩,
      fun h => ⟨h.executing, h.eos, h.stopTime, h.sent⟩⟩

/-- A codec buffer is free or submitted. -/
def KnowsCodecBuffer (s : GraphicBufferSource) : Prop :=
  s.mFreeCodecBuffers ≠ [] ∨ s.mSubmittedCodecBuffers.entries ≠ []

theorem eos_not_stuck (requests : List Request) (s : GraphicBufferSource)
    (hs : Reaches requests s)
    (hannounced : Along exec Announced requests .initial)
    (hok : Along exec (fun _ r => AcquiresOk r ∧ TakesEos r) requests .initial)
    (hsettles : Along exec SettlesFor requests .initial)
    (hwaits : EosWaits s) (hknows : KnowsCodecBuffer s) :
    s.mSubmittedCodecBuffers.entries ≠ [] := by
  intro hnone
  rcases reaches_eosReady hs hannounced hok hsettles with ⟨_, hready⟩
  rcases hknows with hfree | hsubmitted
  · have hboth := hready hwaits.executing hwaits.stopTime hwaits.sent hnone hfree
    have heos := hwaits.eos
    rw [hboth.1] at heos
    cases heos
  · exact hsubmitted hnone

/-- The end of the stream is signalled while a frame is at the codec and another
one waits. -/
def eosBehindFrame : List Request :=
  session 0 [1] ++ deliver (newFrame 0 1 100) ++ deliver (newFrame 1 2 200) ++
    [Op.signalEndOfInputStream.now, (Op.onInputBufferEmptied 1 (-1)).now]

theorem eos_not_stuck_eosBehindFrame :
    (final eosBehindFrame).mSubmittedCodecBuffers.entries ≠ [] ∧
      EosWaits (final eosBehindFrame) := by
  have hwaits : EosWaits (final eosBehindFrame) := by
    decide +kernel
  refine ⟨?_, hwaits⟩
  apply eos_not_stuck eosBehindFrame (final eosBehindFrame)
    (reaches_final (by decide +kernel)) (by decide +kernel) (by decide +kernel)
    (by decide +kernel) hwaits
  right
  decide +kernel

/-- Two frames wait for the only codec buffer, the first of them goes back in
time, and the end of the stream is signalled once the codec buffer is back. -/
def eosBehindIdleFrame : List Request :=
  twoFramesWait ++ [Op.signalEndOfInputStream.now]

/-- The end of the stream waits for a frame that nothing will fetch: every codec
buffer is free. -/
theorem eosBehindIdleFrame_stuck :
    Reaches eosBehindIdleFrame (final eosBehindIdleFrame) ∧
      Along exec Announced eosBehindIdleFrame .initial ∧
      Along exec (fun _ r => AcquiresOk r ∧ TakesEos r) eosBehindIdleFrame
        .initial ∧
      Along exec StartsConfigured eosBehindIdleFrame .initial ∧
      EosWaits (final eosBehindIdleFrame) ∧
      (final eosBehindIdleFrame).mFreeCodecBuffers = [1] ∧
      (final eosBehindIdleFrame).mSubmittedCodecBuffers.entries = [] := by
  refine ⟨reaches_final (by decide +kernel), ?_⟩
  decide +kernel

end Bqhelper
end Sm7225
