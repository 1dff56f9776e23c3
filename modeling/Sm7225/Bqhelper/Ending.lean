import Sm7225.Bqhelper.Draining

/-!
# The end of the stream arrives

The end of the stream waits until no frame does.  Every frame buffer that the codec gives
back then serves one frame, or carries the end of the stream itself.
-/

namespace Sm7225
namespace Bqhelper

open Lib

/-!
# The end of the stream stays signalled
-/

def TellsEos (log : List Event) : Prop :=
  exists id, .submitEos id .ok ∈ log

structure KeepsEos (s t : GraphicBufferSource) : Prop where
  ended : s.mEndOfStream = true -> t.mEndOfStream = true
  sent : s.mEndOfStreamSent = true -> t.mEndOfStreamSent = true
  stopTime : s.mStopTimeUs = -1 -> t.mStopTimeUs = -1
  told : exists new, t.log = s.log ++ new ∧
    (t.mEndOfStreamSent = true -> s.mEndOfStreamSent = true ∨ TellsEos new)

variable {s t u : GraphicBufferSource}

theorem TellsEos.append_left {log : List Event} (h : TellsEos log) (more : List Event) :
    TellsEos (more ++ log) := by
  rcases h with ⟨id, hmem⟩
  exact ⟨id, List.mem_append_right _ hmem⟩

theorem TellsEos.append_right {log : List Event} (h : TellsEos log) (more : List Event) :
    TellsEos (log ++ more) := by
  rcases h with ⟨id, hmem⟩
  exact ⟨id, List.mem_append_left _ hmem⟩

theorem KeepsEos.of_control {tail : List Event} (hlog : t.log = s.log ++ tail)
    (hended : s.mEndOfStream = true -> t.mEndOfStream = true)
    (hsent : t.mEndOfStreamSent = s.mEndOfStreamSent)
    (hstop : t.mStopTimeUs = s.mStopTimeUs) : KeepsEos s t where
  ended := hended
  sent := hsent.trans
  stopTime := hstop.trans
  told := ⟨tail, hlog, fun h => Or.inl (hsent.symm.trans h)⟩

theorem KeepsEos.trans (h : KeepsEos s t) (h' : KeepsEos t u) : KeepsEos s u where
  ended := fun hs => h'.ended (h.ended hs)
  sent := fun hs => h'.sent (h.sent hs)
  stopTime := fun hs => h'.stopTime (h.stopTime hs)
  told := by
    rcases h.told with ⟨new, hlog, htold⟩
    rcases h'.told with ⟨new', hlog', htold'⟩
    refine ⟨new ++ new', by rw [hlog', hlog, List.append_assoc], fun hu => ?_⟩
    rcases htold' hu with ht | hnew'
    · rcases htold ht with hs | hnew
      · exact Or.inl hs
      · exact Or.inr (hnew.append_right _)
    · exact Or.inr (hnew'.append_left _)

instance : Std.Refl KeepsEos :=
  ⟨fun _ => .of_control (List.append_nil _).symm id rfl rfl⟩

instance : IsTrans GraphicBufferSource KeepsEos :=
  ⟨fun _ _ _ h h' => h.trans h'⟩

namespace KeepsEos

theorem modifyControl {f : Control -> Control}
    (hended : forall c, c.mEndOfStream = true -> (f c).mEndOfStream = true)
    (hsent : forall c, (f c).mEndOfStreamSent = c.mEndOfStreamSent)
    (hstop : forall c, (f c).mStopTimeUs = c.mStopTimeUs) :
    Leads KeepsEos (modifyControl f) :=
  leads_modify fun s => .of_control (List.append_nil _).symm (hended s.toControl)
    (hsent s.toControl) (hstop s.toControl)

theorem modifyBuffers {f : Buffers -> Buffers} (h : forall b : Buffers, b.Mute (f b)) :
    Leads KeepsEos (modifyBuffers f) := by
  apply leads_modify
  intro s
  rcases h s.toBuffers with ⟨tail, hlog, _⟩
  exact .of_control hlog id rfl rfl

theorem note (e : Event) : Leads KeepsEos (note e) :=
  leads_modify fun _ => .of_control rfl id rfl rfl

theorem backstage : Backstage KeepsEos := by
  apply Backstage.of_discreet
  · intro f h
    exact modifyControl
      (fun c hc => (congrArg Standing.mEndOfStream (h c)).trans hc)
      (fun c => congrArg Standing.mEndOfStreamSent (h c))
      (fun c => congrArg Standing.mStopTimeUs (h c))
  · intro f h
    exact modifyBuffers fun b => (h b).mute

end KeepsEos

theorem submitEndOfInputStream_l_tells :
    Sat submitEndOfInputStream_l
      (fun _ t => KeepsEos s t ∧ (s.mFreeCodecBuffers ≠ [] ->
        s.answers.submitEos.headD .ok = .ok -> t.mEndOfStreamSent = true))
      (fun _ t => KeepsEos s t) s := by
  have hrefl : KeepsEos s s := Std.Refl.refl s
  unfold submitEndOfInputStream_l
  rw [sat_bind, sat_get, sat_bind, sat_check]
  refine ⟨fun _ => ?_, fun _ => hrefl⟩
  rw [sat_ite]
  refine ⟨fun hsent => ⟨hrefl, fun _ _ => hsent⟩, fun _ => ?_⟩
  cases hfree : s.mFreeCodecBuffers with
  | nil => exact ⟨hrefl, fun hnot => absurd rfl hnot⟩
  | cons codecBufferId rest =>
      unfold componentSubmitEos
      simp only [sat_bind, sat_get, sat_ite, sat_throw, sat_modifyControl, sat_note,
        sat_pure]
      refine ⟨fun _ => hrefl, fun _ => ⟨fun herr => ?_, fun herr => ?_⟩⟩
      · exact ⟨.of_control rfl id rfl rfl, fun _ hok => absurd hok herr⟩
      · rw [not_not] at herr
        apply (moveToSubmitted_outcome codecBufferId none).imp
        intro _ t ht
        apply (assignLatest_outcome none).imp
        intro _ u hu
        rcases ht with ⟨hcontrol, ⟨moved, hmoved, _⟩, _⟩
        rcases hu with ⟨hcontrol', ⟨kept, hkept, _⟩, _⟩
        have hsent : u.mEndOfStreamSent = true := by
          rw [hcontrol']
        have hlog : u.log =
            s.log ++ ([.submitEos codecBufferId .ok] ++ (moved ++ kept)) := by
          have hnoted : t.log =
              s.log ++ [.submitEos codecBufferId (s.answers.submitEos.headD .ok)] ++ moved :=
            hmoved
          rw [hkept]
          show t.log ++ kept = _
          rw [hnoted, herr, List.append_assoc, List.append_assoc]
        have htells : TellsEos ([.submitEos codecBufferId .ok] ++ (moved ++ kept)) :=
          ⟨codecBufferId, List.mem_cons_self⟩
        refine ⟨⟨?_, fun _ => hsent, ?_, ⟨_, hlog, fun _ => Or.inr htells⟩⟩,
          fun _ _ => hsent⟩
        · rw [hcontrol', hcontrol]
          exact id
        · rw [hcontrol', hcontrol]
          exact id

/-!
# Functions
-/

namespace KeepsEos

theorem reserved : Reserved KeepsEos where
  toBackstage := backstage
  frameDropperDrops := by
    intro timeUs
    apply leads_get
    intro s
    cases s.mFrameDropper with
    | none => exact leads_pure
    | some dropper =>
        refine .bind (modifyControl (fun _ h => h) (fun _ => rfl) (fun _ => rfl)) fun _ => ?_
        exact leads_pure
  ends := modifyControl (fun _ _ => rfl) (fun _ => rfl) (fun _ => rfl)
  submitEndOfInputStream_l := by
    intro s
    apply submitEndOfInputStream_l_tells.mono
    · intro _ t ht
      exact ht.1
    · intro _ t ht
      exact ht

theorem performActions (itemTimeUs : Int) : Leads KeepsEos (performActions itemTimeUs) :=
  leads_performActions (fun _ => modifyControl (fun _ h => h) (fun _ => rfl) (fun _ => rfl))
    (fun _ => modifyControl (fun _ h => h) (fun _ => rfl) (fun _ => rfl)) itemTimeUs

theorem submitBuffer_l (item : VideoBuffer) (origin : Origin) :
    Leads KeepsEos (submitBuffer_l item origin) :=
  backstage.submitBuffer_l
    (fun _ => modifyControl (fun _ h => h) (fun _ => rfl) (fun _ => rfl))
    (fun _ => modifyControl (fun _ h => h) (fun _ => rfl) (fun _ => rfl))
    (fun _ _ _ => note _) (fun _ _ _ => note _)

theorem fillCodecBuffer_l : Leads KeepsEos fillCodecBuffer_l :=
  reserved.fillCodecBuffer_l fun _ => reserved.processFrame performActions
    (reserved.skipDropOrSubmit (fun item => submitBuffer_l item .fresh) _)
    (reserved.recordFrame fun _ => modifyBuffers fun _ => .of_log rfl)

theorem repeatLatestBuffer_l : Leads KeepsEos repeatLatestBuffer_l :=
  leads_repeatLatestBuffer_l (fun latest => submitBuffer_l latest .repeated)
    reserved.countRepeat

end KeepsEos

/-!
# Requests
-/

def Request.movesEnd : Request -> Bool
  | .call (.configure _) _ => true
  | .call (.setStopTimeUs _) _ => true
  | _ => false

def AwaitsEos (r : Request) : Prop :=
  r.movesEnd = false ∧
    r.returned?.elim True fun (_, answers) => answers.submitEos.headD .ok = .ok

instance (r : Request) : Decidable (AwaitsEos r) :=
  inferInstanceAs (Decidable (_ ∧ _))

theorem perform_keepsEos {op : Op} {answers : Answers}
    (h : AwaitsEos (.call op answers)) : Leads KeepsEos (perform op) := by
  have hcontrol : forall {f : Control -> Control}, (forall c : Control, c.Subdued (f c)) ->
      Leads KeepsEos (modifyControl f) := by
    intro f hf
    exact KeepsEos.modifyControl (fun c hc => (hf c).ended.trans hc) (fun c => (hf c).sent)
      (fun c => (hf c).stopTime)
  have hpace : forall {f : Control -> Control}, (forall c : Control, c.Repaced (f c)) ->
      Leads KeepsEos (modifyControl f) := by
    intro f hf
    exact KeepsEos.modifyControl
      (fun c hc => ((hf c).keeps fun _ _ => rfl).trans hc)
      (fun c => (hf c).keeps fun _ _ => rfl)
      (fun c => (hf c).keeps fun _ _ => rfl)
  have harrives : Leads KeepsEos onFrameAvailable :=
    KeepsEos.reserved.onFrameAvailable KeepsEos.fillCodecBuffer_l
      fun _ => KeepsEos.modifyBuffers fun _ => .of_log rfl
  have hordinary : op.isOrdinary = true -> Leads KeepsEos (perform op) :=
    leads_perform KeepsEos.reserved hcontrol KeepsEos.fillCodecBuffer_l
      KeepsEos.repeatLatestBuffer_l harrives
  cases op with
  | configure args => cases h.1
  | setStopTimeUs stopTimeUs => cases h.1
  | start =>
      apply Leads.bind _ (fun _ => leads_pure)
      exact leads_start (KeepsEos.modifyControl (fun _ h => h) (fun _ => rfl) (fun _ => rfl))
        KeepsEos.fillCodecBuffer_l KeepsEos.reserved.submitEndOfInputStream_l
        KeepsEos.reserved.startLooper
  | release =>
      apply Leads.bind _ (fun _ => leads_pure)
      exact KeepsEos.reserved.release
        (KeepsEos.modifyControl (fun _ h => h) (fun _ => rfl) (fun _ => rfl))
  | setSuspend suspend suspendStartTimeUs =>
      apply Leads.bind _ (fun _ => leads_pure)
      exact KeepsEos.reserved.setSuspend KeepsEos.repeatLatestBuffer_l
        (fun _ _ => KeepsEos.modifyControl (fun _ h => h) (fun _ => rfl) (fun _ => rfl))
        (fun _ => KeepsEos.modifyControl (fun _ h => h) (fun _ => rfl) (fun _ => rfl))
        suspend suspendStartTimeUs
  | setStartTimeUs skipFramesBeforeUs =>
      apply Leads.bind _ (fun _ => leads_pure)
      exact leads_setStartTimeUs
        (fun _ => KeepsEos.modifyControl (fun _ h => h) (fun _ => rfl) (fun _ => rfl)) _
  | setTimeOffsetUs timeOffsetUs => exact leads_setPace hpace rfl
  | setMaxFps maxFps => exact leads_setPace hpace rfl
  | setTimeLapseConfig fps captureFps => exact leads_setPace hpace rfl
  | _ => exact hordinary rfl

theorem exec_keepsEos {r : Request} (h : AwaitsEos r) : Leads KeepsEos (exec r) := by
  cases r with
  | queueFrame item =>
      refine .bind (KeepsEos.modifyBuffers fun _ => ?_) fun _ => leads_pure
      exact .of_event rfl rfl
  | call op answers =>
      refine .bind (KeepsEos.modifyControl (fun _ h => h) (fun _ => rfl) (fun _ => rfl))
        fun _ => ?_
      exact perform_keepsEos h

theorem onInputBufferEmptied_sends {bufferId : CodecBufferId} {buffer : AcquiredBuffer}
    (fenceFd : Int) (hexecuting : s.mExecuting = true)
    (hsubmitted : s.mSubmittedCodecBuffers.find? bufferId = some (some buffer))
    (hnone : s.haveAvailableBuffers_l = false) (hended : s.mEndOfStream = true)
    (hstop : s.mStopTimeUs = -1) (hok : s.answers.submitEos.headD .ok = .ok) :
    Sat (onInputBufferEmptied bufferId fenceFd) (fun _ t => t.mEndOfStreamSent = true)
      (fun _ _ => True) s := by
  unfold onInputBufferEmptied reuseCodecBuffer
  simp only [sat_bind, sat_get, hsubmitted, sat_ite, sat_modifyBuffers, sat_unhold,
    sat_pure]
  refine ⟨fun hnot => ?_, fun _ => ⟨fun havailable => ?_, fun _ => ⟨fun _ => ?_,
    fun hnot => absurd ⟨hended, hstop⟩ hnot⟩⟩⟩
  · rw [hexecuting] at hnot
    cases hnot
  · rw [Buffers.unhold_toFrames] at havailable
    have hsame : s.haveAvailableBuffers_l = true := havailable
    rw [hnone] at hsame
    cases hsame
  · apply submitEndOfInputStream_l_tells.mono
    · intro _ t ht
      apply ht.2 _ hok
      rw [Buffers.unhold_toFrames]
      exact List.append_ne_nil_of_right_ne_nil _ (List.cons_ne_nil _ _)
    · intro _ _ _
      trivial

theorem exec_sends {r : Request} (h : ReturnsFrame s r) (hawaits : AwaitsEos r)
    (hreturns : r.returns = true) (hnone : s.haveAvailableBuffers_l = false)
    (hended : s.mEndOfStream = true) (hstop : s.mStopTimeUs = -1) :
    Sat (exec r) (fun _ t => t.mEndOfStreamSent = true) (fun _ _ => True) s := by
  cases r with
  | queueFrame item => cases hreturns
  | call op answers =>
      cases op with
      | onInputBufferEmptied bufferId fenceFd =>
          rcases entry_of_returnsFrame h with ⟨buffer, hentry⟩
          rcases h with ⟨hexecuting, _, _⟩
          unfold exec perform
          rw [sat_bind, sat_modifyControl, sat_bind]
          exact onInputBufferEmptied_sends (s := { s with answers := answers }) fenceFd
            hexecuting hentry hnone hended hstop hawaits.2
      | _ => cases hreturns

/-!
# What is due before the end of the stream
-/

def Request.announces : Request -> Bool
  | .call .onFrameAvailable _ => true
  | _ => false

theorem announcements_silent {log tail : List Event}
    (h : forall e, e ∈ tail -> e.ofQueue = false) :
    announcements (log ++ tail) = announcements log := by
  unfold announcements
  rw [filterMap_append_of_silent]
  intro e he
  have hsilent := h e he
  cases e <;> first | rfl | cases hsilent

theorem announcements_arrival (b : Buffers) (mExecuting : Bool) (r : Request) :
    announcements (b.arrival mExecuting r).log <=
      announcements b.log + r.announces.toNat := by
  rcases b.arrival_queue mExecuting r with ⟨item, rfl⟩ | ⟨answers, rfl⟩ | ⟨tail, hquiet⟩
  · exact le_of_eq
      (congrArg List.length (filterMap_snoc_of_none (f := Event.announcement?) rfl _))
  · have hcounted : announcements b.countAvailable.log = announcements b.log + 1 := by
      unfold announcements Buffers.countAvailable
      rw [filterMap_snoc_of_some (f := Event.announcement?) rfl, List.length_append]
      rfl
    exact le_of_eq hcounted
  · rw [hquiet.log, announcements_silent hquiet.silent]
    exact Nat.le_add_right _ _

theorem announcements_step {b b' : Buffers} (hstep : Buffers.Step b b') :
    announcements b'.log = announcements b.log := by
  rcases Buffers.step_queue hstep with ⟨bi, c, hqueue, _, rfl⟩ | ⟨tail, hquiet⟩
  · exact congrArg List.length (filterMap_snoc_of_none (f := Event.announcement?) rfl _)
  · rw [hquiet.log]
    exact announcements_silent hquiet.silent

theorem takeable_eq (hbetween : Between s) (hfifo : Buffers.Fifo s.toBuffers) :
    s.takeable + s.toBuffers.line.arrived.length =
      s.toBuffers.line.waiting.length + announcements s.log := by
  have hcount := hfifo.count
  have hnum := hbetween.sound.num
  have harrived : s.toBuffers.line.arrived.length = (acquisitions s.log).length := by
    show (acquiredFrames s.log).length = _
    rw [← acquisitions_map_snd, List.length_map]
  have hwaiting : s.toBuffers.line.waiting.length = s.mAvailableBuffers.length :=
    List.length_map _
  rw [harrived, hwaiting]
  unfold Frames.takeable
  lia

theorem moves_balance {l l' : Line AcquiredBuffer} (h : l.Moves l') :
    l'.waiting.length + l.arrived.length <= l.waiting.length + l'.arrived.length := by
  rcases h with ⟨new, harrived, hwaiting⟩
  have hlength := hwaiting.length_le
  rw [List.length_append] at hlength
  rw [harrived, List.length_append]
  lia

theorem serves_balance {l l' : Line AcquiredBuffer} (h : l.Serves l') :
    l'.waiting.length + 1 + l.arrived.length = l.waiting.length + l'.arrived.length := by
  rcases h with ⟨x, hwaiting, harrived⟩ | ⟨hnone, x, harrived, hnone'⟩
  · rw [hwaiting, harrived, List.length_cons]
  · rw [hnone, hnone', harrived, List.length_append]
    show 0 + 1 + _ = 0 + (_ + 1)
    lia

def eosDue (s : GraphicBufferSource) : Nat :=
  if s.mEndOfStreamSent then 0 else s.takeable + 1

structure Concluding (s : GraphicBufferSource) : Prop where
  between : Between s
  fifo : Buffers.Fifo s.toBuffers
  ended : s.mEndOfStream = true
  stopTime : s.mStopTimeUs = -1

theorem eosDue_of_balance {served announced : Nat} (hs : Concluding s) (ht : Concluding t)
    (hkeeps : KeepsEos s t)
    (hannounced : announcements t.log <= announcements s.log + announced)
    (hbalance : t.toBuffers.line.waiting.length + served + s.toBuffers.line.arrived.length <=
      s.toBuffers.line.waiting.length + t.toBuffers.line.arrived.length) :
    eosDue t = 0 ∨ eosDue s ≠ 0 ∧ eosDue t + served <= eosDue s + announced := by
  have hbefore := takeable_eq hs.between hs.fifo
  have hafter := takeable_eq ht.between ht.fifo
  unfold eosDue
  cases hsent' : t.mEndOfStreamSent with
  | true => exact Or.inl rfl
  | false =>
      have hsent : s.mEndOfStreamSent = false := by
        rw [← Bool.not_eq_true]
        intro hsent
        rw [hkeeps.sent hsent] at hsent'
        cases hsent'
      rw [hsent]
      right
      constructor
      · exact Nat.succ_ne_zero _
      · show s.takeable.succ + announced >= t.takeable + 1 + served
        lia

theorem exec_concludes {r : Request} (hs : Concluding s) (hannounced : Announced s r)
    (hreturns : ReturnsFrame s r) (hawaits : AwaitsEos r) :
    Sat (exec r)
      (fun _ t => Concluding t ∧ (eosDue t = 0 ∨ eosDue s ≠ 0 ∧
        eosDue t + r.returns.toNat <= eosDue s + r.announces.toNat))
      (fun _ _ => True) s := by
  have hkeeps : Sat (exec r)
      (fun _ t => Concluding t ∧ KeepsEos s t ∧
        announcements t.log <= announcements s.log + r.announces.toNat)
      (fun _ _ => True) s := by
    have hbuffers := exec_keeps (r := r)
      (P := fun b => Buffers.Fifo b ∧
        announcements b.log <= announcements s.log + r.announces.toNat)
      (fun _ _ hstep hb => ⟨Buffers.fifo_step hstep hb.1,
        (announcements_step hstep).trans_le hb.2⟩)
      hs.between ⟨fifo_arrival s r hs.fifo hannounced, announcements_arrival _ _ r⟩
    apply (hbuffers.and (exec_keepsEos hawaits s)).mono
    · intro _ t ht
      rcases ht with ⟨⟨hbetween, hfifo, hcount⟩, heos⟩
      exact ⟨⟨hbetween, hfifo, heos.ended hs.ended, heos.stopTime hs.stopTime⟩, heos,
        hcount⟩
    · intro _ _ _
      trivial
  cases hreturn : r.returns with
  | false =>
      apply (hkeeps.and (exec_keepsLine r s)).mono
      · intro _ t ht
        rcases ht with ⟨⟨hconcluding, heos, hcount⟩, hline⟩
        exact ⟨hconcluding, eosDue_of_balance hs hconcluding heos hcount (moves_balance hline)⟩
      · intro _ _ _
        trivial
  | true =>
      cases havailable : s.haveAvailableBuffers_l with
      | false =>
          have hsends := exec_sends hreturns hawaits hreturn havailable hs.ended hs.stopTime
          apply (hkeeps.and hsends).mono
          · intro _ t ht
            refine ⟨ht.1.1, Or.inl ?_⟩
            unfold eosDue
            rw [ht.2]
            rfl
          · intro _ _ _
            trivial
      | true =>
          apply (hkeeps.and (exec_attends hs.fifo hreturns hreturn)).mono
          · intro _ t ht
            rcases ht with ⟨⟨hconcluding, heos, hcount⟩, hattends⟩
            refine ⟨hconcluding, eosDue_of_balance hs hconcluding heos hcount ?_⟩
            rcases hattends with ⟨l, hserves, hmoves⟩ | ⟨hnone, _⟩
            · have hserved := serves_balance hserves
              have hmoved := moves_balance hmoves
              show _ + 1 + _ <= _
              lia
            · have hsame : s.haveAvailableBuffers_l = false := hnone
              rw [hsame] at havailable
              cases havailable
          · intro _ _ _
            trivial

/-- The end of the stream has been sent, and the component was told. -/
structure EosArrives (s t : GraphicBufferSource) : Prop where
  sent : t.mEndOfStreamSent = true
  told : exists new, t.log = s.log ++ new ∧ (s.mEndOfStreamSent = true ∨ TellsEos new)

/-- A request on the way to the end of the stream. -/
def Concludes (s : GraphicBufferSource) (r : Request) : Prop :=
  Announced s r ∧ ReturnsFrame s r ∧ AwaitsEos r

instance (s : GraphicBufferSource) (r : Request) : Decidable (Concludes s r) :=
  inferInstanceAs (Decidable (_ ∧ _ ∧ _))

/-- After the end of the stream is signalled, the component gets it once the codec has
given back one frame buffer for each frame that waits or is announced meanwhile, and one
more, in every order with the other requests. -/
theorem end_of_stream_arrives (earlier later : List Request) (s t : GraphicBufferSource)
    (hs : Reaches earlier s) (ht : Reaches (earlier ++ later) t)
    (hannounced : Along exec Announced earlier .initial) (hended : s.mEndOfStream = true)
    (hstop : s.mStopTimeUs = -1) (hlater : Along exec Concludes later s)
    (hturns : s.takeable + turns Request.announces later < turns Request.returns later) :
    EosArrives s t := by
  rcases ht with ⟨replies, hrun⟩
  rcases run_append_ok hrun with ⟨_, s', _, hfirst, hrest⟩
  rcases hs with ⟨_, hs⟩
  rw [hs] at hfirst
  cases hfirst
  rcases reaches_fifo ⟨_, hs⟩ hannounced with ⟨hbetween, hfifo⟩
  have hconcluding : Concluding s := ⟨hbetween, hfifo, hended, hstop⟩
  have hdue : eosDue s <= s.takeable + 1 := by
    unfold eosDue
    split
    · exact Nat.zero_le _
    · exact Nat.le_refl _
  have hstep : forall u r, Concluding u ∧ KeepsEos s u -> Concludes u r ->
      Sat (exec r)
        (fun _ v => (Concluding v ∧ KeepsEos s v) ∧ (eosDue v = 0 ∨ eosDue u ≠ 0 ∧
          eosDue v + r.returns.toNat <= eosDue u + r.announces.toNat))
        (fun _ _ => True) u := by
    intro u r hu hr
    apply ((exec_concludes hu.1 hr.1 hr.2.1 hr.2.2).and (exec_keepsEos hr.2.2 u)).mono
    · intro _ v hv
      exact ⟨⟨hv.1.1, hu.2.trans hv.2⟩, hv.1.2⟩
    · intro _ _ _
      trivial
  have hpaid := run_sat_paid hstep ⟨hconcluding, Std.Refl.refl s⟩ hlater (by lia)
  rw [sat_of_ok hrest] at hpaid
  rcases hpaid with ⟨⟨_, hkeeps⟩, hzero⟩
  have hsent : t.mEndOfStreamSent = true := by
    unfold eosDue at hzero
    split at hzero
    · assumption
    · cases hzero
  rcases hkeeps.told with ⟨new, hlog, htold⟩
  exact ⟨hsent, new, hlog, htold hsent⟩

/-- Five frames, and the producer signals the end. -/
def endSignalled : List Request :=
  fiveFrames ++ [Op.signalEndOfInputStream.now]

/-- One more frame arrives while both codec buffers come back again and again. -/
def fiveReturns : List Request :=
  [(Op.onInputBufferEmptied 1 (-1)).now] ++ deliver (newFrame 0 6 600) ++
    [(Op.onInputBufferEmptied 2 (-1)).now, (Op.onInputBufferEmptied 1 (-1)).now,
      (Op.onInputBufferEmptied 2 (-1)).now, (Op.onInputBufferEmptied 1 (-1)).now]

theorem end_of_stream_arrives_fiveReturns :
    EosArrives (final endSignalled) (final (endSignalled ++ fiveReturns)) ∧
      (final endSignalled).mEndOfStreamSent = false :=
  ⟨end_of_stream_arrives endSignalled fiveReturns _ _ (reaches_final (by decide +kernel))
    (reaches_final (by decide +kernel)) (by decide +kernel) (by decide +kernel)
    (by decide +kernel) (by decide +kernel) (by decide +kernel), by decide +kernel⟩

end Bqhelper
end Sm7225
