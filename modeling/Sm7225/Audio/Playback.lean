import Sm7225.Audio.Tallies

/-!
# The sound of an output stream

A client puts bytes into the data queue, the worker thread takes them into its buffer and
hands them to the vendor, who may take less than all.  The bytes reach the vendor in the
order of the client, each of them once.  A client that goes on after the count of each
reply has its whole sound played, whatever the vendor took at a time.
-/

namespace Sm7225
namespace Audio

open Lib

variable {β : Type}

def overwrite (bytes buffer : List β) : List β := bytes ++ buffer.drop bytes.length

theorem length_overwrite {bytes buffer : List β} (h : bytes.length <= buffer.length) :
    (overwrite bytes buffer).length = buffer.length := by
  unfold overwrite
  rw [List.length_append, List.length_drop]
  lia

theorem take_overwrite (bytes buffer : List β) :
    (overwrite bytes buffer).take bytes.length = bytes := List.take_left

/-- The stream, the contents of its queue and of the buffer, and what has passed. -/
structure Playback (β : Type) where
  tally : Tally WriteCommand
  dataMQ : List β
  mBuffer : List β
  -- the client has put this into the data queue
  given : List β
  -- the vendor was handed this, and took this of it
  handed : List β
  played : List β

inductive PlaybackStep (β : Type) where
  | data (bytes : List β)
  | stream (step : StreamStep WriteCommand)

def StreamSystem.handing {C : Type} (s : StreamSystem C) : Nat :=
  match s.worker with
  | .callHal _ (.write bytes) => bytes
  | _ => 0

namespace Playback

def system (p : Playback β) : StreamSystem WriteCommand := p.tally.exchange.system

def initial (buffer : List β) : Playback β where
  tally := Tally.initial buffer.length
  dataMQ := []
  mBuffer := buffer
  given := []
  handed := []
  played := []

def carry (answers : Answers) (p : Playback β) : Playback β :=
  match p.system.worker with
  | .switch .write =>
      if answers.dataRead then
        { p with dataMQ := [], mBuffer := overwrite p.dataMQ p.mBuffer }
      else
        p
  | .callHal _ (.write bytes) =>
      { p with
        handed := p.handed ++ p.mBuffer.take bytes
        played := p.played ++ (p.mBuffer.take bytes).take answers.halResult.toNat }
  | _ => p

def follow (majorVersion : Nat) (hal : HalStream) (p : Playback β)
    (step : StreamStep WriteCommand) : Playback β :=
  { p with tally := p.tally.next WriteThread.worker majorVersion hal step }

def next (majorVersion : Nat) (hal : HalStream) (p : Playback β) :
    PlaybackStep β -> Playback β
  | .data bytes =>
      if p.dataMQ.length + bytes.length <= p.system.desk.capacity then
        { p.follow majorVersion hal (.data (p.dataMQ.length + bytes.length)) with
          dataMQ := p.dataMQ ++ bytes
          given := p.given ++ bytes }
      else
        p
  | .stream (.data _) => p
  | .stream (.worker answers) =>
      { p.carry answers with
        tally := p.tally.next WriteThread.worker majorVersion hal (.worker answers) }
  | .stream step => p.follow majorVersion hal step

def exec (majorVersion : Nat) (hal : HalStream) (step : PlaybackStep β) :
    EStateM Empty (Playback β) Unit :=
  modify fun p => p.next majorVersion hal step

def buffered (p : Playback β) : List β := p.mBuffer.take p.system.handing

end Playback

/-!
# What a step does with the bytes
-/

structure SameQueue {C : Type} (desk desk' : Desk C) : Prop where
  dataMQ : desk'.dataMQ = desk.dataMQ
  capacity : desk'.capacity = desk.capacity

inductive Playback.Moves (p : Playback β) (step : StreamStep WriteCommand)
    (tally : Tally WriteCommand) : Playback β -> Prop where
  | rests (hhanding : tally.exchange.system.handing = p.system.handing)
      (hdesk : SameQueue p.system.desk tally.exchange.system.desk)
      (htotal : tally.total = p.tally.total) :
      Moves p step tally { p with tally := tally }
  | takes (hbefore : p.system.handing = 0)
      (hhanding : tally.exchange.system.handing = p.system.desk.dataMQ)
      (hqueue : tally.exchange.system.desk.dataMQ = 0)
      (hcapacity : tally.exchange.system.desk.capacity = p.system.desk.capacity)
      (htotal : tally.total = p.tally.total) :
      Moves p step tally
        { p with tally := tally, dataMQ := [], mBuffer := overwrite p.dataMQ p.mBuffer }
  | hands (command : WriteCommand) (bytes : Nat) (answers : Answers)
      (hat : p.system.worker = .callHal command (.write bytes))
      (hstep : step = .worker answers)
      (hhanding : tally.exchange.system.handing = 0)
      (hdesk : SameQueue p.system.desk tally.exchange.system.desk)
      (htotal : tally.total = p.tally.total + answers.halResult.toNat) :
      Moves p step tally
        { p with
          tally := tally
          handed := p.handed ++ p.mBuffer.take bytes
          played := p.played ++ (p.mBuffer.take bytes).take answers.halResult.toNat }

section Steps

variable {majorVersion : Nat} {hal : HalStream} {answers : Answers} {p : Playback β}

theorem SameQueue.refl {C : Type} (desk : Desk C) : SameQueue desk desk := ⟨rfl, rfl⟩

theorem askPosition_queue {C : Type} (hal : HalStream) (function : HalFunction)
    (desk : Desk C) : SameQueue desk (askPosition hal function desk).2 := by
  unfold askPosition
  split
  · exact SameQueue.refl desk
  · exact ⟨rfl, rfl⟩

theorem WriteThread.begin_queue {command : WriteCommand} {hal : HalStream}
    {desk desk' : Desk WriteCommand} {function : Option HalFunction}
    (h : command = .write -> answers.dataRead = false)
    (hbegin : WriteThread.begin hal command answers desk = (function, desk')) :
    SameQueue desk desk' := by
  have hdesk : desk' = (WriteThread.begin hal command answers desk).2 :=
    (congrArg Prod.snd hbegin).symm
  rw [hdesk]
  unfold WriteThread.begin
  cases command with
  | write =>
      rw [h rfl]
      exact ⟨rfl, rfl⟩
  | getPresentationPosition => exact askPosition_queue hal _ desk
  | _ => exact ⟨rfl, rfl⟩

theorem WriteThread.finish_queue (command : WriteCommand) (answers : Answers)
    (desk : Desk WriteCommand) :
    SameQueue desk (WriteThread.finish command answers desk) := by
  unfold WriteThread.finish
  cases command with
  | write =>
      dsimp only
      split
      · exact ⟨rfl, rfl⟩
      · exact ⟨rfl, rfl⟩
  | _ => exact ⟨rfl, rfl⟩

theorem WriteThread.begin_function {command : WriteCommand} {desk desk' : Desk WriteCommand}
    {function : HalFunction}
    (h : command = .write -> answers.dataRead = false)
    (hbegin : WriteThread.begin hal command answers desk = (some function, desk')) :
    forall bytes, function ≠ .write bytes := by
  intro bytes hfunction
  rw [hfunction] at hbegin
  unfold WriteThread.begin at hbegin
  cases command with
  | write =>
      rw [h rfl] at hbegin
      cases hbegin
  | getPresentationPosition => cases (askPosition_call hbegin).1
  | _ => cases hbegin

theorem handing_of_at {C : Type} {s : StreamSystem C} {phase : WorkerAt C}
    (hat : s.worker = phase) : s.handing = { s with worker := phase }.handing := by
  rw [← hat]

def WorkerAt.performs {C : Type} : WorkerAt C -> Bool
  | .switch _ => true
  | .callHal _ _ => true
  | _ => false

theorem Playback.carry_of_unread (p : Playback β) {command : WriteCommand}
    (hat : p.system.worker = .switch command)
    (hread : command = .write -> answers.dataRead = false) : p.carry answers = p := by
  unfold Playback.carry
  rw [hat]
  cases command with
  | write =>
      rw [hread rfl]
      rfl
  | _ => rfl

theorem Playback.thread_rests {t : Tally WriteCommand} {u : StreamSystem WriteCommand}
    (hu : t.exchange.system = u)
    (htotal : t.total = p.tally.total + Tally.movedNow answers p.system.worker)
    (hcarry : p.carry answers = p) (hmoved : Tally.movedNow answers p.system.worker = 0)
    (hbefore : p.system.handing = 0) (hafter : u.handing = 0)
    (hdesk : SameQueue p.system.desk u.desk) :
    p.Moves (.worker answers) t { p.carry answers with tally := t } := by
  rw [hcarry]
  rw [← hu] at hafter hdesk
  apply Playback.Moves.rests _ hdesk
  · rw [htotal, hmoved]
    rfl
  · rw [hafter, hbefore]

theorem Playback.thread_idle {t : Tally WriteCommand} {u : StreamSystem WriteCommand}
    {phase : WorkerAt WriteCommand} (hat : p.system.worker = phase)
    (hperforms : phase.performs = false) (hu : t.exchange.system = u)
    (htotal : t.total = p.tally.total + Tally.movedNow answers p.system.worker)
    (hafter : u.handing = 0) (hdesk : SameQueue p.system.desk u.desk) :
    p.Moves (.worker answers) t { p.carry answers with tally := t } := by
  have hcarry : p.carry answers = p := by
    unfold Playback.carry
    rw [hat]
    cases phase with
    | switch command => cases hperforms
    | callHal command function => cases hperforms
    | _ => rfl
  have hmoved : Tally.movedNow answers p.system.worker = 0 := by
    rw [hat]
    cases phase with
    | callHal command function => cases hperforms
    | _ => rfl
  have hbefore : p.system.handing = 0 := by
    rw [handing_of_at hat]
    cases phase with
    | callHal command function => cases hperforms
    | _ => rfl
  exact p.thread_rests hu htotal hcarry hmoved hbefore hafter hdesk

theorem Playback.thread_moves
    (hready : forall command function, p.system.worker = .callHal command function ->
      WriteThread.Ready command function p.system.desk.mStatus) :
    p.Moves (.worker answers)
      (p.tally.next WriteThread.worker majorVersion hal (.worker answers))
      (p.next majorVersion hal (.stream (.worker answers))) := by
  have hmoves := workerStep_moves WriteThread.worker hal answers p.system
  show p.Moves (.worker answers) _ { p.carry answers with
    tally := p.tally.next WriteThread.worker majorVersion hal (.worker answers) }
  have htotal : (p.tally.next WriteThread.worker majorVersion hal (.worker answers)).total =
      p.tally.total + Tally.movedNow answers p.system.worker := rfl
  have hu : (p.tally.next WriteThread.worker majorVersion hal
      (.worker answers)).exchange.system =
        p.system.workerStep WriteThread.worker hal answers := rfl
  generalize p.tally.next WriteThread.worker majorVersion hal (.worker answers) = t at *
  generalize p.system.workerStep WriteThread.worker hal answers = u at *
  have hsame := SameQueue.refl p.system.desk
  cases hmoves with
  | rests hat =>
      rcases hat with hat | hat
      · have hafter : p.system.handing = 0 := by
          rw [handing_of_at hat]
          rfl
        exact p.thread_idle hat rfl hu htotal hafter hsame
      · have hafter : p.system.handing = 0 := by
          rw [handing_of_at hat]
          rfl
        exact p.thread_idle hat rfl hu htotal hafter hsame
  | exits hat hstop => exact p.thread_idle hat rfl hu htotal rfl hsame
  | waits hat hstop => exact p.thread_idle hat rfl hu htotal rfl hsame
  | wakes hat hflag hstate => exact p.thread_idle hat rfl hu htotal rfl hsame
  | continues hat hflag => exact p.thread_idle hat rfl hu htotal rfl hsame
  | finds hat hqueue => exact p.thread_idle hat rfl hu htotal rfl hsame
  | reads command rest hat hqueue =>
      exact p.thread_idle hat rfl hu htotal rfl ⟨rfl, rfl⟩
  | skips command desk hat hbegin =>
      have hread : command = .write -> answers.dataRead = false := by
        intro hcommand
        rw [hcommand] at hbegin
        cases hread : answers.dataRead with
        | false => rfl
        | true => simp [WriteThread.worker, WriteThread.begin, hread] at hbegin
      exact p.thread_rests hu htotal (p.carry_of_unread hat hread) (by rw [hat]; rfl)
        (by rw [handing_of_at hat]; rfl) rfl (WriteThread.begin_queue hread hbegin)
  | calls command function desk hat hbegin =>
      by_cases hwrites : command = .write ∧ answers.dataRead = true
      · rcases hwrites with ⟨hcommand, hread⟩
        have hcarry : p.carry answers =
            { p with dataMQ := [], mBuffer := overwrite p.dataMQ p.mBuffer } := by
          unfold Playback.carry
          rw [hat, hcommand]
          exact if_pos hread
        rw [hcommand] at hbegin
        simp only [WriteThread.worker, WriteThread.begin, hread, if_true] at hbegin
        cases hbegin
        rw [hcarry]
        apply Playback.Moves.takes
        · rw [handing_of_at hat]
          rfl
        · rw [hu]
          rfl
        · rw [hu]
        · rw [hu]
          rfl
        · rw [htotal, hat]
          rfl
      · have hread : command = .write -> answers.dataRead = false := by
          intro hcommand
          exact Bool.eq_false_iff.mpr fun hread => hwrites ⟨hcommand, hread⟩
        have hfunction := WriteThread.begin_function hread hbegin
        have hafter : ({ p.system with
            desk := desk, worker := .callHal command function } :
              StreamSystem WriteCommand).handing = 0 := by
          cases function with
          | write bytes => exact absurd rfl (hfunction bytes)
          | _ => rfl
        exact p.thread_rests hu htotal (p.carry_of_unread hat hread) (by rw [hat]; rfl)
          (by rw [handing_of_at hat]; rfl) hafter (WriteThread.begin_queue hread hbegin)
  | returns command function hat =>
      have hdesk := WriteThread.finish_queue command answers p.system.desk
      cases function with
      | write bytes =>
          have hcarry : p.carry answers =
              { p with
                handed := p.handed ++ p.mBuffer.take bytes
                played := p.played ++
                  (p.mBuffer.take bytes).take answers.halResult.toNat } := by
            unfold Playback.carry
            rw [hat]
          rw [hcarry]
          refine Playback.Moves.hands command bytes answers hat rfl ?_ ?_ ?_
          · rw [hu]
            rfl
          · rw [hu]
            exact hdesk
          · rw [htotal, hat]
            rfl
      | read bytes =>
          have hnone := hready command (.read bytes) hat
          cases command with
          | write =>
              rcases hnone.1 with ⟨asked, hasked⟩
              cases hasked
          | _ => cases hnone
      | _ =>
          have hcarry : p.carry answers = p := by
            unfold Playback.carry
            rw [hat]
          exact p.thread_rests hu htotal hcarry (by rw [hat]; rfl)
            (by rw [handing_of_at hat]; rfl) rfl hdesk
  | reports hat hroom => exact p.thread_idle hat rfl hu htotal rfl hsame
  | loses hat hroom => exact p.thread_idle hat rfl hu htotal rfl hsame
  | signals hat => exact p.thread_idle hat rfl hu htotal rfl hsame

theorem Playback.leaves_moves {step : StreamStep WriteCommand} {t : Tally WriteCommand}
    (h : Leaves p.system t.exchange.system) (htotal : t.total = p.tally.total) :
    p.Moves step t { p with tally := t } := by
  apply Playback.Moves.rests _ _ htotal
  · unfold StreamSystem.handing
    rw [h.worker]
  · rw [h.desk]
    exact SameQueue.refl p.system.desk

theorem Playback.next_moves
    (hready : forall command function, p.system.worker = .callHal command function ->
      WriteThread.Ready command function p.system.desk.mStatus)
    {step : StreamStep WriteCommand} (hdata : forall bytes, step ≠ .data bytes) :
    p.Moves step (p.tally.next WriteThread.worker majorVersion hal step)
      (p.next majorVersion hal (.stream step)) := by
  cases step with
  | prepare =>
      refine Playback.Moves.rests ?_ ?_ rfl
      · show (p.system.step WriteThread.worker majorVersion hal .prepare).handing = _
        rcases prepare_cases WriteThread.worker majorVersion hal p.system with
          hsame | ⟨hat, hstarts⟩
        · rw [hsame]
        · rw [hstarts, handing_of_at hat]
          rfl
      · show SameQueue _ (p.system.step WriteThread.worker majorVersion hal .prepare).desk
        rcases prepare_cases WriteThread.worker majorVersion hal p.system with
          hsame | ⟨hat, hstarts⟩
        · rw [hsame]
          exact SameQueue.refl p.system.desk
        · rw [hstarts]
          exact SameQueue.refl p.system.desk
  | data bytes => exact absurd rfl (hdata bytes)
  | worker answers => exact p.thread_moves hready
  | close => exact p.leaves_moves (enters_leaves false p.system) rfl
  | destroy => exact p.leaves_moves (enters_leaves true p.system) rfl
  | closer => exact p.leaves_moves (closerStep_leaves majorVersion hal p.system) rfl
  | _ => exact .rests rfl (SameQueue.refl p.system.desk) rfl

end Steps

/-!
# No byte is lost on the way
-/

/-- What has been handed to the vendor, what the vendor is being handed and what is in
the queue is what the client has put there, in its order. -/
structure Playback.Intact (p : Playback β) : Prop where
  whole : p.handed ++ p.buffered ++ p.dataMQ = p.given
  -- the stream knows how much there is
  counted : p.dataMQ.length = p.system.desk.dataMQ
  fits : p.dataMQ.length <= p.mBuffer.length
  -- the vendor reads no further than the buffer
  inside : p.system.handing <= p.mBuffer.length
  capacity : p.mBuffer.length = p.system.desk.capacity

def Playback.Prepared (p : Playback β) : Prop :=
  forall command function, p.system.worker = .callHal command function ->
    WriteThread.Ready command function p.system.desk.mStatus

section Runs

variable {majorVersion : Nat} {hal : HalStream} {p q : Playback β}

theorem Playback.Moves.intact {step : StreamStep WriteCommand} {t : Tally WriteCommand}
    (h : p.Moves step t q) (hp : p.Intact) : q.Intact := by
  have hwhole := hp.whole
  unfold Playback.buffered at hwhole
  cases h with
  | rests hhanding hdesk htotal =>
      constructor
      · show p.handed ++ p.mBuffer.take t.exchange.system.handing ++ p.dataMQ = p.given
        rw [hhanding]
        exact hwhole
      · exact hp.counted.trans hdesk.dataMQ.symm
      · exact hp.fits
      · show t.exchange.system.handing <= p.mBuffer.length
        rw [hhanding]
        exact hp.inside
      · exact hp.capacity.trans hdesk.capacity.symm
  | takes hbefore hhanding hqueue hcapacity htotal =>
      have hlength : (overwrite p.dataMQ p.mBuffer).length = p.mBuffer.length :=
        length_overwrite hp.fits
      rw [← hp.counted] at hhanding
      constructor
      · show p.handed ++ (overwrite p.dataMQ p.mBuffer).take t.exchange.system.handing ++
          [] = p.given
        rw [hhanding, take_overwrite, List.append_nil, ← hwhole, hbefore, List.take_zero,
          List.append_nil]
      · exact hqueue.symm
      · exact Nat.zero_le _
      · show t.exchange.system.handing <= (overwrite p.dataMQ p.mBuffer).length
        rw [hhanding, hlength]
        exact hp.fits
      · exact hlength.trans (hp.capacity.trans hcapacity.symm)
  | hands command bytes answers hat hstep hhanding hdesk htotal =>
      have hbytes : p.system.handing = bytes := by
        rw [handing_of_at hat]
        rfl
      constructor
      · show p.handed ++ p.mBuffer.take bytes ++ p.mBuffer.take t.exchange.system.handing ++
          p.dataMQ = p.given
        rw [hhanding, List.take_zero, List.append_nil, ← hbytes]
        exact hwhole
      · exact hp.counted.trans hdesk.dataMQ.symm
      · exact hp.fits
      · show t.exchange.system.handing <= p.mBuffer.length
        rw [hhanding]
        exact Nat.zero_le _
      · exact hp.capacity.trans hdesk.capacity.symm

theorem Playback.Intact.data (hp : p.Intact) (bytes : List β) :
    (p.next majorVersion hal (.data bytes)).Intact := by
  unfold Playback.next
  dsimp only
  split
  · next hroom =>
      have hlength : (p.dataMQ ++ bytes).length = p.dataMQ.length + bytes.length :=
        List.length_append
      constructor
      · show p.handed ++ p.buffered ++ (p.dataMQ ++ bytes) = p.given ++ bytes
        rw [← List.append_assoc, hp.whole]
      · show (p.dataMQ ++ bytes).length =
          min (p.dataMQ.length + bytes.length) p.system.desk.capacity
        rw [hlength, Nat.min_eq_left hroom]
      · show (p.dataMQ ++ bytes).length <= p.mBuffer.length
        rw [hlength, hp.capacity]
        exact hroom
      · exact hp.inside
      · exact hp.capacity
  · exact hp

theorem Playback.Prepared.next (hp : p.Prepared) (step : PlaybackStep β) :
    (p.next majorVersion hal step).Prepared := by
  have htally : forall (step : StreamStep WriteCommand),
      { p with tally := p.tally.next WriteThread.worker majorVersion hal step }.Prepared :=
    fun step => p.tally.ready_next WriteThread.tells hp step
  cases step with
  | data bytes =>
      unfold Playback.next
      dsimp only
      split
      · exact htally (.data (p.dataMQ.length + bytes.length))
      · exact hp
  | stream step =>
      cases step with
      | data bytes => exact hp
      | prepare => exact htally .prepare
      | send command => exact htally (.send command)
      | takeStatus => exact htally .takeStatus
      | wakeWorker => exact htally .wakeWorker
      | worker answers => exact htally (.worker answers)
      | close => exact htally .close
      | destroy => exact htally .destroy
      | closer => exact htally .closer

theorem Playback.Intact.next (hp : p.Intact) (hprepared : p.Prepared)
    (step : PlaybackStep β) : (p.next majorVersion hal step).Intact := by
  cases step with
  | data bytes => exact hp.data bytes
  | stream step =>
      by_cases hdata : exists bytes, step = .data bytes
      · rcases hdata with ⟨bytes, hstep⟩
        rw [hstep]
        exact hp
      · have hother : forall bytes, step ≠ .data bytes :=
          fun bytes hstep => hdata ⟨bytes, hstep⟩
        exact (p.next_moves hprepared hother).intact hp

theorem intact_initial (buffer : List β) : (Playback.initial buffer).Intact where
  whole := rfl
  counted := rfl
  fits := Nat.zero_le _
  inside := Nat.zero_le _
  capacity := rfl

theorem prepared_initial (buffer : List β) : (Playback.initial buffer).Prepared := by
  intro command function hcall
  cases hcall

/-- Whatever the client, the vendor and the other thread do, and in whichever order, the
vendor is handed the bytes of the client one after another and each of them once. -/
theorem bytes_handed_in_order (majorVersion : Nat) (hal : HalStream) (buffer : List β)
    (steps : List (PlaybackStep β)) :
    Sat (run (Playback.exec majorVersion hal) steps) (fun _ p => p.Intact)
      (fun _ _ => False) (Playback.initial buffer) := by
  have hrun : Sat (run (Playback.exec majorVersion hal) steps)
      (fun _ p => p.Prepared ∧ p.Intact) (fun _ _ => False) (Playback.initial buffer) := by
    apply run_sat_always
    · intro p step hp
      exact ⟨hp.1.next step, hp.2.next hp.1 step⟩
    · exact ⟨prepared_initial buffer, intact_initial buffer⟩
  exact hrun.imp fun _ p hp => hp.2

/-!
# A client that goes on after the count
-/

def Playback.told (p : Playback β) : Nat := p.tally.exchange.told writing.counts

def Playback.Answered (p : Playback β) : Prop :=
  p.tally.exchange.replies.length = p.tally.exchange.sent.length

def WorkerAt.TakesAtMost {C : Type} (answers : Answers) : WorkerAt C -> Prop
  | .callHal _ (.write bytes) => answers.halResult <= bytes
  | _ => True

instance WorkerAt.TakesAtMost.decidable {C : Type} (answers : Answers) :
    forall phase : WorkerAt C, Decidable (phase.TakesAtMost answers)
  | .callHal _ (.write bytes) => inferInstanceAs (Decidable (answers.halResult <= bytes))
  | .callHal _ (.read _) => isTrue trivial
  | .callHal _ .get_presentation_position => isTrue trivial
  | .callHal _ .get_latency => isTrue trivial
  | .callHal _ .get_capture_position => isTrue trivial
  | .notStarted => isTrue trivial
  | .testStop => isTrue trivial
  | .wait => isTrue trivial
  | .readCommand => isTrue trivial
  | .switch _ => isTrue trivial
  | .writeStatus => isTrue trivial
  | .wake => isTrue trivial
  | .exited => isTrue trivial

/-- The client waits for its replies and goes on where the vendor has stopped as far as
it has been told. -/
def Playback.Resumes (sound : List β) (p : Playback β) : PlaybackStep β -> Prop
  | .data bytes => p.Answered ∧ p.dataMQ ++ bytes <+: sound.drop p.told
  | .stream (.send _) => p.Answered
  | .stream (.worker answers) => p.system.worker.TakesAtMost answers
  | _ => True

/-- The part of the sound that was played, and behind it what is on its way. -/
structure Playback.Resumed (sound : List β) (p : Playback β) : Prop where
  intact : p.Intact
  follows : p.tally.Follows writing.counts WriteThread.Ready
  played : p.played = sound.take p.tally.total
  length : p.played.length = p.tally.total
  ahead : p.buffered ++ p.dataMQ <+: sound.drop p.tally.total
  -- nothing is queued while the vendor is handed something
  alone : p.system.handing ≠ 0 -> p.dataMQ = []

/-- What is played is a beginning of the sound, and the replies add up to its length. -/
structure Playback.PlaysOnce (sound : List β) (p : Playback β) : Prop where
  begun : p.played <+: sound
  known : p.Answered -> p.played = sound.take p.told ∧ p.told <= sound.length

theorem Playback.Resumed.playsOnce {sound : List β} (hp : p.Resumed sound) :
    p.PlaysOnce sound where
  begun := by
    rw [hp.played]
    exact List.take_prefix p.tally.total sound
  known := by
    intro hanswered
    have htold : p.tally.total = p.told := hp.follows.told_all hanswered
    have hlength := hp.length
    have hplayed := hp.played
    rw [htold] at hlength hplayed
    refine ⟨hplayed, ?_⟩
    rw [← hlength, hplayed]
    exact List.length_take_le' p.told sound

theorem Playback.Moves.resumed {sound : List β} {step : StreamStep WriteCommand}
    {t : Tally WriteCommand} (h : p.Moves step t q) (hp : p.Resumed sound)
    (htally : t.Follows writing.counts WriteThread.Ready)
    (hvendor : forall answers, step = .worker answers -> p.system.worker.TakesAtMost answers) :
    q.Resumed sound := by
  have hintact := h.intact hp.intact
  have hahead := hp.ahead
  unfold Playback.buffered at hahead
  cases h with
  | rests hhanding hdesk htotal =>
      refine ⟨hintact, htally, ?_, ?_, ?_, ?_⟩
      · show p.played = sound.take t.total
        rw [htotal]
        exact hp.played
      · exact hp.length.trans htotal.symm
      · show p.mBuffer.take t.exchange.system.handing ++ p.dataMQ <+: sound.drop t.total
        rw [hhanding, htotal]
        exact hahead
      · intro hnonzero
        apply hp.alone
        rw [← hhanding]
        exact hnonzero
  | takes hbefore hhanding hqueue hcapacity htotal =>
      refine ⟨hintact, htally, ?_, ?_, ?_, fun _ => rfl⟩
      · show p.played = sound.take t.total
        rw [htotal]
        exact hp.played
      · exact hp.length.trans htotal.symm
      · show (overwrite p.dataMQ p.mBuffer).take t.exchange.system.handing ++ [] <+:
          sound.drop t.total
        rw [hhanding, ← hp.intact.counted, take_overwrite, List.append_nil, htotal]
        rw [hbefore, List.take_zero, List.nil_append] at hahead
        exact hahead
  | hands command bytes answers hat hstep hhanding hdesk htotal =>
      have hbytes : p.system.handing = bytes := by
        rw [handing_of_at hat]
        rfl
      have hmoved : answers.halResult.toNat <= bytes := by
        have hle := hvendor answers hstep
        rw [hat] at hle
        have hle' : answers.halResult <= bytes := hle
        lia
      have hinside : (p.mBuffer.take bytes).length = bytes := by
        have hfits := hp.intact.inside
        rw [hbytes] at hfits
        rw [List.length_take, Nat.min_eq_left hfits]
      have hchunk : p.mBuffer.take bytes <+: sound.drop p.tally.total := by
        rw [hbytes] at hahead
        exact (List.prefix_append _ _).trans hahead
      have htaken : (p.mBuffer.take bytes).take answers.halResult.toNat =
          (sound.drop p.tally.total).take answers.halResult.toNat := by
        rcases hchunk with ⟨rest, hrest⟩
        rw [← hrest, List.take_append_of_le_length (by lia)]
      have hplayed : p.played ++ (p.mBuffer.take bytes).take answers.halResult.toNat =
          sound.take t.total := by
        rw [htaken, hp.played, htotal, List.take_add]
      refine ⟨hintact, htally, hplayed, ?_, ?_, fun hnonzero => absurd hhanding hnonzero⟩
      · show (p.played ++ (p.mBuffer.take bytes).take answers.halResult.toNat).length =
          t.total
        rw [List.length_append, List.length_take, hinside, hp.length, htotal,
          Nat.min_eq_left hmoved]
      · show p.mBuffer.take t.exchange.system.handing ++ p.dataMQ <+: sound.drop t.total
        rw [hhanding, List.take_zero, List.nil_append]
        by_cases hzero : bytes = 0
        · rw [hbytes, hzero, List.take_zero, List.nil_append] at hahead
          have hsame : t.total = p.tally.total := by lia
          rw [hsame]
          exact hahead
        · have hempty : p.dataMQ = [] := hp.alone (by rw [hbytes]; exact hzero)
          rw [hempty]
          exact List.nil_prefix

theorem Playback.Resumed.handing_zero {sound : List β} (hp : p.Resumed sound)
    (hanswered : p.Answered) : p.system.handing = 0 := by
  have hhand := (hp.follows.idle hanswered).2
  unfold StreamSystem.handing
  split
  · next command bytes hat =>
      have hsome : p.system.inHand = [some command] := by
        rw [inHand_of_at hat]
        rfl
      cases hsome.symm.trans hhand
  · rfl

theorem Playback.Resumed.data {sound : List β} (hp : p.Resumed sound) {bytes : List β}
    (hresumes : p.Resumes sound (.data bytes)) :
    (p.next majorVersion hal (.data bytes)).Resumed sound := by
  have hintact : (p.next majorVersion hal (.data bytes)).Intact := hp.intact.data bytes
  rcases hresumes with ⟨hanswered, hbytes⟩
  have hzero := hp.handing_zero hanswered
  have htold : p.tally.total = p.told := hp.follows.told_all hanswered
  unfold Playback.next at hintact ⊢
  dsimp only at hintact ⊢
  split at hintact
  · next hroom =>
      rw [if_pos hroom]
      refine ⟨hintact, ?_, hp.played, hp.length, ?_, fun hnonzero => absurd hzero hnonzero⟩
      · exact hp.follows.next WriteThread.tells trivial
      · show p.mBuffer.take p.system.handing ++ (p.dataMQ ++ bytes) <+:
          sound.drop p.tally.total
        rw [hzero, List.take_zero, List.nil_append, htold]
        exact hbytes
  · next hfull =>
      rw [if_neg hfull]
      exact hp

theorem Playback.Resumed.next {sound : List β} (hp : p.Resumed sound)
    (step : PlaybackStep β) (hresumes : p.Resumes sound step) :
    (p.next majorVersion hal step).Resumed sound := by
  have hstream : forall step : StreamStep WriteCommand, (forall bytes, step ≠ .data bytes) ->
      p.tally.exchange.Patient step ->
        (forall answers, step = .worker answers -> p.system.worker.TakesAtMost answers) ->
          (p.next majorVersion hal (.stream step)).Resumed sound := by
    intro step hdata hpatient hvendor
    exact (p.next_moves hp.follows.ready hdata).resumed hp
      (hp.follows.next WriteThread.tells hpatient) hvendor
  cases step with
  | data bytes => exact hp.data hresumes
  | stream step =>
      cases step with
      | data bytes => exact hp
      | send command =>
          refine hstream (.send command) ?_ hresumes ?_
          · intro bytes hstep
            cases hstep
          · intro answers hstep
            cases hstep
      | worker answers =>
          refine hstream (.worker answers) ?_ trivial ?_
          · intro bytes hstep
            cases hstep
          · intro answers' hstep
            cases hstep
            exact hresumes
      | _ =>
          refine hstream _ ?_ trivial ?_
          · intro bytes hstep
            cases hstep
          · intro answers hstep
            cases hstep

theorem resumed_initial (sound buffer : List β) :
    (Playback.initial buffer).Resumed sound where
  intact := intact_initial buffer
  follows := follows_initial writing.counts WriteThread.Ready buffer.length
  played := rfl
  length := rfl
  ahead := List.nil_prefix
  alone := fun _ => rfl

instance Playback.Answered.decidable (p : Playback β) : Decidable p.Answered :=
  inferInstanceAs (Decidable (_ = _))

instance Playback.Resumes.decidable [DecidableEq β] (sound : List β) (p : Playback β) :
    forall step, Decidable (p.Resumes sound step)
  | .data bytes =>
      inferInstanceAs (Decidable (p.Answered ∧ p.dataMQ ++ bytes <+: sound.drop p.told))
  | .stream (.send _) => Playback.Answered.decidable p
  | .stream (.worker answers) => WorkerAt.TakesAtMost.decidable answers p.system.worker
  | .stream .prepare => isTrue trivial
  | .stream (.data _) => isTrue trivial
  | .stream .takeStatus => isTrue trivial
  | .stream .wakeWorker => isTrue trivial
  | .stream .close => isTrue trivial
  | .stream .destroy => isTrue trivial
  | .stream .closer => isTrue trivial

/-- A client that goes on after the count of each reply has its sound played, no byte of
it twice and none left out, in every order of steps and however much the vendor takes at
a time. -/
theorem sound_played_once (majorVersion : Nat) (hal : HalStream) (sound buffer : List β)
    (steps : List (PlaybackStep β))
    (hresumes : Along (Playback.exec majorVersion hal) (Playback.Resumes sound) steps
      (Playback.initial buffer)) :
    Sat (run (Playback.exec majorVersion hal) steps) (fun _ p => p.PlaysOnce sound)
      (fun _ _ => False) (Playback.initial buffer) := by
  have hrun : Sat (run (Playback.exec majorVersion hal) steps)
      (fun _ p => p.Resumed sound) (fun _ _ => False) (Playback.initial buffer) := by
    refine run_sat ?_ steps (Playback.initial buffer) (resumed_initial sound buffer) hresumes
    intro p step hp hstep
    exact hp.next step hstep
  exact hrun.imp fun _ p hp => hp.playsOnce

def writeSome (bytes : List Nat) (taken : Int) : List (PlaybackStep Nat) :=
  [.data bytes, .stream (.send .write), .stream .wakeWorker] ++
    List.replicate 7 (.stream (.worker
      { efState := true, dataRead := true, halResult := taken, position := 0 })) ++
    [.stream .takeStatus]

/-- The vendor takes three of four bytes, and the client goes on with the fourth. -/
theorem sound_played_once_resumed :
    Sat (run (Playback.exec 6 { closing := .free, hasPosition := true })
        (.stream .prepare :: writeSome [1, 2, 3, 4] 3 ++ writeSome [4, 5] 2))
      (fun _ p => p.PlaysOnce [1, 2, 3, 4, 5]) (fun _ _ => False)
      (Playback.initial [0, 0, 0, 0]) :=
  sound_played_once 6 { closing := .free, hasPosition := true } [1, 2, 3, 4, 5] [0, 0, 0, 0] _
    (by decide)

end Runs

end Audio
end Sm7225
