import Sm7225.Audio.Playback

/-!
# The sound of an input stream

The worker thread has the vendor fill its buffer and puts what was read into the data
queue, where the client takes it.  While the vendor keeps to what it is asked for, the
client gets what was captured in its order, each byte once.  A client that takes no more
than the replies have told it finds that much in the queue.
-/

namespace Sm7225
namespace Audio

open Lib

variable {β : Type}

/-- The stream, the contents of its queue and of the buffer, and what has passed. -/
structure Capture (β : Type) where
  tally : Tally ReadCommand
  dataMQ : List β
  mBuffer : List β
  -- the vendor has read this
  captured : List β
  -- the client has taken this from the data queue
  received : List β

/-- The client takes bytes, or the stream takes a step, in which the vendor may put bytes
into the buffer. -/
inductive CaptureStep (β : Type) where
  | take (count : Nat)
  | stream (step : StreamStep ReadCommand) (bytes : List β)

namespace Capture

def system (p : Capture β) : StreamSystem ReadCommand := p.tally.exchange.system

def initial (buffer : List β) : Capture β where
  tally := Tally.initial buffer.length
  dataMQ := []
  mBuffer := buffer
  captured := []
  received := []

def carry (answers : Answers) (bytes : List β) (p : Capture β) : Capture β :=
  match p.system.worker with
  | .callHal _ (.read _) =>
      if 0 <= answers.halResult then
        { p with
          mBuffer := overwrite bytes p.mBuffer
          captured := p.captured ++ bytes
          dataMQ :=
            if p.dataMQ.length + answers.halResult.toNat <= p.system.desk.capacity then
              p.dataMQ ++ (overwrite bytes p.mBuffer).take answers.halResult.toNat
            else
              p.dataMQ }
      else
        { p with mBuffer := overwrite bytes p.mBuffer }
  | _ => p

def follow (majorVersion : Nat) (hal : HalStream) (p : Capture β)
    (step : StreamStep ReadCommand) : Capture β :=
  { p with tally := p.tally.next ReadThread.worker majorVersion hal step }

def next (majorVersion : Nat) (hal : HalStream) (p : Capture β) :
    CaptureStep β -> Capture β
  | .take count =>
      if count <= p.dataMQ.length then
        { p.follow majorVersion hal (.data (p.dataMQ.length - count)) with
          dataMQ := p.dataMQ.drop count
          received := p.received ++ p.dataMQ.take count }
      else
        p
  | .stream (.data _) _ => p
  | .stream (.worker answers) bytes =>
      { p.carry answers bytes with
        tally := p.tally.next ReadThread.worker majorVersion hal (.worker answers) }
  | .stream step _ => p.follow majorVersion hal step

def exec (majorVersion : Nat) (hal : HalStream) (step : CaptureStep β) :
    EStateM Empty (Capture β) Unit :=
  modify fun p => p.next majorVersion hal step

end Capture

/-!
# What a step does with the bytes
-/

def WorkerAt.fetching {C : Type} : WorkerAt C -> Option Nat
  | .callHal _ (.read bytes) => some bytes
  | _ => none

/-- The vendor reads no more than it is asked for, and the buffer begins with that. -/
def Answers.Fills (answers : Answers) (bytes : List β) : Option Nat -> Prop
  | some asked =>
      bytes.length <= asked ∧ (0 <= answers.halResult -> answers.halResult = bytes.length)
  | none => True

instance Answers.Fills.decidable (answers : Answers) (bytes : List β) :
    forall fetching, Decidable (answers.Fills bytes fetching)
  | some asked => inferInstanceAs (Decidable (bytes.length <= asked ∧
      (0 <= answers.halResult -> answers.halResult = bytes.length)))
  | none => isTrue trivial

inductive Capture.Moves (p : Capture β) (step : StreamStep ReadCommand) (bytes : List β)
    (tally : Tally ReadCommand) : Capture β -> Prop where
  | rests (hfetching : tally.exchange.system.worker.fetching = p.system.worker.fetching)
      (hdesk : SameQueue p.system.desk tally.exchange.system.desk)
      (htotal : tally.total = p.tally.total) :
      Moves p step bytes tally { p with tally := tally }
  | asks (asked : Nat)
      (hfetching : tally.exchange.system.worker.fetching = some asked)
      (hasked : asked <= p.system.desk.capacity - p.system.desk.dataMQ)
      (hdesk : SameQueue p.system.desk tally.exchange.system.desk)
      (htotal : tally.total = p.tally.total) :
      Moves p step bytes tally { p with tally := tally }
  | fetches (asked : Nat) (answers : Answers)
      (hat : p.system.worker.fetching = some asked)
      (hstep : step = .worker answers)
      (hresult : 0 <= answers.halResult)
      (hfetching : tally.exchange.system.worker.fetching = none)
      (hqueue : tally.exchange.system.desk.dataMQ =
        if p.system.desk.dataMQ + answers.halResult.toNat <= p.system.desk.capacity then
          p.system.desk.dataMQ + answers.halResult.toNat
        else
          p.system.desk.dataMQ)
      (hcapacity : tally.exchange.system.desk.capacity = p.system.desk.capacity)
      (htotal : tally.total = p.tally.total + answers.halResult.toNat) :
      Moves p step bytes tally
        { p with
          tally := tally
          mBuffer := overwrite bytes p.mBuffer
          captured := p.captured ++ bytes
          dataMQ :=
            if p.dataMQ.length + answers.halResult.toNat <= p.system.desk.capacity then
              p.dataMQ ++ (overwrite bytes p.mBuffer).take answers.halResult.toNat
            else
              p.dataMQ }
  | fails (asked : Nat) (answers : Answers)
      (hat : p.system.worker.fetching = some asked)
      (hstep : step = .worker answers)
      (hfetching : tally.exchange.system.worker.fetching = none)
      (hdesk : SameQueue p.system.desk tally.exchange.system.desk)
      (htotal : tally.total = p.tally.total) :
      Moves p step bytes tally
        { p with tally := tally, mBuffer := overwrite bytes p.mBuffer }

def Capture.Prepared (p : Capture β) : Prop :=
  forall command function, p.system.worker = .callHal command function ->
    ReadThread.Ready command function p.system.desk.mStatus

section Steps

variable {majorVersion : Nat} {hal : HalStream} {answers : Answers} {bytes : List β}
variable {p : Capture β} {t : Tally ReadCommand} {u : StreamSystem ReadCommand}

theorem ReadThread.begin_queue (hal : HalStream) (command : ReadCommand)
    (answers : Answers) (desk : Desk ReadCommand) :
    SameQueue desk (ReadThread.begin hal command answers desk).2 := by
  unfold ReadThread.begin
  cases command with
  | getCapturePosition => exact askPosition_queue hal _ desk
  | _ => exact ⟨rfl, rfl⟩

theorem ReadThread.begin_asked (answers : Answers) {command : ReadCommand}
    {desk desk' : Desk ReadCommand} {function : HalFunction} {asked : Nat}
    (hbegin : ReadThread.begin hal command answers desk = (some function, desk'))
    (hfetching : (WorkerAt.callHal command function).fetching = some asked) :
    asked <= desk.capacity - desk.dataMQ := by
  unfold ReadThread.begin at hbegin
  cases command with
  | read requestedToRead =>
      cases hbegin
      cases hfetching
      exact Nat.min_le_right _ _
  | getCapturePosition =>
      rw [(askPosition_call hbegin).1] at hfetching
      cases hfetching
  | unknown code => cases hbegin

theorem ReadThread.finish_queue {command : ReadCommand} {desk : Desk ReadCommand}
    (h : command.isRead = true -> answers.halResult < 0) :
    SameQueue desk (ReadThread.finish command answers desk) := by
  unfold ReadThread.finish
  cases command with
  | read requestedToRead =>
      dsimp only
      rw [if_neg (not_le.mpr (h rfl))]
      exact ⟨rfl, rfl⟩
  | _ => exact ⟨rfl, rfl⟩

theorem Capture.thread_rests (hu : t.exchange.system = u)
    (htotal : t.total = p.tally.total + Tally.movedNow answers p.system.worker)
    (hcarry : p.carry answers bytes = p)
    (hmoved : Tally.movedNow answers p.system.worker = 0)
    (hfetching : u.worker.fetching = p.system.worker.fetching)
    (hdesk : SameQueue p.system.desk u.desk) :
    p.Moves (.worker answers) bytes t { p.carry answers bytes with tally := t } := by
  rw [hcarry]
  rw [← hu] at hfetching hdesk
  apply Capture.Moves.rests hfetching hdesk
  rw [htotal, hmoved]
  rfl

theorem Capture.thread_idle {phase : WorkerAt ReadCommand} (hat : p.system.worker = phase)
    (hcalls : forall command function, phase ≠ .callHal command function)
    (hu : t.exchange.system = u)
    (htotal : t.total = p.tally.total + Tally.movedNow answers p.system.worker)
    (hafter : u.worker.fetching = none) (hdesk : SameQueue p.system.desk u.desk) :
    p.Moves (.worker answers) bytes t { p.carry answers bytes with tally := t } := by
  have hcarry : p.carry answers bytes = p := by
    unfold Capture.carry
    rw [hat]
    cases phase with
    | callHal command function => exact absurd rfl (hcalls command function)
    | _ => rfl
  have hmoved : Tally.movedNow answers p.system.worker = 0 := by
    rw [hat]
    cases phase with
    | callHal command function => exact absurd rfl (hcalls command function)
    | _ => rfl
  have hfetching : u.worker.fetching = p.system.worker.fetching := by
    rw [hafter, hat]
    cases phase with
    | callHal command function => exact absurd rfl (hcalls command function)
    | _ => rfl
  exact p.thread_rests hu htotal hcarry hmoved hfetching hdesk

theorem Capture.thread_returns {command : ReadCommand} {asked : Nat}
    (hat : p.system.worker = .callHal command (.read asked))
    (hready : ReadThread.Ready command (.read asked) p.system.desk.mStatus)
    (hworker : t.exchange.system.worker = .writeStatus)
    (hdesk : t.exchange.system.desk =
      ReadThread.worker.finish command answers p.system.desk)
    (htotal : t.total = p.tally.total + answers.halResult.toNat) :
    p.Moves (.worker answers) bytes t { p.carry answers bytes with tally := t } := by
  have hfetching : p.system.worker.fetching = some asked := by
    rw [hat]
    rfl
  have hafter : t.exchange.system.worker.fetching = none := by
    rw [hworker]
    rfl
  cases command with
  | read requestedToRead =>
      by_cases hresult : 0 <= answers.halResult
      · have hcarry : p.carry answers bytes =
            { p with
              mBuffer := overwrite bytes p.mBuffer
              captured := p.captured ++ bytes
              dataMQ :=
                if p.dataMQ.length + answers.halResult.toNat <= p.system.desk.capacity then
                  p.dataMQ ++ (overwrite bytes p.mBuffer).take answers.halResult.toNat
                else
                  p.dataMQ } := by
          unfold Capture.carry
          rw [hat]
          exact if_pos hresult
        rw [hcarry]
        refine Capture.Moves.fetches asked answers hfetching rfl hresult hafter ?_ ?_ htotal
        · rw [hdesk]
          simp only [ReadThread.worker, ReadThread.finish, if_pos hresult]
          split
          · rfl
          · rfl
        · rw [hdesk]
          simp only [ReadThread.worker, ReadThread.finish, if_pos hresult]
          split
          · rfl
          · rfl
      · have hcarry : p.carry answers bytes =
            { p with mBuffer := overwrite bytes p.mBuffer } := by
          unfold Capture.carry
          rw [hat]
          exact if_neg hresult
        rw [hcarry]
        apply Capture.Moves.fails asked answers hfetching rfl hafter
        · rw [hdesk]
          have hsame : SameQueue p.system.desk
              (ReadThread.finish (.read requestedToRead) answers p.system.desk) :=
            ReadThread.finish_queue fun _ => not_le.mp hresult
          exact hsame
        · rw [htotal, Int.toNat_of_nonpos (by lia)]
          rfl
  | _ => cases hready

theorem Capture.thread_moves (hready : p.Prepared) :
    p.Moves (.worker answers) bytes
      (p.tally.next ReadThread.worker majorVersion hal (.worker answers))
      (p.next majorVersion hal (.stream (.worker answers) bytes)) := by
  have hmoves := workerStep_moves ReadThread.worker hal answers p.system
  show p.Moves (.worker answers) bytes _ { p.carry answers bytes with
    tally := p.tally.next ReadThread.worker majorVersion hal (.worker answers) }
  have htotal : (p.tally.next ReadThread.worker majorVersion hal (.worker answers)).total =
      p.tally.total + Tally.movedNow answers p.system.worker := rfl
  have hu : (p.tally.next ReadThread.worker majorVersion hal
      (.worker answers)).exchange.system =
        p.system.workerStep ReadThread.worker hal answers := rfl
  generalize p.tally.next ReadThread.worker majorVersion hal (.worker answers) = t at *
  generalize p.system.workerStep ReadThread.worker hal answers = u at *
  have hsame := SameQueue.refl p.system.desk
  have hidle : forall {phase : WorkerAt ReadCommand}, phase.performs = false ->
      forall command function, phase ≠ .callHal command function := by
    intro phase hperforms command function hphase
    rw [hphase] at hperforms
    cases hperforms
  cases hmoves with
  | rests hat =>
      rcases hat with hat | hat
      · exact p.thread_idle hat (hidle rfl) hu htotal (by rw [hat]; rfl) hsame
      · exact p.thread_idle hat (hidle rfl) hu htotal (by rw [hat]; rfl) hsame
  | exits hat hstop => exact p.thread_idle hat (hidle rfl) hu htotal rfl hsame
  | waits hat hstop => exact p.thread_idle hat (hidle rfl) hu htotal rfl hsame
  | wakes hat hflag hstate => exact p.thread_idle hat (hidle rfl) hu htotal rfl hsame
  | continues hat hflag => exact p.thread_idle hat (hidle rfl) hu htotal rfl hsame
  | finds hat hqueue => exact p.thread_idle hat (hidle rfl) hu htotal rfl hsame
  | reads command rest hat hqueue =>
      exact p.thread_idle hat (hidle rfl) hu htotal rfl ⟨rfl, rfl⟩
  | skips command desk hat hbegin =>
      have hdesk := ReadThread.begin_queue hal command answers p.system.desk
      have hdesk' : (ReadThread.begin hal command answers p.system.desk).2 = desk :=
        congrArg Prod.snd hbegin
      rw [hdesk'] at hdesk
      refine p.thread_idle hat ?_ hu htotal rfl hdesk
      intro first function hphase
      cases hphase
  | calls command function desk hat hbegin =>
      have hdesk := ReadThread.begin_queue hal command answers p.system.desk
      have hdesk' : (ReadThread.begin hal command answers p.system.desk).2 = desk :=
        congrArg Prod.snd hbegin
      rw [hdesk'] at hdesk
      have hcalls : forall first function,
          WorkerAt.switch command ≠ .callHal first function := by
        intro first function hphase
        cases hphase
      cases hfetching : (WorkerAt.callHal command function).fetching with
      | none => exact p.thread_idle hat hcalls hu htotal hfetching hdesk
      | some asked =>
          have hcarry : p.carry answers bytes = p := by
            unfold Capture.carry
            rw [hat]
          rw [hcarry]
          refine Capture.Moves.asks asked ?_ (ReadThread.begin_asked answers hbegin hfetching) ?_ ?_
          · rw [hu]
            exact hfetching
          · rw [hu]
            exact hdesk
          · rw [htotal, hat]
            rfl
  | returns command function hat =>
      have hcommand := hready command function hat
      cases function with
      | read asked =>
          refine p.thread_returns hat hcommand ?_ ?_ ?_
          · rw [hu]
          · rw [hu]
          · rw [htotal, hat]
            rfl
      | write handed =>
          cases command with
          | read requestedToRead =>
              rcases hcommand with ⟨asked, hfunction⟩
              cases hfunction
          | _ => cases hcommand
      | _ =>
          have hdesk : SameQueue p.system.desk
              (ReadThread.finish command answers p.system.desk) := by
            apply ReadThread.finish_queue
            intro hread
            cases command with
            | read requestedToRead =>
                rcases hcommand with ⟨asked, hfunction⟩
                cases hfunction
            | _ => cases hread
          have hcarry : p.carry answers bytes = p := by
            unfold Capture.carry
            rw [hat]
          exact p.thread_rests hu htotal hcarry (by rw [hat]; rfl) (by rw [hat]; rfl) hdesk
  | reports hat hroom => exact p.thread_idle hat (hidle rfl) hu htotal rfl hsame
  | loses hat hroom => exact p.thread_idle hat (hidle rfl) hu htotal rfl hsame
  | signals hat => exact p.thread_idle hat (hidle rfl) hu htotal rfl hsame

theorem Capture.leaves_moves {step : StreamStep ReadCommand}
    (h : Leaves p.system t.exchange.system) (htotal : t.total = p.tally.total) :
    p.Moves step bytes t { p with tally := t } := by
  apply Capture.Moves.rests _ _ htotal
  · rw [h.worker]
  · rw [h.desk]
    exact SameQueue.refl p.system.desk

theorem Capture.next_moves (hready : p.Prepared) {step : StreamStep ReadCommand}
    (hdata : forall count, step ≠ .data count) :
    p.Moves step bytes (p.tally.next ReadThread.worker majorVersion hal step)
      (p.next majorVersion hal (.stream step bytes)) := by
  cases step with
  | prepare =>
      refine Capture.Moves.rests ?_ ?_ rfl
      · show (p.system.step ReadThread.worker majorVersion hal .prepare).worker.fetching = _
        rcases prepare_cases ReadThread.worker majorVersion hal p.system with
          hsame | ⟨hat, hstarts⟩
        · rw [hsame]
        · rw [hstarts, hat]
          rfl
      · show SameQueue _ (p.system.step ReadThread.worker majorVersion hal .prepare).desk
        rcases prepare_cases ReadThread.worker majorVersion hal p.system with
          hsame | ⟨hat, hstarts⟩
        · rw [hsame]
          exact SameQueue.refl p.system.desk
        · rw [hstarts]
          exact SameQueue.refl p.system.desk
  | data count => exact absurd rfl (hdata count)
  | worker answers => exact p.thread_moves hready
  | close => exact p.leaves_moves (enters_leaves false p.system) rfl
  | destroy => exact p.leaves_moves (enters_leaves true p.system) rfl
  | closer => exact p.leaves_moves (closerStep_leaves majorVersion hal p.system) rfl
  | _ => exact .rests rfl (SameQueue.refl p.system.desk) rfl

theorem Capture.Prepared.next (hp : p.Prepared) (step : CaptureStep β) :
    (p.next majorVersion hal step).Prepared := by
  have htally : forall (step : StreamStep ReadCommand),
      { p with tally := p.tally.next ReadThread.worker majorVersion hal step }.Prepared :=
    fun step => p.tally.ready_next ReadThread.tells hp step
  cases step with
  | take count =>
      unfold Capture.next
      dsimp only
      split
      · exact htally (.data (p.dataMQ.length - count))
      · exact hp
  | stream step bytes =>
      cases step with
      | data count => exact hp
      | prepare => exact htally .prepare
      | send command => exact htally (.send command)
      | takeStatus => exact htally .takeStatus
      | wakeWorker => exact htally .wakeWorker
      | worker answers => exact htally (.worker answers)
      | close => exact htally .close
      | destroy => exact htally .destroy
      | closer => exact htally .closer

end Steps

/-!
# No byte is lost on the way
-/

/-- What the client has taken and what is in the queue is what the vendor has read. -/
structure Capture.Intact (p : Capture β) : Prop where
  whole : p.received ++ p.dataMQ = p.captured
  -- the stream knows how much there is
  counted : p.dataMQ.length = p.system.desk.dataMQ
  fits : p.dataMQ.length <= p.mBuffer.length
  -- what the vendor is asked for fits into the queue, and so into the buffer
  asked : forall asked, p.system.worker.fetching = some asked ->
    p.dataMQ.length + asked <= p.mBuffer.length
  capacity : p.mBuffer.length = p.system.desk.capacity

/-- In a step of the thread the vendor keeps to what it is asked for. -/
def Capture.Fills (p : Capture β) : CaptureStep β -> Prop
  | .stream (.worker answers) bytes => answers.Fills bytes p.system.worker.fetching
  | _ => True

section Runs

variable {majorVersion : Nat} {hal : HalStream} {p q : Capture β}

theorem Capture.Moves.intact {step : StreamStep ReadCommand} {bytes : List β}
    {t : Tally ReadCommand} (h : p.Moves step bytes t q) (hp : p.Intact)
    (hfills : p.Fills (.stream step bytes)) : q.Intact := by
  cases h with
  | rests hfetching hdesk htotal =>
      constructor
      · exact hp.whole
      · exact hp.counted.trans hdesk.dataMQ.symm
      · exact hp.fits
      · show forall asked, t.exchange.system.worker.fetching = some asked -> _
        rw [hfetching]
        exact hp.asked
      · exact hp.capacity.trans hdesk.capacity.symm
  | asks asked hfetching hasked hdesk htotal =>
      constructor
      · exact hp.whole
      · exact hp.counted.trans hdesk.dataMQ.symm
      · exact hp.fits
      · show forall asked, t.exchange.system.worker.fetching = some asked ->
          p.dataMQ.length + asked <= p.mBuffer.length
        intro other hother
        cases hfetching.symm.trans hother
        have hfits := hp.fits
        rw [← hp.counted, ← hp.capacity] at hasked
        lia
      · exact hp.capacity.trans hdesk.capacity.symm
  | fetches asked answers hat hstep hresult hfetching hqueue hcapacity htotal =>
      have hkeeps : answers.Fills bytes p.system.worker.fetching := by
        rw [hstep] at hfills
        exact hfills
      rw [hat] at hkeeps
      rcases hkeeps with ⟨hlength, hcount⟩
      have hroom := hp.asked asked hat
      have hbytes : answers.halResult.toNat = bytes.length := by
        rw [hcount hresult]
        exact Int.toNat_natCast bytes.length
      have hbuffer : (overwrite bytes p.mBuffer).length = p.mBuffer.length :=
        length_overwrite (by lia)
      have hspace : p.dataMQ.length + answers.halResult.toNat <= p.system.desk.capacity := by
        rw [hbytes, ← hp.capacity]
        lia
      rw [if_pos hspace, hbytes, take_overwrite]
      rw [← hp.counted, if_pos hspace, hbytes] at hqueue
      have hnone : forall other,
          t.exchange.system.worker.fetching = some other -> False := by
        intro other hother
        cases hfetching.symm.trans hother
      constructor
      · show p.received ++ (p.dataMQ ++ bytes) = p.captured ++ bytes
        rw [← List.append_assoc, hp.whole]
      · show (p.dataMQ ++ bytes).length = t.exchange.system.desk.dataMQ
        rw [hqueue, List.length_append]
      · show (p.dataMQ ++ bytes).length <= (overwrite bytes p.mBuffer).length
        rw [hbuffer, List.length_append]
        lia
      · intro other hother
        exact absurd hother (hnone other)
      · exact hbuffer.trans (hp.capacity.trans hcapacity.symm)
  | fails asked answers hat hstep hfetching hdesk htotal =>
      have hkeeps : answers.Fills bytes p.system.worker.fetching := by
        rw [hstep] at hfills
        exact hfills
      rw [hat] at hkeeps
      have hlength := hkeeps.1
      have hroom := hp.asked asked hat
      have hbuffer : (overwrite bytes p.mBuffer).length = p.mBuffer.length :=
        length_overwrite (by lia)
      have hnone : forall other,
          t.exchange.system.worker.fetching = some other -> False := by
        intro other hother
        cases hfetching.symm.trans hother
      constructor
      · exact hp.whole
      · exact hp.counted.trans hdesk.dataMQ.symm
      · show p.dataMQ.length <= (overwrite bytes p.mBuffer).length
        rw [hbuffer]
        exact hp.fits
      · intro other hother
        exact absurd hother (hnone other)
      · exact hbuffer.trans (hp.capacity.trans hdesk.capacity.symm)

theorem Capture.Intact.take (hp : p.Intact) (count : Nat) :
    (p.next majorVersion hal (.take count)).Intact := by
  unfold Capture.next
  dsimp only
  split
  · next henough =>
      have hlength : (p.dataMQ.drop count).length = p.dataMQ.length - count :=
        List.length_drop
      have hfits := hp.fits
      constructor
      · show p.received ++ p.dataMQ.take count ++ p.dataMQ.drop count = p.captured
        rw [List.append_assoc, List.take_append_drop, hp.whole]
      · show (p.dataMQ.drop count).length =
          min (p.dataMQ.length - count) p.system.desk.capacity
        rw [hlength, ← hp.capacity, Nat.min_eq_left (by lia)]
      · show (p.dataMQ.drop count).length <= p.mBuffer.length
        lia
      · show forall asked, p.system.worker.fetching = some asked ->
          (p.dataMQ.drop count).length + asked <= p.mBuffer.length
        intro asked hasked
        have hroom := hp.asked asked hasked
        lia
      · exact hp.capacity
  · exact hp

theorem Capture.Intact.next (hp : p.Intact) (hprepared : p.Prepared)
    (step : CaptureStep β) (hfills : p.Fills step) :
    (p.next majorVersion hal step).Intact := by
  cases step with
  | take count => exact hp.take count
  | stream step bytes =>
      by_cases hdata : exists count, step = .data count
      · rcases hdata with ⟨count, hstep⟩
        rw [hstep]
        exact hp
      · have hother : forall count, step ≠ .data count :=
          fun count hstep => hdata ⟨count, hstep⟩
        exact (p.next_moves hprepared hother).intact hp hfills

theorem captured_intact (buffer : List β) : (Capture.initial buffer).Intact where
  whole := rfl
  counted := rfl
  fits := Nat.zero_le _
  asked := fun _ h => by cases h
  capacity := rfl

theorem captured_prepared (buffer : List β) : (Capture.initial buffer).Prepared := by
  intro command function hcall
  cases hcall

/-!
# A client that takes what it is told of
-/

def Capture.told (p : Capture β) : Nat := p.tally.exchange.told reading.counts

def Capture.Answered (p : Capture β) : Prop :=
  p.tally.exchange.replies.length = p.tally.exchange.sent.length

def Capture.Waits (p : Capture β) : CaptureStep β -> Prop
  | .stream (.send _) _ => p.Answered
  | _ => True

structure Capture.Tracked (p : Capture β) : Prop where
  intact : p.Intact
  follows : p.tally.Follows reading.counts ReadThread.Ready
  length : p.captured.length = p.tally.total

structure Capture.ToldTruly (p : Capture β) : Prop where
  present : p.told - p.received.length <= p.dataMQ.length
  known : p.Answered -> p.told = p.received.length + p.dataMQ.length

theorem Capture.Tracked.toldTruly (hp : p.Tracked) : p.ToldTruly := by
  have hlength := congrArg List.length hp.intact.whole
  rw [List.length_append, hp.length] at hlength
  constructor
  · have hbalanced : p.tally.total = p.told + p.system.untold reading.counts :=
      hp.follows.balanced
    lia
  · intro hanswered
    have htold : p.tally.total = p.told := hp.follows.told_all hanswered
    lia

theorem Capture.Moves.tracked {step : StreamStep ReadCommand} {bytes : List β}
    {t : Tally ReadCommand} (h : p.Moves step bytes t q) (hp : p.Tracked)
    (hfills : p.Fills (.stream step bytes))
    (htally : t.Follows reading.counts ReadThread.Ready) : q.Tracked := by
  have hintact := h.intact hp.intact hfills
  cases h with
  | rests hfetching hdesk htotal => exact ⟨hintact, htally, hp.length.trans htotal.symm⟩
  | asks asked hfetching hasked hdesk htotal =>
      exact ⟨hintact, htally, hp.length.trans htotal.symm⟩
  | fetches asked answers hat hstep hresult hfetching hqueue hcapacity htotal =>
      have hkeeps : answers.Fills bytes p.system.worker.fetching := by
        rw [hstep] at hfills
        exact hfills
      rw [hat] at hkeeps
      refine ⟨hintact, htally, ?_⟩
      show (p.captured ++ bytes).length = t.total
      have hcount := hkeeps.2 hresult
      rw [List.length_append, hp.length, htotal, hcount, Int.toNat_natCast]
  | fails asked answers hat hstep hfetching hdesk htotal =>
      exact ⟨hintact, htally, hp.length.trans htotal.symm⟩

theorem Capture.Tracked.take (hp : p.Tracked) (count : Nat) :
    (p.next majorVersion hal (.take count)).Tracked := by
  have hintact : (p.next majorVersion hal (.take count)).Intact := hp.intact.take count
  unfold Capture.next at hintact ⊢
  dsimp only at hintact ⊢
  split at hintact
  · next henough =>
      rw [if_pos henough]
      exact ⟨hintact, hp.follows.next ReadThread.tells trivial, hp.length⟩
  · next hshort =>
      rw [if_neg hshort]
      exact hp

theorem Capture.Tracked.next (hp : p.Tracked) (step : CaptureStep β)
    (hfills : p.Fills step) (hwaits : p.Waits step) :
    (p.next majorVersion hal step).Tracked := by
  have hstream : forall (step : StreamStep ReadCommand) (bytes : List β),
      (forall count, step ≠ .data count) -> p.tally.exchange.Patient step ->
        p.Fills (.stream step bytes) ->
          (p.next majorVersion hal (.stream step bytes)).Tracked := by
    intro step bytes hdata hpatient hfills
    exact (p.next_moves hp.follows.ready hdata).tracked hp hfills
      (hp.follows.next ReadThread.tells hpatient)
  cases step with
  | take count => exact hp.take count
  | stream step bytes =>
      cases step with
      | data count => exact hp
      | send command =>
          refine hstream (.send command) bytes ?_ hwaits hfills
          intro count hstep
          cases hstep
      | _ =>
          refine hstream _ bytes ?_ trivial hfills
          intro count hstep
          cases hstep

theorem tracked_initial (buffer : List β) : (Capture.initial buffer).Tracked where
  intact := captured_intact buffer
  follows := follows_initial reading.counts ReadThread.Ready buffer.length
  length := rfl

structure ReceivesOnce (majorVersion : Nat) (hal : HalStream) (buffer : List β)
    (steps : List (CaptureStep β)) : Prop where
  -- for every client
  inOrder : Sat (run (Capture.exec majorVersion hal) steps) (fun _ p => p.Intact)
    (fun _ _ => False) (Capture.initial buffer)
  -- for a client that takes each reply before its next command
  told : Along (Capture.exec majorVersion hal) Capture.Waits steps
      (Capture.initial buffer) ->
    Sat (run (Capture.exec majorVersion hal) steps) (fun _ p => p.ToldTruly)
      (fun _ _ => False) (Capture.initial buffer)

/-- While the vendor reads no more than it is asked for, the client gets what was read,
each byte once and in its order, in every order of steps.  A client that waits for its
replies finds in the queue what they have told it. -/
theorem sound_received_once (majorVersion : Nat) (hal : HalStream) (buffer : List β)
    (steps : List (CaptureStep β))
    (hfills : Along (Capture.exec majorVersion hal) Capture.Fills steps
      (Capture.initial buffer)) :
    ReceivesOnce majorVersion hal buffer steps where
  inOrder := by
    have hrun : Sat (run (Capture.exec majorVersion hal) steps)
        (fun _ p => p.Prepared ∧ p.Intact) (fun _ _ => False) (Capture.initial buffer) := by
      refine run_sat ?_ steps (Capture.initial buffer)
        ⟨captured_prepared buffer, captured_intact buffer⟩ hfills
      intro p step hp hstep
      exact ⟨hp.1.next step, hp.2.next hp.1 step hstep⟩
    exact hrun.imp fun _ p hp => hp.2
  told := by
    intro hwaits
    have hrun : Sat (run (Capture.exec majorVersion hal) steps)
        (fun _ p => p.Tracked) (fun _ _ => False) (Capture.initial buffer) := by
      refine run_sat ?_ steps (Capture.initial buffer) (tracked_initial buffer)
        (hfills.and hwaits)
      intro p step hp hstep
      exact hp.next step hstep.1 hstep.2
    exact hrun.imp fun _ p hp => hp.toldTruly

instance Capture.Fills.decidable (p : Capture β) : forall step, Decidable (p.Fills step)
  | .take _ => isTrue trivial
  | .stream (.worker answers) bytes =>
      Answers.Fills.decidable answers bytes p.system.worker.fetching
  | .stream .prepare _ => isTrue trivial
  | .stream (.send _) _ => isTrue trivial
  | .stream (.data _) _ => isTrue trivial
  | .stream .takeStatus _ => isTrue trivial
  | .stream .wakeWorker _ => isTrue trivial
  | .stream .close _ => isTrue trivial
  | .stream .destroy _ => isTrue trivial
  | .stream .closer _ => isTrue trivial

instance Capture.Answered.decidable (p : Capture β) : Decidable p.Answered :=
  inferInstanceAs (Decidable (_ = _))

instance Capture.Waits.decidable (p : Capture β) : forall step, Decidable (p.Waits step)
  | .take _ => isTrue trivial
  | .stream (.send _) _ => Capture.Answered.decidable p
  | .stream (.worker _) _ => isTrue trivial
  | .stream .prepare _ => isTrue trivial
  | .stream (.data _) _ => isTrue trivial
  | .stream .takeStatus _ => isTrue trivial
  | .stream .wakeWorker _ => isTrue trivial
  | .stream .close _ => isTrue trivial
  | .stream .destroy _ => isTrue trivial
  | .stream .closer _ => isTrue trivial

def readSome (requested : Nat) (bytes : List Nat) : List (CaptureStep Nat) :=
  [.stream (.send (.read requested)) [], .stream .wakeWorker []] ++
    List.replicate 7 (.stream (.worker
      { efState := true, dataRead := true, halResult := bytes.length, position := 0 }) bytes) ++
    [.stream .takeStatus []]

def readTwice : List (CaptureStep Nat) :=
  .stream .prepare [] :: readSome 4 [1, 2, 3] ++ .take 2 :: readSome 4 [4, 5, 6]

theorem sound_received_once_truncated :
    ReceivesOnce 6 { closing := .free, hasPosition := true } [0, 0, 0, 0] readTwice ∧
      Sat (run (Capture.exec 6 { closing := .free, hasPosition := true }) readTwice)
        (fun _ p => p.ToldTruly) (fun _ _ => False) (Capture.initial [0, 0, 0, 0]) := by
  have hreceives := sound_received_once 6 { closing := .free, hasPosition := true }
    [0, 0, 0, 0] readTwice (by decide)
  exact ⟨hreceives, hreceives.told (by decide)⟩

end Runs

end Audio
end Sm7225
