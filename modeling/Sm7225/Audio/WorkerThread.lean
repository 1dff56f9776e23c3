import Sm7225.Lib.Run
import Sm7225.Lib.History
import Sm7225.Audio.Types

/-!
# The threads of a stream

A client gives commands to the worker thread of a stream through message queues.
Another thread runs {lit}`close` and the destructor of the stream.  Each step of
the system is one step of one of the three, in any order.
-/

namespace Sm7225
namespace Audio

open Lib

/-!
# The stream of the vendor
-/

/-- The functions of the vendor's stream that a worker thread calls. -/
inductive HalFunction where
  | write (bytes : Nat)
  | get_presentation_position
  | get_latency
  | read (bytes : Nat)
  | get_capture_position
  deriving DecidableEq, Repr

/-- How a stream is given back: a stub is freed. -/
inductive Closing where
  | free
  | close_output_stream
  | close_input_stream
  deriving DecidableEq, Repr

structure HalStream where
  closing : Closing
  -- the pointer to get_presentation_position or get_capture_position is not null
  hasPosition : Bool
  deriving DecidableEq, Repr

inductive HalUse where
  | call (function : HalFunction)
  | close (closing : Closing)
  deriving DecidableEq, Repr

/-!
# Performing a command
-/

/-- {lit}`WriteStatus` or {lit}`ReadStatus`, with one field for all replies. -/
structure Status (C : Type) where
  replyTo : Option C
  retval : Result
  reply : Int
  deriving DecidableEq, Repr

/-- What a command works on: the bytes in the data queue, and the status. -/
structure Desk (C : Type) where
  dataMQ : Nat
  capacity : Nat
  mStatus : Status C
  deriving DecidableEq, Repr

/-- What a step of a worker thread meets. -/
structure Answers where
  -- wait returns with the bit of the event flag, if it is set
  efState : Bool
  -- mDataMQ->read succeeds
  dataRead : Bool
  halResult : Int
  -- the frames of the position, as the vendor leaves them
  position : Int
  deriving DecidableEq, Repr

def Desk.setStatus {C : Type} (desk : Desk C) (retval : Result) (reply : Int) :
    Desk C :=
  { desk with mStatus := { desk.mStatus with retval := retval, reply := reply } }

def askPosition {C : Type} (hal : HalStream) (function : HalFunction) (desk : Desk C) :
    Option HalFunction × Desk C :=
  if hal.hasPosition then
    (some function, desk)
  else
    (none, desk.setStatus .notSupported desk.mStatus.reply)

theorem askPosition_replyTo {C : Type} (hal : HalStream) (function : HalFunction)
    (desk : Desk C) :
    (askPosition hal function desk).2.mStatus.replyTo = desk.mStatus.replyTo := by
  unfold askPosition
  split
  · rfl
  · rfl

theorem askPosition_call {C : Type} {hal : HalStream} {function called : HalFunction}
    {desk desk' : Desk C} (h : askPosition hal function desk = (some called, desk')) :
    called = function ∧ desk' = desk := by
  unfold askPosition at h
  split at h
  · cases h
    exact ⟨rfl, rfl⟩
  · cases h

theorem askPosition_skip {C : Type} {hal : HalStream} {function : HalFunction}
    {desk desk' : Desk C} (h : askPosition hal function desk = (none, desk')) :
    desk' = desk.setStatus .notSupported desk.mStatus.reply := by
  unfold askPosition at h
  split at h
  · cases h
  · cases h
    rfl

theorem askPosition_none {C : Type} {hal : HalStream} (h : hal.hasPosition = false)
    (function : HalFunction) (desk : Desk C) :
    (askPosition hal function desk).1 = none := by
  unfold askPosition
  rw [h, if_neg Bool.false_ne_true]

theorem askPosition_some {C : Type} {hal : HalStream} (h : hal.hasPosition = true)
    (function : HalFunction) (desk : Desk C) :
    (askPosition hal function desk).1 = some function := by
  unfold askPosition
  rw [h, if_pos rfl]

/-- A thread performs a command in two parts: what comes before a call of the
vendor, and what comes after it. -/
structure Worker (C : Type) where
  begin : HalStream -> C -> Answers -> Desk C -> Option HalFunction × Desk C
  finish : C -> Answers -> Desk C -> Desk C
  callsHal : HalStream -> C -> Bool
  begin_none : forall hal command answers desk,
    callsHal hal command = false -> (begin hal command answers desk).1 = none
  begin_some : forall hal command answers desk, callsHal hal command = true ->
    answers.dataRead = true -> exists function,
      (begin hal command answers desk).1 = some function

inductive WriteCommand where
  | write
  | getPresentationPosition
  | getLatency
  | unknown (code : Int)
  deriving DecidableEq, Repr

namespace WriteThread

/-- The switch up to the call of the vendor. -/
def begin (hal : HalStream) (command : WriteCommand) (answers : Answers)
    (desk : Desk WriteCommand) : Option HalFunction × Desk WriteCommand :=
  match command with
  | .write =>
      if answers.dataRead then
        (some (.write desk.dataMQ), { desk.setStatus .ok 0 with dataMQ := 0 })
      else
        (none, desk.setStatus .ok 0)
  | .getPresentationPosition => askPosition hal .get_presentation_position desk
  | .getLatency => (some .get_latency, desk.setStatus .ok desk.mStatus.reply)
  | .unknown _ => (none, desk.setStatus .notSupported desk.mStatus.reply)

/-- The switch after the call of the vendor. -/
def finish (command : WriteCommand) (answers : Answers) (desk : Desk WriteCommand) :
    Desk WriteCommand :=
  match command with
  | .write =>
      if 0 <= answers.halResult then
        desk.setStatus desk.mStatus.retval answers.halResult
      else
        desk.setStatus (analyzeStatus answers.halResult) desk.mStatus.reply
  | .getPresentationPosition =>
      -- the vendor writes to the reply itself, also when it fails
      desk.setStatus (analyzeStatus answers.halResult) answers.position
  | .getLatency => desk.setStatus desk.mStatus.retval answers.halResult
  | .unknown _ => desk

def callsHal (hal : HalStream) : WriteCommand -> Bool
  | .write => true
  | .getPresentationPosition => hal.hasPosition
  | .getLatency => true
  | .unknown _ => false

theorem begin_none (hal : HalStream) (command : WriteCommand)
    (answers : Answers) (desk : Desk WriteCommand)
    (h : callsHal hal command = false) :
    (begin hal command answers desk).1 = none := by
  cases command with
  | write => cases h
  | getPresentationPosition => exact askPosition_none h _ desk
  | getLatency => cases h
  | unknown code => rfl

theorem begin_some (hal : HalStream) (command : WriteCommand)
    (answers : Answers) (desk : Desk WriteCommand)
    (h : callsHal hal command = true) (hread : answers.dataRead = true) :
    exists function, (begin hal command answers desk).1 = some function := by
  cases command with
  | write =>
      exists .write desk.dataMQ
      unfold begin
      simp only [hread, if_true]
  | getPresentationPosition => exact ⟨_, askPosition_some h _ desk⟩
  | getLatency => exact ⟨.get_latency, rfl⟩
  | unknown code => cases h

def worker : Worker WriteCommand where
  begin := begin
  finish := finish
  callsHal := callsHal
  begin_none := begin_none
  begin_some := begin_some

end WriteThread

/-- {lit}`ReadParameters`: the command and its parameter. -/
inductive ReadCommand where
  | read (requestedToRead : Nat)
  | getCapturePosition
  | unknown (code : Int)
  deriving DecidableEq, Repr

namespace ReadThread

def begin (hal : HalStream) (command : ReadCommand) (_ : Answers)
    (desk : Desk ReadCommand) : Option HalFunction × Desk ReadCommand :=
  match command with
  | .read requestedToRead =>
      (some (.read (min requestedToRead (desk.capacity - desk.dataMQ))), desk)
  | .getCapturePosition => askPosition hal .get_capture_position desk
  | .unknown _ => (none, desk.setStatus .notSupported desk.mStatus.reply)

def finish (command : ReadCommand) (answers : Answers) (desk : Desk ReadCommand) :
    Desk ReadCommand :=
  match command with
  | .read _ =>
      if 0 <= answers.halResult then
        if desk.dataMQ + answers.halResult.toNat <= desk.capacity then
          { desk.setStatus .ok answers.halResult with
            dataMQ := desk.dataMQ + answers.halResult.toNat }
        else
          desk.setStatus .ok answers.halResult
      else
        desk.setStatus (analyzeStatus answers.halResult) desk.mStatus.reply
  | .getCapturePosition =>
      desk.setStatus (analyzeStatus answers.halResult)
        (if analyzeStatus answers.halResult = .ok then answers.position
          else desk.mStatus.reply)
  | .unknown _ => desk

def callsHal (hal : HalStream) : ReadCommand -> Bool
  | .read _ => true
  | .getCapturePosition => hal.hasPosition
  | .unknown _ => false

theorem begin_none (hal : HalStream) (command : ReadCommand)
    (answers : Answers) (desk : Desk ReadCommand)
    (h : callsHal hal command = false) :
    (begin hal command answers desk).1 = none := by
  cases command with
  | read requestedToRead => cases h
  | getCapturePosition => exact askPosition_none h _ desk
  | unknown code => rfl

theorem begin_some (hal : HalStream) (command : ReadCommand)
    (answers : Answers) (desk : Desk ReadCommand)
    (h : callsHal hal command = true) (_ : answers.dataRead = true) :
    exists function, (begin hal command answers desk).1 = some function := by
  cases command with
  | read requestedToRead =>
      exact ⟨.read (min requestedToRead (desk.capacity - desk.dataMQ)), rfl⟩
  | getCapturePosition => exact ⟨_, askPosition_some h _ desk⟩
  | unknown code => cases h

def worker : Worker ReadCommand where
  begin := begin
  finish := finish
  callsHal := callsHal
  begin_none := begin_none
  begin_some := begin_some

end ReadThread

/-!
# The system
-/

/-- Where the worker thread is in {lit}`threadLoop`. -/
inductive WorkerAt (C : Type) where
  | notStarted
  | testStop
  | wait
  | readCommand
  | switch (command : C)
  | callHal (command : C) (function : HalFunction)
  | writeStatus
  | wake
  | exited
  deriving DecidableEq, Repr

/-- Where the other thread is in {lit}`close`, which the destructor calls first. -/
inductive CloserAt where
  | idle
  | testStop (destructor : Bool)
  | storeStop (destructor : Bool)
  | wake (destructor : Bool)
  | closeStream (destructor : Bool)
  | join
  | deleteEventFlag
  -- in the destructor of older versions
  | closeAfterJoin
  | gone
  deriving DecidableEq, Repr

structure StreamSystem (C : Type) where
  -- mStopWriteThread or mStopReadThread
  mStop : Bool
  commandMQ : List C
  statusMQ : List (Status C)
  desk : Desk C
  -- the bits of the event flag: for the worker thread and for the client
  efWorker : Bool
  efClient : Bool
  worker : WorkerAt C
  closer : CloserAt
  uses : List HalUse
  deriving DecidableEq, Repr

inductive StreamStep (C : Type) where
  -- prepareForWriting or prepareForReading
  | prepare
  | send (command : C)
  -- the client fills or empties the data queue
  | data (bytes : Nat)
  | takeStatus
  | wakeWorker
  | worker (answers : Answers)
  -- the other thread enters close or the destructor, or takes its next step
  | close
  | destroy
  | closer
  deriving DecidableEq, Repr

namespace StreamSystem

variable {C : Type}

def workerStep (worker : Worker C) (hal : HalStream) (answers : Answers)
    (s : StreamSystem C) : StreamSystem C :=
  match s.worker with
  | .notStarted => s
  | .testStop =>
      if s.mStop then { s with worker := .exited } else { s with worker := .wait }
  | .wait =>
      if s.efWorker && answers.efState then
        { s with efWorker := false, worker := .readCommand }
      else
        { s with worker := .testStop }
  | .readCommand =>
      match s.commandMQ with
      | [] => { s with worker := .testStop }
      | command :: rest =>
          { s with
            commandMQ := rest
            desk := { s.desk with
              mStatus := { s.desk.mStatus with replyTo := some command } }
            worker := .switch command }
  | .switch command =>
      match worker.begin hal command answers s.desk with
      | (none, desk) => { s with desk := desk, worker := .writeStatus }
      | (some function, desk) =>
          { s with desk := desk, worker := .callHal command function }
  | .callHal command function =>
      { s with
        uses := s.uses ++ [.call function]
        desk := worker.finish command answers s.desk
        worker := .writeStatus }
  | .writeStatus =>
      { s with
        statusMQ := if s.statusMQ.isEmpty then [s.desk.mStatus] else s.statusMQ
        worker := .wake }
  | .wake => { s with efClient := true, worker := .testStop }
  | .exited => s

def closed (s : StreamSystem C) (destructor : Bool) : StreamSystem C :=
  { s with closer := if destructor then .join else .idle }

/-- {lit}`closeOutputStream` or {lit}`closeInputStream` of the device. -/
def closeHalStream (hal : HalStream) (s : StreamSystem C) : StreamSystem C :=
  { s with uses := s.uses ++ [.close hal.closing] }

/-- One step of {lit}`close` or the destructor. -/
def closerStep (majorVersion : Nat) (hal : HalStream) (s : StreamSystem C) :
    StreamSystem C :=
  match s.closer with
  | .idle => s
  | .testStop destructor =>
      if s.mStop then s.closed destructor
      else { s with closer := .storeStop destructor }
  | .storeStop destructor => { s with mStop := true, closer := .wake destructor }
  | .wake destructor =>
      if 6 <= majorVersion then
        { s with efWorker := true, closer := .closeStream destructor }
      else
        { s with efWorker := true }.closed destructor
  | .closeStream destructor => (s.closeHalStream hal).closed destructor
  | .join =>
      match s.worker with
      | .notStarted => { s with closer := .deleteEventFlag }
      | .exited => { s with closer := .deleteEventFlag }
      | _ => s
  | .deleteEventFlag =>
      if majorVersion <= 5 then { s with closer := .closeAfterJoin }
      else { s with closer := .gone }
  | .closeAfterJoin => { s.closeHalStream hal with closer := .gone }
  | .gone => s

def step (worker : Worker C) (majorVersion : Nat) (hal : HalStream)
    (s : StreamSystem C) : StreamStep C -> StreamSystem C
  | .prepare =>
      match s.worker, s.closer with
      | .notStarted, .idle => { s with worker := .testStop }
      | _, _ => s
  | .send command =>
      { s with commandMQ := if s.commandMQ.isEmpty then [command] else s.commandMQ }
  | .data bytes =>
      { s with desk := { s.desk with dataMQ := min bytes s.desk.capacity } }
  | .takeStatus => { s with statusMQ := s.statusMQ.tail, efClient := false }
  | .wakeWorker => { s with efWorker := true }
  | .worker answers => s.workerStep worker hal answers
  | .close =>
      if s.closer = .idle then { s with closer := .testStop false } else s
  | .destroy =>
      if s.closer = .idle then { s with closer := .testStop true } else s
  | .closer => s.closerStep majorVersion hal

/-- A new stream with a data queue of this size. -/
def initial (capacity : Nat) : StreamSystem C where
  mStop := false
  commandMQ := []
  statusMQ := []
  desk := {
    dataMQ := 0
    capacity := capacity
    mStatus := { replyTo := none, retval := .ok, reply := 0 } }
  efWorker := false
  efClient := false
  worker := .notStarted
  closer := .idle
  uses := []

end StreamSystem

/-- A step as a request: it always succeeds. -/
def execThreads {C : Type} (worker : Worker C) (majorVersion : Nat) (hal : HalStream)
    (step : StreamStep C) : EStateM Empty (StreamSystem C) Unit :=
  modify fun s => s.step worker majorVersion hal step

end Audio
end Sm7225
