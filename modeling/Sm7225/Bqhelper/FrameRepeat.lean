import Sm7225.Bqhelper.Requests

/-!
# The looper

{lit}`queueFrameRepeat_l` posts messages to the looper, which delivers each one
once, at any later time and in any order.  {lit}`release` unregisters the handler,
and what is undelivered then never arrives.

The system keeps a record of what the source has done, which no function reads:
the calls since a message was posted, the message whose repeat is blocked, and the
turns of the latest frame.  A turn begins when a frame is submitted, or dropped, while
the source repeats frames.
-/

namespace Sm7225
namespace Bqhelper

open Lib

/-- A frame that is submitted, with the result of the component. -/
structure Offer where
  origin : Origin
  item : VideoBuffer
  err : Status
  deriving DecidableEq, Repr

namespace Event

def offer? : Event -> Option Offer
  | .submitBuffer _ item origin _ _ err =>
      some { origin := origin, item := item, err := err }
  | .dropped item => some { origin := .fresh, item := item, err := .ok }
  | _ => none

/-- A frame is submitted again, successfully or not. -/
def resubmits : Event -> Bool
  | .submitBuffer _ _ .repeated _ _ _ => true
  | _ => false

/-- After these calls an older message must not repeat a frame. -/
def supersedes : Event -> Bool
  | .repeatPosted _ _ => true
  | .submitEos _ err => decide (err = .ok)
  | .configured => true
  | _ => false

end Event

/-!
# Messages and turns
-/

structure Message where
  generation : Int
  -- the calls since it was posted, and the turn at the end of that request
  since : List Event
  turn : Nat
  deriving DecidableEq, Repr

def Message.later (m : Message) (calls : List Event) : Message :=
  { m with since := m.since ++ calls }

structure Repeat where
  item : VideoBuffer
  mFrameRepeatIntervalUs : Int
  deriving DecidableEq, Repr

/-- The frame that became the latest last, as it was submitted then, and its
successful submissions since. -/
structure Turn where
  number : Nat
  frame : Option VideoBuffer
  repeats : List Repeat
  deriving DecidableEq, Repr

/-- A new frame becomes the latest if the source repeats frames. -/
def Turn.take (mFrameRepeatIntervalUs : Int) (turn : Turn) (offer : Offer) : Turn :=
  if offer.err ≠ .ok then
    turn
  else
    match offer.origin with
    | .fresh =>
        if 0 < mFrameRepeatIntervalUs then
          { number := turn.number + 1, frame := some offer.item, repeats := [] }
        else
          turn
    | .repeated =>
        { turn with
          repeats := turn.repeats ++
            [{ item := offer.item, mFrameRepeatIntervalUs := mFrameRepeatIntervalUs }] }

structure LooperSystem where
  source : GraphicBufferSource
  undelivered : List Message
  -- the message whose repeat waits for a codec buffer
  blocked : Option Message
  turn : Turn

/-- The messages posted by these calls. -/
def posted (turn : Nat) : List Event -> List Message
  | [] => []
  | .repeatPosted generation _ :: rest =>
      { generation := generation, since := rest, turn := turn } :: posted turn rest
  | _ :: rest => posted turn rest

def newCalls (s t : GraphicBufferSource) : List Event :=
  t.log.drop s.log.length

theorem newCalls_eq {s t : GraphicBufferSource} {calls : List Event}
    (h : t.log = s.log ++ calls) : newCalls s t = calls := by
  unfold newCalls
  rw [h, List.drop_left]

def Turn.next (turn : Turn) (s t : GraphicBufferSource) : Turn :=
  ((newCalls s t).filterMap Event.offer?).foldl (Turn.take s.mFrameRepeatIntervalUs)
    turn

namespace LooperSystem

/-- The system after a request has led the source to {lit}`t`, where the
messages {lit}`waiting` are still undelivered.  If the source has blocked a repeat,
it is that of the message that was delivered. -/
def after (sys : LooperSystem) (t : GraphicBufferSource) (delivered : Option Message)
    (waiting : List Message) : LooperSystem where
  source := t
  undelivered :=
    waiting.map (fun m => m.later (newCalls sys.source t)) ++
      posted (sys.turn.next sys.source t).number (newCalls sys.source t)
  blocked :=
    if t.mFrameRepeatBlockedOnCodecBuffer then
      (sys.blocked.or delivered).map fun m => m.later (newCalls sys.source t)
    else
      none
  turn := sys.turn.next sys.source t

def initial : LooperSystem where
  source := .initial
  undelivered := []
  blocked := none
  turn := { number := 0, frame := none, repeats := [] }

end LooperSystem

/-!
# Steps
-/

/-- A request of any kind but a message, or the delivery of a message. -/
inductive LooperStep where
  | request (request : Request)
  | deliver (index : Nat) (answers : Answers)

/-- Serve a request, the delivery of a message or another one, after which the
messages {lit}`waiting` are still undelivered. -/
def serve (request : Request) (delivered : Option Message) (waiting : List Message) :
    EStateM Abort LooperSystem Unit :=
  fun sys =>
    match exec request sys.source with
    | .ok _ t => .ok () (sys.after t delivered waiting)
    | .error e t => .error e (sys.after t delivered waiting)

def Request.unregisters : Request -> Bool
  | .call .release _ => true
  | _ => false

def execLooper : LooperStep -> EStateM Abort LooperSystem Unit
  | .request request =>
      -- only the looper delivers messages
      if request.isMessage then
        pure ()
      else do
        let sys ← get
        serve request none (if request.unregisters then [] else sys.undelivered)
  | .deliver index answers => do
      let sys ← get
      match sys.undelivered[index]? with
      | none => pure ()
      | some m =>
          serve (.call (.onMessageReceived m.generation) answers) (some m)
            (sys.undelivered.eraseIdx index)

/-!
# The protocol
-/

/-- No frame became the latest since the message was posted, no end of stream was
sent and no {lit}`configure` succeeded. -/
structure Unchanged (sys : LooperSystem) (m : Message) : Prop where
  since : forall e, e ∈ m.since -> e.supersedes = false
  turn : m.turn = sys.turn.number

/-- The latest frame is submitted again at most ten times, the k-th time k
intervals after its first time. -/
structure Turn.OnTime (turn : Turn) : Prop where
  count : turn.repeats.length <= kRepeatLastFrameCount
  time : forall (k : Nat) (r : Repeat), turn.repeats[k]? = some r ->
    exists frame, turn.frame = some frame ∧ r.item = { frame with
      mTimestampNs := frame.mTimestampNs + (k + 1) * r.mFrameRepeatIntervalUs * 1000 }

/-- Only a message that nothing has superseded makes the source submit the latest
frame again: when it is delivered, or later if its repeat was blocked. -/
structure FrameRepeats (sys : LooperSystem) : Prop where
  current : forall (i j : Nat) (m m' : Message),
    sys.undelivered[i]? = some m -> sys.undelivered[j]? = some m' ->
      m.generation = sys.source.mRepeatLastFrameGeneration ->
        m'.generation = sys.source.mRepeatLastFrameGeneration -> i = j
  delivered : forall m answers, m ∈ sys.undelivered ->
    Sat (exec (.call (.onMessageReceived m.generation) answers))
      (fun _ t => (newCalls sys.source t).any Event.resubmits = true ->
        Unchanged sys m)
      (fun _ t => (newCalls sys.source t).any Event.resubmits = true ->
        Unchanged sys m) sys.source
  deferred : forall request : Request, request.isMessage = false ->
    Sat (exec request)
      (fun _ t => (newCalls sys.source t).any Event.resubmits = true ->
        exists m, sys.blocked = some m ∧ Unchanged sys m)
      (fun _ t => (newCalls sys.source t).any Event.resubmits = true ->
        exists m, sys.blocked = some m ∧ Unchanged sys m) sys.source
  repeats : sys.turn.OnTime

/-- A message or a codec buffer that comes back can still repeat the latest
frame. -/
def LooperSystem.RepeatDue (sys : LooperSystem) : Prop :=
  sys.source.mLatestBuffer.isSome = true ∧
    (sys.source.mFrameRepeatBlockedOnCodecBuffer = true ∨
      exists m, m ∈ sys.undelivered ∧
        m.generation = sys.source.mRepeatLastFrameGeneration)

instance (sys : LooperSystem) : Decidable sys.RepeatDue :=
  inferInstanceAs (Decidable (_ ∧ (_ ∨ _)))

/-- {lit}`configure` reaches the part that sets the fields. -/
def ConfigureArgs.succeeds (args : ConfigureArgs) (answers : Answers) : Bool :=
  args.component.isSome && decide (answers.setMaxAcquiredBufferCount = .ok) &&
    decide (answers.setDefaultBufferSize = .ok) &&
      decide (answers.setDefaultBufferFormat = .ok)

/-- {lit}`configure` only succeeds while no message is undelivered, and while the
latest frame can still be repeated the interval does not change. -/
def Orderly (sys : LooperSystem) : LooperStep -> Prop
  | .request (.call (.configure args) answers) =>
      args.succeeds answers = true -> sys.undelivered = []
  | .request (.call (.setRepeatPreviousFrameDelayUs repeatAfterUs) _) =>
      sys.source.mExecuting = false -> 0 < repeatAfterUs -> sys.RepeatDue ->
        repeatAfterUs = sys.source.mFrameRepeatIntervalUs
  | _ => True

instance (sys : LooperSystem) (step : LooperStep) : Decidable (Orderly sys step) := by
  unfold Orderly
  split
  · exact inferInstance
  · exact inferInstance
  · exact inferInstance

end Bqhelper
end Sm7225
