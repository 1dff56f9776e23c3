import Mathlib.Data.Finset.Insert
import Mathlib.Data.Finset.Erase
import Mathlib.Logic.Function.Basic
import Sm7225.Lib.Run
import Sm7225.Lib.History
import Sm7225.Audio.Types

/-!
# Streams and stub streams

A device opens streams with the vendor.  For a SCO output that the vendor refuses
it makes a stub of its own.  Both kinds are known by their addresses, and a set of
the stubs' addresses tells which is which when a stream is closed.

What is alive at an address, and what is done to it, is kept beside the state of
the service: the functions of the service do not read it.
-/

namespace Sm7225
namespace Audio

open Lib

abbrev Address := Nat

abbrev DeviceId := Nat

/-- The number of a stream, in the order of their opening. -/
abbrev StreamId := Nat

/-- What is behind the pointer of a stream. -/
inductive HalObject where
  | stub
  | vendorOutput (device : DeviceId)
  | vendorInput (device : DeviceId)
  deriving DecidableEq, Repr

/-- Calls of the allocator and the vendor.  An end has the stream that was alive at
its address. -/
inductive HalEvent where
  | opened (device : DeviceId) (stream : StreamId)
  | free (stream : Option StreamId)
  | close_output_stream (device : DeviceId) (stream : Option StreamId)
  | close_input_stream (device : DeviceId) (stream : Option StreamId)
  | close_device (device : DeviceId)
  deriving DecidableEq, Repr

structure Device where
  mIsClosed : Bool
  mOpenedStreamsCount : Int
  deriving DecidableEq, Repr

inductive Direction where
  | output
  | input
  deriving DecidableEq, Repr

structure Stream where
  direction : Direction
  mDevice : DeviceId
  mStream : Address
  -- mStopWriteThread or mStopReadThread
  mStopThread : Bool
  destroyed : Bool
  deriving DecidableEq, Repr

structure AudioService where
  devices : DeviceId -> Device
  streams : List Stream
  gScoStubStreams : Finset Address
  -- what the functions of the service do not see
  objects : List HalObject
  heap : Address -> Option StreamId
  halEvents : List HalEvent

/-- The assertion of {lit}`closeInputStream` and {lit}`closeOutputStream`, and a
call on an object that does not exist. -/
inductive StreamAbort where
  | mOpenedStreamsCountIsZero
  | noObject
  deriving DecidableEq, Repr

abbrev StreamsM (α : Type) := EStateM StreamAbort AudioService α

/-!
# The allocator and the vendor
-/

namespace AudioService

def setDevice (s : AudioService) (device : DeviceId) (f : Device -> Device) :
    AudioService :=
  { s with devices := Function.update s.devices device (f (s.devices device)) }

def setStream (s : AudioService) (stream : StreamId) (f : Stream -> Stream) :
    AudioService :=
  { s with streams := s.streams.modify stream f }

def allocate (s : AudioService) (device : DeviceId) (address : Address)
    (object : HalObject) : AudioService :=
  { s with
    objects := s.objects ++ [object]
    heap := Function.update s.heap address (some s.objects.length)
    halEvents := s.halEvents ++ [.opened device s.objects.length] }

def giveBack (s : AudioService) (address : Address)
    (event : Option StreamId -> HalEvent) : AudioService :=
  { s with
    heap := Function.update s.heap address none
    halEvents := s.halEvents ++ [event (s.heap address)] }

end AudioService

/-!
# Stub streams
-/

/-- {lit}`createScoStubStream`, with the answer of {lit}`calloc`. -/
def createScoStubStream (device : DeviceId) (calloc : Option Address) :
    StreamsM (Option Address) :=
  match calloc with
  | none => return none
  | some stream => do
      modify fun s => s.allocate device stream .stub
      modify fun s =>
        { s with gScoStubStreams := insert stream s.gScoStubStreams }
      return some stream

def destroyScoStubStream (stream : Address) : StreamsM Bool := do
  let s ← get
  if stream ∈ s.gScoStubStreams then
    modify fun s => { s with gScoStubStreams := s.gScoStubStreams.erase stream }
    modify fun s => s.giveBack stream .free
    return true
  else
    return false

/-!
# Devices
-/

def countDown (device : DeviceId) : StreamsM Unit := do
  let s ← get
  if (s.devices device).mOpenedStreamsCount = 0 then
    throw .mOpenedStreamsCountIsZero
  else
    modify fun s => s.setDevice device fun d =>
      { d with mOpenedStreamsCount := d.mOpenedStreamsCount - 1 }

def closeInputStream (device : DeviceId) (stream : Address) : StreamsM Unit := do
  modify fun s => s.giveBack stream (.close_input_stream device)
  countDown device

def closeOutputStream (device : DeviceId) (stream : Address) : StreamsM Unit := do
  let destroyed ← destroyScoStubStream stream
  if !destroyed then
    modify fun s => s.giveBack stream (.close_output_stream device)
    countDown device
  else
    countDown device

def OK : Int := 0

def NO_MEMORY : Int := -12

def AUDIO_DEVICE_OUT_BLUETOOTH_SCO : UInt32 := 0x10

def AUDIO_DEVICE_OUT_BLUETOOTH_SCO_HEADSET : UInt32 := 0x20

def AUDIO_DEVICE_OUT_BLUETOOTH_SCO_CARKIT : UInt32 := 0x40

/-- A new {lit}`StreamOut` or {lit}`StreamIn`, and the increment. -/
def newStream (direction : Direction) (device : DeviceId) (halStream : Address) :
    StreamsM StreamId := do
  let s ← get
  modify fun s =>
    { s with
      streams := s.streams ++ [{
        direction := direction
        mDevice := device
        mStream := halStream
        mStopThread := false
        destroyed := false }] }
  modify fun s => s.setDevice device fun d =>
    { d with mOpenedStreamsCount := d.mOpenedStreamsCount + 1 }
  return s.streams.length

/-- What an opening meets: whether its arguments can be converted, the status and
the stream of the vendor, and the answer of {lit}`calloc` for a stub. -/
structure OpenAnswers where
  convertible : Bool
  status : Int
  halStream : Address
  calloc : Option Address
  deriving DecidableEq, Repr

def openOutputStreamCore (device : DeviceId) (halDevice : UInt32)
    (answers : OpenAnswers) : StreamsM (Result × Option StreamId) := do
  if !answers.convertible then
    return (.invalidArguments, none)
  else if answers.status = OK then
    modify fun s => s.allocate device answers.halStream (.vendorOutput device)
    let streamOut ← newStream .output device answers.halStream
    return (analyzeStatus OK, some streamOut)
  else if halDevice &&& (AUDIO_DEVICE_OUT_BLUETOOTH_SCO |||
      AUDIO_DEVICE_OUT_BLUETOOTH_SCO_HEADSET |||
      AUDIO_DEVICE_OUT_BLUETOOTH_SCO_CARKIT) ≠ 0 then
    let halStream ← createScoStubStream device answers.calloc
    match halStream with
    | none => return (analyzeStatus NO_MEMORY, none)
    | some halStream =>
        let streamOut ← newStream .output device halStream
        return (analyzeStatus OK, some streamOut)
  else
    return (analyzeStatus answers.status, none)

def openInputStreamCore (device : DeviceId) (answers : OpenAnswers) :
    StreamsM (Result × Option StreamId) := do
  if !answers.convertible then
    return (.invalidArguments, none)
  else if answers.status = OK then
    modify fun s => s.allocate device answers.halStream (.vendorInput device)
    let streamIn ← newStream .input device answers.halStream
    return (analyzeStatus OK, some streamIn)
  else
    return (analyzeStatus answers.status, none)

/-- {lit}`doClose`, with the status of the vendor. -/
def doClose (device : DeviceId) (status : Int) : StreamsM Result := do
  let s ← get
  if (s.devices device).mIsClosed ∨ (s.devices device).mOpenedStreamsCount ≠ 0 then
    return .invalidState
  else
    modify fun s => s.setDevice device fun d => { d with mIsClosed := true }
    modify fun s => { s with halEvents := s.halEvents ++ [.close_device device] }
    return analyzeStatus status

/-!
# Streams
-/

def streamAt (stream : StreamId) : StreamsM Stream := do
  let s ← get
  match s.streams[stream]? with
  | some st => if st.destroyed then throw .noObject else return st
  | none => throw .noObject

/-- {lit}`closeOutputStream` or {lit}`closeInputStream` for a stream. -/
def closeHalStream (st : Stream) : StreamsM Unit :=
  match st.direction with
  | .output => closeOutputStream st.mDevice st.mStream
  | .input => closeInputStream st.mDevice st.mStream

/-- {lit}`close` of a stream, for a major version of the interface. -/
def close (majorVersion : Nat) (stream : StreamId) : StreamsM Result := do
  let st ← streamAt stream
  if st.mStopThread then
    return .invalidState
  else
    modify fun s => s.setStream stream fun st => { st with mStopThread := true }
    if 6 <= majorVersion then
      closeHalStream st
      return .ok
    else
      return .ok

def destroyStream (majorVersion : Nat) (stream : StreamId) : StreamsM Unit := do
  let st ← streamAt stream
  let _ ← close majorVersion stream
  if majorVersion <= 5 then
    closeHalStream st
    modify fun s => s.setStream stream fun st => { st with destroyed := true }
  else
    modify fun s => s.setStream stream fun st => { st with destroyed := true }

/-!
# Calls
-/

inductive StreamCall where
  | openOutputStream (device : DeviceId) (halDevice : UInt32) (answers : OpenAnswers)
  | openInputStream (device : DeviceId) (answers : OpenAnswers)
  | close (stream : StreamId)
  | destroyStream (stream : StreamId)
  | closeDevice (device : DeviceId) (status : Int)
  -- the destructor of a device
  | destroyDevice (device : DeviceId) (status : Int)
  deriving DecidableEq, Repr

def execStreams (majorVersion : Nat) : StreamCall -> StreamsM Result
  | .openOutputStream device halDevice answers => do
      let r ← openOutputStreamCore device halDevice answers
      return r.1
  | .openInputStream device answers => do
      let r ← openInputStreamCore device answers
      return r.1
  | .close stream => close majorVersion stream
  | .destroyStream stream => do
      destroyStream majorVersion stream
      return .ok
  | .closeDevice device status => doClose device status
  | .destroyDevice device status => do
      let _ ← doClose device status
      return .ok

end Audio
end Sm7225
