import Mathlib.Data.List.Count
import Sm7225.Audio.Streams

/-!
# The lifetimes of streams

A device counts the streams that are open, the set of stubs has the live stubs,
and each stream ends once, in the way of its kind.  The allocator and the vendor
may use an address again as soon as nothing is alive there.
-/

namespace Sm7225
namespace Audio

open Lib

/-!
# What is promised
-/

/-- The pointer of a stream has been given back: with {lit}`close`, or in older
versions with the destructor. -/
def Stream.closed (majorVersion : Nat) (st : Stream) : Bool :=
  if 6 <= majorVersion then st.mStopThread else st.destroyed

def Stream.openOn (majorVersion : Nat) (device : DeviceId) (st : Stream) : Bool :=
  decide (st.mDevice = device) && !st.closed majorVersion

namespace HalEvent

def ended? : HalEvent -> Option (Option StreamId)
  | .free stream => some stream
  | .close_output_stream _ stream => some stream
  | .close_input_stream _ stream => some stream
  | .opened _ _ => none
  | .close_device _ => none

def ends (stream : StreamId) (e : HalEvent) : Bool :=
  decide (e.ended? = some (some stream))

end HalEvent

def HalObject.ending (stream : StreamId) : HalObject -> HalEvent
  | .stub => .free (some stream)
  | .vendorOutput device => .close_output_stream device (some stream)
  | .vendorInput device => .close_input_stream device (some stream)

def ClosesIdle (past : List HalEvent) : HalEvent -> Prop
  | .close_device device =>
      .close_device device ∉ past ∧
        forall stream, .opened device stream ∈ past ->
          exists e : HalEvent, e ∈ past ∧ e.ends stream = true
  | _ => True

def Stream.Matches (st : Stream) : HalObject -> Prop
  | .stub => st.direction = .output
  | .vendorOutput device => st.direction = .output ∧ device = st.mDevice
  | .vendorInput device => st.direction = .input ∧ device = st.mDevice

structure Accounted (majorVersion : Nat) (s : AudioService) : Prop where
  count : forall device, (s.devices device).mOpenedStreamsCount =
    (s.streams.countP (Stream.openOn majorVersion device) : Int)
  stubs : forall address, address ∈ s.gScoStubStreams <->
    exists stream : StreamId, s.heap address = some stream ∧
      s.objects[stream]? = some .stub
  alive : forall (address : Address) (stream : StreamId), s.heap address = some stream <->
    exists st : Stream, s.streams[stream]? = some st ∧ st.mStream = address ∧
      st.closed majorVersion = false
  length : s.streams.length = s.objects.length
  objects : forall (stream : StreamId) (st : Stream) object, s.streams[stream]? = some st ->
    s.objects[stream]? = some object -> st.Matches object
  endings : forall (stream : StreamId) (st : Stream) object, s.streams[stream]? = some st ->
    s.objects[stream]? = some object ->
      s.halEvents.filter (HalEvent.ends stream) =
        if st.closed majorVersion then [object.ending stream] else []
  known : forall e stream, e ∈ s.halEvents -> e.ended? = some stream ->
    exists id, stream = some id ∧ id < s.streams.length
  opened : forall (device : DeviceId) (stream : StreamId), .opened device stream ∈ s.halEvents <->
    exists st : Stream, s.streams[stream]? = some st ∧ st.mDevice = device
  closedDevices : forall device, .close_device device ∈ s.halEvents <->
    (s.devices device).mIsClosed = true
  devices : Everywhere ClosesIdle s.halEvents

/-- Nothing is alive at the address that an opening gets. -/
def Fresh (s : AudioService) : StreamCall -> Prop
  | .openOutputStream _ _ answers =>
      (answers.status = OK -> s.heap answers.halStream = none) ∧
        (answers.status ≠ OK ->
          forall address, address ∈ answers.calloc -> s.heap address = none)
  | .openInputStream _ answers =>
      answers.status = OK -> s.heap answers.halStream = none
  | _ => True

instance Fresh.decidable (s : AudioService) :
    forall call : StreamCall, Decidable (Fresh s call)
  | .openOutputStream _ _ answers =>
      inferInstanceAs (Decidable
        ((answers.status = OK -> s.heap answers.halStream = none) ∧
          (answers.status ≠ OK ->
            forall address, address ∈ answers.calloc -> s.heap address = none)))
  | .openInputStream _ answers =>
      inferInstanceAs (Decidable
        (answers.status = OK -> s.heap answers.halStream = none))
  | .close _ => isTrue trivial
  | .destroyStream _ => isTrue trivial
  | .closeDevice _ _ => isTrue trivial
  | .destroyDevice _ _ => isTrue trivial

/-- A new stream of either kind. -/
def Stream.new (direction : Direction) (device : DeviceId) (halStream : Address) :
    Stream where
  direction := direction
  mDevice := device
  mStream := halStream
  mStopThread := false
  destroyed := false

def AudioService.begun (s : AudioService) (st : Stream) (object : HalObject) :
    AudioService :=
  ({ s.allocate st.mDevice st.mStream object with
      streams := s.streams ++ [st]
      gScoStubStreams :=
        if object = .stub then insert st.mStream s.gScoStubStreams
        else s.gScoStubStreams } : AudioService).setDevice st.mDevice
    fun d => { d with mOpenedStreamsCount := d.mOpenedStreamsCount + 1 }

def AudioService.deviceClosed (s : AudioService) (device : DeviceId) : AudioService :=
  { s.setDevice device fun d => { d with mIsClosed := true } with
    halEvents := s.halEvents ++ [.close_device device] }

def StreamCall.opens? : StreamCall -> Option (Stream × HalObject)
  | .openOutputStream device halDevice answers =>
      if !answers.convertible then none
      else if answers.status = OK then
        some (Stream.new .output device answers.halStream, .vendorOutput device)
      else if halDevice &&& (AUDIO_DEVICE_OUT_BLUETOOTH_SCO |||
          AUDIO_DEVICE_OUT_BLUETOOTH_SCO_HEADSET |||
          AUDIO_DEVICE_OUT_BLUETOOTH_SCO_CARKIT) ≠ 0 then
        answers.calloc.map fun address => (Stream.new .output device address, .stub)
      else none
  | .openInputStream device answers =>
      if answers.convertible ∧ answers.status = OK then
        some (Stream.new .input device answers.halStream, .vendorInput device)
      else none
  | _ => none

def AudioService.afterOpening (s : AudioService) :
    Option (Stream × HalObject) -> AudioService
  | some (st, object) => s.begun st object
  | none => s

def AudioService.HasEnded (s : AudioService) (stream : StreamId) : Prop :=
  exists object, s.objects[stream]? = some object ∧
    s.halEvents.filter (HalEvent.ends stream) = [object.ending stream]

def AudioService.Idle (majorVersion : Nat) (s : AudioService) (device : DeviceId) :
    Prop :=
  (s.devices device).mIsClosed = false ∧
    s.streams.countP (Stream.openOn majorVersion device) = 0

def Performed (majorVersion : Nat) (s : AudioService) (call : StreamCall) (r : Result)
    (t : AudioService) : Prop :=
  match call with
  | .openOutputStream _ _ _ | .openInputStream _ _ =>
      t = s.afterOpening call.opens? ∧ (r = .ok <-> call.opens?.isSome = true)
  | .close stream =>
      t.streams = s.streams.modify stream (fun st => { st with mStopThread := true }) ∧
        (6 <= majorVersion -> t.HasEnded stream) ∧
        (r = .ok <-> s.streams[stream]?.map Stream.mStopThread = some false)
  | .destroyStream stream =>
      t.streams = s.streams.modify stream
          (fun st => { st with mStopThread := true, destroyed := true }) ∧
        t.HasEnded stream
  | .closeDevice device status =>
      (s.Idle majorVersion device ->
          t = s.deviceClosed device ∧ r = analyzeStatus status) ∧
        (¬s.Idle majorVersion device -> t = s ∧ r = .invalidState)
  | .destroyDevice device _ =>
      (s.Idle majorVersion device -> t = s.deviceClosed device) ∧
        (¬s.Idle majorVersion device -> t = s)

/-- The stream of a call is there. -/
def Present (s : AudioService) : StreamCall -> Prop
  | .close stream => s.streams[stream]?.map Stream.destroyed = some false
  | .destroyStream stream => s.streams[stream]?.map Stream.destroyed = some false
  | _ => True

instance Present.decidable (s : AudioService) :
    forall call : StreamCall, Decidable (Present s call)
  | .openOutputStream _ _ _ => isTrue trivial
  | .openInputStream _ _ => isTrue trivial
  | .close stream =>
      inferInstanceAs (Decidable (s.streams[stream]?.map Stream.destroyed = some false))
  | .destroyStream stream =>
      inferInstanceAs (Decidable (s.streams[stream]?.map Stream.destroyed = some false))
  | .closeDevice _ _ => isTrue trivial
  | .destroyDevice _ _ => isTrue trivial

def AudioService.initial : AudioService where
  devices := fun _ => { mIsClosed := false, mOpenedStreamsCount := 0 }
  streams := []
  gScoStubStreams := ∅
  objects := []
  heap := fun _ => none
  halEvents := []

theorem accounted_initial (majorVersion : Nat) :
    Accounted majorVersion AudioService.initial where
  count := fun _ => rfl
  stubs := by
    intro address
    constructor
    · intro hmem
      cases hmem
    · intro h
      rcases h with ⟨stream, hheap, _⟩
      cases hheap
  alive := by
    intro address stream
    constructor
    · intro hheap
      cases hheap
    · intro h
      rcases h with ⟨st, hst, _⟩
      cases hst
  length := rfl
  objects := by
    intro stream st object hst
    cases hst
  endings := by
    intro stream st object hst
    cases hst
  known := by
    intro e stream hmem
    cases hmem
  opened := by
    intro device stream
    constructor
    · intro hmem
      cases hmem
    · intro h
      rcases h with ⟨st, hst, _⟩
      cases hst
  closedDevices := by
    intro device
    constructor
    · intro hmem
      cases hmem
    · intro hclosed
      cases hclosed
  devices := trivial

/-!
# Lists of streams
-/

theorem countP_modify {α : Type} (p : α -> Bool) (f : α -> α) {list : List α}
    {i : Nat} {a : α} (ha : list[i]? = some a) :
    (list.modify i f).countP p + (if p a then 1 else 0) =
      list.countP p + (if p (f a) then 1 else 0) := by
  rcases List.getElem?_eq_some_iff.mp ha with ⟨hi, hget⟩
  have hset : list.modify i f = list.set i (f a) := by
    rw [List.modify_eq_set_getElem?, ha]
    rfl
  rw [hset, List.countP_set hi, hget]
  by_cases hp : p a = true
  · have hpos : 0 < list.countP p :=
      List.countP_pos_iff.mpr ⟨a, List.mem_of_getElem? ha, hp⟩
    rw [if_pos hp]
    lia
  · rw [if_neg hp]
    lia

theorem getElem?_modify_iff {α : Type} {f : α -> α} {list : List α} {i j : Nat}
    {a b : α} (ha : list[i]? = some a) :
    (list.modify i f)[j]? = some b <->
      j = i ∧ b = f a ∨ j ≠ i ∧ list[j]? = some b := by
  rw [List.getElem?_modify]
  by_cases hj : j = i
  · rw [hj, ha]
    simp [eq_comm]
  · simp [hj, Ne.symm hj]

/-!
# A stream changes without ending
-/

structure Quiet (majorVersion : Nat) (f : Stream -> Stream) (st : Stream) : Prop where
  mDevice : (f st).mDevice = st.mDevice
  mStream : (f st).mStream = st.mStream
  direction : (f st).direction = st.direction
  closed : (f st).closed majorVersion = st.closed majorVersion

theorem Stream.Matches.congr {st st' : Stream} {object : HalObject}
    (h : st.Matches object) (hdevice : st'.mDevice = st.mDevice)
    (hdirection : st'.direction = st.direction) : st'.Matches object := by
  unfold Stream.Matches
  rw [hdevice, hdirection]
  exact h

theorem Accounted.setStream {majorVersion : Nat} {s : AudioService}
    (h : Accounted majorVersion s) {stream : StreamId} {st : Stream}
    (hst : s.streams[stream]? = some st) {f : Stream -> Stream}
    (hquiet : Quiet majorVersion f st) :
    Accounted majorVersion (s.setStream stream f) := by
  -- each stream is as before in everything the account reads
  have hstreams : forall (id : StreamId) (P : Stream -> Prop),
      (forall st', st' = st ∨ st' = f st -> (P st' <-> P st)) ->
      ((exists st' : Stream, (s.setStream stream f).streams[id]? = some st' ∧ P st') <->
        exists st' : Stream, s.streams[id]? = some st' ∧ P st') := by
    intro id P hP
    constructor
    · intro hnew
      rcases hnew with ⟨st', hst', hp⟩
      rcases (getElem?_modify_iff hst).mp hst' with ⟨hid, heq⟩ | ⟨hid, hold⟩
      · rw [heq, hP (f st) (.inr rfl)] at hp
        exact ⟨st, by rw [hid]; exact hst, hp⟩
      · exact ⟨st', hold, hp⟩
    · intro hold
      rcases hold with ⟨old, hold, hp⟩
      by_cases hid : id = stream
      · rw [hid, hst] at hold
        rw [← Option.some.inj hold, ← hP (f st) (.inr rfl)] at hp
        exact ⟨f st, (getElem?_modify_iff hst).mpr (.inl ⟨hid, rfl⟩), hp⟩
      · exact ⟨old, (getElem?_modify_iff hst).mpr (.inr ⟨hid, hold⟩), hp⟩
  have hlength : (s.setStream stream f).streams.length = s.streams.length := by
    simp [AudioService.setStream]
  constructor
  · intro device
    have hsame : (f st).openOn majorVersion device =
        st.openOn majorVersion device := by
      unfold Stream.openOn
      rw [hquiet.mDevice, hquiet.closed]
    have hcount := countP_modify (Stream.openOn majorVersion device) f hst
    rw [hsame] at hcount
    show (s.devices device).mOpenedStreamsCount =
      ((s.streams.modify stream f).countP _ : Int)
    rw [h.count device]
    lia
  · exact h.stubs
  · intro address id
    rw [show (s.setStream stream f).heap = s.heap from rfl, h.alive]
    apply Iff.symm
    apply hstreams
    intro st' hst'
    rcases hst' with hst' | hst'
    · rw [hst']
    · rw [hst', hquiet.mStream, hquiet.closed]
  · rw [hlength]
    exact h.length
  · intro id st' object hst' hobject
    rcases (getElem?_modify_iff hst).mp hst' with ⟨hid, heq⟩ | ⟨_, hold⟩
    · rw [hid] at hobject
      rw [heq]
      exact (h.objects stream st object hst hobject).congr hquiet.mDevice
        hquiet.direction
    · exact h.objects id st' object hold hobject
  · intro id st' object hst' hobject
    rcases (getElem?_modify_iff hst).mp hst' with ⟨hid, heq⟩ | ⟨_, hold⟩
    · rw [hid] at hobject ⊢
      rw [heq, hquiet.closed]
      exact h.endings stream st object hst hobject
    · exact h.endings id st' object hold hobject
  · intro e id hmem hended
    rw [hlength]
    exact h.known e id hmem hended
  · intro device id
    rw [show (s.setStream stream f).halEvents = s.halEvents from rfl, h.opened]
    apply Iff.symm
    apply hstreams
    intro st' hst'
    rcases hst' with hst' | hst'
    · rw [hst']
    · rw [hst', hquiet.mDevice]
  · exact h.closedDevices
  · exact h.devices

/-!
# A stream ends
-/

def AudioService.ended (s : AudioService) (st : Stream) (event : HalEvent) :
    AudioService :=
  ({ s with
      gScoStubStreams := s.gScoStubStreams.erase st.mStream
      heap := Function.update s.heap st.mStream none
      halEvents := s.halEvents ++ [event] } : AudioService).setDevice st.mDevice
    fun d => { d with mOpenedStreamsCount := d.mOpenedStreamsCount - 1 }

theorem countDown_sat {s : AudioService} {device : DeviceId}
    (hcount : (s.devices device).mOpenedStreamsCount ≠ 0) :
    Sat (countDown device)
      (fun _ after => after = s.setDevice device fun d =>
        { d with mOpenedStreamsCount := d.mOpenedStreamsCount - 1 })
      (fun _ _ => False) s := by
  unfold countDown
  rw [sat_bind, sat_get, sat_ite]
  constructor
  · intro hzero
    exact absurd hzero hcount
  · intro _
    exact rfl

theorem closeHalStream_sat {s : AudioService} {stream : StreamId} {st : Stream}
    {object : HalObject} (hmatches : st.Matches object)
    (hheap : s.heap st.mStream = some stream)
    (hstub : st.mStream ∈ s.gScoStubStreams <-> object = .stub)
    (hcount : (s.devices st.mDevice).mOpenedStreamsCount ≠ 0) :
    Sat (closeHalStream st)
      (fun _ after => after = s.ended st (object.ending stream))
      (fun _ _ => False) s := by
  -- the state of the set of stubs after a stream that is no stub
  have herase : object ≠ .stub ->
      s.gScoStubStreams.erase st.mStream = s.gScoStubStreams := by
    intro hobject
    exact Finset.erase_eq_of_notMem fun hmem => hobject (hstub.mp hmem)
  unfold closeHalStream
  cases object with
  | stub =>
      have hmem : st.mStream ∈ s.gScoStubStreams := hstub.mpr rfl
      have hdirection : st.direction = .output := hmatches
      rw [hdirection]
      simp only [closeOutputStream, destroyScoStubStream]
      rw [sat_bind, sat_bind, sat_get, sat_ite]
      constructor
      · intro _
        simp only [sat_bind, sat_modify, sat_pure, Bool.not_true,
          Bool.false_eq_true, if_false]
        refine (countDown_sat ?_).imp ?_
        · exact hcount
        · intro _ after hafter
          rw [hafter]
          unfold AudioService.ended AudioService.giveBack
          rw [hheap]
          rfl
      · intro hnot
        exact absurd hmem hnot
  | vendorOutput device =>
      have hvendor : HalObject.vendorOutput device ≠ .stub := by
        intro h
        cases h
      have hnot : st.mStream ∉ s.gScoStubStreams := fun hmem => by
        cases hstub.mp hmem
      rw [hmatches.1]
      simp only [closeOutputStream, destroyScoStubStream]
      rw [sat_bind, sat_bind, sat_get, sat_ite]
      constructor
      · intro hmem
        exact absurd hmem hnot
      · intro _
        simp only [sat_bind, sat_modify, sat_pure, Bool.not_false, if_true]
        refine (countDown_sat ?_).imp ?_
        · exact hcount
        · intro _ after hafter
          rw [hafter]
          unfold AudioService.ended AudioService.giveBack
          rw [hheap, herase hvendor, hmatches.2]
          rfl
  | vendorInput device =>
      have hvendor : HalObject.vendorInput device ≠ .stub := by
        intro h
        cases h
      rw [hmatches.1]
      simp only [closeInputStream]
      rw [sat_bind, sat_modify]
      refine (countDown_sat ?_).imp ?_
      · exact hcount
      · intro _ after hafter
        rw [hafter]
        unfold AudioService.ended AudioService.giveBack
        rw [hheap, herase hvendor, hmatches.2]
        rfl

theorem HalObject.ends_ending (stream id : StreamId) (object : HalObject) :
    (object.ending id).ends stream = decide (id = stream) := by
  cases object <;> simp [HalObject.ending, HalEvent.ends, HalEvent.ended?]

theorem HalObject.ended_ending (stream : StreamId) (object : HalObject) :
    (object.ending stream).ended? = some (some stream) := by
  cases object <;> rfl

theorem HalObject.mem_append_ending {events : List HalEvent} {e : HalEvent}
    {stream : StreamId} {object : HalObject} (he : e.ended? = none) :
    e ∈ events ++ [object.ending stream] <-> e ∈ events := by
  constructor
  · intro hmem
    rcases List.mem_append.mp hmem with hmem | hmem
    · exact hmem
    · rw [List.mem_singleton.mp hmem, HalObject.ended_ending] at he
      cases he
  · intro hmem
    exact List.mem_append_left _ hmem

theorem Accounted.endStream {majorVersion : Nat} {s : AudioService}
    (h : Accounted majorVersion s) {stream : StreamId} {st : Stream}
    (hst : s.streams[stream]? = some st) (hopen : st.closed majorVersion = false)
    {object : HalObject} (hobject : s.objects[stream]? = some object)
    {f : Stream -> Stream} (hdevice : (f st).mDevice = st.mDevice)
    (hdirection : (f st).direction = st.direction)
    (hclosed : (f st).closed majorVersion = true) :
    Accounted majorVersion
      ((s.setStream stream f).ended st (object.ending stream)) := by
  have halive : s.heap st.mStream = some stream :=
    (h.alive st.mStream stream).mpr ⟨st, hst, rfl, hopen⟩
  have hlength : (s.streams.modify stream f).length = s.streams.length := by
    simp
  constructor
  · intro device
    have hcount := countP_modify (Stream.openOn majorVersion device) f hst
    have hbefore := h.count device
    show (Function.update s.devices st.mDevice _ device).mOpenedStreamsCount =
      ((s.streams.modify stream f).countP _ : Int)
    have hafter : (f st).openOn majorVersion device = false := by
      simp [Stream.openOn, hclosed]
    rw [hafter] at hcount
    by_cases hsame : device = st.mDevice
    · have hone : st.openOn majorVersion device = true := by
        simp [Stream.openOn, hopen, hsame]
      rw [hone] at hcount
      rw [hsame] at hbefore hcount ⊢
      rw [Function.update_self]
      show (s.devices st.mDevice).mOpenedStreamsCount - 1 = _
      simp only [if_true, Bool.false_eq_true, if_false] at hcount
      lia
    · have hnone : st.openOn majorVersion device = false := by
        simp [Stream.openOn, Ne.symm hsame]
      rw [hnone] at hcount
      rw [Function.update_of_ne hsame, hbefore]
      lia
  · intro address
    show address ∈ s.gScoStubStreams.erase st.mStream <->
      exists id : StreamId, Function.update s.heap st.mStream none address = some id ∧
        s.objects[id]? = some .stub
    rw [Finset.mem_erase, h.stubs]
    by_cases haddress : address = st.mStream
    · rw [haddress, Function.update_self]
      simp
    · rw [Function.update_of_ne haddress]
      simp [haddress]
  · intro address id
    show Function.update s.heap st.mStream none address = some id <->
      exists st' : Stream, (s.streams.modify stream f)[id]? = some st' ∧ _
    constructor
    · intro hheap
      by_cases haddress : address = st.mStream
      · rw [haddress, Function.update_self] at hheap
        cases hheap
      · rw [Function.update_of_ne haddress, h.alive] at hheap
        rcases hheap with ⟨old, hold, hat, hopen'⟩
        have hid : id ≠ stream := by
          intro hid
          rw [hid, hst] at hold
          rw [← Option.some.inj hold] at hat
          exact haddress hat.symm
        exact ⟨old, (getElem?_modify_iff hst).mpr (.inr ⟨hid, hold⟩), hat, hopen'⟩
    · intro hnew
      rcases hnew with ⟨st', hst', hat, hopen'⟩
      rcases (getElem?_modify_iff hst).mp hst' with ⟨_, heq⟩ | ⟨hid, hold⟩
      · rw [heq, hclosed] at hopen'
        cases hopen'
      · have hheap := (h.alive address id).mpr ⟨st', hold, hat, hopen'⟩
        have haddress : address ≠ st.mStream := by
          intro haddress
          rw [haddress, halive] at hheap
          exact hid (Option.some.inj hheap).symm
        rw [Function.update_of_ne haddress]
        exact hheap
  · show (s.streams.modify stream f).length = s.objects.length
    rw [hlength]
    exact h.length
  · intro id st' object' hst' hobject'
    rcases (getElem?_modify_iff hst).mp hst' with ⟨hid, heq⟩ | ⟨_, hold⟩
    · rw [hid] at hobject'
      rw [heq]
      exact (h.objects stream st object' hst hobject').congr hdevice hdirection
    · exact h.objects id st' object' hold hobject'
  · intro id st' object' hst' hobject'
    show (s.halEvents ++ [object.ending stream]).filter _ = _
    rw [List.filter_append, List.filter_singleton, HalObject.ends_ending]
    rcases (getElem?_modify_iff hst).mp hst' with ⟨hid, heq⟩ | ⟨hid, hold⟩
    · rw [hid] at hobject' ⊢
      have hsame : s.objects[stream]? = some object' := hobject'
      rw [hobject] at hsame
      rw [h.endings stream st object hst hobject, hopen, heq, hclosed,
        ← Option.some.inj hsame]
      simp
    · rw [h.endings id st' object' hold hobject']
      simp [Ne.symm hid]
  · intro e id hmem hended
    show exists k, id = some k ∧ k < (s.streams.modify stream f).length
    rw [hlength]
    rcases List.mem_append.mp hmem with hmem | hmem
    · exact h.known e id hmem hended
    · rw [List.mem_singleton.mp hmem, HalObject.ended_ending] at hended
      have hlt : stream < s.streams.length :=
        (List.getElem?_eq_some_iff.mp hst).1
      exact ⟨stream, (Option.some.inj hended).symm, hlt⟩
  · intro device id
    show HalEvent.opened device id ∈ s.halEvents ++ [object.ending stream] <->
      exists st' : Stream, (s.streams.modify stream f)[id]? = some st' ∧ _
    rw [HalObject.mem_append_ending rfl, h.opened]
    constructor
    · intro hold
      rcases hold with ⟨old, hold, hon⟩
      by_cases hid : id = stream
      · rw [hid, hst] at hold
        rw [← Option.some.inj hold] at hon
        exact ⟨f st, (getElem?_modify_iff hst).mpr (.inl ⟨hid, rfl⟩),
          hdevice.trans hon⟩
      · exact ⟨old, (getElem?_modify_iff hst).mpr (.inr ⟨hid, hold⟩), hon⟩
    · intro hnew
      rcases hnew with ⟨st', hst', hon⟩
      rcases (getElem?_modify_iff hst).mp hst' with ⟨hid, heq⟩ | ⟨_, hold⟩
      · rw [heq] at hon
        rw [hid]
        exact ⟨st, hst, hdevice.symm.trans hon⟩
      · exact ⟨st', hold, hon⟩
  · intro device
    show HalEvent.close_device device ∈ s.halEvents ++ [object.ending stream] <->
      (Function.update s.devices st.mDevice _ device).mIsClosed = true
    rw [HalObject.mem_append_ending rfl, h.closedDevices]
    by_cases hsame : device = st.mDevice
    · rw [hsame, Function.update_self]
      rfl
    · rw [Function.update_of_ne hsame]
  · apply h.devices.snoc
    cases object <;> trivial

/-!
# A stream begins
-/

theorem Stream.closed_new (majorVersion : Nat) (direction : Direction)
    (device : DeviceId) (halStream : Address) :
    (Stream.new direction device halStream).closed majorVersion = false := by
  unfold Stream.closed Stream.new
  split <;> rfl

theorem filter_ends_opened {events : List HalEvent} {device : DeviceId}
    {id stream : StreamId} :
    (events ++ [HalEvent.opened device id]).filter (HalEvent.ends stream) =
      events.filter (HalEvent.ends stream) := by
  simp [HalEvent.ends, HalEvent.ended?]

theorem getElem?_snoc_iff {α : Type} {list : List α} {a b : α} {i : Nat} :
    (list ++ [a])[i]? = some b <->
      i = list.length ∧ b = a ∨ i ≠ list.length ∧ list[i]? = some b := by
  by_cases hi : i = list.length
  · rw [hi]
    simp [eq_comm]
  · by_cases hlt : i < list.length
    · rw [List.getElem?_append_left hlt]
      simp [hi]
    · have hgt : list.length < i := by lia
      rw [List.getElem?_append_right (by lia),
        List.getElem?_eq_none (by simp only [List.length_singleton]; lia),
        List.getElem?_eq_none (by lia)]
      simp [hi]

theorem Accounted.beginStream {majorVersion : Nat} {s : AudioService}
    (h : Accounted majorVersion s) {st : Stream} {object : HalObject}
    (hfresh : s.heap st.mStream = none) (hmatches : st.Matches object)
    (hopen : st.closed majorVersion = false) :
    Accounted majorVersion (s.begun st object) := by
  have hlength := h.length
  -- an address with nothing alive is not that of a stub
  have hnoStub : st.mStream ∉ s.gScoStubStreams := by
    intro hmem
    rcases (h.stubs st.mStream).mp hmem with ⟨stream, hheap, _⟩
    rw [hfresh] at hheap
    cases hheap
  have hbelow : forall address stream, s.heap address = some stream ->
      stream < s.streams.length := by
    intro address stream hheap
    rcases (h.alive address stream).mp hheap with ⟨old, hold, _⟩
    exact (List.getElem?_eq_some_iff.mp hold).1
  constructor
  · intro device
    have hbefore := h.count device
    show (Function.update s.devices st.mDevice _ device).mOpenedStreamsCount =
      ((s.streams ++ [st]).countP _ : Int)
    rw [List.countP_append, List.countP_singleton]
    by_cases hsame : device = st.mDevice
    · have hone : st.openOn majorVersion device = true := by
        simp [Stream.openOn, hopen, hsame]
      rw [hone]
      rw [hsame] at hbefore ⊢
      rw [Function.update_self]
      show (s.devices st.mDevice).mOpenedStreamsCount + 1 = _
      rw [hbefore]
      simp
    · have hnone : st.openOn majorVersion device = false := by
        simp [Stream.openOn, Ne.symm hsame]
      rw [hnone, Function.update_of_ne hsame, hbefore]
      simp
  · intro address
    show address ∈ (if object = .stub then insert st.mStream s.gScoStubStreams
        else s.gScoStubStreams) <->
      exists id : StreamId, Function.update s.heap st.mStream
        (some s.objects.length) address = some id ∧
          (s.objects ++ [object])[id]? = some .stub
    by_cases haddress : address = st.mStream
    · rw [haddress, Function.update_self]
      by_cases hobject : object = .stub
      · simp [hobject]
      · rw [if_neg hobject]
        constructor
        · intro hmem
          exact absurd hmem hnoStub
        · intro hnew
          rcases hnew with ⟨id, hid, hstub⟩
          rcases getElem?_snoc_iff.mp hstub with ⟨_, heq⟩ | ⟨hne, _⟩
          · exact absurd heq.symm hobject
          · exact absurd (Option.some.inj hid).symm hne
    · have hset : address ∈ (if object = .stub then
          insert st.mStream s.gScoStubStreams else s.gScoStubStreams) <->
            address ∈ s.gScoStubStreams := by
        by_cases hobject : object = .stub
        · simp [hobject, haddress]
        · rw [if_neg hobject]
      rw [hset, Function.update_of_ne haddress, h.stubs]
      constructor
      · intro hold
        rcases hold with ⟨id, hheap, hstub⟩
        have hne : id ≠ s.objects.length := by
          have hlt := hbelow address id hheap
          lia
        exact ⟨id, hheap, getElem?_snoc_iff.mpr (.inr ⟨hne, hstub⟩)⟩
      · intro hnew
        rcases hnew with ⟨id, hheap, hstub⟩
        rcases getElem?_snoc_iff.mp hstub with ⟨hid, _⟩ | ⟨_, hold⟩
        · have hlt := hbelow address id hheap
          lia
        · exact ⟨id, hheap, hold⟩
  · intro address id
    show Function.update s.heap st.mStream (some s.objects.length) address =
        some id <->
      exists st' : Stream, (s.streams ++ [st])[id]? = some st' ∧ _
    by_cases haddress : address = st.mStream
    · rw [haddress, Function.update_self]
      constructor
      · intro hid
        have hlast : id = s.streams.length := by
          rw [hlength]
          exact (Option.some.inj hid).symm
        exact ⟨st, getElem?_snoc_iff.mpr (.inl ⟨hlast, rfl⟩), rfl, hopen⟩
      · intro hnew
        rcases hnew with ⟨st', hst', hat, hopen'⟩
        rcases getElem?_snoc_iff.mp hst' with ⟨hid, _⟩ | ⟨_, hold⟩
        · rw [hid, hlength]
        · have hheap := (h.alive st.mStream id).mpr ⟨st', hold, hat, hopen'⟩
          rw [hfresh] at hheap
          cases hheap
    · rw [Function.update_of_ne haddress, h.alive]
      constructor
      · intro hold
        rcases hold with ⟨old, hold, hat⟩
        have hne : id ≠ s.streams.length := by
          have hlt := (List.getElem?_eq_some_iff.mp hold).1
          lia
        exact ⟨old, getElem?_snoc_iff.mpr (.inr ⟨hne, hold⟩), hat⟩
      · intro hnew
        rcases hnew with ⟨st', hst', hat⟩
        rcases getElem?_snoc_iff.mp hst' with ⟨_, heq⟩ | ⟨_, hold⟩
        · rw [heq] at hat
          exact absurd hat.1.symm haddress
        · exact ⟨st', hold, hat⟩
  · show (s.streams ++ [st]).length = (s.objects ++ [object]).length
    simp [hlength]
  · intro id st' object' hst' hobject'
    rcases getElem?_snoc_iff.mp hst' with ⟨hid, heq⟩ | ⟨hid, hold⟩
    · rcases getElem?_snoc_iff.mp hobject' with ⟨_, hobject⟩ | ⟨hne, _⟩
      · rw [heq, hobject]
        exact hmatches
      · rw [hlength] at hid
        exact absurd hid hne
    · rcases getElem?_snoc_iff.mp hobject' with ⟨hlast, _⟩ | ⟨_, hobject⟩
      · rw [← hlength] at hlast
        exact absurd hlast hid
      · exact h.objects id st' object' hold hobject
  · intro id st' object' hst' hobject'
    show (s.halEvents ++ [HalEvent.opened st.mDevice s.objects.length]).filter _ = _
    rw [filter_ends_opened]
    rcases getElem?_snoc_iff.mp hst' with ⟨hid, heq⟩ | ⟨hid, hold⟩
    · rw [heq, hopen]
      apply List.filter_eq_nil_iff.mpr
      intro e he hends
      have hended : e.ended? = some (some id) := of_decide_eq_true hends
      rcases h.known e (some id) he hended with ⟨k, hk, hlt⟩
      have heq' := Option.some.inj hk
      lia
    · rcases getElem?_snoc_iff.mp hobject' with ⟨hlast, _⟩ | ⟨_, hobject⟩
      · rw [← hlength] at hlast
        exact absurd hlast hid
      · exact h.endings id st' object' hold hobject
  · intro e id hmem hended
    show exists k, id = some k ∧ k < (s.streams ++ [st]).length
    rw [List.length_append, List.length_singleton]
    rcases List.mem_append.mp hmem with hmem | hmem
    · rcases h.known e id hmem hended with ⟨k, hk, hlt⟩
      exact ⟨k, hk, by lia⟩
    · rw [List.mem_singleton.mp hmem] at hended
      cases hended
  · intro device id
    show HalEvent.opened device id ∈
        s.halEvents ++ [HalEvent.opened st.mDevice s.objects.length] <->
      exists st' : Stream, (s.streams ++ [st])[id]? = some st' ∧ _
    rw [List.mem_append, h.opened, List.mem_singleton]
    constructor
    · intro hcases
      rcases hcases with hold | hnew
      · rcases hold with ⟨old, hold, hon⟩
        have hne : id ≠ s.streams.length := by
          have hlt := (List.getElem?_eq_some_iff.mp hold).1
          lia
        exact ⟨old, getElem?_snoc_iff.mpr (.inr ⟨hne, hold⟩), hon⟩
      · cases hnew
        exact ⟨st, getElem?_snoc_iff.mpr (.inl ⟨hlength.symm, rfl⟩), rfl⟩
    · intro hnew
      rcases hnew with ⟨st', hst', hon⟩
      rcases getElem?_snoc_iff.mp hst' with ⟨hid, heq⟩ | ⟨_, hold⟩
      · right
        rw [← hon, heq, hid, hlength]
      · exact .inl ⟨st', hold, hon⟩
  · intro device
    show HalEvent.close_device device ∈
        s.halEvents ++ [HalEvent.opened st.mDevice s.objects.length] <->
      (Function.update s.devices st.mDevice _ device).mIsClosed = true
    have hmem : HalEvent.close_device device ∈
        s.halEvents ++ [HalEvent.opened st.mDevice s.objects.length] <->
          HalEvent.close_device device ∈ s.halEvents := by
      simp
    rw [hmem, h.closedDevices]
    by_cases hsame : device = st.mDevice
    · rw [hsame, Function.update_self]
      rfl
    · rw [Function.update_of_ne hsame]
  · exact h.devices.snoc trivial

/-!
# A device is closed
-/

theorem Accounted.closeDevice {majorVersion : Nat} {s : AudioService}
    (h : Accounted majorVersion s) {device : DeviceId}
    (hclosed : (s.devices device).mIsClosed = false)
    (hcount : (s.devices device).mOpenedStreamsCount = 0) :
    Accounted majorVersion (s.deviceClosed device) := by
  have hdevices : forall other,
      ((s.deviceClosed device).devices other).mOpenedStreamsCount =
        (s.devices other).mOpenedStreamsCount := by
    intro other
    show (Function.update s.devices device _ other).mOpenedStreamsCount = _
    by_cases hsame : other = device
    · rw [hsame, Function.update_self]
    · rw [Function.update_of_ne hsame]
  constructor
  · intro other
    rw [hdevices]
    exact h.count other
  · exact h.stubs
  · exact h.alive
  · exact h.length
  · exact h.objects
  · intro stream st object hst hobject
    have hfilter : (s.halEvents ++ [HalEvent.close_device device]).filter
        (HalEvent.ends stream) = s.halEvents.filter (HalEvent.ends stream) := by
      simp [HalEvent.ends, HalEvent.ended?]
    show (s.halEvents ++ [HalEvent.close_device device]).filter _ = _
    rw [hfilter]
    exact h.endings stream st object hst hobject
  · intro e stream hmem hended
    rcases List.mem_append.mp hmem with hmem | hmem
    · exact h.known e stream hmem hended
    · rw [List.mem_singleton.mp hmem] at hended
      cases hended
  · intro other stream
    show HalEvent.opened other stream ∈
      s.halEvents ++ [HalEvent.close_device device] <-> _
    rw [List.mem_append, h.opened]
    simp [AudioService.deviceClosed, AudioService.setDevice]
  · intro other
    show HalEvent.close_device other ∈
        s.halEvents ++ [HalEvent.close_device device] <->
      (Function.update s.devices device _ other).mIsClosed = true
    rw [List.mem_append, h.closedDevices, List.mem_singleton]
    by_cases hsame : other = device
    · rw [hsame, Function.update_self]
      simp
    · rw [Function.update_of_ne hsame]
      simp [hsame]
  · apply h.devices.snoc
    constructor
    · intro hmem
      rw [h.closedDevices, hclosed] at hmem
      cases hmem
    · intro stream hopened
      rcases (h.opened device stream).mp hopened with ⟨st, hst, hon⟩
      have hstream : stream < s.objects.length := by
        rw [← h.length]
        exact (List.getElem?_eq_some_iff.mp hst).1
      have hobject : s.objects[stream]? = some s.objects[stream] :=
        List.getElem?_eq_getElem hstream
      -- a device that counts no stream has none that is open
      have hended : st.closed majorVersion = true := by
        have hzero : s.streams.countP (Stream.openOn majorVersion device) = 0 := by
          have hdevice := h.count device
          lia
        have hnot := List.countP_eq_zero.mp hzero st (List.mem_of_getElem? hst)
        simpa [Stream.openOn, hon] using hnot
      have hending := h.endings stream st _ hst hobject
      rw [if_pos hended] at hending
      have hmem : s.objects[stream].ending stream ∈
          s.halEvents.filter (HalEvent.ends stream) := by
        rw [hending]
        exact List.mem_singleton_self _
      exact ⟨_, (List.mem_filter.mp hmem).1, (List.mem_filter.mp hmem).2⟩

/-!
# Calls
-/

section Calls

variable {majorVersion : Nat} {s : AudioService}

theorem Accounted.closable (h : Accounted majorVersion s) {stream : StreamId}
    {st : Stream} (hst : s.streams[stream]? = some st)
    (hopen : st.closed majorVersion = false) :
    exists object, s.objects[stream]? = some object ∧ st.Matches object ∧
      s.heap st.mStream = some stream ∧
      (st.mStream ∈ s.gScoStubStreams <-> object = .stub) ∧
      (s.devices st.mDevice).mOpenedStreamsCount ≠ 0 := by
  have hstream : stream < s.objects.length := by
    rw [← h.length]
    exact (List.getElem?_eq_some_iff.mp hst).1
  have hobject : s.objects[stream]? = some s.objects[stream] :=
    List.getElem?_eq_getElem hstream
  have hheap := (h.alive st.mStream stream).mpr ⟨st, hst, rfl, hopen⟩
  refine ⟨s.objects[stream], hobject, h.objects stream st _ hst hobject, hheap,
    ?_, ?_⟩
  · rw [h.stubs]
    constructor
    · intro hstub
      rcases hstub with ⟨id, hid, hstub⟩
      rw [hheap] at hid
      rw [← Option.some.inj hid, hobject] at hstub
      exact Option.some.inj hstub
    · intro hstub
      exact ⟨stream, hheap, by rw [hobject, hstub]⟩
  · have hpos : 0 < s.streams.countP (Stream.openOn majorVersion st.mDevice) := by
      apply List.countP_pos_iff.mpr
      exact ⟨st, List.mem_of_getElem? hst, by simp [Stream.openOn, hopen]⟩
    rw [h.count]
    lia

theorem Accounted.hasEnded (h : Accounted majorVersion s) {stream : StreamId}
    {st : Stream} (hst : s.streams[stream]? = some st)
    (hclosed : st.closed majorVersion = true) : s.HasEnded stream := by
  have hstream : stream < s.objects.length := by
    rw [← h.length]
    exact (List.getElem?_eq_some_iff.mp hst).1
  have hobject : s.objects[stream]? = some s.objects[stream] :=
    List.getElem?_eq_getElem hstream
  have hending := h.endings stream st _ hst hobject
  rw [if_pos hclosed] at hending
  exact ⟨_, hobject, hending⟩

theorem modify_eq_self {α : Type} {f : α -> α} {list : List α} {i : Nat} {a : α}
    (ha : list[i]? = some a) (hf : f a = a) : list.modify i f = list := by
  rw [List.modify_eq_set_getElem?, ha]
  show list.set i (f a) = list
  rcases List.getElem?_eq_some_iff.mp ha with ⟨hi, hget⟩
  rw [hf, ← hget, List.set_getElem_self]

theorem streamAt_sat (stream : StreamId) (s : AudioService) :
    Sat (streamAt stream)
      (fun st after => after = s ∧ s.streams[stream]? = some st ∧
        st.destroyed = false)
      (fun abort _ => abort = .noObject ∧
        s.streams[stream]?.map Stream.destroyed ≠ some false) s := by
  unfold streamAt
  rw [sat_bind, sat_get]
  cases hst : s.streams[stream]? with
  | none => exact ⟨rfl, by simp⟩
  | some st =>
      show Sat (if st.destroyed then throw StreamAbort.noObject else pure st) _ _ s
      rw [sat_ite]
      constructor
      · intro hdestroyed
        exact ⟨rfl, by simp [hdestroyed]⟩
      · intro hdestroyed
        exact ⟨rfl, rfl, by simpa using hdestroyed⟩

theorem newStream_sat (direction : Direction) (device : DeviceId)
    (halStream : Address) (s : AudioService) :
    Sat (newStream direction device halStream)
      (fun _ after => after =
        ({ s with streams := s.streams ++ [Stream.new direction device halStream] } :
          AudioService).setDevice device fun d =>
            { d with mOpenedStreamsCount := d.mOpenedStreamsCount + 1 })
      (fun _ _ => False) s := rfl

theorem openOutputStreamCore_sat (device : DeviceId) (halDevice : UInt32)
    (answers : OpenAnswers) (s : AudioService) :
    Sat (openOutputStreamCore device halDevice answers)
      (fun r after => Performed majorVersion s
        (.openOutputStream device halDevice answers) r.1 after)
      (fun _ _ => False) s := by
  unfold openOutputStreamCore
  simp only [Performed, StreamCall.opens?]
  rw [sat_ite]
  constructor
  · intro hrefused
    simp only [if_pos hrefused]
    exact ⟨rfl, by decide⟩
  · intro hconvertible
    rw [sat_ite]
    constructor
    · intro hok
      rw [sat_bind, sat_modify]
      apply (newStream_sat .output device answers.halStream _).bind
      intro _ after hafter
      rw [sat_pure, hafter, if_neg hconvertible, if_pos hok]
      exact ⟨rfl, iff_of_true rfl rfl⟩
    · intro hfailed
      rw [sat_ite]
      constructor
      · intro hsco
        unfold createScoStubStream
        cases hcalloc : answers.calloc with
        | none =>
            simp only [if_neg hconvertible, if_neg hfailed, if_pos hsco]
            exact ⟨rfl, iff_of_false (by decide) (by simp)⟩
        | some stream =>
            simp only [sat_bind, sat_modify, sat_pure]
            apply (newStream_sat .output device stream _).imp
            intro _ after hafter
            rw [hafter, if_neg hconvertible, if_neg hfailed, if_pos hsco]
            exact ⟨rfl, iff_of_true rfl rfl⟩
      · intro hsco
        simp only [if_neg hconvertible, if_neg hfailed, if_neg hsco]
        exact ⟨rfl, by simp [analyzeStatus_ne_ok hfailed]⟩

theorem openInputStreamCore_sat (device : DeviceId) (answers : OpenAnswers)
    (s : AudioService) :
    Sat (openInputStreamCore device answers)
      (fun r after => Performed majorVersion s (.openInputStream device answers) r.1
        after)
      (fun _ _ => False) s := by
  unfold openInputStreamCore
  simp only [Performed, StreamCall.opens?]
  rw [sat_ite]
  constructor
  · intro hrefused
    rw [if_neg (by simp_all)]
    exact ⟨rfl, by decide⟩
  · intro hconvertible
    rw [sat_ite]
    constructor
    · intro hok
      rw [sat_bind, sat_modify]
      apply (newStream_sat .input device answers.halStream _).bind
      intro _ after hafter
      rw [sat_pure, hafter, if_pos ⟨by simpa using hconvertible, hok⟩]
      exact ⟨rfl, iff_of_true rfl rfl⟩
    · intro hfailed
      rw [if_neg fun h => hfailed h.2]
      exact ⟨rfl, by simp [analyzeStatus_ne_ok hfailed]⟩

theorem Accounted.afterOpening (h : Accounted majorVersion s) {call : StreamCall}
    (hfresh : Fresh s call) :
    Accounted majorVersion (s.afterOpening call.opens?) := by
  cases call with
  | openOutputStream device halDevice answers =>
      simp only [StreamCall.opens?]
      by_cases hconvertible : (!answers.convertible) = true
      · rw [if_pos hconvertible]
        exact h
      · rw [if_neg hconvertible]
        by_cases hok : answers.status = OK
        · rw [if_pos hok]
          exact h.beginStream (hfresh.1 hok) ⟨rfl, rfl⟩
            (Stream.closed_new majorVersion .output device answers.halStream)
        · rw [if_neg hok]
          split
          · cases hcalloc : answers.calloc with
            | none => exact h
            | some address =>
                exact h.beginStream (hfresh.2 hok address hcalloc) rfl
                  (Stream.closed_new majorVersion .output device address)
          · exact h
  | openInputStream device answers =>
      simp only [StreamCall.opens?]
      by_cases hok : answers.convertible ∧ answers.status = OK
      · rw [if_pos hok]
        exact h.beginStream (hfresh hok.2) ⟨rfl, rfl⟩
          (Stream.closed_new majorVersion .input device answers.halStream)
      · rw [if_neg hok]
        exact h
  | close _ => exact h
  | destroyStream _ => exact h
  | closeDevice _ _ => exact h
  | destroyDevice _ _ => exact h

theorem doClose_sat (h : Accounted majorVersion s) (device : DeviceId)
    (status : Int) :
    Sat (doClose device status)
      (fun r after => Accounted majorVersion after ∧
        (s.Idle majorVersion device ->
          after = s.deviceClosed device ∧ r = analyzeStatus status) ∧
        (¬s.Idle majorVersion device -> after = s ∧ r = .invalidState))
      (fun _ _ => False) s := by
  have hcount := h.count device
  unfold doClose
  rw [sat_bind, sat_get, sat_ite]
  constructor
  · intro hrefused
    refine ⟨h, ?_, fun _ => ⟨rfl, rfl⟩⟩
    intro hidle
    rw [hidle.2] at hcount
    rcases hrefused with hclosed | hopen
    · rw [hidle.1] at hclosed
      cases hclosed
    · exact absurd hcount hopen
  · intro hidle
    rw [not_or, Bool.not_eq_true, not_not] at hidle
    refine ⟨h.closeDevice hidle.1 hidle.2, fun _ => ⟨rfl, rfl⟩, ?_⟩
    intro hbusy
    rw [hidle.2] at hcount
    exact absurd ⟨hidle.1, by lia⟩ hbusy

theorem close_sat (h : Accounted majorVersion s) (stream : StreamId) :
    Sat (close majorVersion stream)
      (fun r after => Accounted majorVersion after ∧
        Performed majorVersion s (.close stream) r after)
      (fun abort _ => abort = .noObject ∧ ¬Present s (.close stream)) s := by
  unfold close
  apply (streamAt_sat stream s).bind
  intro st t ht
  rcases ht with ⟨hsame, hst, _⟩
  rw [hsame, sat_ite]
  constructor
  · intro hstopped
    refine ⟨h, ?_, ?_, ?_⟩
    · apply (modify_eq_self hst _).symm
      rw [← hstopped]
    · intro hversion
      apply h.hasEnded hst
      unfold Stream.closed
      rw [if_pos hversion]
      exact hstopped
    · rw [hst]
      simp [hstopped]
  · intro hrunning
    have hreply : Result.ok = .ok <->
        s.streams[stream]?.map Stream.mStopThread = some false := by
      rw [hst]
      simpa using hrunning
    rw [sat_bind, sat_modify, sat_ite]
    constructor
    · intro hversion
      have hopen : st.closed majorVersion = false := by
        unfold Stream.closed
        rw [if_pos hversion]
        simpa using hrunning
      rcases h.closable hst hopen with
        ⟨object, hobject, hmatches, hheap, hstub, hcount⟩
      have hend : Sat (closeHalStream st)
          (fun _ after => after =
            (s.setStream stream fun st => { st with mStopThread := true }).ended st
              (object.ending stream))
          (fun _ _ => False)
          (s.setStream stream fun st => { st with mStopThread := true }) :=
        closeHalStream_sat hmatches hheap hstub hcount
      rw [sat_bind]
      apply hend.total
      intro _ after hafter
      rw [sat_pure, hafter]
      have hclosed : ({ st with mStopThread := true } : Stream).closed majorVersion =
          true := by
        unfold Stream.closed
        rw [if_pos hversion]
      have hdone : Accounted majorVersion
          ((s.setStream stream fun st => { st with mStopThread := true }).ended st
            (object.ending stream)) :=
        h.endStream hst hopen hobject rfl rfl hclosed
      refine ⟨hdone, rfl, fun _ => ?_, hreply⟩
      exact hdone.hasEnded ((getElem?_modify_iff hst).mpr (.inl ⟨rfl, rfl⟩)) hclosed
    · intro hversion
      refine ⟨?_, rfl, fun h => absurd h hversion, hreply⟩
      apply h.setStream hst
      constructor
      · rfl
      · rfl
      · rfl
      · unfold Stream.closed
        rw [if_neg hversion, if_neg hversion]

theorem destroyStream_sat (h : Accounted majorVersion s) (stream : StreamId)
    (r : Result) :
    Sat (destroyStream majorVersion stream)
      (fun _ after => Accounted majorVersion after ∧
        Performed majorVersion s (.destroyStream stream) r after)
      (fun abort _ => abort = .noObject ∧ ¬Present s (.destroyStream stream)) s := by
  unfold destroyStream
  apply (streamAt_sat stream s).bind
  intro st t ht
  rcases ht with ⟨hsame, hst, hdestroyed⟩
  rw [hsame]
  apply (close_sat h stream).bind
  intro _ u hu
  rcases hu with ⟨hclose, hstopped, _⟩
  have hst' : u.streams[stream]? = some { st with mStopThread := true } := by
    rw [hstopped]
    exact (getElem?_modify_iff hst).mpr (.inl ⟨rfl, rfl⟩)
  have hflags : (u.streams.modify stream fun st => { st with destroyed := true }) =
      s.streams.modify stream
        fun st => { st with mStopThread := true, destroyed := true } := by
    rw [hstopped, List.modify_modify_eq]
    rfl
  have hlast : (u.streams.modify stream
      fun st => { st with destroyed := true })[stream]? =
        some { st with mStopThread := true, destroyed := true } :=
    (getElem?_modify_iff hst').mpr (.inl ⟨rfl, rfl⟩)
  have hclosed : ({ st with mStopThread := true, destroyed := true } : Stream).closed
      majorVersion = true := by
    unfold Stream.closed
    split <;> rfl
  rw [sat_ite]
  constructor
  · intro hversion
    have hnot : ¬6 <= majorVersion := by
      lia
    have hopen : ({ st with mStopThread := true } : Stream).closed majorVersion =
        false := by
      unfold Stream.closed
      rw [if_neg hnot]
      exact hdestroyed
    rcases hclose.closable hst' hopen with
      ⟨object, hobject, hmatches, hheap, hstub, hcount⟩
    have hend : Sat (closeHalStream st)
        (fun _ after => after = u.ended st (object.ending stream))
        (fun _ _ => False) u :=
      closeHalStream_sat hmatches hheap hstub hcount
    rw [sat_bind]
    apply hend.total
    intro _ after hafter
    rw [sat_modify, hafter]
    have hdone : Accounted majorVersion
        ((u.setStream stream fun st => { st with destroyed := true }).ended
          { st with mStopThread := true } (object.ending stream)) :=
      hclose.endStream hst' hopen hobject rfl rfl hclosed
    exact ⟨hdone, hflags, hdone.hasEnded hlast hclosed⟩
  · intro hversion
    have hrecent : 6 <= majorVersion := by
      lia
    have hdone : Accounted majorVersion
        (u.setStream stream fun st => { st with destroyed := true }) := by
      apply hclose.setStream hst'
      constructor
      · rfl
      · rfl
      · rfl
      · unfold Stream.closed
        rw [if_pos hrecent, if_pos hrecent]
    exact ⟨hdone, hflags, hdone.hasEnded hlast hclosed⟩

/-!
# Any calls in any order
-/

theorem execStreams_sat (h : Accounted majorVersion s) (call : StreamCall)
    (hfresh : Fresh s call) :
    Sat (execStreams majorVersion call)
      (fun r after => Accounted majorVersion after ∧
        Performed majorVersion s call r after)
      (fun abort _ => abort = .noObject ∧ ¬Present s call) s := by
  cases call with
  | openOutputStream device halDevice answers =>
      apply ((openOutputStreamCore_sat device halDevice answers s).total
        fun _ _ hdone => hdone).bind
      intro r after hdone
      refine ⟨?_, hdone⟩
      rw [hdone.1]
      exact h.afterOpening hfresh
  | openInputStream device answers =>
      apply ((openInputStreamCore_sat device answers s).total
        fun _ _ hdone => hdone).bind
      intro r after hdone
      refine ⟨?_, hdone⟩
      rw [hdone.1]
      exact h.afterOpening hfresh
  | close stream => exact close_sat h stream
  | destroyStream stream =>
      apply (destroyStream_sat h stream .ok).bind
      intro _ _ hdone
      exact hdone
  | closeDevice device status =>
      exact (doClose_sat h device status).total fun _ _ hdone => hdone
  | destroyDevice device status =>
      apply ((doClose_sat h device status).total fun _ _ hdone => hdone).bind
      intro _ _ hdone
      exact ⟨hdone.1, fun hidle => (hdone.2.1 hidle).1, fun hbusy => (hdone.2.2 hbusy).1⟩

end Calls

/-- The account of a run of calls: it is kept, whatever the run comes to.  Each call
that returns has done what it is for, and all return if they are on streams that
are there: the assertion of the count never fails. -/
structure StreamsAccounted (majorVersion : Nat) (calls : List StreamCall) : Prop where
  accounted : Sat (run (execStreams majorVersion) calls)
    (fun _ after => Accounted majorVersion after)
    (fun abort _ => abort = .noObject) AudioService.initial
  performed : EachReply (execStreams majorVersion) (Performed majorVersion) calls
    AudioService.initial
  returns : Along (execStreams majorVersion) Present calls AudioService.initial ->
    Sat (run (execStreams majorVersion) calls) (fun _ _ => True) (fun _ _ => False)
      AudioService.initial

theorem streams_accounted (majorVersion : Nat) (calls : List StreamCall)
    (hfresh : Along (execStreams majorVersion) Fresh calls AudioService.initial) :
    StreamsAccounted majorVersion calls := by
  have hinitial := accounted_initial majorVersion
  constructor
  · have hstep : forall s call, Accounted majorVersion s -> Fresh s call ->
        Sat (execStreams majorVersion call)
          (fun _ after => Accounted majorVersion after)
          (fun abort _ => abort = .noObject) s := by
      intro s call h hcall
      exact (execStreams_sat h call hcall).mono (fun _ _ hdone => hdone.1)
        fun _ _ habort => habort.1
    exact run_sat hstep calls AudioService.initial hinitial hfresh
  · have hstep : forall s call, Accounted majorVersion s -> Fresh s call ->
        Sat (execStreams majorVersion call)
          (fun r after => Accounted majorVersion after ∧
            Performed majorVersion s call r after)
          (fun _ _ => True) s := by
      intro s call h hcall
      exact (execStreams_sat h call hcall).mono (fun _ _ hdone => hdone)
        fun _ _ _ => trivial
    exact eachReply_of_kept hstep calls AudioService.initial hinitial hfresh
  · intro hpresent
    have hstep : forall s call, Accounted majorVersion s ->
        Fresh s call ∧ Present s call ->
        Sat (execStreams majorVersion call)
          (fun _ after => Accounted majorVersion after) (fun _ _ => False) s := by
      intro s call h hcall
      exact (execStreams_sat h call hcall.1).mono (fun _ _ hdone => hdone.1)
        fun _ _ habort => habort.2 hcall.2
    exact (run_sat hstep calls AudioService.initial hinitial
      (hfresh.and hpresent)).imp fun _ _ _ => trivial

/-- A stub of a device that is freed, and a stream of the vendor at the same
address. -/
def reusedAddress : List StreamCall :=
  [.openOutputStream 0 AUDIO_DEVICE_OUT_BLUETOOTH_SCO
      { convertible := true, status := -38, halStream := 0, calloc := some 100 },
    .close 0,
    .openOutputStream 0 AUDIO_DEVICE_OUT_BLUETOOTH_SCO
      { convertible := true, status := OK, halStream := 100, calloc := none },
    .closeDevice 0 OK,
    .destroyStream 1,
    .destroyStream 0,
    .closeDevice 0 OK]

/-- The stub is freed and the stream of the vendor is closed by the vendor, each
once, and the device is closed when both have ended. -/
theorem streams_accounted_reusedAddress :
    Along (execStreams 6) Fresh reusedAddress AudioService.initial ∧
      Along (execStreams 6) Present reusedAddress AudioService.initial ∧
      StreamsAccounted 6 reusedAddress ∧
      Sat (run (execStreams 6) reusedAddress)
        (fun replies after =>
          replies = [.ok, .ok, .ok, .invalidState, .ok, .ok, .ok] ∧
          after.halEvents =
            [.opened 0 0, .free (some 0), .opened 0 1,
              .close_output_stream 0 (some 1), .close_device 0])
        (fun _ _ => False) AudioService.initial := by
  have hfresh : Along (execStreams 6) Fresh reusedAddress AudioService.initial := by
    decide +kernel
  refine ⟨hfresh, ?_, streams_accounted 6 reusedAddress hfresh, ⟨rfl, rfl⟩⟩
  decide +kernel

end Audio
end Sm7225
