import Sm7225.Audio.Prepare
import Sm7225.Audio.WorkerThread

/-!
# Transfers of data

A worker thread moves data between the queue and the vendor's stream.  It never asks
the vendor for more than its buffer holds, and the data queue takes what was read.
The status tells how much was moved, except that a failed read leaves the count of an
earlier command beside its error.
-/

namespace Sm7225
namespace Audio

open Lib

variable {C : Type}

def HalFunction.bytes : HalFunction -> Option Nat
  | .write bytes => some bytes
  | .read bytes => some bytes
  | _ => none

/-!
# Meters
-/

/-- The system, and how many bytes the vendor has moved for the command. -/
structure Metered (C : Type) where
  system : StreamSystem C
  moved : Nat

def movedBy (answers : Answers) (moved : Nat) : WorkerAt C -> Nat
  | .switch _ => 0
  | .callHal _ function =>
      if function.bytes.isSome then answers.halResult.toNat else moved
  | _ => moved

structure Transfer (C : Type) where
  worker : Worker C
  -- the commands whose reply is a number of bytes
  counts : C -> Bool
  -- the client's end of the data queue: its content, after so many bytes
  client : Nat -> Nat -> Nat

def writing : Transfer WriteCommand where
  worker := WriteThread.worker
  counts := fun command => command = .write
  client := fun dataMQ bytes => dataMQ + bytes

def ReadCommand.isRead : ReadCommand -> Bool
  | .read _ => true
  | _ => false

def reading : Transfer ReadCommand where
  worker := ReadThread.worker
  counts := ReadCommand.isRead
  client := fun dataMQ bytes => dataMQ - bytes

def Transfer.clientStep (transfer : Transfer C) (s : StreamSystem C) :
    StreamStep C -> StreamStep C
  | .data bytes => .data (transfer.client s.desk.dataMQ bytes)
  | step => step

def Transfer.next (transfer : Transfer C) (majorVersion : Nat) (hal : HalStream)
    (m : Metered C) (step : StreamStep C) : Metered C where
  system := m.system.step transfer.worker majorVersion hal
    (transfer.clientStep m.system step)
  moved :=
    match step with
    | .worker answers => movedBy answers m.moved m.system.worker
    | _ => m.moved

theorem Transfer.next_system (transfer : Transfer C) (majorVersion : Nat) (hal : HalStream)
    (m : Metered C) (answers : Answers) :
    (transfer.next majorVersion hal m (.worker answers)).system =
      m.system.workerStep transfer.worker hal answers := rfl

theorem Transfer.next_moved (transfer : Transfer C) (majorVersion : Nat) (hal : HalStream)
    (m : Metered C) (answers : Answers) :
    (transfer.next majorVersion hal m (.worker answers)).moved =
      movedBy answers m.moved m.system.worker := rfl

def Transfer.exec (transfer : Transfer C) (majorVersion : Nat) (hal : HalStream)
    (step : StreamStep C) : EStateM Empty (Metered C) Unit :=
  modify fun m => transfer.next majorVersion hal m step

def Metered.initial (capacity : Nat) : Metered C where
  system := StreamSystem.initial capacity
  moved := 0

/-!
# Exact steps
-/

def Status.Counts (transfer : Transfer C) (reports : Result -> Prop) (status : Status C)
    (moved : Nat) : Prop :=
  forall command, status.replyTo = some command -> transfer.counts command = true ->
    reports status.retval -> status.reply = moved

/-- What a step keeps to, with a buffer of this size.  What is queued goes for every
result of the vendor up to the requested length.  The status is right when the command is
done, and when the client gets it. -/
structure ExactStep (transfer : Transfer C) (reports : Result -> Prop) (mBuffer : Nat)
    (m : Metered C) (step : StreamStep C) (m' : Metered C) : Prop where
  asked : forall command function bytes answers,
    m.system.worker = .callHal command function -> step = .worker answers ->
      function.bytes = some bytes -> bytes <= mBuffer
  queued : forall command bytes answers,
    m.system.worker = .callHal command (.read bytes) -> step = .worker answers ->
      answers.halResult <= bytes ->
        m.system.desk.dataMQ + answers.halResult.toNat <= m.system.desk.capacity ∧
          m'.system.desk.dataMQ = m.system.desk.dataMQ + answers.halResult.toNat
  counted : m'.system.worker = .writeStatus ->
    m'.system.desk.mStatus.Counts transfer reports m'.moved
  reported : forall answers, m.system.worker = .writeStatus -> step = .worker answers ->
    m'.system.statusMQ = m.system.statusMQ ∨
      exists status, m'.system.statusMQ = [status] ∧
        status.Counts transfer reports m'.moved

/-- No read fails while the status still has a count. -/
def NoStaleCount (reports : Result -> Prop) (m : Metered C) (step : StreamStep C) : Prop :=
  forall command bytes answers, m.system.worker = .callHal command (.read bytes) ->
    step = .worker answers -> answers.halResult < 0 ->
      reports (analyzeStatus answers.halResult) -> m.system.desk.mStatus.reply = 0

/-!
# The rules of a direction
-/

structure Desk.Fits (size : Nat) (desk : Desk C) : Prop where
  capacity : desk.capacity = size
  dataMQ : desk.dataMQ <= size

structure Transfer.Rules (transfer : Transfer C)
    (Asks : Nat -> Desk C -> C -> HalFunction -> Prop) : Prop where
  begin_call : forall {size : Nat} {desk desk' : Desk C} {command : C}
    {function : HalFunction} (hal : HalStream) (answers : Answers), desk.Fits size ->
      transfer.worker.begin hal command answers desk = (some function, desk') ->
        desk'.Fits size ∧ desk'.mStatus.replyTo = desk.mStatus.replyTo ∧
          Asks size desk' command function
  begin_skip : forall {size : Nat} {desk desk' : Desk C} {command : C}
    (hal : HalStream) (answers : Answers), desk.Fits size ->
      transfer.worker.begin hal command answers desk = (none, desk') ->
        desk'.Fits size ∧ desk'.mStatus.replyTo = desk.mStatus.replyTo ∧
          (transfer.counts command = true -> desk'.mStatus.reply = 0)
  asks_bounded : forall {size bytes : Nat} {desk : Desk C} {command : C}
    {function : HalFunction}, Asks size desk command function ->
      function.bytes = some bytes -> bytes <= size
  asks_counts : forall {size : Nat} {desk : Desk C} {command : C}
    {function : HalFunction}, Asks size desk command function ->
      function.bytes.isSome = transfer.counts command
  asks_client : forall {size : Nat} {desk : Desk C} {command : C}
    {function : HalFunction} (bytes : Nat), desk.Fits size ->
      Asks size desk command function ->
        Asks size { desk with
          dataMQ := min (transfer.client desk.dataMQ bytes) desk.capacity } command function
  finish : forall {size : Nat} {desk : Desk C} {command : C} {function : HalFunction}
    (answers : Answers), desk.Fits size -> Asks size desk command function ->
      (transfer.worker.finish command answers desk).Fits size ∧
        (transfer.worker.finish command answers desk).mStatus.replyTo =
          desk.mStatus.replyTo
  finish_counts : forall {size : Nat} {desk : Desk C} {command : C}
    {function : HalFunction} (reports : Result -> Prop) (answers : Answers),
      Asks size desk command function -> transfer.counts command = true ->
        ((reports (transfer.worker.finish command answers desk).mStatus.retval ->
            (transfer.worker.finish command answers desk).mStatus.reply =
              answers.halResult.toNat) <->
          ((exists bytes, function = .read bytes) -> answers.halResult < 0 ->
            reports (analyzeStatus answers.halResult) -> desk.mStatus.reply = 0))
  finish_queues : forall {size bytes : Nat} {desk : Desk C} {command : C}
    (answers : Answers), desk.Fits size -> Asks size desk command (.read bytes) ->
      answers.halResult <= bytes ->
        desk.dataMQ + answers.halResult.toNat <= desk.capacity ∧
          (transfer.worker.finish command answers desk).dataMQ =
            desk.dataMQ + answers.halResult.toNat

def WriteThread.Asks (size : Nat) (desk : Desk WriteCommand) (command : WriteCommand)
    (function : HalFunction) : Prop :=
  match command with
  | .write => exists bytes, function = .write bytes ∧ bytes <= size ∧ desk.mStatus.reply = 0
  | _ => function.bytes = none

def ReadThread.Asks (size : Nat) (desk : Desk ReadCommand) (command : ReadCommand)
    (function : HalFunction) : Prop :=
  match command with
  | .read _ => exists bytes, function = .read bytes ∧ desk.dataMQ + bytes <= size
  | _ => function.bytes = none

theorem writing_rules : writing.Rules WriteThread.Asks where
  begin_call := by
    intro size desk desk' command function hal answers hfits h
    cases command with
    | write =>
        cases hread : answers.dataRead with
        | false => simp [writing, WriteThread.worker, WriteThread.begin, hread] at h
        | true =>
            simp only [writing, WriteThread.worker, WriteThread.begin, hread, if_true] at h
            cases h
            exact ⟨⟨hfits.capacity, Nat.zero_le size⟩, rfl, _, rfl, hfits.dataMQ, rfl⟩
    | getPresentationPosition =>
        rcases askPosition_call h with ⟨hfunction, hdesk⟩
        rw [hfunction, hdesk]
        exact ⟨hfits, rfl, rfl⟩
    | getLatency =>
        cases h
        exact ⟨⟨hfits.capacity, hfits.dataMQ⟩, rfl, rfl⟩
    | unknown code => cases h
  begin_skip := by
    intro size desk desk' command hal answers hfits h
    cases command with
    | write =>
        cases hread : answers.dataRead with
        | false =>
            simp only [writing, WriteThread.worker, WriteThread.begin, hread,
              Bool.false_eq_true, if_false] at h
            cases h
            exact ⟨⟨hfits.capacity, hfits.dataMQ⟩, rfl, fun _ => rfl⟩
        | true => simp [writing, WriteThread.worker, WriteThread.begin, hread] at h
    | getPresentationPosition =>
        rw [askPosition_skip h]
        exact ⟨⟨hfits.capacity, hfits.dataMQ⟩, rfl, fun hcounts => by cases hcounts⟩
    | getLatency => cases h
    | unknown code =>
        cases h
        exact ⟨⟨hfits.capacity, hfits.dataMQ⟩, rfl, fun hcounts => by cases hcounts⟩
  asks_bounded := by
    intro size bytes desk command function h hbytes
    cases command with
    | write =>
        rcases h with ⟨asked, hfunction, hle, _⟩
        rw [hfunction] at hbytes
        cases hbytes
        exact hle
    | _ => cases h.symm.trans hbytes
  asks_counts := by
    intro size desk command function h
    cases command with
    | write =>
        rcases h with ⟨asked, hfunction, _, _⟩
        rw [hfunction]
        rfl
    | _ =>
        have hnone : function.bytes = none := h
        rw [hnone]
        rfl
  asks_client := by
    intro size desk command function bytes _ h
    cases command with
    | write => exact h
    | _ => exact h
  finish := by
    intro size desk command function answers hfits _
    cases command with
    | write =>
        by_cases hresult : 0 <= answers.halResult
        · simp only [writing, WriteThread.worker, WriteThread.finish, if_pos hresult]
          exact ⟨⟨hfits.capacity, hfits.dataMQ⟩, rfl⟩
        · simp only [writing, WriteThread.worker, WriteThread.finish, if_neg hresult]
          exact ⟨⟨hfits.capacity, hfits.dataMQ⟩, rfl⟩
    | getPresentationPosition => exact ⟨⟨hfits.capacity, hfits.dataMQ⟩, rfl⟩
    | getLatency => exact ⟨⟨hfits.capacity, hfits.dataMQ⟩, rfl⟩
    | unknown code => exact ⟨hfits, rfl⟩
  finish_counts := by
    intro size desk command function reports answers h hcounts
    cases command with
    | write =>
        rcases h with ⟨asked, hfunction, _, hreply⟩
        have hread : ¬ exists bytes, function = .read bytes := by
          rintro ⟨bytes, hbytes⟩
          cases hfunction.symm.trans hbytes
        apply iff_of_true
        · intro _
          by_cases hresult : 0 <= answers.halResult
          · simp only [writing, WriteThread.worker, WriteThread.finish, if_pos hresult]
            exact (Int.toNat_of_nonneg hresult).symm
          · simp only [writing, WriteThread.worker, WriteThread.finish, if_neg hresult]
            show desk.mStatus.reply = answers.halResult.toNat
            rw [hreply, Int.toNat_of_nonpos (by lia)]
            rfl
        · intro hexists
          exact absurd hexists hread
    | _ => cases hcounts
  finish_queues := by
    intro size bytes desk command answers _ h _
    cases command with
    | write =>
        rcases h with ⟨asked, hfunction, _⟩
        cases hfunction
    | _ => cases h

theorem reading_rules : reading.Rules ReadThread.Asks where
  begin_call := by
    intro size desk desk' command function hal answers hfits h
    cases command with
    | read requestedToRead =>
        cases h
        refine ⟨hfits, rfl, _, rfl, ?_⟩
        have hcapacity := hfits.capacity
        have hdata := hfits.dataMQ
        lia
    | getCapturePosition =>
        rcases askPosition_call h with ⟨hfunction, hdesk⟩
        rw [hfunction, hdesk]
        exact ⟨hfits, rfl, rfl⟩
    | unknown code => cases h
  begin_skip := by
    intro size desk desk' command hal answers hfits h
    cases command with
    | read requestedToRead => cases h
    | getCapturePosition =>
        rw [askPosition_skip h]
        exact ⟨⟨hfits.capacity, hfits.dataMQ⟩, rfl, fun hcounts => by cases hcounts⟩
    | unknown code =>
        cases h
        exact ⟨⟨hfits.capacity, hfits.dataMQ⟩, rfl, fun hcounts => by cases hcounts⟩
  asks_bounded := by
    intro size bytes desk command function h hbytes
    cases command with
    | read requestedToRead =>
        rcases h with ⟨asked, hfunction, hle⟩
        rw [hfunction] at hbytes
        cases hbytes
        exact le_trans (Nat.le_add_left _ _) hle
    | _ => cases h.symm.trans hbytes
  asks_counts := by
    intro size desk command function h
    cases command with
    | read requestedToRead =>
        rcases h with ⟨asked, hfunction, _⟩
        rw [hfunction]
        rfl
    | _ =>
        have hnone : function.bytes = none := h
        rw [hnone]
        rfl
  asks_client := by
    intro size desk command function bytes _ h
    cases command with
    | read requestedToRead =>
        rcases h with ⟨asked, hfunction, hle⟩
        refine ⟨asked, hfunction, ?_⟩
        show min (desk.dataMQ - bytes) desk.capacity + asked <= size
        lia
    | _ => exact h
  finish := by
    intro size desk command function answers hfits _
    cases command with
    | read requestedToRead =>
        simp only [reading, ReadThread.worker, ReadThread.finish]
        split
        · split
          · next hspace =>
              refine ⟨⟨hfits.capacity, ?_⟩, rfl⟩
              rw [← hfits.capacity]
              exact hspace
          · exact ⟨⟨hfits.capacity, hfits.dataMQ⟩, rfl⟩
        · exact ⟨⟨hfits.capacity, hfits.dataMQ⟩, rfl⟩
    | getCapturePosition => exact ⟨⟨hfits.capacity, hfits.dataMQ⟩, rfl⟩
    | unknown code => exact ⟨hfits, rfl⟩
  finish_counts := by
    intro size desk command function reports answers h hcounts
    cases command with
    | read requestedToRead =>
        rcases h with ⟨asked, hfunction, _⟩
        simp only [reading, ReadThread.worker, ReadThread.finish]
        by_cases hresult : 0 <= answers.halResult
        · apply iff_of_true
          · intro _
            rw [if_pos hresult]
            split
            · exact (Int.toNat_of_nonneg hresult).symm
            · exact (Int.toNat_of_nonneg hresult).symm
          · intro _ hnegative
            exact absurd hresult (not_le.mpr hnegative)
        · rw [if_neg hresult, Int.toNat_of_nonpos (by lia)]
          constructor
          · intro hreply _ _ hreports
            exact hreply hreports
          · intro hstale hreports
            exact hstale ⟨asked, hfunction⟩ (not_le.mp hresult) hreports
    | _ => cases hcounts
  finish_queues := by
    intro size bytes desk command answers hfits h hresult
    cases command with
    | read requestedToRead =>
        rcases h with ⟨asked, hfunction, hle⟩
        cases hfunction
        have hspace : desk.dataMQ + answers.halResult.toNat <= desk.capacity := by
          rw [hfits.capacity]
          lia
        refine ⟨hspace, ?_⟩
        simp only [reading, ReadThread.worker, ReadThread.finish]
        by_cases hnonneg : 0 <= answers.halResult
        · rw [if_pos hnonneg, if_pos hspace]
        · rw [if_neg hnonneg, Int.toNat_of_nonpos (by lia)]
          rfl
    | _ => cases h

/-!
# The steps of the other parties
-/

/-- The thread stays where it is, or starts, and the status is left alone. -/
structure Undisturbed (s t : StreamSystem C) : Prop where
  worker : t.worker = s.worker ∨ t.worker = .testStop
  desk : t.desk = s.desk

section Others

variable {s : StreamSystem C}

theorem Undisturbed.refl (s : StreamSystem C) : Undisturbed s s := ⟨Or.inl rfl, rfl⟩

theorem closerStep_undisturbed (majorVersion : Nat) (hal : HalStream) :
    Undisturbed s (s.closerStep majorVersion hal) := by
  unfold StreamSystem.closerStep
  cases s.closer with
  | testStop destructor =>
      dsimp only
      split
      · exact ⟨Or.inl rfl, rfl⟩
      · exact ⟨Or.inl rfl, rfl⟩
  | wake destructor =>
      dsimp only
      split
      · exact ⟨Or.inl rfl, rfl⟩
      · exact ⟨Or.inl rfl, rfl⟩
  | join =>
      dsimp only
      split
      · exact ⟨Or.inl rfl, rfl⟩
      · exact ⟨Or.inl rfl, rfl⟩
      · exact Undisturbed.refl s
  | deleteEventFlag =>
      dsimp only
      split
      · exact ⟨Or.inl rfl, rfl⟩
      · exact ⟨Or.inl rfl, rfl⟩
  | _ => exact ⟨Or.inl rfl, rfl⟩

theorem step_undisturbed (worker : Worker C) (majorVersion : Nat) (hal : HalStream)
    {step : StreamStep C} (hworker : forall answers, step ≠ .worker answers)
    (hdata : forall bytes, step ≠ .data bytes) :
    Undisturbed s (s.step worker majorVersion hal step) := by
  unfold StreamSystem.step
  cases step with
  | prepare =>
      dsimp only
      split
      · exact ⟨Or.inr rfl, rfl⟩
      · exact Undisturbed.refl s
  | data bytes => exact absurd rfl (hdata bytes)
  | worker answers => exact absurd rfl (hworker answers)
  | close =>
      dsimp only
      split
      · exact ⟨Or.inl rfl, rfl⟩
      · exact Undisturbed.refl s
  | destroy =>
      dsimp only
      split
      · exact ⟨Or.inl rfl, rfl⟩
      · exact Undisturbed.refl s
  | closer => exact closerStep_undisturbed majorVersion hal
  | _ => exact ⟨Or.inl rfl, rfl⟩

end Others

/-!
# The invariant
-/

structure Transfer.Holds (transfer : Transfer C)
    (Asks : Nat -> Desk C -> C -> HalFunction -> Prop) (reports : Result -> Prop)
    (size : Nat) (m : Metered C) : Prop where
  fits : m.system.desk.Fits size
  switching : forall command, m.system.worker = .switch command ->
    m.system.desk.mStatus.replyTo = some command
  calling : forall command function, m.system.worker = .callHal command function ->
    m.system.desk.mStatus.replyTo = some command ∧
      Asks size m.system.desk command function
  counted : m.system.worker = .writeStatus ->
    m.system.desk.mStatus.Counts transfer reports m.moved

section Steps

variable {transfer : Transfer C} {Asks : Nat -> Desk C -> C -> HalFunction -> Prop}
variable {reports : Result -> Prop} {size majorVersion : Nat} {hal : HalStream}
variable {m m' : Metered C}

theorem holds_initial (transfer : Transfer C)
    (Asks : Nat -> Desk C -> C -> HalFunction -> Prop) (reports : Result -> Prop)
    (size : Nat) : transfer.Holds Asks reports size (Metered.initial size) where
  fits := ⟨rfl, Nat.zero_le size⟩
  switching := fun _ h => by cases h
  calling := fun _ _ h => by cases h
  counted := fun h => by cases h

def WorkerAt.between : WorkerAt C -> Bool
  | .switch _ => false
  | .callHal _ _ => false
  | .writeStatus => false
  | _ => true

theorem holds_between {t : StreamSystem C} (hsystem : m'.system = t)
    (hfits : t.desk.Fits size) (hbetween : t.worker.between = true) :
    transfer.Holds Asks reports size m' := by
  rw [← hsystem] at hfits hbetween
  constructor
  · exact hfits
  · intro command h
    rw [h] at hbetween
    cases hbetween
  · intro command function h
    rw [h] at hbetween
    cases hbetween
  · intro h
    rw [h] at hbetween
    cases hbetween

theorem Transfer.Holds.of_undisturbed (h : transfer.Holds Asks reports size m)
    (hsystem : Undisturbed m.system m'.system) (hmoved : m'.moved = m.moved) :
    transfer.Holds Asks reports size m' := by
  rcases hsystem with ⟨hworker | hstarted, hdesk⟩
  · constructor
    · rw [hdesk]
      exact h.fits
    · rw [hworker, hdesk]
      exact h.switching
    · rw [hworker, hdesk]
      exact h.calling
    · rw [hworker, hdesk, hmoved]
      exact h.counted
  · apply holds_between rfl
    · rw [hdesk]
      exact h.fits
    · rw [hstarted]
      rfl

theorem Transfer.Holds.others (h : transfer.Holds Asks reports size m) {step : StreamStep C}
    (hworker : forall answers, step ≠ .worker answers)
    (hdata : forall bytes, step ≠ .data bytes) :
    transfer.Holds Asks reports size (transfer.next majorVersion hal m step) := by
  have hclient : transfer.clientStep m.system step = step := by
    cases step with
    | data bytes => exact absurd rfl (hdata bytes)
    | _ => rfl
  have hmoved : (transfer.next majorVersion hal m step).moved = m.moved := by
    cases step with
    | worker answers => exact absurd rfl (hworker answers)
    | _ => rfl
  apply h.of_undisturbed _ hmoved
  show Undisturbed m.system
    (m.system.step transfer.worker majorVersion hal (transfer.clientStep m.system step))
  rw [hclient]
  exact step_undisturbed transfer.worker majorVersion hal hworker hdata

theorem Transfer.Holds.client (rules : transfer.Rules Asks)
    (h : transfer.Holds Asks reports size m) (bytes : Nat) :
    transfer.Holds Asks reports size (transfer.next majorVersion hal m (.data bytes)) where
  fits := by
    refine ⟨h.fits.capacity, ?_⟩
    rw [← h.fits.capacity]
    exact Nat.min_le_right _ _
  switching := h.switching
  calling := by
    intro command function hat
    have hcalling := h.calling command function hat
    exact ⟨hcalling.1, rules.asks_client bytes h.fits hcalling.2⟩
  counted := h.counted

theorem counts_iff_noStaleCount (rules : transfer.Rules Asks)
    (h : transfer.Holds Asks reports size m) {command : C} {function : HalFunction}
    (hat : m.system.worker = .callHal command function) (answers : Answers) :
    (transfer.worker.finish command answers m.system.desk).mStatus.Counts transfer reports
        (movedBy answers m.moved m.system.worker) <->
      NoStaleCount reports m (.worker answers) := by
  rcases h.calling command function hat with ⟨hreplyTo, hasks⟩
  have hsame := (rules.finish answers h.fits hasks).2
  have hcounts_bytes := rules.asks_counts hasks
  constructor
  · intro hcounts command' bytes answers' hat' hstep hfailed hreports
    cases hstep
    cases hat.symm.trans hat'
    have hcommand : transfer.counts command = true := hcounts_bytes.symm
    have hcounted := hcounts command (hsame.trans hreplyTo) hcommand
    rw [hat] at hcounted
    exact (rules.finish_counts reports answers hasks hcommand).mp hcounted ⟨bytes, rfl⟩
      hfailed hreports
  · intro hfresh command' hreply hcommand
    rw [hsame, hreplyTo] at hreply
    cases hreply
    rw [hat]
    have hmoved : movedBy answers m.moved (.callHal command function) =
        answers.halResult.toNat := if_pos (hcounts_bytes.trans hcommand)
    rw [hmoved]
    apply (rules.finish_counts reports answers hasks hcommand).mpr
    rintro ⟨bytes, hread⟩ hfailed hreports
    rw [hread] at hat
    exact hfresh command bytes answers hat rfl hfailed hreports

theorem Transfer.Holds.worker (rules : transfer.Rules Asks)
    (h : transfer.Holds Asks reports size m) (answers : Answers)
    (hfresh : NoStaleCount reports m (.worker answers)) :
    transfer.Holds Asks reports size
      (transfer.next majorVersion hal m (.worker answers)) := by
  have hsystem := transfer.next_system majorVersion hal m answers
  unfold StreamSystem.workerStep at hsystem
  cases hat : m.system.worker with
  | notStarted =>
      rw [hat] at hsystem
      exact holds_between hsystem h.fits (by rw [hat]; rfl)
  | testStop =>
      rw [hat] at hsystem
      dsimp only at hsystem
      split at hsystem
      · exact holds_between hsystem h.fits rfl
      · exact holds_between hsystem h.fits rfl
  | wait =>
      rw [hat] at hsystem
      dsimp only at hsystem
      split at hsystem
      · exact holds_between hsystem h.fits rfl
      · exact holds_between hsystem h.fits rfl
  | readCommand =>
      rw [hat] at hsystem
      dsimp only at hsystem
      cases hqueue : m.system.commandMQ with
      | nil =>
          rw [hqueue] at hsystem
          exact holds_between hsystem h.fits rfl
      | cons command rest =>
          rw [hqueue] at hsystem
          constructor
          · rw [hsystem]
            exact ⟨h.fits.capacity, h.fits.dataMQ⟩
          · intro command' hswitch
            rw [hsystem] at hswitch ⊢
            cases hswitch
            rfl
          · intro command' function hcall
            rw [hsystem] at hcall
            cases hcall
          · intro hstatus
            rw [hsystem] at hstatus
            cases hstatus
  | switch command =>
      rw [hat] at hsystem
      dsimp only at hsystem
      have hreplyTo := h.switching command hat
      rcases hbegin : transfer.worker.begin hal command answers m.system.desk with
        ⟨call, desk⟩
      rw [hbegin] at hsystem
      cases call with
      | none =>
          rcases rules.begin_skip hal answers h.fits hbegin with ⟨hfits, hsame, hzero⟩
          constructor
          · rw [hsystem]
            exact hfits
          · intro command' hswitch
            rw [hsystem] at hswitch
            cases hswitch
          · intro command' function hcall
            rw [hsystem] at hcall
            cases hcall
          · intro _ command' hreply hcommand _
            rw [hsystem] at hreply ⊢
            cases (hsame.trans hreplyTo).symm.trans hreply
            rw [transfer.next_moved, hat]
            exact hzero hcommand
      | some function =>
          rcases rules.begin_call hal answers h.fits hbegin with ⟨hfits, hsame, hasks⟩
          constructor
          · rw [hsystem]
            exact hfits
          · intro command' hswitch
            rw [hsystem] at hswitch
            cases hswitch
          · intro command' function' hcall
            rw [hsystem] at hcall ⊢
            cases hcall
            exact ⟨hsame.trans hreplyTo, hasks⟩
          · intro hstatus
            rw [hsystem] at hstatus
            cases hstatus
  | callHal command function =>
      have hcounts := (counts_iff_noStaleCount rules h hat answers).mpr hfresh
      rw [hat] at hsystem
      have hasks := (h.calling command function hat).2
      constructor
      · rw [hsystem]
        exact (rules.finish answers h.fits hasks).1
      · intro command' hswitch
        rw [hsystem] at hswitch
        cases hswitch
      · intro command' function' hcall
        rw [hsystem] at hcall
        cases hcall
      · intro _
        rw [hsystem]
        exact hcounts
  | writeStatus =>
      rw [hat] at hsystem
      exact holds_between hsystem h.fits rfl
  | wake =>
      rw [hat] at hsystem
      exact holds_between hsystem h.fits rfl
  | exited =>
      rw [hat] at hsystem
      exact holds_between hsystem h.fits (by rw [hat]; rfl)

theorem Transfer.Holds.next (rules : transfer.Rules Asks)
    (h : transfer.Holds Asks reports size m) (step : StreamStep C)
    (hfresh : NoStaleCount reports m step) :
    transfer.Holds Asks reports size (transfer.next majorVersion hal m step) := by
  cases step with
  | worker answers => exact h.worker rules answers hfresh
  | data bytes => exact h.client rules bytes
  | _ =>
      apply h.others
      · intro answers hstep
        cases hstep
      · intro bytes hstep
        cases hstep

theorem exactStep_iff_noStaleCount (rules : transfer.Rules Asks)
    (h : transfer.Holds Asks reports size m) (step : StreamStep C) :
    ExactStep transfer reports size m step (transfer.next majorVersion hal m step) <->
      NoStaleCount reports m step := by
  constructor
  · intro hexact command bytes answers hat hstep
    rw [hstep] at hexact
    have hsystem := transfer.next_system majorVersion hal m answers
    unfold StreamSystem.workerStep at hsystem
    rw [hat] at hsystem
    have hcounted := hexact.counted (by rw [hsystem])
    rw [hsystem] at hcounted
    have hfresh := (counts_iff_noStaleCount rules h hat answers).mp hcounted
    exact hfresh command bytes answers hat rfl
  · intro hfresh
    constructor
    · intro command function bytes answers hat _ hbytes
      exact rules.asks_bounded (h.calling command function hat).2 hbytes
    · intro command bytes answers hat hstep hresult
      have hqueues := rules.finish_queues answers h.fits
        (h.calling command (.read bytes) hat).2 hresult
      refine ⟨hqueues.1, ?_⟩
      rw [hstep]
      have hsystem := transfer.next_system majorVersion hal m answers
      unfold StreamSystem.workerStep at hsystem
      rw [hat] at hsystem
      rw [hsystem]
      exact hqueues.2
    · exact (h.next rules step hfresh).counted
    · intro answers hat hstep
      rw [hstep]
      have hsystem := transfer.next_system majorVersion hal m answers
      have hmoved := transfer.next_moved majorVersion hal m answers
      unfold StreamSystem.workerStep at hsystem
      rw [hat] at hsystem hmoved
      rw [hsystem, hmoved]
      dsimp only
      split
      · exact Or.inr ⟨_, rfl, h.counted hat⟩
      · exact Or.inl rfl

end Steps

/-!
# Runs
-/

/-- The sizes of the queues are exact, and so is every step on them. -/
structure Exact (transfer : Transfer C)
    (prepare : Option StreamQueues -> UInt32 -> UInt32 -> PrepareAnswers ->
      Except Result StreamQueues)
    (reports : Result -> Prop) (frameSize framesCount : UInt32) (majorVersion : Nat)
    (hal : HalStream) (steps : List (StreamStep C)) : Prop where
  sizes : SizesExact prepare frameSize framesCount
  steps : forall queues, prepare none frameSize framesCount creatable = .ok queues ->
    EachReply (transfer.exec majorVersion hal)
      (fun m step _ m' => ExactStep transfer reports queues.mBuffer m step m') steps
      (Metered.initial queues.mDataMQ)

section Runs

variable {transfer : Transfer C} {Asks : Nat -> Desk C -> C -> HalFunction -> Prop}
variable {frameSize framesCount : UInt32}

theorem sat_exec {majorVersion : Nat} {hal : HalStream} {step : StreamStep C}
    {m : Metered C} {Q : Unit -> Metered C -> Prop} {E : Empty -> Metered C -> Prop} :
    Sat (transfer.exec majorVersion hal step) Q E m <->
      Q () (transfer.next majorVersion hal m step) := Iff.rfl

theorem exactSteps_iff (rules : transfer.Rules Asks) (reports : Result -> Prop)
    (size majorVersion : Nat) (hal : HalStream) (steps : List (StreamStep C)) :
    EachReply (transfer.exec majorVersion hal)
        (fun m step _ m' => ExactStep transfer reports size m step m') steps
        (Metered.initial size) <->
      Along (transfer.exec majorVersion hal) (NoStaleCount reports) steps
        (Metered.initial size) := by
  apply eachReply_iff_along_of_kept (I := transfer.Holds Asks reports size)
  · intro m step h
    rw [sat_exec]
    exact exactStep_iff_noStaleCount rules h step
  · intro m step h hfresh
    rw [sat_exec]
    exact h.next rules step hfresh
  · exact holds_initial transfer Asks reports size

theorem exact_iff (rules : transfer.Rules Asks) (reports : Result -> Prop)
    (frameSize framesCount : UInt32) (majorVersion : Nat) (hal : HalStream)
    (steps : List (StreamStep C)) :
    Exact transfer prepareQueues reports frameSize framesCount majorVersion hal steps <->
      ¬ Oversized frameSize framesCount ∧
        forall queues, prepareQueues none frameSize framesCount creatable = .ok queues ->
          Along (transfer.exec majorVersion hal) (NoStaleCount reports) steps
            (Metered.initial queues.mDataMQ) := by
  have hsteps : forall queues,
      prepareQueues none frameSize framesCount creatable = .ok queues ->
        (EachReply (transfer.exec majorVersion hal)
            (fun m step _ m' => ExactStep transfer reports queues.mBuffer m step m') steps
            (Metered.initial queues.mDataMQ) <->
          Along (transfer.exec majorVersion hal) (NoStaleCount reports) steps
            (Metered.initial queues.mDataMQ)) := by
    intro queues hqueues
    rw [((prepareQueues_eq_ok_iff frameSize framesCount queues).mp hqueues).2]
    exact exactSteps_iff rules reports _ majorVersion hal steps
  constructor
  · intro h
    refine ⟨(sizesExact_iff frameSize framesCount).mp h.sizes, ?_⟩
    intro queues hqueues
    exact (hsteps queues hqueues).mp (h.steps queues hqueues)
  · rintro ⟨hsize, halong⟩
    refine ⟨(sizesExact_iff frameSize framesCount).mpr hsize, ?_⟩
    intro queues hqueues
    exact (hsteps queues hqueues).mpr (halong queues hqueues)

theorem writing_noStaleCount (reports : Result -> Prop) (size majorVersion : Nat)
    (hal : HalStream) (steps : List (StreamStep WriteCommand)) :
    Along (writing.exec majorVersion hal) (NoStaleCount reports) steps
      (Metered.initial size) := by
  have hfresh : forall m step, writing.Holds WriteThread.Asks reports size m ->
      NoStaleCount reports m step := by
    intro m step h command bytes answers hat
    have hasks := (h.calling command (.read bytes) hat).2
    cases command with
    | write =>
        rcases hasks with ⟨asked, hfunction, _⟩
        cases hfunction
    | _ => cases hasks
  apply along_of_kept hfresh
  · intro m step h
    rw [sat_exec]
    exact h.next writing_rules step (hfresh m step h)
  · exact holds_initial writing WriteThread.Asks reports size

theorem noStaleCount_ok (m : Metered C) (step : StreamStep C) :
    NoStaleCount (fun result => result = .ok) m step := by
  intro command bytes answers _ _ hfailed hok
  exact absurd hok (analyzeStatus_ne_ok (ne_of_lt hfailed))

end Runs

/-- Both directions are exact if and only if the size is not between one and two GiB, and
no read fails with a count left from an earlier command, if such a status counts. -/
theorem queues_exact_iff (frameSize framesCount : UInt32) (majorVersion : Nat)
    (hal : HalStream) (writes : List (StreamStep WriteCommand))
    (reads : List (StreamStep ReadCommand)) :
    (forall reports : Result -> Prop,
      (Exact writing prepareForWriting reports frameSize framesCount majorVersion hal writes <->
        ¬ Oversized frameSize framesCount)) ∧
    (Exact reading prepareForReading (fun result => result = .ok) frameSize framesCount
        majorVersion hal reads <->
      ¬ Oversized frameSize framesCount) ∧
    forall reports : Result -> Prop,
      (Exact reading prepareForReading reports frameSize framesCount majorVersion hal reads <->
        ¬ Oversized frameSize framesCount ∧
          forall queues, prepareForReading none frameSize framesCount creatable = .ok queues ->
            Along (reading.exec majorVersion hal) (NoStaleCount reports) reads
              (Metered.initial queues.mDataMQ)) := by
  refine ⟨?_, ?_, ?_⟩
  · intro reports
    have hexact := exact_iff writing_rules reports frameSize framesCount majorVersion hal writes
    constructor
    · intro h
      exact (hexact.mp h).1
    · intro hsize
      exact hexact.mpr ⟨hsize, fun queues _ =>
        writing_noStaleCount reports queues.mDataMQ majorVersion hal writes⟩
  · have hexact := exact_iff reading_rules (fun result => result = .ok) frameSize framesCount
      majorVersion hal reads
    constructor
    · intro h
      exact (hexact.mp h).1
    · intro hsize
      refine hexact.mpr ⟨hsize, fun queues _ => ?_⟩
      exact (along_true reads _).mono fun m step _ => noStaleCount_ok m step
  · intro reports
    exact exact_iff reading_rules reports frameSize framesCount majorVersion hal reads

/-- The vendor reads four bytes, and fails at the next read. -/
def failedRead : List (StreamStep ReadCommand) :=
  let ready := fun halResult => StreamStep.worker {
    efState := true, dataRead := true, halResult := halResult, position := 0 }
  [.prepare, .send (.read 4), .wakeWorker, ready 0, ready 0, ready 0, ready 0, ready 4,
    ready 0, ready 0, .takeStatus, .send (.read 4), .wakeWorker, ready 0, ready 0, ready 0,
    ready 0]

/-- Two GiB are accepted, and a failed read leaves the four bytes of the read before. -/
theorem twoGiB_accepted :
    ¬ Exact writing prepareForWriting (fun _ => True) 4 536870912 6
        ⟨.close_output_stream, true⟩ [] ∧
      ¬ Exact reading prepareForReading (fun result => result = .ok) 4 536870912 6
        ⟨.close_input_stream, true⟩ [] ∧
      ¬ Exact reading prepareForReading (fun _ => True) 4 2 6 ⟨.close_input_stream, true⟩
        (failedRead ++ [.worker {
          efState := true, dataRead := true, halResult := -EINVAL, position := 0 }]) := by
  have hover : Oversized 4 536870912 := ⟨by decide, by decide⟩
  refine ⟨?_, ?_, ?_⟩
  · intro h
    exact ((exact_iff writing_rules _ _ _ _ _ _).mp h).1 hover
  · intro h
    exact ((exact_iff reading_rules _ _ _ _ _ _).mp h).1 hover
  · intro h
    have halong := ((exact_iff reading_rules _ _ _ _ _ _).mp h).2 ⟨8, 8⟩ rfl
    have hfresh := (along_iff_forall _ _).mp halong failedRead _ [] _ _ rfl rfl
    have hzero := hfresh (.read 4) 4 _ rfl rfl (by decide) trivial
    cases hzero

end Audio
end Sm7225
