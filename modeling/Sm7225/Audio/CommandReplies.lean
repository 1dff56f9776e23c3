import Sm7225.Lib.Dialogue
import Sm7225.Audio.WorkerThread

/-!
# Commands and replies

A client gives commands to a worker thread through one queue and takes a status from
another; each queue has room for one entry.  The replies come in the order of the
commands, and none comes twice.  A client that takes each reply before its next command
gets exactly one for every command.
-/

namespace Sm7225
namespace Audio

open Lib

variable {C : Type}

/-!
# What a step of the thread does
-/

def StreamStep.isWorker : StreamStep C -> Bool
  | .worker _ => true
  | _ => false

inductive Moves (worker : Worker C) (hal : HalStream) (answers : Answers)
    (s : StreamSystem C) : StreamSystem C -> Prop where
  | rests (hat : s.worker = .notStarted ∨ s.worker = .exited) :
      Moves worker hal answers s s
  | exits (hat : s.worker = .testStop) (hstop : s.mStop = true) :
      Moves worker hal answers s { s with worker := .exited }
  | waits (hat : s.worker = .testStop) (hstop : s.mStop = false) :
      Moves worker hal answers s { s with worker := .wait }
  | wakes (hat : s.worker = .wait) (hflag : s.efWorker = true)
      (hstate : answers.efState = true) :
      Moves worker hal answers s { s with efWorker := false, worker := .readCommand }
  | continues (hat : s.worker = .wait)
      (hflag : s.efWorker = true -> answers.efState = false) :
      Moves worker hal answers s { s with worker := .testStop }
  | finds (hat : s.worker = .readCommand) (hqueue : s.commandMQ = []) :
      Moves worker hal answers s { s with worker := .testStop }
  | reads (command : C) (rest : List C) (hat : s.worker = .readCommand)
      (hqueue : s.commandMQ = command :: rest) :
      Moves worker hal answers s
        { s with
          commandMQ := rest
          desk := { s.desk with
            mStatus := { s.desk.mStatus with replyTo := some command } }
          worker := .switch command }
  | skips (command : C) (desk : Desk C) (hat : s.worker = .switch command)
      (hbegin : worker.begin hal command answers s.desk = (none, desk)) :
      Moves worker hal answers s { s with desk := desk, worker := .writeStatus }
  | calls (command : C) (function : HalFunction) (desk : Desk C)
      (hat : s.worker = .switch command)
      (hbegin : worker.begin hal command answers s.desk = (some function, desk)) :
      Moves worker hal answers s
        { s with desk := desk, worker := .callHal command function }
  | returns (command : C) (function : HalFunction)
      (hat : s.worker = .callHal command function) :
      Moves worker hal answers s
        { s with
          uses := s.uses ++ [.call function]
          desk := worker.finish command answers s.desk
          worker := .writeStatus }
  | reports (hat : s.worker = .writeStatus) (hroom : s.statusMQ = []) :
      Moves worker hal answers s
        { s with statusMQ := [s.desk.mStatus], worker := .wake }
  | loses (hat : s.worker = .writeStatus) (hroom : s.statusMQ ≠ []) :
      Moves worker hal answers s { s with worker := .wake }
  | signals (hat : s.worker = .wake) :
      Moves worker hal answers s { s with efClient := true, worker := .testStop }

theorem workerStep_moves (worker : Worker C) (hal : HalStream) (answers : Answers)
    (s : StreamSystem C) :
    Moves worker hal answers s (s.workerStep worker hal answers) := by
  rcases s with ⟨mStop, commandMQ, statusMQ, desk, efWorker, efClient, phase, closer, uses⟩
  cases phase with
  | notStarted => exact .rests (Or.inl rfl)
  | testStop =>
      cases mStop with
      | true => exact .exits rfl rfl
      | false => exact .waits rfl rfl
  | wait =>
      unfold StreamSystem.workerStep
      dsimp only
      split
      · next hboth =>
          have hflags := Bool.and_eq_true_iff.mp hboth
          exact .wakes rfl hflags.1 hflags.2
      · next hboth =>
          apply Moves.continues rfl
          intro hflag
          apply Bool.eq_false_iff.mpr
          intro hstate
          exact hboth (Bool.and_eq_true_iff.mpr ⟨hflag, hstate⟩)
  | readCommand =>
      cases commandMQ with
      | nil => exact .finds rfl rfl
      | cons command rest => exact .reads command rest rfl rfl
  | switch command =>
      unfold StreamSystem.workerStep
      dsimp only
      cases hbegin : worker.begin hal command answers desk with
      | mk call desk' =>
          cases call with
          | none => exact .skips command desk' rfl hbegin
          | some function => exact .calls command function desk' rfl hbegin
  | callHal command function => exact .returns command function rfl
  | writeStatus =>
      cases statusMQ with
      | nil => exact .reports rfl rfl
      | cons status rest => exact .loses rfl (List.cons_ne_nil status rest)
  | wake => exact .signals rfl
  | exited => exact .rests (Or.inr rfl)

/-!
# The client's side
-/

/-- The system, and what the client has put into one queue and taken from the other. -/
structure Exchange (C : Type) where
  system : StreamSystem C
  sent : List C
  replies : List (Status C)
  -- the client has woken the thread since its last command
  woken : Bool

namespace Exchange

def initial (capacity : Nat) : Exchange C where
  system := StreamSystem.initial capacity
  sent := []
  replies := []
  woken := true

def next (worker : Worker C) (majorVersion : Nat) (hal : HalStream) (x : Exchange C)
    (step : StreamStep C) : Exchange C where
  system := x.system.step worker majorVersion hal step
  sent :=
    match step with
    | .send command => if x.system.commandMQ.isEmpty then x.sent ++ [command] else x.sent
    | _ => x.sent
  replies :=
    match step with
    | .takeStatus => x.replies ++ x.system.statusMQ.take 1
    | _ => x.replies
  woken :=
    match step with
    | .send _ => if x.system.commandMQ.isEmpty then false else x.woken
    | .wakeWorker => true
    | _ => x.woken

def exec (worker : Worker C) (majorVersion : Nat) (hal : HalStream) (step : StreamStep C) :
    EStateM Empty (Exchange C) Unit :=
  modify fun x => x.next worker majorVersion hal step

end Exchange

def StreamSystem.inHand (s : StreamSystem C) : List (Option C) :=
  match s.worker with
  | .switch command => [some command]
  | .callHal command _ => [some command]
  | .writeStatus => [s.desk.mStatus.replyTo]
  | _ => []

def Exchange.dialogue (x : Exchange C) : Dialogue (Option C) where
  asked := x.sent.map some
  unanswered := x.system.inHand ++ x.system.commandMQ.map some
  ready := x.system.statusMQ.map Status.replyTo
  taken := x.replies.map Status.replyTo

/-!
# The exchange is a dialogue
-/

structure Worker.KeepsReplyTo (worker : Worker C) : Prop where
  begin : forall hal command answers desk,
    (worker.begin hal command answers desk).2.mStatus.replyTo = desk.mStatus.replyTo
  finish : forall command answers desk,
    (worker.finish command answers desk).mStatus.replyTo = desk.mStatus.replyTo

theorem WriteThread.keepsReplyTo : WriteThread.worker.KeepsReplyTo where
  begin := by
    intro hal command answers desk
    cases command with
    | write =>
        show (WriteThread.begin hal .write answers desk).2.mStatus.replyTo = _
        unfold WriteThread.begin
        dsimp only
        split
        · rfl
        · rfl
    | getPresentationPosition =>
        exact askPosition_replyTo hal .get_presentation_position desk
    | getLatency => rfl
    | unknown code => rfl
  finish := by
    intro command answers desk
    cases command with
    | write =>
        show (WriteThread.finish .write answers desk).mStatus.replyTo = _
        unfold WriteThread.finish
        dsimp only
        split
        · rfl
        · rfl
    | getPresentationPosition => rfl
    | getLatency => rfl
    | unknown code => rfl

theorem ReadThread.keepsReplyTo : ReadThread.worker.KeepsReplyTo where
  begin := by
    intro hal command answers desk
    cases command with
    | read requestedToRead => rfl
    | getCapturePosition =>
        exact askPosition_replyTo hal .get_capture_position desk
    | unknown code => rfl
  finish := by
    intro command answers desk
    cases command with
    | read requestedToRead =>
        show (ReadThread.finish (.read requestedToRead) answers desk).mStatus.replyTo = _
        unfold ReadThread.finish
        dsimp only
        split
        · split
          · rfl
          · rfl
        · rfl
    | getCapturePosition => rfl
    | unknown code => rfl

def StreamSystem.Named (s : StreamSystem C) : Prop :=
  forall command, s.inHand = [some command] -> s.desk.mStatus.replyTo = some command

section Steps

variable {worker : Worker C} {majorVersion : Nat} {hal : HalStream} {answers : Answers}
variable {s t : StreamSystem C}

theorem inHand_of_at {phase : WorkerAt C} (hat : s.worker = phase) :
    s.inHand = { s with worker := phase }.inHand := by
  rw [← hat]

theorem Moves.named (hworker : worker.KeepsReplyTo) (h : Moves worker hal answers s t)
    (hs : s.Named) : t.Named := by
  intro command hcommand
  cases h with
  | rests hat => exact hs command hcommand
  | exits hat hstop => cases hcommand
  | waits hat hstop => cases hcommand
  | wakes hat hflag hstate => cases hcommand
  | continues hat hflag => cases hcommand
  | finds hat hqueue => cases hcommand
  | reads first rest hat hqueue =>
      cases hcommand
      rfl
  | skips first desk hat hbegin => exact List.singleton_inj.mp hcommand
  | calls first function desk hat hbegin =>
      have hkept := hworker.begin hal first answers s.desk
      rw [hbegin] at hkept
      rw [hkept]
      apply hs
      rw [inHand_of_at hat]
      exact hcommand
  | returns first function hat => exact List.singleton_inj.mp hcommand
  | reports hat hroom => cases hcommand
  | loses hat hroom => cases hcommand
  | signals hat => cases hcommand

theorem dialogue_stay {x y : Exchange C} (hsent : y.sent = x.sent)
    (hreplies : y.replies = x.replies) (hstatus : y.system.statusMQ = x.system.statusMQ)
    (hpending : y.system.inHand ++ y.system.commandMQ.map some =
      x.system.inHand ++ x.system.commandMQ.map some) :
    Dialogue.Step x.dialogue y.dialogue := by
  have hsame : y.dialogue = x.dialogue := by
    unfold Exchange.dialogue
    rw [hsent, hreplies, hstatus, hpending]
  rw [hsame]
  exact .stay

theorem Moves.dialogue (hworker : worker.KeepsReplyTo) {x : Exchange C}
    (h : Moves worker hal answers x.system t) (hnamed : x.system.Named) :
    Dialogue.Step x.dialogue { x with system := t }.dialogue := by
  have hhand : forall {phase : WorkerAt C}, x.system.worker = phase ->
      x.system.inHand = { x.system with worker := phase }.inHand :=
    fun hat => inHand_of_at hat
  cases h with
  | rests hat => exact .stay
  | exits hat hstop =>
      refine dialogue_stay rfl rfl rfl ?_
      rw [hhand hat]
      rfl
  | waits hat hstop =>
      refine dialogue_stay rfl rfl rfl ?_
      rw [hhand hat]
      rfl
  | wakes hat hflag hstate =>
      refine dialogue_stay rfl rfl rfl ?_
      rw [hhand hat]
      rfl
  | continues hat hflag =>
      refine dialogue_stay rfl rfl rfl ?_
      rw [hhand hat]
      rfl
  | finds hat hqueue =>
      refine dialogue_stay rfl rfl rfl ?_
      rw [hhand hat]
      rfl
  | reads command rest hat hqueue =>
      refine dialogue_stay rfl rfl rfl ?_
      rw [hhand hat, hqueue]
      rfl
  | skips command desk hat hbegin =>
      refine dialogue_stay rfl rfl rfl ?_
      have hkept := hworker.begin hal command answers x.system.desk
      rw [hbegin, hnamed command (hhand hat)] at hkept
      rw [hhand hat]
      show desk.mStatus.replyTo :: x.system.commandMQ.map some =
        some command :: x.system.commandMQ.map some
      rw [← hkept]
  | calls command function desk hat hbegin =>
      refine dialogue_stay rfl rfl rfl ?_
      rw [hhand hat]
      rfl
  | returns command function hat =>
      refine dialogue_stay rfl rfl rfl ?_
      have hkept := hworker.finish command answers x.system.desk
      rw [hnamed command (hhand hat)] at hkept
      rw [hhand hat]
      show (worker.finish command answers x.system.desk).mStatus.replyTo ::
        x.system.commandMQ.map some = some command :: x.system.commandMQ.map some
      rw [hkept]
  | reports hat hroom =>
      have hhead : x.dialogue.unanswered =
          x.system.desk.mStatus.replyTo :: x.system.commandMQ.map some := by
        show x.system.inHand ++ _ = _
        rw [hhand hat]
        rfl
      have hempty : x.dialogue.ready = [] := by
        show x.system.statusMQ.map Status.replyTo = []
        rw [hroom]
        rfl
      exact .answer _ _ hhead hempty
  | loses hat hroom =>
      have hhead : x.dialogue.unanswered =
          x.system.desk.mStatus.replyTo :: x.system.commandMQ.map some := by
        show x.system.inHand ++ _ = _
        rw [hhand hat]
        rfl
      exact .lose _ _ hhead (mt List.map_eq_nil_iff.mp hroom)
  | signals hat =>
      refine dialogue_stay rfl rfl rfl ?_
      rw [hhand hat]
      rfl

structure Leaves (s t : StreamSystem C) : Prop where
  commandMQ : t.commandMQ = s.commandMQ
  statusMQ : t.statusMQ = s.statusMQ
  desk : t.desk = s.desk
  worker : t.worker = s.worker
  efWorker : s.efWorker = true -> t.efWorker = true

theorem leaves_refl (s : StreamSystem C) : Leaves s s := ⟨rfl, rfl, rfl, rfl, id⟩

theorem closerStep_leaves (majorVersion : Nat) (hal : HalStream) (s : StreamSystem C) :
    Leaves s (s.closerStep majorVersion hal) := by
  unfold StreamSystem.closerStep
  cases s.closer with
  | idle => exact leaves_refl s
  | testStop destructor =>
      dsimp only
      split
      · exact ⟨rfl, rfl, rfl, rfl, id⟩
      · exact ⟨rfl, rfl, rfl, rfl, id⟩
  | storeStop destructor => exact ⟨rfl, rfl, rfl, rfl, id⟩
  | wake destructor =>
      dsimp only
      split
      · exact ⟨rfl, rfl, rfl, rfl, fun _ => rfl⟩
      · exact ⟨rfl, rfl, rfl, rfl, fun _ => rfl⟩
  | closeStream destructor => exact ⟨rfl, rfl, rfl, rfl, id⟩
  | join =>
      dsimp only
      split
      · exact ⟨rfl, rfl, rfl, rfl, id⟩
      · exact ⟨rfl, rfl, rfl, rfl, id⟩
      · exact leaves_refl s
  | deleteEventFlag =>
      dsimp only
      split
      · exact ⟨rfl, rfl, rfl, rfl, id⟩
      · exact ⟨rfl, rfl, rfl, rfl, id⟩
  | closeAfterJoin => exact ⟨rfl, rfl, rfl, rfl, id⟩
  | gone => exact leaves_refl s

theorem Leaves.inHand (h : Leaves s t) : t.inHand = s.inHand := by
  unfold StreamSystem.inHand
  rw [h.worker, h.desk]

theorem Leaves.named (h : Leaves s t) (hs : s.Named) : t.Named := by
  unfold StreamSystem.Named
  rw [h.inHand, h.desk]
  exact hs

theorem Leaves.dialogue {x y : Exchange C} (h : Leaves x.system y.system)
    (hsent : y.sent = x.sent) (hreplies : y.replies = x.replies) :
    Dialogue.Step x.dialogue y.dialogue := by
  apply dialogue_stay hsent hreplies h.statusMQ
  rw [h.inHand, h.commandMQ]

theorem prepare_cases (worker : Worker C) (majorVersion : Nat) (hal : HalStream)
    (s : StreamSystem C) :
    s.step worker majorVersion hal .prepare = s ∨
      s.worker = .notStarted ∧
        s.step worker majorVersion hal .prepare = { s with worker := .testStop } := by
  rcases s with ⟨mStop, commandMQ, statusMQ, desk, efWorker, efClient, phase, closer, uses⟩
  cases phase with
  | notStarted =>
      cases closer with
      | idle => exact Or.inr ⟨rfl, rfl⟩
      | _ => exact Or.inl rfl
  | _ => exact Or.inl rfl

theorem enters_leaves (destructor : Bool) (s : StreamSystem C) :
    Leaves s (if s.closer = .idle then { s with closer := .testStop destructor } else s) := by
  split
  · exact ⟨rfl, rfl, rfl, rfl, id⟩
  · exact leaves_refl s

end Steps

/-!
# Each step
-/

section Exchanges

variable {worker : Worker C} (majorVersion : Nat) (hal : HalStream) {x : Exchange C}

theorem next_dialogue (hworker : worker.KeepsReplyTo) (step : StreamStep C)
    (hx : x.system.Named) :
    Dialogue.Step x.dialogue (x.next worker majorVersion hal step).dialogue := by
  cases step with
  | prepare =>
      refine dialogue_stay rfl rfl ?_ ?_
      · show (x.system.step worker majorVersion hal .prepare).statusMQ = _
        rcases prepare_cases worker majorVersion hal x.system with hsame | ⟨hat, hstarts⟩
        · rw [hsame]
        · rw [hstarts]
      · show (x.system.step worker majorVersion hal .prepare).inHand ++
          (x.system.step worker majorVersion hal .prepare).commandMQ.map some = _
        rcases prepare_cases worker majorVersion hal x.system with hsame | ⟨hat, hstarts⟩
        · rw [hsame]
        · rw [hstarts, inHand_of_at hat]
          rfl
  | send command =>
      cases hqueue : x.system.commandMQ with
      | nil =>
          have hasks : (x.next worker majorVersion hal (.send command)).dialogue =
              { x.dialogue with
                asked := x.dialogue.asked ++ [some command]
                unanswered := x.dialogue.unanswered ++ [some command] } := by
            unfold Exchange.dialogue Exchange.next StreamSystem.step StreamSystem.inHand
            simp [hqueue]
          rw [hasks]
          exact .ask (some command)
      | cons first rest =>
          refine dialogue_stay ?_ rfl rfl ?_
          · show (if x.system.commandMQ.isEmpty then _ else x.sent) = x.sent
            rw [hqueue]
            rfl
          · show x.system.inHand ++ (if x.system.commandMQ.isEmpty then [command]
              else x.system.commandMQ).map some = _
            rw [hqueue]
            rfl
  | data bytes => exact dialogue_stay rfl rfl rfl rfl
  | takeStatus =>
      cases hready : x.system.statusMQ with
      | nil =>
          refine dialogue_stay rfl ?_ ?_ rfl
          · show x.replies ++ x.system.statusMQ.take 1 = x.replies
            rw [hready]
            exact List.append_nil x.replies
          · show x.system.statusMQ.tail = x.system.statusMQ
            rw [hready]
            rfl
      | cons status rest =>
          have htakes : (x.next worker majorVersion hal .takeStatus).dialogue =
              { x.dialogue with
                ready := rest.map Status.replyTo
                taken := x.dialogue.taken ++ [status.replyTo] } := by
            unfold Exchange.dialogue Exchange.next StreamSystem.step StreamSystem.inHand
            simp [hready]
          have hhead : x.dialogue.ready = status.replyTo :: rest.map Status.replyTo := by
            show x.system.statusMQ.map Status.replyTo = _
            rw [hready]
            rfl
          rw [htakes]
          exact .take status.replyTo _ hhead
  | wakeWorker => exact dialogue_stay rfl rfl rfl rfl
  | worker answers =>
      exact (workerStep_moves worker hal answers x.system).dialogue hworker hx
  | close => exact (enters_leaves false x.system).dialogue rfl rfl
  | destroy => exact (enters_leaves true x.system).dialogue rfl rfl
  | closer => exact (closerStep_leaves majorVersion hal x.system).dialogue rfl rfl

theorem next_named (hworker : worker.KeepsReplyTo) (step : StreamStep C)
    (hx : x.system.Named) : (x.next worker majorVersion hal step).system.Named := by
  cases step with
  | prepare =>
      show (x.system.step worker majorVersion hal .prepare).Named
      rcases prepare_cases worker majorVersion hal x.system with hsame | ⟨hat, hstarts⟩
      · rw [hsame]
        exact hx
      · rw [hstarts]
        intro command hcommand
        cases hcommand
  | send command => exact hx
  | data bytes => exact hx
  | takeStatus => exact hx
  | wakeWorker => exact hx
  | worker answers =>
      exact (workerStep_moves worker hal answers x.system).named hworker hx
  | close => exact (enters_leaves false x.system).named hx
  | destroy => exact (enters_leaves true x.system).named hx
  | closer => exact (closerStep_leaves majorVersion hal x.system).named hx

end Exchanges

/-!
# Runs
-/

def Exchange.Patient (x : Exchange C) : StreamStep C -> Prop
  | .send _ => x.replies.length = x.sent.length
  | _ => True

instance Exchange.Patient.decidable (x : Exchange C) : forall step, Decidable (x.Patient step)
  | .send _ => inferInstanceAs (Decidable (_ = _))
  | .prepare => isTrue trivial
  | .data _ => isTrue trivial
  | .takeStatus => isTrue trivial
  | .wakeWorker => isTrue trivial
  | .worker _ => isTrue trivial
  | .close => isTrue trivial
  | .destroy => isTrue trivial
  | .closer => isTrue trivial

section Runs

variable {worker : Worker C} {majorVersion : Nat} {hal : HalStream}

theorem Exchange.Patient.dialogue {x : Exchange C} {step : StreamStep C}
    (h : x.Patient step) :
    Dialogue.Patient x.dialogue (x.next worker majorVersion hal step).dialogue := by
  intro hasked
  cases step with
  | send command =>
      show (x.replies.map Status.replyTo).length = (x.sent.map some).length
      rw [List.length_map, List.length_map]
      exact h
  | _ => exact absurd rfl hasked

theorem named_initial (capacity : Nat) :
    (Exchange.initial capacity : Exchange C).system.Named := by
  intro command hcommand
  cases hcommand

/-- The commands and replies of a run. -/
structure RepliesMatch (worker : Worker C) (majorVersion : Nat) (hal : HalStream)
    (capacity : Nat) (steps : List (StreamStep C)) : Prop where
  -- for every client
  inOrder : Sat (run (Exchange.exec worker majorVersion hal) steps)
    (fun _ x => x.dialogue.InOrder) (fun _ _ => False) (Exchange.initial capacity)
  -- for a client that takes each reply before its next command
  complete : Along (Exchange.exec worker majorVersion hal) Exchange.Patient steps
      (Exchange.initial capacity) ->
    Sat (run (Exchange.exec worker majorVersion hal) steps)
      (fun _ x => x.dialogue.Exact) (fun _ _ => False) (Exchange.initial capacity)

theorem Worker.KeepsReplyTo.repliesMatch (hworker : worker.KeepsReplyTo) (capacity : Nat)
    (steps : List (StreamStep C)) :
    RepliesMatch worker majorVersion hal capacity steps where
  inOrder := by
    have hrun : Sat (run (Exchange.exec worker majorVersion hal) steps)
        (fun _ x => x.system.Named ∧ x.dialogue.InOrder) (fun _ _ => False)
        (Exchange.initial capacity) := by
      apply run_sat_always
      · intro x step hx
        exact ⟨next_named majorVersion hal hworker step hx.1,
          (next_dialogue majorVersion hal hworker step hx.1).inOrder hx.2⟩
      · exact ⟨named_initial capacity, List.Sublist.refl []⟩
    exact hrun.imp fun _ x hx => hx.2
  complete := by
    intro halong
    have hrun : Sat (run (Exchange.exec worker majorVersion hal) steps)
        (fun _ x => x.system.Named ∧ x.dialogue.Exact) (fun _ _ => False)
        (Exchange.initial capacity) := by
      refine run_sat ?_ steps (Exchange.initial capacity)
        ⟨named_initial capacity, rfl, Nat.zero_le 1⟩ halong
      intro x step hx hpatient
      exact ⟨next_named majorVersion hal hworker step hx.1,
        (next_dialogue majorVersion hal hworker step hx.1).exact hpatient.dialogue hx.2⟩
    exact hrun.imp fun _ x hx => hx.2

end Runs

/-- The replies of both kinds of threads come in the order of the commands and never
twice, for every client and every order of steps.  A client that waits for each reply
gets exactly one for each command. -/
theorem replies_match_commands (majorVersion : Nat) (hal : HalStream) (capacity : Nat) :
    (forall steps, RepliesMatch WriteThread.worker majorVersion hal capacity steps) ∧
      (forall steps, RepliesMatch ReadThread.worker majorVersion hal capacity steps) := by
  constructor
  · intro steps
    exact WriteThread.keepsReplyTo.repliesMatch capacity steps
  · intro steps
    exact ReadThread.keepsReplyTo.repliesMatch capacity steps

def Answers.prompt : Answers where
  efState := true
  dataRead := true
  halResult := 20
  position := 0

def askLatency : List (StreamStep WriteCommand) := [.prepare, .send .getLatency, .wakeWorker]

def sevenSteps : List (StreamStep WriteCommand) := List.replicate 7 (.worker .prompt)

/-- The client asks, takes the reply and asks again. -/
theorem replies_match_commands_latency :
    Sat (run (Exchange.exec WriteThread.worker 6 { closing := .free, hasPosition := true })
        (askLatency ++ sevenSteps ++ [.takeStatus, .send .write]))
      (fun _ x => x.dialogue.Exact) (fun _ _ => False) (Exchange.initial 4) :=
  ((replies_match_commands 6 { closing := .free, hasPosition := true } 4).1 _).complete
    (by decide)

end Audio
end Sm7225
