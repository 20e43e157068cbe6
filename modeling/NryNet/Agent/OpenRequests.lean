import NryNet.Lib.GoMap
import NryNet.Lib.ThreadPool
import NryNet.Protocol

/-!
# One worker for each visitor (`client/agent/open_requests.go`, `control_dispatch.go`)

The server replays a pending visitor as soon as a control session is registered, so an agent that
reconnects may be asked to open the same connection again while the first worker is still at it.
`handleControlMessage` asks `beginOpenRequest` before it starts a worker, and the worker's last
statement is the deferred `endOpenRequest`.

A task is the read loop of a control session or a worker, at one of its program points.  Any number of
sessions may come, one after the other or at the same time, and the messages they read are whatever the
server sends.  `handleOpenConnection` takes as long as it takes, and may panic: `endOpenRequest` is
deferred, and runs all the same.  A nil map is an empty one; `beginOpenRequest` allocates it.

A worker counts from the moment the guard lets it in, when the `go` statement is the next one of the
read loop.  For each request ID the table is then a mutex that the worker holds (`guarded_step`).
-/

namespace NryNet.Agent.OpenRequests

open ThreadPool

/-- `Agent.openRequests`. -/
abbrev RequestIDs := GoMap String Unit

/-- `beginOpenRequest`. -/
def beginOpenRequest (openRequests : RequestIDs) (requestID : String) : RequestIDs × Bool :=
  if requestID = "" then (openRequests, true)
  else
    match openRequests.lookup requestID with
    | some () => (openRequests, false)
    | none => (openRequests.insert requestID (), true)

/-- `endOpenRequest`. -/
def endOpenRequest (openRequests : RequestIDs) (requestID : String) : RequestIDs :=
  if requestID = "" then openRequests else openRequests.erase requestID

/-- A goroutine of the agent. -/
inductive Task where
  /-- a control session, before `readJSON` -/
  | readLoop
  | handleControlMessage (message : ControlMessage)
  /-- the read loop before `goWorker` -/
  | goWorker (message : ControlMessage)
  /-- a worker -/
  | handleOpenConnection (message : ControlMessage)
  /-- a worker before its deferred call -/
  | endOpenRequest (message : ControlMessage)
  | returned
  deriving DecidableEq, Repr

/-- What the environment decides: the message that is read, or that the session ends. -/
inductive Choice where
  | message (message : ControlMessage)
  | close
  | go
  deriving DecidableEq, Repr

/-- `handleControlMessage`, and where the read loop is after the guard.  The other types of messages do not
touch the table. -/
def handleControlMessage (openRequests : RequestIDs) (message : ControlMessage) : RequestIDs × Task :=
  if message.type = .openConnection then
    let begun := beginOpenRequest openRequests message.requestID
    (begun.1, if begun.2 then .goWorker message else .readLoop)
  else (openRequests, .readLoop)

/-- One step. -/
def step (openRequests : RequestIDs) : Task → Choice → Option (RequestIDs × Task × List Task)
  | .readLoop, .message message => some (openRequests, .handleControlMessage message, [])
  | .readLoop, .close => some (openRequests, .returned, [])
  | .handleControlMessage message, .go =>
      let handled := handleControlMessage openRequests message
      some (handled.1, handled.2, [])
  | .goWorker message, .go => some (openRequests, .readLoop, [.handleOpenConnection message])
  | .handleOpenConnection message, .go => some (openRequests, .endOpenRequest message, [])
  | .endOpenRequest message, .go =>
      some (OpenRequests.endOpenRequest openRequests message.requestID, .returned, [])
  | _, _ => none

/-- Control sessions and the workers that they start. -/
def openRequestsMachine : Machine RequestIDs Task Choice where
  entry
    | .readLoop => true
    | _ => false
  step := step

/-- An agent that has just been made. -/
def newAgent : Config RequestIDs Task := ⟨∅, []⟩

namespace Task

/-- The request ID a worker was started for. -/
def serves : Task → Option String
  | .goWorker message => some message.requestID
  | .handleOpenConnection message => some message.requestID
  | .endOpenRequest message => some message.requestID
  | _ => none

/-- One for a worker of the request, and nothing for everybody else. -/
def weight (requestID : String) (task : Task) : ℕ :=
  if task.serves = some requestID then 1 else 0

variable (task : Task) {requestID other : String}

theorem weight_of_idle (idle : task.serves = none) : task.weight requestID = 0 := by
  unfold weight
  rw [idle, if_neg (nomatch ·)]

theorem weight_of_serves (own : task.serves = some requestID) :
    task.weight other = if requestID = other then 1 else 0 := by
  unfold weight
  rw [own]
  simp only [Option.some.injEq]

end Task

/-! ## The guard -/

section Guard

variable {openRequests : RequestIDs} {requestID : String}

/-- What `beginOpenRequest` can do. -/
theorem beginOpenRequest_cases (openRequests : RequestIDs) (requestID : String) :
    (requestID = "" ∧ beginOpenRequest openRequests requestID = (openRequests, true)) ∨
      (requestID ≠ "" ∧ openRequests.lookup requestID = none ∧
        beginOpenRequest openRequests requestID = (openRequests.insert requestID (), true)) ∨
      (requestID ≠ "" ∧ openRequests.lookup requestID = some () ∧
        beginOpenRequest openRequests requestID = (openRequests, false)) := by
  unfold beginOpenRequest
  by_cases blank : requestID = ""
  · exact Or.inl ⟨blank, if_pos blank⟩
  · rw [if_neg blank]
    cases found : openRequests.lookup requestID with
    | none => exact Or.inr (Or.inl ⟨blank, rfl, rfl⟩)
    | some held => exact Or.inr (Or.inr ⟨blank, rfl, rfl⟩)

theorem lookup_endOpenRequest (openRequests : RequestIDs) (requestID other : String) :
    (endOpenRequest openRequests requestID).lookup other =
      if requestID ≠ "" ∧ other = requestID then none else openRequests.lookup other := by
  unfold endOpenRequest
  by_cases blank : requestID = ""
  · rw [if_pos blank, if_neg fun both => both.1 blank]
  · rw [if_neg blank, GoMap.lookup_erase_if]
    simp only [ne_eq, blank, not_false_eq_true, true_and]

end Guard

/-! ## What one step does -/

/-- The steps, by what they do to the table and to the workers. -/
inductive Action (s : RequestIDs) : RequestIDs → Task → Task → List Task → Prop
  /-- no worker comes or goes -/
  | idle {task task' : Task} (before : task.serves = none) (after : task'.serves = none) :
      Action s s task task' []
  | enter (message : ControlMessage) (free : message.requestID ≠ "" → s.lookup message.requestID = none) :
      Action s (if message.requestID = "" then s else s.insert message.requestID ())
        (.handleControlMessage message) (.goWorker message) []
  | start (message : ControlMessage) :
      Action s s (.goWorker message) .readLoop [.handleOpenConnection message]
  | leave (message : ControlMessage) :
      Action s s (.handleOpenConnection message) (.endOpenRequest message) []
  | finish (message : ControlMessage) :
      Action s (endOpenRequest s message.requestID) (.endOpenRequest message) .returned []

/-- A message that finds no worker for its ID is admitted. -/
theorem handleControlMessage_of_free {s : RequestIDs} {message : ControlMessage}
    (type : message.type = .openConnection)
    (free : message.requestID ≠ "" → s.lookup message.requestID = none) :
    handleControlMessage s message =
      (if message.requestID = "" then s else s.insert message.requestID (), .goWorker message) := by
  unfold handleControlMessage
  rw [if_pos type]
  rcases beginOpenRequest_cases s message.requestID with ⟨blank, begun⟩ | ⟨named, -, begun⟩ |
    ⟨named, held, -⟩
  · rw [begun, if_pos blank]
    rfl
  · rw [begun, if_neg named]
    rfl
  · rw [free named] at held
    cases held

theorem action_of_handled (s : RequestIDs) (message : ControlMessage) :
    Action s (handleControlMessage s message).1 (.handleControlMessage message)
      (handleControlMessage s message).2 [] := by
  by_cases type : message.type = .openConnection
  · by_cases free : message.requestID ≠ "" → s.lookup message.requestID = none
    · rw [handleControlMessage_of_free type free]
      exact .enter message free
    · -- a duplicate is ignored
      unfold handleControlMessage
      rw [if_pos type]
      rcases beginOpenRequest_cases s message.requestID with ⟨blank, -⟩ | ⟨-, missing, -⟩ | ⟨-, -, begun⟩
      · exact absurd (fun named => absurd blank named) free
      · exact absurd (fun _ => missing) free
      · rw [begun]
        exact .idle rfl rfl
  · unfold handleControlMessage
    rw [if_neg type]
    exact .idle rfl rfl

theorem action_of_step {s s' : RequestIDs} {task task' : Task} {choice : Choice} {spawned : List Task}
    (stepped : step s task choice = some (s', task', spawned)) : Action s s' task task' spawned := by
  cases task with
  | readLoop =>
      cases choice with
      | message message =>
          cases stepped
          exact .idle rfl rfl
      | close =>
          cases stepped
          exact .idle rfl rfl
      | go => cases stepped
  | handleControlMessage message =>
      cases choice with
      | message message => cases stepped
      | close => cases stepped
      | go =>
          cases stepped
          exact action_of_handled s message
  | goWorker message =>
      cases choice with
      | message message => cases stepped
      | close => cases stepped
      | go =>
          cases stepped
          exact .start message
  | handleOpenConnection message =>
      cases choice with
      | message message => cases stepped
      | close => cases stepped
      | go =>
          cases stepped
          exact .leave message
  | endOpenRequest message =>
      cases choice with
      | message message => cases stepped
      | close => cases stepped
      | go =>
          cases stepped
          exact .finish message
  | returned => cases stepped

/-! ## Runs -/

/-- The table has an entry for every ID that a worker serves, and a worker for every entry. -/
structure Guarded (config : Config RequestIDs Task) : Prop where
  named : config.shared.lookup "" = none
  served : ∀ requestID, requestID ≠ "" → config.total (Task.weight requestID) =
    if (config.shared.lookup requestID).isSome then 1 else 0

section Runs

variable {config : Config RequestIDs Task}

/-- **One action keeps the guard.** -/
theorem guarded_step {index : ℕ} {s' : RequestIDs} {task task' : Task} {spawned : List Task}
    (guarded : Guarded config) (present : config.threads[index]? = some task)
    (action : Action config.shared s' task task' spawned) :
    Guarded ⟨s', config.threads.set index task' ++ spawned⟩ := by
  have traded (requestID : String) :=
    Machine.total_run (Task.weight requestID) s' task' spawned present
  have own (requestID : String) : task.weight requestID ≤ config.total (Task.weight requestID) :=
    Config.le_total (List.mem_of_getElem? present)
  cases action with
  | idle before after =>
      refine ⟨guarded.named, fun requestID name => ?_⟩
      have moved := traded requestID
      rw [Task.weight_of_idle _ before, Task.weight_of_idle _ after] at moved
      exact moved.trans (guarded.served requestID name)
  | enter message free =>
      refine ⟨?_, fun requestID name => ?_⟩
      · split
        · exact guarded.named
        · rename_i name
          exact (GoMap.lookup_insert_if _ _ _ _).trans ((if_neg (Ne.symm name)).trans guarded.named)
      · have moved := traded requestID
        have before := guarded.served requestID name
        rw [Task.weight_of_idle (.handleControlMessage message) rfl,
          Task.weight_of_serves (.goWorker message) rfl, before] at moved
        by_cases same : message.requestID = requestID
        · subst same
          rw [free name, if_pos rfl] at moved
          rw [if_neg name, GoMap.lookup_insert_if, if_pos rfl]
          exact moved
        · rw [if_neg same] at moved
          have kept : (if message.requestID = "" then config.shared
              else config.shared.insert message.requestID ()).lookup requestID =
              config.shared.lookup requestID := by
            split
            · rfl
            · rw [GoMap.lookup_insert_if, if_neg (Ne.symm same)]
          simp only [kept]
          exact moved
  | start message =>
      refine ⟨guarded.named, fun requestID name => ?_⟩
      have moved := traded requestID
      have before := guarded.served requestID name
      rw [Task.weight_of_serves (.goWorker message) rfl,
        Task.weight_of_idle .readLoop rfl, List.map_singleton, List.sum_singleton,
        Task.weight_of_serves (.handleOpenConnection message) rfl] at moved
      exact Nat.add_right_cancel (moved.trans (congrArg (· + _) before))
  | leave message =>
      refine ⟨guarded.named, fun requestID name => ?_⟩
      have moved := traded requestID
      rw [Task.weight_of_serves (.handleOpenConnection message) rfl,
        Task.weight_of_serves (.endOpenRequest message) rfl] at moved
      exact (Nat.add_right_cancel moved).trans (guarded.served requestID name)
  | finish message =>
      refine ⟨?_, fun requestID name => ?_⟩
      · rw [lookup_endOpenRequest, guarded.named, ite_self]
      · have moved := traded requestID
        have before := guarded.served requestID name
        have held := own requestID
        rw [Task.weight_of_serves (.endOpenRequest message) rfl] at moved held
        rw [Task.weight_of_idle .returned rfl] at moved
        by_cases same : message.requestID = requestID
        · subst same
          have gone : (endOpenRequest config.shared message.requestID).lookup message.requestID = none := by
            rw [lookup_endOpenRequest, if_pos ⟨name, rfl⟩]
          rw [if_pos rfl] at moved held
          rw [gone]
          have most : config.total (Task.weight message.requestID) ≤ 1 := by
            rw [before]
            split <;> omega
          exact Nat.add_right_cancel (moved.trans (Nat.le_antisymm most held))
        · have kept : (endOpenRequest config.shared message.requestID).lookup requestID =
              config.shared.lookup requestID := by
            rw [lookup_endOpenRequest, if_neg fun both => same both.2.symm]
          rw [if_neg same] at moved
          rw [kept, ← before]
          exact moved

theorem guarded_newAgent : Guarded newAgent := ⟨rfl, fun _ _ => rfl⟩

theorem guarded_of_reachable (reached : openRequestsMachine.Reachable newAgent config) :
    Guarded config := by
  refine reached.reachable_invariant Guarded guarded_newAgent ?_ ?_
  · intro config task guarded arrives
    have idle : task.serves = none := by
      cases task <;> first | rfl | cases arrives
    refine ⟨guarded.named, fun requestID name => ?_⟩
    rw [Config.total_arrive, Task.weight_of_idle _ idle]
    exact guarded.served requestID name
  · intro config index choice task s' task' spawned guarded present stepped
    exact guarded_step guarded present (action_of_step stepped)

/-- What the guard is for. -/
structure Deduplicated (config : Config RequestIDs Task) : Prop where
  /-- at most one worker for each ID -/
  once : ∀ requestID, requestID ≠ "" → config.total (Task.weight requestID) ≤ 1
  /-- the table is the set of the IDs that are served -/
  exact : ∀ requestID, (config.shared.lookup requestID).isSome ↔
    requestID ≠ "" ∧ ∃ task ∈ config.threads, task.serves = some requestID
  /-- a message for an ID that is not served is admitted, and then its worker is started -/
  starts : ∀ message, message.type = .openConnection →
    (message.requestID ≠ "" → ∀ task ∈ config.threads, task.serves ≠ some message.requestID) →
      ∃ s', step config.shared (.handleControlMessage message) .go = some (s', .goWorker message, []) ∧
        ∀ later, step later (.goWorker message) .go =
          some (later, .readLoop, [.handleOpenConnection message])

/-- Somebody serves the ID exactly when the workers of the ID are counted. -/
theorem total_pos_iff (requestID : String) :
    0 < config.total (Task.weight requestID) ↔
      ∃ task ∈ config.threads, task.serves = some requestID := by
  unfold Config.total
  rw [List.sum_pos_iff_exists_pos_nat]
  constructor
  · rintro ⟨weight, listed, pos⟩
    obtain ⟨task, member, rfl⟩ := List.mem_map.mp listed
    refine ⟨task, member, ?_⟩
    by_contra other
    unfold Task.weight at pos
    rw [if_neg other] at pos
    exact absurd pos (Nat.lt_irrefl 0)
  · rintro ⟨task, member, own⟩
    refine ⟨task.weight requestID, List.mem_map_of_mem member, ?_⟩
    rw [Task.weight_of_serves _ own, if_pos rfl]
    exact Nat.one_pos

/-- **Every visitor has one worker at most.**  Whatever messages the sessions of an agent read, at any
time one worker at most serves an ID, the table holds the IDs that are served, and a message for an ID
that nobody serves starts a worker. -/
theorem deduplicated_of_reachable (reached : openRequestsMachine.Reachable newAgent config) :
    Deduplicated config := by
  have guarded := guarded_of_reachable reached
  have exact : ∀ requestID, (config.shared.lookup requestID).isSome ↔
      requestID ≠ "" ∧ ∃ task ∈ config.threads, task.serves = some requestID := by
    intro requestID
    by_cases name : requestID = ""
    · rw [name, guarded.named]
      exact iff_of_false Bool.false_ne_true fun both => both.1 rfl
    · have count := guarded.served requestID name
      rw [← total_pos_iff, count]
      cases config.shared.lookup requestID with
      | none => exact iff_of_false Bool.false_ne_true fun both => absurd both.2 (Nat.lt_irrefl 0)
      | some held => exact iff_of_true rfl ⟨name, Nat.one_pos⟩
  refine ⟨fun requestID name => ?_, exact, fun message type unserved => ?_⟩
  · rw [guarded.served requestID name]
    split <;> omega
  · have free : message.requestID ≠ "" → config.shared.lookup message.requestID = none := by
      intro name
      cases found : config.shared.lookup message.requestID with
      | none => rfl
      | some held =>
          obtain ⟨-, task, member, own⟩ := (exact message.requestID).mp (by rw [found]; rfl)
          exact absurd own (unserved name task member)
    refine ⟨if message.requestID = "" then config.shared else config.shared.insert message.requestID (),
      ?_, fun later => rfl⟩
    show some ((handleControlMessage config.shared message).1,
      (handleControlMessage config.shared message).2, []) = _
    rw [handleControlMessage_of_free type free]

end Runs

/-- A message of the server for a visitor. -/
def visitorMessage : ControlMessage := ⟨.openConnection, "request-1", "tunnel-1", []⟩

/-- A replay in the next session is ignored while the worker runs, and starts another one after it. -/
theorem deduplicated_of_reachable_replay :
    ∃ config, openRequestsMachine.Reachable newAgent config ∧
      config.threads = [.returned, .returned, .readLoop, .handleOpenConnection visitorMessage] ∧
      config.total (Task.weight "request-1") = 1 ∧ Deduplicated config := by
  obtain ⟨config, reached, threads⟩ :
      ∃ config, openRequestsMachine.Reachable newAgent config ∧
        config.threads = [.returned, .returned, .readLoop, .handleOpenConnection visitorMessage] := by
    refine Machine.exists_run_of_replay
      [.arrive .readLoop, .run 0 (.message visitorMessage), .run 0 .go, .run 0 .go, .run 0 .close,
        .arrive .readLoop, .run 2 (.message visitorMessage), .run 2 .go, .run 1 .go, .run 1 .go,
        .run 2 (.message visitorMessage), .run 2 .go, .run 2 .go] ?_
    decide +kernel
  have counted : config.total (Task.weight "request-1") = 1 := by
    unfold Config.total
    rw [threads]
    rfl
  exact ⟨config, reached, threads, counted, deduplicated_of_reachable reached⟩

end NryNet.Agent.OpenRequests
