import NryNet.Lib.Chan
import NryNet.Lib.Lanes
import NryNet.Lib.ThreadPool
import NryNet.Protocol

/-!
# The write queue of a control session (`server/client/control_write_queue.go`)

`controlWriteQueue` keeps the senders of control messages away from the transport: they put their
message into one of three queues under a lock, and the goroutine of `run` takes the messages out and
writes them.  `close` and `fail` mark the queue closed, take out everything that is still in it and
complete it with an error; both may run while the writer has a message in its hands.

## The model

`ControlWriteQueue` is the record of the source and its methods are functions on it.  One queue has
one goroutine `run`, whose program point is `Writer`.  `WriteQueue` puts the two together with the
`done` channels, and `writeQueue` is the pool of everything that calls into the queue: any number of
`enqueue`, `enqueueWait` and `close`, at any time, besides the writer.  Each critical section of
the source is one step; a write and every completion is a step of its own.

Counters are integers.  A call is numbered by `calls`, which names the message it brings and the
`done` channel it makes, if it makes one.  The logs `accepted`, `taken`, `written`, `outcomes` and
`completed` are ghosts.
-/

namespace NryNet.Control

open ThreadPool

/-! ## The queue -/

/-- `context.Canceled` and `context.DeadlineExceeded`. -/
inductive ContextError where
  | canceled
  | deadlineExceeded
  deriving DecidableEq, Repr

/-- The errors of the queue, of a context and of a transport. -/
inductive WriteError where
  /-- `errControlWriteQueueClosed` -/
  | queueClosed
  /-- `errControlWriteQueueFull` -/
  | queueFull
  | context (error : ContextError)
  /-- what `WriteJSON` returned -/
  | transport (message : String)
  deriving DecidableEq, Repr

/-- `queuedControlMessage`.  `done` is the number of its channel, `nil` being `none`. -/
structure QueuedControlMessage where
  message : ControlMessage
  size : ℤ
  done : Option ℕ
  /-- the call that brought it -/
  ticket : ℕ
  deriving DecidableEq, Repr

/-- `controlWriteQueue`. -/
structure ControlWriteQueue extends Lanes QueuedControlMessage where
  queuedCount : ℤ
  queuedBytes : ℤ
  closed : Bool
  deriving DecidableEq, Repr

def maxControlQueueMessages : ℤ := 131072

def maxControlQueueBytes : ℤ := 536870912

def controlMessageSize (message : ControlMessage) : ℤ :=
  message.payload.length + 128

def isUrgentControlMessage (message : ControlMessage) : Bool :=
  match message.type with
  | .heartbeat | .hello | .openConnection | .requestWorkConn | .p2pConnect | .tunnelSnapshot
  | .visitorWebRTC | .connectionFailed | .heartbeatAck => true
  | _ => false

def isCriticalControlMessage (message : ControlMessage) : Bool :=
  message.type = .heartbeat || message.type = .heartbeatAck

/-- The queue `enqueueItem` puts a message into. -/
def QueuedControlMessage.lane (item : QueuedControlMessage) : Lane :=
  if isCriticalControlMessage item.message then .critical
  else if isUrgentControlMessage item.message then .urgent
  else .normal

namespace ControlWriteQueue

/-- The queue of `newControlWriteQueue`. -/
def new : ControlWriteQueue where
  critical := []
  urgent := []
  normal := []
  urgentBudget := 0
  queuedCount := 0
  queuedBytes := 0
  closed := false

def queueFull (q : ControlWriteQueue) (size : ℤ) : Bool :=
  q.queuedCount ≥ maxControlQueueMessages || q.queuedBytes + size > maxControlQueueBytes

def enqueueItem (q : ControlWriteQueue) (item : QueuedControlMessage) :
    Except WriteError ControlWriteQueue :=
  if q.closed then .error .queueClosed
  else if !isCriticalControlMessage item.message && q.queueFull item.size then .error .queueFull
  -- the source asks a second time, under the same lock
  else if q.closed then .error .queueClosed
  else
    .ok
      { q.push item item.lane with
        queuedCount := q.queuedCount + 1
        queuedBytes := q.queuedBytes + item.size
        closed := q.closed }

/-- `next`: `none` while it waits, and no message when the queue is closed. -/
def next (q : ControlWriteQueue) : Option (Option QueuedControlMessage × ControlWriteQueue) :=
  if q.closed then some (none, q)
  else
    (q.pop 32).map fun popped =>
      (some popped.2.1,
        { popped.2.2 with
          queuedCount := q.queuedCount - 1
          queuedBytes := q.queuedBytes - popped.2.1.size
          closed := q.closed })

/-- The critical section of `close` and of `fail`; both keep `items`, what was in the queue. -/
def drain (q : ControlWriteQueue) : ControlWriteQueue :=
  { q.clear with queuedCount := 0, queuedBytes := 0, closed := true }

end ControlWriteQueue

/-! ## The writer and the callers -/

/-- The goroutine `run`. -/
inductive Writer where
  /-- before `next` -/
  | next
  /-- before `WriteJSON` -/
  | write (item : QueuedControlMessage)
  /-- in `WriteJSON` -/
  | writing (item : QueuedControlMessage)
  /-- before `completeQueuedMessage`, with what `WriteJSON` returned -/
  | complete (item : QueuedControlMessage) (err : Option WriteError)
  /-- before the critical section of `fail` -/
  | fail (cause : WriteError)
  /-- `fail`, with what is still to be completed; then `onError` is called -/
  | failing (pending : List QueuedControlMessage) (cause : WriteError)
  | stopped
  deriving DecidableEq, Repr

/-- The messages that are in the hands of the writer. -/
def Writer.held : Writer → List QueuedControlMessage
  | .write item | .writing item | .complete item _ => [item]
  | .failing pending _ => pending
  | .next | .fail _ | .stopped => []

/-- The message that was taken and is not yet passed to `WriteJSON`. -/
def Writer.unwritten : Writer → List QueuedControlMessage
  | .write item => [item]
  | _ => []

/-- The message `WriteJSON` has not returned from. -/
def Writer.unreturned : Writer → List QueuedControlMessage
  | .writing item => [item]
  | _ => []

/-- A queue with its writer and its channels.  `done n` is the channel of call `n`. -/
structure WriteQueue where
  queue : ControlWriteQueue
  writer : Writer
  done : ℕ → Chan (Option WriteError)
  calls : ℕ
  /-- the messages that were put into the queue, in this order -/
  accepted : List QueuedControlMessage
  /-- the messages `next` has returned -/
  taken : List QueuedControlMessage
  /-- the messages that were passed to `WriteJSON` -/
  written : List QueuedControlMessage
  /-- what `WriteJSON` has returned -/
  outcomes : List (QueuedControlMessage × Option WriteError)
  /-- the calls of `completeQueuedMessage` that have returned -/
  completed : List (QueuedControlMessage × Option WriteError)

namespace WriteQueue

/-- `newControlWriteQueue`. -/
def new : WriteQueue where
  queue := .new
  writer := .next
  done _ := .make 1
  calls := 0
  accepted := []
  taken := []
  written := []
  outcomes := []
  completed := []

/-- The message of the next call of `enqueue`, or of `enqueueWait`. -/
def item (s : WriteQueue) (message : ControlMessage) (waits : Bool) : QueuedControlMessage where
  message := message
  size := controlMessageSize message
  done := if waits then some s.calls else none
  ticket := s.calls

/-- A call of `enqueueItem`, with the error it returns. -/
def enqueueItem (s : WriteQueue) (message : ControlMessage) (waits : Bool) :
    WriteQueue × Option WriteError :=
  match s.queue.enqueueItem (s.item message waits) with
  | .error err => ({ s with calls := s.calls + 1 }, some err)
  | .ok queue =>
      ({ s with
          queue := queue
          calls := s.calls + 1
          accepted := s.accepted ++ [s.item message waits] },
        none)

/-- `completeQueuedMessage`; `none` while the send blocks. -/
def complete (s : WriteQueue) (item : QueuedControlMessage) (err : Option WriteError) :
    Option WriteQueue :=
  match item.done with
  | none => some { s with completed := s.completed ++ [(item, err)] }
  | some n =>
      ((s.done n).send err).map fun channel =>
        { s with
          done := Function.update s.done n channel
          completed := s.completed ++ [(item, err)] }

/-- The critical section of `close`. -/
def close (s : WriteQueue) : WriteQueue :=
  { s with queue := s.queue.drain }

/-- One action of the goroutine `run`.  `failure` is what `WriteJSON` returns, if it returns now. -/
def run (s : WriteQueue) (failure : Option String) : Option WriteQueue :=
  match s.writer with
  | .next =>
      match s.queue.next with
      | none => none
      | some (none, _) => some { s with writer := .stopped }
      | some (some item, queue) =>
          some { s with queue := queue, writer := .write item, taken := s.taken ++ [item] }
  | .write item => some { s with writer := .writing item, written := s.written ++ [item] }
  | .writing item =>
      some
        { s with
          writer := .complete item (failure.map .transport)
          outcomes := s.outcomes ++ [(item, failure.map .transport)] }
  | .complete item err =>
      (s.complete item err).map fun s' =>
        match err with
        | none => { s' with writer := .next }
        | some cause => { s' with writer := .fail cause }
  | .fail cause =>
      if s.queue.closed then some { s with writer := .stopped }
      else some { s with queue := s.queue.drain, writer := .failing s.queue.items cause }
  | .failing [] _ => some { s with writer := .stopped }
  | .failing (item :: rest) cause =>
      (s.complete item (some cause)).map fun s' => { s' with writer := .failing rest cause }
  | .stopped => none

end WriteQueue

/-- What calls into the queue. -/
inductive Caller where
  /-- the goroutine `run` -/
  | run
  /-- before `enqueue` -/
  | enqueue (message : ControlMessage)
  /-- before `enqueueWait` -/
  | enqueueWait (message : ControlMessage)
  /-- `enqueueWait`, in its `select` -/
  | waiting (done : ℕ)
  /-- before `close` -/
  | close
  /-- `close`, with what is still to be completed -/
  | closing (pending : List QueuedControlMessage)
  | returned (err : Option WriteError)
  deriving DecidableEq, Repr

/-- What the environment decides. -/
inductive WriteChoice where
  | go
  /-- `WriteJSON` returns this error -/
  | failed (message : String)
  /-- the context of `enqueueWait` is done -/
  | cancelled (error : ContextError)
  deriving DecidableEq, Repr

namespace WriteQueue

/-- `enqueueWait` takes the value out of its channel. -/
def receive (s : WriteQueue) (n : ℕ) : Option (WriteQueue × Option WriteError) :=
  (s.done n).receive.map fun received =>
    ({ s with done := Function.update s.done n received.2 }, received.1)

/-- One action of a caller. -/
def step (s : WriteQueue) (caller : Caller) (choice : WriteChoice) :
    Option (WriteQueue × Caller × List Caller) :=
  match caller, choice with
  | .run, .go => (s.run none).map fun s' => (s', .run, [])
  | .run, .failed message => (s.run (some message)).map fun s' => (s', .run, [])
  | .enqueue message, .go =>
      some ((s.enqueueItem message false).1, .returned (s.enqueueItem message false).2, [])
  | .enqueueWait message, .go =>
      match s.enqueueItem message true with
      | (s', some err) => some (s', .returned (some err), [])
      | (s', none) => some (s', .waiting s.calls, [])
  | .waiting n, .go => (s.receive n).map fun received => (received.1, .returned received.2, [])
  | .waiting _, .cancelled error => some (s, .returned (some (.context error)), [])
  | .close, .go => some (s.close, .closing s.queue.items, [])
  | .closing (item :: rest), .go =>
      (s.complete item (some .queueClosed)).map fun s' => (s', .closing rest, [])
  | .closing [], .go => some (s, .returned none, [])
  | _, _ => none

end WriteQueue

/-- What may be called at any time. -/
def Caller.arrives : Caller → Bool
  | .enqueue _ | .enqueueWait _ | .close => true
  | _ => false

/-- A write queue and everything that calls into it. -/
def writeQueue : Machine WriteQueue Caller WriteChoice where
  entry := Caller.arrives
  step := WriteQueue.step

/-- A new queue, whose writer has just started. -/
def writeQueueStart : Config WriteQueue Caller where
  shared := .new
  threads := [.run]

/-! ## What the methods do -/

namespace ControlWriteQueue

variable {q q' : ControlWriteQueue} {item : QueuedControlMessage}

/-- The counters tell what is in the queue, and a closed queue is empty. -/
structure Accounted (q : ControlWriteQueue) : Prop where
  count : q.queuedCount = q.items.length
  bytes : q.queuedBytes = (q.items.map QueuedControlMessage.size).sum
  closed : q.closed = true → q.items = []

/-- A message that is accepted finds the queue open, and room in it unless it is critical. -/
theorem enqueueItem_ok (accepted : q.enqueueItem item = .ok q') :
    q.closed = false ∧
      (isCriticalControlMessage item.message = true ∨ q.queueFull item.size = false) ∧
      q'.toLanes = q.push item item.lane ∧ q'.queuedCount = q.queuedCount + 1 ∧
      q'.queuedBytes = q.queuedBytes + item.size ∧ q'.closed = false := by
  unfold enqueueItem at accepted
  split at accepted
  · cases accepted
  · rename_i isOpen
    split at accepted
    · cases accepted
    · rename_i admitted
      cases accepted
      refine ⟨by simpa using isOpen, ?_, rfl, rfl, rfl, by simpa using isOpen⟩
      cases critical : isCriticalControlMessage item.message with
      | true => exact Or.inl rfl
      | false => exact Or.inr (by simpa [critical] using admitted)

/-- A message that `next` returns was due, in a queue that is open. -/
theorem next_item (taken : q.next = some (some item, q')) :
    q.closed = false ∧ (∃ kind, Lanes.Taken 32 q.toLanes kind item q'.toLanes) ∧
      q'.queuedCount = q.queuedCount - 1 ∧ q'.queuedBytes = q.queuedBytes - item.size ∧
      q'.closed = false := by
  unfold next at taken
  split at taken
  · cases taken
  · rename_i isOpen
    obtain ⟨⟨kind, _, lanes⟩, popped, built⟩ := Option.map_eq_some_iff.mp taken
    cases built
    exact ⟨by simpa using isOpen, ⟨kind, Lanes.taken_of_pop popped⟩, rfl, rfl,
      by simpa using isOpen⟩

@[simp] theorem items_drain : q.drain.items = [] := rfl

theorem accounted_new : Accounted .new := ⟨rfl, rfl, fun _ => rfl⟩

theorem accounted_drain : q.drain.Accounted := ⟨rfl, rfl, fun _ => rfl⟩

/-- The number of messages in the queue is a weight like any other. -/
theorem length_items (lanes : Lanes QueuedControlMessage) :
    (lanes.items.length : ℤ) = (lanes.items.map fun _ => (1 : ℤ)).sum := by
  rw [List.map_const', List.sum_replicate, nsmul_eq_mul, mul_one]

theorem Accounted.enqueueItem (accounted : q.Accounted) (accepted : q.enqueueItem item = .ok q') :
    q'.Accounted := by
  obtain ⟨-, -, lanes, count, bytes, isOpen⟩ := enqueueItem_ok accepted
  refine ⟨?_, ?_, fun closed => ?_⟩
  · rw [count, accounted.count, lanes, length_items, length_items, Lanes.sum_items_push]
  · rw [bytes, accounted.bytes, lanes, Lanes.sum_items_push]
  · rw [isOpen] at closed
    cases closed

theorem Accounted.next (accounted : q.Accounted) (taken : q.next = some (some item, q')) :
    q'.Accounted := by
  obtain ⟨-, ⟨kind, took⟩, count, bytes, isOpen⟩ := next_item taken
  have fewer := took.sum_items fun _ => (1 : ℤ)
  have smaller := took.sum_items QueuedControlMessage.size
  refine ⟨?_, ?_, fun closed => ?_⟩
  · rw [← length_items, ← length_items] at fewer
    rw [count, accounted.count]
    omega
  · rw [bytes, accounted.bytes]
    omega
  · rw [isOpen] at closed
    cases closed

/-- The bounds hold after a message that is not critical has been admitted. -/
theorem Accounted.admitted (accounted : q.Accounted) (accepted : q.enqueueItem item = .ok q')
    (ordinary : isCriticalControlMessage item.message = false) :
    (q'.items.length : ℤ) ≤ maxControlQueueMessages ∧
      (q'.items.map QueuedControlMessage.size).sum ≤ maxControlQueueBytes := by
  have accounted' := accounted.enqueueItem accepted
  obtain ⟨-, admitted, -, count, bytes, -⟩ := enqueueItem_ok accepted
  have room : q.queueFull item.size = false := by
    rcases admitted with critical | room
    · rw [ordinary] at critical
      cases critical
    · exact room
  simp only [queueFull, Bool.or_eq_false_iff, decide_eq_false_iff_not] at room
  rw [← accounted'.count, ← accounted'.bytes, count, bytes]
  omega

end ControlWriteQueue

namespace WriteQueue

/-- A completion sends its error on the channel of its message, if there is one. -/
theorem of_complete {s s' : WriteQueue} {item : QueuedControlMessage} {err : Option WriteError}
    (completes : s.complete item err = some s') :
    ∃ done, s' = { s with done := done, completed := s.completed ++ [(item, err)] } ∧
      ∀ n, (done n).capacity = (s.done n).capacity ∧
        (done n).sent = (s.done n).sent ++ if item.done = some n then [err] else [] := by
  unfold complete at completes
  split at completes
  · rename_i none
    cases completes
    refine ⟨s.done, rfl, fun n => ⟨rfl, ?_⟩⟩
    rw [none, if_neg (by simp), List.append_nil]
  · rename_i own waits
    obtain ⟨channel, sends, rfl⟩ := Option.map_eq_some_iff.mp completes
    obtain ⟨capacity, -, sent⟩ := Chan.of_send sends
    refine ⟨Function.update s.done own channel, rfl, fun n => ?_⟩
    by_cases same : n = own
    · subst same
      rw [Function.update_self, waits, if_pos rfl]
      exact ⟨capacity, sent⟩
    · rw [Function.update_of_ne same, waits, if_neg fun equal => same (Option.some.inj equal).symm,
        List.append_nil]
      exact ⟨rfl, rfl⟩

end WriteQueue

/-! ## What a step does to the queue -/

/-- The four things that happen to the three queues. -/
inductive QueueEvent (s s' : WriteQueue) : Prop
  | none (queue : s'.queue = s.queue) (accepted : s'.accepted = s.accepted)
      (taken : s'.taken = s.taken)
  | enqueued (item : QueuedControlMessage) (queue : s.queue.enqueueItem item = .ok s'.queue)
      (accepted : s'.accepted = s.accepted ++ [item]) (taken : s'.taken = s.taken)
  | dequeued (item : QueuedControlMessage) (queue : s.queue.next = some (some item, s'.queue))
      (accepted : s'.accepted = s.accepted) (taken : s'.taken = s.taken ++ [item])
  | drained (queue : s'.queue = s.queue.drain) (accepted : s'.accepted = s.accepted)
      (taken : s'.taken = s.taken)

section Steps

variable {s s' : WriteQueue} {caller caller' : Caller} {choice : WriteChoice}
variable {spawned : List Caller} {item : QueuedControlMessage} {err : Option WriteError}

theorem event_of_complete (completes : s.complete item err = some s') (writer : Writer) :
    QueueEvent s { s' with writer := writer } := by
  obtain ⟨done, rfl, -⟩ := WriteQueue.of_complete completes
  exact .none rfl rfl rfl

theorem event_of_enqueueItem (message : ControlMessage) (waits : Bool) :
    QueueEvent s (s.enqueueItem message waits).1 := by
  unfold WriteQueue.enqueueItem
  split
  · exact .none rfl rfl rfl
  · rename_i accepted
    exact .enqueued _ accepted rfl rfl

theorem event_of_run {failure : Option String} (ran : s.run failure = some s') :
    QueueEvent s s' := by
  unfold WriteQueue.run at ran
  split at ran
  · split at ran
    · cases ran
    · cases ran
      exact .none rfl rfl rfl
    · rename_i item queue taken
      cases ran
      exact .dequeued item taken rfl rfl
  · cases ran
    exact .none rfl rfl rfl
  · cases ran
    exact .none rfl rfl rfl
  · rename_i err ready
    obtain ⟨completed, completes, rfl⟩ := Option.map_eq_some_iff.mp ran
    cases err with
    | none => exact event_of_complete completes .next
    | some cause => exact event_of_complete completes (.fail cause)
  · split at ran <;> cases ran
    · exact .none rfl rfl rfl
    · exact .drained rfl rfl rfl
  · cases ran
    exact .none rfl rfl rfl
  · obtain ⟨completed, completes, rfl⟩ := Option.map_eq_some_iff.mp ran
    exact event_of_complete completes _
  · cases ran

theorem event_of_step (stepped : s.step caller choice = some (s', caller', spawned)) :
    QueueEvent s s' := by
  unfold WriteQueue.step at stepped
  split at stepped
  · obtain ⟨next, ran, built⟩ := Option.map_eq_some_iff.mp stepped
    cases built
    exact event_of_run ran
  · obtain ⟨next, ran, built⟩ := Option.map_eq_some_iff.mp stepped
    cases built
    exact event_of_run ran
  · cases stepped
    exact event_of_enqueueItem _ false
  · rename_i message
    have event := event_of_enqueueItem (s := s) message true
    split at stepped <;> rename_i enqueued <;> cases stepped <;> rw [enqueued] at event <;>
      exact event
  · obtain ⟨received, receives, built⟩ := Option.map_eq_some_iff.mp stepped
    cases built
    obtain ⟨value, -, rfl⟩ := Option.map_eq_some_iff.mp receives
    exact .none rfl rfl rfl
  · cases stepped
    exact .none rfl rfl rfl
  · cases stepped
    exact .drained rfl rfl rfl
  · obtain ⟨next, completes, built⟩ := Option.map_eq_some_iff.mp stepped
    cases built
    exact event_of_complete completes s'.writer
  · cases stepped
    exact .none rfl rfl rfl
  · cases stepped

/-- Nothing is dequeued once the queue is closed, and it stays closed. -/
theorem QueueEvent.closed (event : QueueEvent s s') (closed : s.queue.closed = true) :
    s'.taken = s.taken ∧ s'.queue.closed = true := by
  cases event with
  | none queue accepted taken => exact ⟨taken, by rw [queue, closed]⟩
  | enqueued item queue accepted taken =>
      rw [(ControlWriteQueue.enqueueItem_ok queue).1] at closed
      cases closed
  | dequeued item queue accepted taken =>
      rw [(ControlWriteQueue.next_item queue).1] at closed
      cases closed
  | drained queue accepted taken => exact ⟨taken, by rw [queue]; rfl⟩

/-- A message that has just been accepted was put into the queue by `enqueueItem`. -/
theorem QueueEvent.accepted_eq (event : QueueEvent s s')
    (accepted : s'.accepted = s.accepted ++ [item]) :
    s.queue.enqueueItem item = .ok s'.queue := by
  have impossible (same : s'.accepted = s.accepted) : s.queue.enqueueItem item = .ok s'.queue := by
    rw [same] at accepted
    exact absurd accepted.symm (by simp)
  cases event with
  | none queue same taken => exact impossible same
  | enqueued other queue appended taken =>
      rw [appended, List.append_cancel_left_eq, List.singleton_inj] at accepted
      rw [← accepted]
      exact queue
  | dequeued other queue same taken => exact impossible same
  | drained queue same taken => exact impossible same

end Steps

/-- A move of the pool does to the queue what a step does. -/
theorem event_of_exec {config next : Config WriteQueue Caller} {move : Move Caller WriteChoice}
    (moved : writeQueue.exec config move = some next) : QueueEvent config.shared next.shared := by
  cases move with
  | arrive caller =>
      obtain ⟨-, rfl⟩ := Machine.exec_arrive moved
      exact .none rfl rfl rfl
  | run index choice =>
      obtain ⟨caller, s', caller', spawned, -, stepped, rfl⟩ := Machine.exec_run moved
      exact event_of_step stepped

end NryNet.Control
