import NryNet.Lib.LaneHistory
import NryNet.Protocol

/-!
# The control connection of the agent (`client/agent/control_write_queue.go`)

`queuedControlConn` is the agent's counterpart of the server's write queue: `writeJSON` puts a
message into one of three queues under a lock and returns, and the goroutine of `run` writes what it
takes out of them to the connection below.  Nobody waits for a write, so nothing has to be completed;
`close` and `fail` drop what is still in the queues.

What the server's queue does not have is `heartbeatQueued`: a heartbeat that finds another one still
in the queue is dropped, and `writeJSON` returns as if it had been accepted.  The flag is set,
cleared and reset on four different branches; the invariant `Sound` says that it always tells whether
a heartbeat waits.
-/

namespace NryNet.Agent

open ThreadPool

/-! ## The queue -/

/-- What `writeJSON` is given.  All that is asked of it is whether it is a control message, and
which. -/
inductive ControlValue where
  | message (message : ControlMessage)
  | other
  deriving DecidableEq, Repr

/-- `queuedAgentMessage`. -/
structure QueuedAgentMessage where
  value : ControlValue
  size : ℤ
  /-- the call that brought it -/
  ticket : ℕ
  deriving DecidableEq, Repr

/-- `queuedControlConn`. -/
structure QueuedControlConn extends Lanes QueuedAgentMessage where
  queuedCount : ℤ
  queuedBytes : ℤ
  heartbeatQueued : Bool
  closed : Bool
  deriving DecidableEq, Repr

/-- `errAgentControlWriteQueueClosed` and `errAgentControlQueueFull`. -/
inductive WriteError where
  | queueClosed
  | queueFull
  deriving DecidableEq, Repr

def maxAgentControlQueueMessages : ℤ := 65536

def maxAgentControlQueueBytes : ℤ := 268435456

def agentControlMessageSize : ControlValue → ℤ
  | .other => 256
  | .message message => message.payload.length + 128

def isUrgentControlMessage : ControlValue → Bool
  | .message message =>
      message.type = .heartbeat || message.type = .hello || message.type = .openConnection ||
        message.type = .p2pConnect || message.type = .requestWorkConn ||
        message.type = .tunnelSnapshot || message.type = .visitorWebRTC ||
        message.type = .connectionFailed
  | .other => false

def valueIsHeartbeat : ControlValue → Bool
  | .message message => message.type = .heartbeat
  | .other => false

def isCriticalAgentMessage : ControlValue → Bool
  | .message message => message.type = .heartbeat || message.type = .heartbeatAck
  | .other => false

namespace QueuedAgentMessage

/-- The queue `writeJSON` puts a message into. -/
def lane (item : QueuedAgentMessage) : Lane :=
  if isCriticalAgentMessage item.value then .critical
  else if isUrgentControlMessage item.value then .urgent
  else .normal

def isHeartbeat (item : QueuedAgentMessage) : Bool :=
  valueIsHeartbeat item.value

/-- A heartbeat is critical. -/
theorem lane_of_isHeartbeat {item : QueuedAgentMessage} (heartbeat : item.isHeartbeat = true) :
    item.lane = .critical := by
  obtain ⟨value, size, ticket⟩ := item
  cases value with
  | other => cases heartbeat
  | message message =>
      have type : message.type = .heartbeat := of_decide_eq_true heartbeat
      unfold lane
      rw [if_pos]
      simp [isCriticalAgentMessage, type]

end QueuedAgentMessage

/-- What becomes of a message that `writeJSON` does not refuse. -/
inductive Admission where
  | queued
  | coalesced
  deriving DecidableEq, Repr

namespace QueuedControlConn

/-- The queue of `newQueuedControlConn`. -/
def new : QueuedControlConn where
  critical := []
  urgent := []
  normal := []
  urgentBudget := 0
  queuedCount := 0
  queuedBytes := 0
  heartbeatQueued := false
  closed := false

def queueFull (q : QueuedControlConn) (size : ℤ) : Bool :=
  q.queuedCount ≥ maxAgentControlQueueMessages || q.queuedBytes + size > maxAgentControlQueueBytes

/-- The end of `writeJSON`, with the value `heartbeatQueued` has by then. -/
def append (q : QueuedControlConn) (item : QueuedAgentMessage) (heartbeatQueued : Bool) :
    QueuedControlConn :=
  { q.push item item.lane with
    queuedCount := q.queuedCount + 1
    queuedBytes := q.queuedBytes + item.size
    heartbeatQueued := heartbeatQueued
    closed := q.closed }

def writeJSON (q : QueuedControlConn) (item : QueuedAgentMessage) :
    Except WriteError (QueuedControlConn × Admission) :=
  if q.closed then .error .queueClosed
  else if !isCriticalAgentMessage item.value && q.queueFull item.size then .error .queueFull
  else if valueIsHeartbeat item.value then
    if q.heartbeatQueued then .ok (q, .coalesced)
    -- the source asks a second time, under the same lock, and takes the flag back
    else if q.closed then .error .queueClosed
    else .ok (q.append item true, .queued)
  else if q.closed then .error .queueClosed
  else .ok (q.append item q.heartbeatQueued, .queued)

/-- `next`, with `completeDequeue`: `none` while it waits, and no message when the queue is
closed. -/
def next (q : QueuedControlConn) : Option (Option QueuedAgentMessage × QueuedControlConn) :=
  if q.closed then some (none, q)
  else
    (q.pop 32).map fun popped =>
      (some popped.2.1,
        { popped.2.2 with
          queuedCount := q.queuedCount - 1
          queuedBytes := q.queuedBytes - popped.2.1.size
          heartbeatQueued := if valueIsHeartbeat popped.2.1.value then false else q.heartbeatQueued
          closed := q.closed })

/-- The critical section of `close` and of `fail`. -/
def drop (q : QueuedControlConn) : QueuedControlConn :=
  { q.clear with queuedCount := 0, queuedBytes := 0, heartbeatQueued := false, closed := true }

end QueuedControlConn

/-! ## The writer and the callers -/

/-- The goroutine `run`. -/
inductive Writer where
  /-- before `next` -/
  | next
  /-- before `base.writeJSON` -/
  | write (item : QueuedAgentMessage)
  /-- in `base.writeJSON` -/
  | writing (item : QueuedAgentMessage)
  /-- before `fail` -/
  | fail
  | stopped
  deriving DecidableEq, Repr

/-- The message that was taken and is not yet passed to `base.writeJSON`. -/
def Writer.unwritten : Writer → List QueuedAgentMessage
  | .write item => [item]
  | _ => []

/-- A connection with its writer.  The logs are ghosts. -/
structure ControlConn where
  queue : QueuedControlConn
  writer : Writer
  calls : ℕ
  /-- the messages that were put into the queue, in this order -/
  accepted : List QueuedAgentMessage
  /-- the messages `next` has returned -/
  taken : List QueuedAgentMessage
  /-- the messages that were passed to `base.writeJSON` -/
  written : List QueuedAgentMessage

namespace ControlConn

/-- `newQueuedControlConn`. -/
def new : ControlConn where
  queue := .new
  writer := .next
  calls := 0
  accepted := []
  taken := []
  written := []

/-- The message of the next call of `writeJSON`. -/
def item (s : ControlConn) (value : ControlValue) : QueuedAgentMessage where
  value := value
  size := agentControlMessageSize value
  ticket := s.calls

/-- A call of `writeJSON`, with the error it returns. -/
def writeJSON (s : ControlConn) (value : ControlValue) : ControlConn × Option WriteError :=
  match s.queue.writeJSON (s.item value) with
  | .error err => ({ s with calls := s.calls + 1 }, some err)
  | .ok (_, .coalesced) => ({ s with calls := s.calls + 1 }, none)
  | .ok (queue, .queued) =>
      ({ s with queue := queue, calls := s.calls + 1, accepted := s.accepted ++ [s.item value] },
        none)

/-- `close`, up to the closing of the connection below. -/
def close (s : ControlConn) : ControlConn :=
  { s with queue := s.queue.drop }

/-- One action of the goroutine `run`.  `failed` tells what `base.writeJSON` returns, if it returns
now. -/
def run (s : ControlConn) (failed : Bool) : Option ControlConn :=
  match s.writer with
  | .next =>
      match s.queue.next with
      | none => none
      | some (none, _) => some { s with writer := .stopped }
      | some (some item, queue) =>
          some { s with queue := queue, writer := .write item, taken := s.taken ++ [item] }
  | .write item => some { s with writer := .writing item, written := s.written ++ [item] }
  | .writing _ => some { s with writer := if failed then .fail else .next }
  | .fail =>
      if s.queue.closed then some { s with writer := .stopped }
      else some { s with queue := s.queue.drop, writer := .stopped }
  | .stopped => none

end ControlConn

/-- What calls into the connection. -/
inductive Caller where
  /-- the goroutine `run` -/
  | run
  /-- before `writeJSON` -/
  | writeJSON (value : ControlValue)
  /-- before `close` -/
  | close
  | returned (err : Option WriteError)
  deriving DecidableEq, Repr

/-- One action of a caller; `failed` is the environment's decision about a write. -/
def ControlConn.step (s : ControlConn) (caller : Caller) (failed : Bool) :
    Option (ControlConn × Caller × List Caller) :=
  match caller with
  | .run => (s.run failed).map fun s' => (s', .run, [])
  | .writeJSON value => some ((s.writeJSON value).1, .returned (s.writeJSON value).2, [])
  | .close => some (s.close, .returned none, [])
  | .returned _ => none

/-- What may be called at any time. -/
def Caller.arrives : Caller → Bool
  | .writeJSON _ | .close => true
  | _ => false

/-- A control connection and everything that calls into it. -/
def controlConn : Machine ControlConn Caller Bool where
  entry := Caller.arrives
  step := ControlConn.step

/-- A new connection, whose writer has just started. -/
def controlConnStart : Config ControlConn Caller where
  shared := .new
  threads := [.run]

/-! ## What the methods do -/

namespace QueuedControlConn

variable {q q' : QueuedControlConn} {item : QueuedAgentMessage}

/-- The heartbeats among some messages. -/
def heartbeats (items : List QueuedAgentMessage) : ℤ :=
  (items.map fun item => if item.isHeartbeat then (1 : ℤ) else 0).sum

/-- The counters and the flag tell what is in the queue, and a closed queue is empty. -/
structure Accounted (q : QueuedControlConn) : Prop where
  count : q.queuedCount = (q.items.map fun _ => (1 : ℤ)).sum
  bytes : q.queuedBytes = (q.items.map QueuedAgentMessage.size).sum
  flag : heartbeats q.items = if q.heartbeatQueued then 1 else 0
  closed : q.closed = true → q.items = []

/-- A message that is put into the queue finds it open, and raises the flag if it is a heartbeat;
then no other one was there. -/
theorem writeJSON_queued (accepted : q.writeJSON item = .ok (q', .queued)) :
    q.closed = false ∧ q' = q.append item (q.heartbeatQueued || item.isHeartbeat) ∧
      (item.isHeartbeat = true → q.heartbeatQueued = false) := by
  unfold writeJSON at accepted
  split at accepted
  · cases accepted
  · rename_i isOpen
    split at accepted
    · cases accepted
    · split at accepted
      · rename_i heartbeat
        split at accepted
        · cases accepted
        · rename_i none
          cases accepted
          refine ⟨by simpa using isOpen, ?_, fun _ => by simpa using none⟩
          unfold QueuedAgentMessage.isHeartbeat
          rw [heartbeat, Bool.or_true]
      · rename_i ordinary
        cases accepted
        refine ⟨by simpa using isOpen, ?_, fun heartbeat => absurd heartbeat ordinary⟩
        unfold QueuedAgentMessage.isHeartbeat
        rw [Bool.eq_false_iff.mpr ordinary, Bool.or_false]

/-- A message that `next` returns was due, in a queue that is open. -/
theorem next_item (taken : q.next = some (some item, q')) :
    q.closed = false ∧ (∃ kind, Lanes.Taken 32 q.toLanes kind item q'.toLanes) ∧
      q'.queuedCount = q.queuedCount - 1 ∧ q'.queuedBytes = q.queuedBytes - item.size ∧
      q'.heartbeatQueued = (if item.isHeartbeat then false else q.heartbeatQueued) ∧
      q'.closed = false := by
  unfold next at taken
  split at taken
  · cases taken
  · rename_i isOpen
    obtain ⟨⟨kind, _, lanes⟩, popped, built⟩ := Option.map_eq_some_iff.mp taken
    cases built
    exact ⟨by simpa using isOpen, ⟨kind, Lanes.taken_of_pop popped⟩, rfl, rfl, rfl,
      by simpa using isOpen⟩

theorem accounted_new : Accounted .new := ⟨rfl, rfl, rfl, fun _ => rfl⟩

theorem accounted_drop : q.drop.Accounted := ⟨rfl, rfl, rfl, fun _ => rfl⟩

theorem Accounted.writeJSON (accounted : q.Accounted)
    (accepted : q.writeJSON item = .ok (q', .queued)) : q'.Accounted := by
  obtain ⟨isOpen, rfl, alone⟩ := writeJSON_queued accepted
  refine ⟨?_, ?_, ?_, fun closed => ?_⟩
  · show q.queuedCount + 1 = ((q.push item item.lane).items.map _).sum
    rw [Lanes.sum_items_push, accounted.count]
  · show q.queuedBytes + item.size = ((q.push item item.lane).items.map _).sum
    rw [Lanes.sum_items_push, accounted.bytes]
  · show ((q.push item item.lane).items.map _).sum =
      if (q.heartbeatQueued || item.isHeartbeat) = true then 1 else 0
    have flag := accounted.flag
    unfold heartbeats at flag
    rw [Lanes.sum_items_push, flag]
    cases heartbeat : item.isHeartbeat with
    | true =>
        rw [alone heartbeat]
        rfl
    | false =>
        rw [Bool.or_false]
        exact add_zero _
  · have closed' : q.closed = true := closed
    rw [isOpen] at closed'
    cases closed'

theorem Accounted.next (accounted : q.Accounted) (taken : q.next = some (some item, q')) :
    q'.Accounted := by
  obtain ⟨-, ⟨kind, took⟩, count, bytes, flag, isOpen⟩ := next_item taken
  have fewer := took.sum_items fun _ => (1 : ℤ)
  have smaller := took.sum_items QueuedAgentMessage.size
  have beats := took.sum_items fun item => if item.isHeartbeat then (1 : ℤ) else 0
  refine ⟨?_, ?_, ?_, fun closed => ?_⟩
  · rw [count, accounted.count]
    omega
  · rw [bytes, accounted.bytes]
    omega
  · have before := accounted.flag
    unfold heartbeats at before ⊢
    rw [before] at beats
    rw [flag]
    cases heartbeat : item.isHeartbeat with
    | true =>
        -- the heartbeat that is taken was the only one, as there cannot be a negative number of them
        have nonneg : 0 ≤ (q'.items.map fun item => if item.isHeartbeat then (1 : ℤ) else 0).sum := by
          refine List.sum_nonneg fun weight member => ?_
          obtain ⟨other, -, rfl⟩ := List.mem_map.mp member
          split <;> omega
        rw [heartbeat] at beats
        cases queued : q.heartbeatQueued with
        | true =>
            rw [queued] at beats
            simpa using beats.symm
        | false =>
            rw [queued] at beats
            simp only [Bool.false_eq_true, if_false, if_true] at beats
            omega
    | false =>
        rw [heartbeat] at beats
        simpa using beats.symm
  · rw [isOpen] at closed
    cases closed

end QueuedControlConn

/-! ## What a step does to the queue -/

/-- The four things that happen to the three queues. -/
inductive QueueEvent (s s' : ControlConn) : Prop
  | none (queue : s'.queue = s.queue) (accepted : s'.accepted = s.accepted)
      (taken : s'.taken = s.taken)
  | queued (item : QueuedAgentMessage) (queue : s.queue.writeJSON item = .ok (s'.queue, .queued))
      (accepted : s'.accepted = s.accepted ++ [item]) (taken : s'.taken = s.taken)
  | dequeued (item : QueuedAgentMessage) (queue : s.queue.next = some (some item, s'.queue))
      (accepted : s'.accepted = s.accepted) (taken : s'.taken = s.taken ++ [item])
  | dropped (queue : s'.queue = s.queue.drop) (accepted : s'.accepted = s.accepted)
      (taken : s'.taken = s.taken)

section Steps

variable {s s' : ControlConn} {caller caller' : Caller} {failed : Bool} {spawned : List Caller}

theorem event_of_run (ran : s.run failed = some s') : QueueEvent s s' := by
  unfold ControlConn.run at ran
  split at ran
  · split at ran
    · cases ran
    · cases ran
      exact .none rfl rfl rfl
    · rename_i item queue taken
      cases ran
      exact .dequeued item taken rfl rfl
  · cases ran
    exact .none rfl rfl rfl
  · cases ran
    exact .none rfl rfl rfl
  · split at ran <;> cases ran
    · exact .none rfl rfl rfl
    · exact .dropped rfl rfl rfl
  · cases ran

theorem event_of_writeJSON (value : ControlValue) : QueueEvent s (s.writeJSON value).1 := by
  unfold ControlConn.writeJSON
  split
  · exact .none rfl rfl rfl
  · exact .none rfl rfl rfl
  · rename_i accepted
    exact .queued _ accepted rfl rfl

theorem event_of_step (stepped : s.step caller failed = some (s', caller', spawned)) :
    QueueEvent s s' := by
  unfold ControlConn.step at stepped
  split at stepped
  · obtain ⟨next, ran, built⟩ := Option.map_eq_some_iff.mp stepped
    cases built
    exact event_of_run ran
  · cases stepped
    exact event_of_writeJSON _
  · cases stepped
    exact .dropped rfl rfl rfl
  · cases stepped

/-- Nothing is dequeued once the queue is closed, and it stays closed. -/
theorem QueueEvent.closed (event : QueueEvent s s') (closed : s.queue.closed = true) :
    s'.taken = s.taken ∧ s'.queue.closed = true := by
  cases event with
  | none queue accepted taken => exact ⟨taken, by rw [queue, closed]⟩
  | queued item queue accepted taken =>
      rw [(QueuedControlConn.writeJSON_queued queue).1] at closed
      cases closed
  | dequeued item queue accepted taken =>
      rw [(QueuedControlConn.next_item queue).1] at closed
      cases closed
  | dropped queue accepted taken => exact ⟨taken, by rw [queue]; rfl⟩

end Steps

/-- A move of the pool does to the queue what a step does. -/
theorem event_of_exec {config next : Config ControlConn Caller} {move : Move Caller Bool}
    (moved : controlConn.exec config move = some next) : QueueEvent config.shared next.shared := by
  cases move with
  | arrive caller =>
      obtain ⟨-, rfl⟩ := Machine.exec_arrive moved
      exact .none rfl rfl rfl
  | run index failed =>
      obtain ⟨caller, s', caller', spawned, -, stepped, rfl⟩ := Machine.exec_run moved
      exact event_of_step stepped

/-! ## The invariant -/

/-- The invariant of a connection. -/
structure Sound (s : ControlConn) : Prop where
  accounted : s.queue.Accounted
  tickets : (s.accepted.map QueuedAgentMessage.ticket).Nodup
  called : ∀ item ∈ s.accepted,
    item.ticket < s.calls ∧ item.size = agentControlMessageSize item.value
  inOrder : s.queue.closed = false →
    Lanes.InOrder QueuedAgentMessage.lane s.queue.toLanes s.accepted s.taken
  fronts : ∀ kind,
    s.taken.filter (QueuedAgentMessage.lane · = kind) <+:
      s.accepted.filter (QueuedAgentMessage.lane · = kind)
  unwritten : s.taken = s.written ++ s.writer.unwritten

namespace Sound

variable {s s' : ControlConn}

theorem new : Sound .new where
  accounted := QueuedControlConn.accounted_new
  tickets := List.nodup_nil
  called item member := by cases member
  inOrder _ kind := by cases kind <;> rfl
  fronts kind := List.prefix_rfl
  unwritten := rfl

/-- A message that waits is in the queue of its class. -/
theorem of_mem_lane (sound : Sound s) {kind : Lane} {item : QueuedAgentMessage}
    (member : item ∈ s.queue.lane kind) : item.lane = kind ∧ item ∈ s.accepted := by
  cases closed : s.queue.closed with
  | true =>
      have empty := sound.accounted.closed closed
      have waiting : item ∈ s.queue.items := Lanes.mem_items.mpr ⟨kind, member⟩
      rw [empty] at waiting
      cases waiting
  | false => exact (sound.inOrder closed).of_mem member

/-- A call is numbered, whether its message is put into the queue or not. -/
theorem refuse (sound : Sound s) : Sound { s with calls := s.calls + 1 } :=
  { sound with
    called := fun item member =>
      ⟨(sound.called item member).1.trans (Nat.lt_succ_self _), (sound.called item member).2⟩ }

theorem accept (sound : Sound s) {value : ControlValue} {queue : QueuedControlConn}
    (accepted : s.queue.writeJSON (s.item value) = .ok (queue, .queued)) :
    Sound
      { s with
        queue := queue
        calls := s.calls + 1
        accepted := s.accepted ++ [s.item value] } := by
  obtain ⟨isOpen, built, -⟩ := QueuedControlConn.writeJSON_queued accepted
  have inOrder : Lanes.InOrder QueuedAgentMessage.lane queue.toLanes
      (s.accepted ++ [s.item value]) s.taken := by
    rw [built]
    exact (sound.inOrder isOpen).push
  refine
    { sound with
      accounted := sound.accounted.writeJSON accepted
      tickets := ?_
      called := ?_
      inOrder := fun _ => inOrder
      fronts := fun kind => inOrder.isPrefix kind }
  · -- the ticket is the number of this call, and the earlier ones are smaller
    rw [List.map_append, List.map_singleton]
    refine sound.tickets.append (List.nodup_singleton _) ?_
    intro ticket earlier last
    obtain ⟨item, member, rfl⟩ := List.mem_map.mp earlier
    rw [List.mem_singleton] at last
    exact (sound.called item member).1.ne last
  · intro item member
    rcases List.mem_append.mp member with earlier | last
    · exact ⟨(sound.called item earlier).1.trans (Nat.lt_succ_self _),
        (sound.called item earlier).2⟩
    · rw [List.mem_singleton.mp last]
      exact ⟨Nat.lt_succ_self _, rfl⟩

theorem writeJSON (sound : Sound s) (value : ControlValue) : Sound (s.writeJSON value).1 := by
  unfold ControlConn.writeJSON
  split
  · exact sound.refuse
  · exact sound.refuse
  · rename_i accepted
    exact sound.accept accepted

theorem close (sound : Sound s) : Sound s.close :=
  { sound with
    accounted := QueuedControlConn.accounted_drop
    inOrder := fun isOpen => nomatch isOpen }

/-- The writer goes on, with the same message in its hands. -/
theorem move (sound : Sound s) {writer : Writer} (same : writer.unwritten = s.writer.unwritten) :
    Sound { s with writer := writer } :=
  { sound with
    unwritten := by
      rw [sound.unwritten, same] }

/-- **The writer keeps the invariant**, wherever it stands. -/
theorem run (sound : Sound s) {failed : Bool} (ran : s.run failed = some s') : Sound s' := by
  unfold ControlConn.run at ran
  split at ran
  · rename_i ready
    split at ran
    · cases ran
    · cases ran
      exact sound.move (by rw [ready]; rfl)
    · rename_i item queue taken
      cases ran
      obtain ⟨isOpen, ⟨kind, took⟩, -⟩ := QueuedControlConn.next_item taken
      have inOrder := (sound.inOrder isOpen).pop took
      refine
        { sound with
          accounted := sound.accounted.next taken
          inOrder := fun _ => inOrder
          fronts := fun kind => inOrder.isPrefix kind
          unwritten := ?_ }
      show s.taken ++ [item] = s.written ++ [item]
      rw [sound.unwritten, ready]
      show s.written ++ [] ++ [item] = _
      rw [List.append_nil]
  · -- `WriteJSON` is called: from here on the message counts as written, whether the call fails or
    -- not
    rename_i item ready
    cases ran
    refine { sound with unwritten := ?_ }
    show s.taken = s.written ++ [item] ++ []
    rw [sound.unwritten, ready, List.append_nil]
    rfl
  · rename_i ready
    cases ran
    refine sound.move ?_
    rw [ready]
    cases failed <;> rfl
  · rename_i ready
    have stopped : Sound { s with writer := .stopped } := sound.move (by rw [ready]; rfl)
    split at ran <;> cases ran
    · exact stopped
    · exact stopped.close
  · cases ran

end Sound

variable {config : Config ControlConn Caller}

/-- The invariant holds in every configuration that is reached. -/
theorem sound_of_reachable (reached : controlConn.Reachable controlConnStart config) :
    Sound config.shared := by
  refine Machine.Run.reachable_invariant reached (fun config => Sound config.shared) Sound.new
    (fun _ _ sound _ => sound) ?_
  intro config index failed caller s' caller' spawned sound _ stepped
  have stepped : config.shared.step caller failed = some (s', caller', spawned) := stepped
  unfold ControlConn.step at stepped
  split at stepped
  · obtain ⟨next, ran, built⟩ := Option.map_eq_some_iff.mp stepped
    cases built
    exact sound.run ran
  · cases stepped
    exact sound.writeJSON _
  · cases stepped
    exact sound.close
  · cases stepped

/-! ## What the connection promises -/

/-- The contract of the connection, in one configuration and for the next move from it. -/
structure Delivers (config : Config ControlConn Caller) : Prop where
  /-- the flag tells whether a heartbeat waits, and there is never a second one -/
  flag : config.shared.queue.critical.countP QueuedAgentMessage.isHeartbeat =
    if config.shared.queue.heartbeatQueued then 1 else 0
  count : config.shared.queue.queuedCount = config.shared.queue.items.length
  bytes : config.shared.queue.queuedBytes =
    (config.shared.queue.items.map QueuedAgentMessage.size).sum
  nonneg : 0 ≤ config.shared.queue.queuedCount ∧ 0 ≤ config.shared.queue.queuedBytes
  /-- accepted messages are told apart by their tickets -/
  distinct : (config.shared.accepted.map QueuedAgentMessage.ticket).Nodup
  writtenOnce : config.shared.written.Nodup
  /-- what was written of a class is what was accepted of it, from the front -/
  writtenInOrder : ∀ kind,
    config.shared.written.filter (QueuedAgentMessage.lane · = kind) <+:
      config.shared.accepted.filter (QueuedAgentMessage.lane · = kind)
  /-- `close` and `fail` close the queue -/
  closes : ∀ index failed next,
    (config.threads[index]? = some .close ∨
      config.threads[index]? = some .run ∧ config.shared.writer = .fail) →
    controlConn.exec config (.run index failed) = some next → next.shared.queue.closed = true
  closedForGood : ∀ move next, config.shared.queue.closed = true →
    controlConn.exec config move = some next →
    next.shared.taken = config.shared.taken ∧ next.shared.queue.closed = true

/-- Counting heartbeats is summing a weight. -/
theorem heartbeats_eq_countP (items : List QueuedAgentMessage) :
    QueuedControlConn.heartbeats items = items.countP QueuedAgentMessage.isHeartbeat := by
  unfold QueuedControlConn.heartbeats
  induction items with
  | nil => rfl
  | cons item rest hypothesis =>
      rw [List.map_cons, List.sum_cons, hypothesis, List.countP_cons]
      cases item.isHeartbeat with
      | true =>
          simp only [if_true, Nat.cast_add, Nat.cast_one]
          omega
      | false => simp

namespace Sound

variable {s : ControlConn}

/-- No heartbeat waits among the urgent and the normal messages. -/
theorem no_heartbeat (sound : Sound s) (kind : Lane) (lower : kind ≠ .critical) :
    (s.queue.lane kind).countP QueuedAgentMessage.isHeartbeat = 0 := by
  rw [List.countP_eq_zero]
  intro item member heartbeat
  have own := (sound.of_mem_lane member).1
  rw [QueuedAgentMessage.lane_of_isHeartbeat heartbeat] at own
  exact lower own.symm

theorem countP_critical (sound : Sound s) :
    s.queue.critical.countP QueuedAgentMessage.isHeartbeat =
      if s.queue.heartbeatQueued then 1 else 0 := by
  have flag := sound.accounted.flag
  have urgent : s.queue.urgent.countP QueuedAgentMessage.isHeartbeat = 0 :=
    sound.no_heartbeat .urgent (by decide)
  have normal : s.queue.normal.countP QueuedAgentMessage.isHeartbeat = 0 :=
    sound.no_heartbeat .normal (by decide)
  rw [heartbeats_eq_countP] at flag
  unfold Lanes.items at flag
  rw [List.countP_append, List.countP_append, urgent, normal] at flag
  split at flag <;> rename_i queued
  · rw [if_pos queued]
    omega
  · rw [if_neg queued]
    omega

theorem bytes_nonneg (sound : Sound s) : 0 ≤ s.queue.queuedBytes := by
  rw [sound.accounted.bytes]
  refine List.sum_nonneg ?_
  intro size member
  obtain ⟨item, waiting, rfl⟩ := List.mem_map.mp member
  obtain ⟨kind, waiting⟩ := Lanes.mem_items.mp waiting
  rw [(sound.called item (sound.of_mem_lane waiting).2).2]
  unfold agentControlMessageSize
  split <;> omega

end Sound

/-- **The control connection keeps its contract** under every interleaving of `writeJSON`, `close`,
the writer and its `fail`. -/
theorem control_conn_delivers (reached : controlConn.Reachable controlConnStart config) :
    Delivers config := by
  have sound := sound_of_reachable reached
  have count : config.shared.queue.queuedCount = config.shared.queue.items.length := by
    rw [sound.accounted.count, List.map_const', List.sum_replicate, nsmul_eq_mul, mul_one]
  have written : config.shared.written <+: config.shared.taken := by
    rw [sound.unwritten]
    exact List.prefix_append _ _
  exact
    { flag := sound.countP_critical
      count := count
      bytes := sound.accounted.bytes
      nonneg := by
        refine ⟨?_, sound.bytes_nonneg⟩
        rw [count]
        exact Int.natCast_nonneg _
      distinct := sound.tickets
      writtenOnce :=
        written.sublist.nodup (Lanes.nodup_of_prefixes sound.fronts sound.tickets.of_map)
      writtenInOrder := fun kind => (written.filter _).trans (sound.fronts kind)
      closes := by
        intro index failed next who moved
        obtain ⟨caller, s', caller', spawned, present, stepped, rfl⟩ := Machine.exec_run moved
        have stepped : config.shared.step caller failed = some (s', caller', spawned) := stepped
        -- `fail` closes the connection unless somebody has closed it before
        rcases who with closing | ⟨running, failing⟩
        · rw [present] at closing
          cases closing
          cases stepped
          rfl
        · rw [present] at running
          cases running
          unfold ControlConn.step ControlConn.run at stepped
          rw [failing] at stepped
          by_cases closed : config.shared.queue.closed = true
          · rw [if_pos closed] at stepped
            cases stepped
            exact closed
          · rw [if_neg closed] at stepped
            cases stepped
            rfl
      closedForGood := fun move next closed moved => (event_of_exec moved).closed closed }

/-- Two heartbeats and an acknowledgement; the second heartbeat finds the first one still queued,
and the acknowledgement is being written when the connection is closed. -/
def coalescedMoves : List (Move Caller Bool) :=
  [.arrive (.writeJSON (.message ⟨.heartbeat, "heartbeat-1", "", []⟩)), .run 1 false,
    .arrive (.writeJSON (.message ⟨.heartbeat, "heartbeat-2", "", []⟩)), .run 2 false,
    .arrive (.writeJSON (.message ⟨.heartbeatAck, "heartbeat-7", "", []⟩)), .run 3 false,
    .run 0 false, .run 0 false, .run 0 false, .run 0 false, .run 0 false,
    .arrive .close, .run 4 false, .run 0 true]

/-- In that run two of the three messages were written. -/
theorem control_conn_delivers_coalesced :
    ∃ config, controlConn.Reachable controlConnStart config ∧
      config.shared.written.map QueuedAgentMessage.ticket = [0, 2] ∧
      config.shared.writer = .fail ∧ Delivers config := by
  obtain ⟨config, reached, written, failing⟩ :
      ∃ config, controlConn.Reachable controlConnStart config ∧
        config.shared.written.map QueuedAgentMessage.ticket = [0, 2] ∧
        config.shared.writer = .fail := by
    refine Machine.exists_run_of_replay coalescedMoves ?_
    decide +kernel
  exact ⟨config, reached, written, failing, control_conn_delivers reached⟩

end NryNet.Agent
