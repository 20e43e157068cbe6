import NryNet.Control.Sessions

/-!
# An `open_connection` is written at most once

`sendOpenConnection` tries again when the client is offline, when the queue is full and when the
queue was closed, each time with a new message in whatever queue the client has by then.  The first
two are harmless, since nothing was accepted.  The third is answered by the queue itself, through the
`done` channel of a message that it had accepted; so what has to be known is that a message that is
answered with `errControlWriteQueueClosed` was not passed to `WriteJSON` and never will be.  That is
a fact about one queue (`Sound.not_written`), and each of the queues is `Sound` all the time.

The invariant of a call (`OpenCall.Sound`) then says: all of its attempts but the last were answered
so, and the last one too as long as the call may try again.
-/

namespace NryNet.Control

open ThreadPool

namespace Sessions

/-! ## Every queue is sound -/

/-- The messages of a queue that a task still has to complete. -/
def Task.held (queue : ℕ) : Task → Multiset QueuedControlMessage
  | .closing other pending _ => if other = queue then pending else 0
  | _ => 0

section Queues

variable {s s' : State} {task task' : Task} {spawned : List Task} {queue : ℕ}

end Queues

variable {store : Store} {now : Time} {config : Config State Task}

/-- The message of an attempt was answered with `errControlWriteQueueClosed`. -/
def Attempt.Dead (s : State) (attempt : Attempt) : Prop :=
  ∃ item ∈ (s.queue attempt.queue).accepted, item.ticket = attempt.ticket ∧
    (item, some .queueClosed) ∈ (s.queue attempt.queue).completed

/-- The message of an attempt was written, and `WriteJSON` returned `nil`. -/
def Attempt.Written (s : State) (attempt : Attempt) : Prop :=
  ∃ item ∈ (s.queue attempt.queue).accepted, item.ticket = attempt.ticket ∧
    (item, none) ∈ (s.queue attempt.queue).outcomes

/-- The message of an attempt waits for an answer on its own channel. -/
def Attempt.Waits (s : State) (attempt : Attempt) : Prop :=
  ∃ item ∈ (s.queue attempt.queue).accepted, item.ticket = attempt.ticket ∧
    item.done = some attempt.ticket

/-- Where a call stands with its attempts. -/
def OpenPoint.Sound (s : State) (attempts : List Attempt) : OpenPoint → Prop
  | .attempt | .enqueue _ _ => ∀ attempt ∈ attempts, attempt.Dead s
  | .waiting queue _ ticket =>
      ∃ earlier, attempts = earlier ++ [⟨queue, ticket⟩] ∧ (∀ attempt ∈ earlier, attempt.Dead s) ∧
        Attempt.Waits s ⟨queue, ticket⟩
  | .failed err =>
      (isRetryableOpenConnectionError err = true → ∀ attempt ∈ attempts, attempt.Dead s) ∧
        ∃ earlier last, attempts = earlier ++ last ∧ (∀ attempt ∈ earlier, attempt.Dead s) ∧
          last.length ≤ 1
  | .returned none =>
      ∃ earlier last, attempts = earlier ++ [last] ∧ (∀ attempt ∈ earlier, attempt.Dead s) ∧
        last.Written s
  | .returned (some _) =>
      ∃ earlier last, attempts = earlier ++ last ∧ (∀ attempt ∈ earlier, attempt.Dead s) ∧
        last.length ≤ 1

/-- The invariant of a call. -/
def OpenCall.Sound (s : State) (call : OpenCall) : Prop :=
  call.point.Sound s call.attempts

section Calls

variable {s s' : State} {attempt : Attempt} {attempts : List Attempt} {point : OpenPoint}

theorem Attempt.Dead.evolve (dead : attempt.Dead s) (evolves : Evolves s s') : attempt.Dead s' := by
  obtain ⟨item, accepted, ticket, completed⟩ := dead
  have grows := evolves.queues attempt.queue
  exact ⟨item, grows.accepted item accepted, ticket, grows.completed _ completed⟩

theorem Attempt.Written.evolve (written : attempt.Written s) (evolves : Evolves s s') :
    attempt.Written s' := by
  obtain ⟨item, accepted, ticket, outcome⟩ := written
  have grows := evolves.queues attempt.queue
  exact ⟨item, grows.accepted item accepted, ticket, grows.outcomes _ outcome⟩

theorem Attempt.Waits.evolve (waits : attempt.Waits s) (evolves : Evolves s s') :
    attempt.Waits s' := by
  obtain ⟨item, accepted, ticket, done⟩ := waits
  exact ⟨item, (evolves.queues attempt.queue).accepted item accepted, ticket, done⟩

/-- What is known about the attempts of a call survives what the others do. -/
theorem OpenPoint.Sound.evolve (sound : point.Sound s attempts) (evolves : Evolves s s') :
    point.Sound s' attempts := by
  have dead {some : List Attempt} (dead : ∀ attempt ∈ some, attempt.Dead s) :
      ∀ attempt ∈ some, attempt.Dead s' := fun attempt member => (dead attempt member).evolve evolves
  cases point with
  | attempt => exact dead sound
  | enqueue queue conn => exact dead sound
  | waiting queue conn ticket =>
      obtain ⟨earlier, split, answered, waits⟩ := sound
      exact ⟨earlier, split, dead answered, waits.evolve evolves⟩
  | failed err =>
      obtain ⟨retryable, earlier, last, split, answered, single⟩ := sound
      exact ⟨fun again => dead (retryable again), earlier, last, split, dead answered, single⟩
  | returned err =>
      cases err with
      | none =>
          obtain ⟨earlier, last, split, answered, written⟩ := sound
          exact ⟨earlier, last, split, dead answered, written.evolve evolves⟩
      | some err =>
          obtain ⟨earlier, last, split, answered, single⟩ := sound
          exact ⟨earlier, last, split, dead answered, single⟩

/-- All the attempts of a call but one are dead. -/
theorem OpenPoint.Sound.split (sound : point.Sound s attempts) :
    ∃ earlier last, attempts = earlier ++ last ∧ (∀ attempt ∈ earlier, attempt.Dead s) ∧
      last.length ≤ 1 := by
  cases point with
  | attempt => exact ⟨attempts, [], (List.append_nil _).symm, sound, Nat.zero_le 1⟩
  | enqueue queue conn => exact ⟨attempts, [], (List.append_nil _).symm, sound, Nat.zero_le 1⟩
  | waiting queue conn ticket =>
      obtain ⟨earlier, split, dead, -⟩ := sound
      exact ⟨earlier, _, split, dead, le_refl 1⟩
  | failed err => exact sound.2
  | returned err =>
      cases err with
      | none =>
          obtain ⟨earlier, last, split, dead, -⟩ := sound
          exact ⟨earlier, [last], split, dead, le_refl 1⟩
      | some err => exact sound

/-- A call all of whose attempts are dead may stand anywhere but in a `select` or behind a
success. -/
theorem OpenPoint.Sound.of_dead (dead : ∀ attempt ∈ attempts, attempt.Dead s) (err : SendError) :
    OpenPoint.Sound s attempts (.failed err) :=
  ⟨fun _ => dead, attempts, [], (List.append_nil _).symm, dead, Nat.zero_le _⟩

/-- The answer on the channel of an attempt is the error its message was completed with. -/
theorem Attempt.Waits.answer {closing : Multiset QueuedControlMessage} {w : WriteQueue}
    {err : Option WriteError} (waits : attempt.Waits s)
    (sound : Control.Sound (s.queue attempt.queue) closing)
    (received : (s.queue attempt.queue).receive attempt.ticket = some (w, err)) :
    ∃ item ∈ (s.queue attempt.queue).accepted, item.ticket = attempt.ticket ∧
      (item, err) ∈ (s.queue attempt.queue).completed := by
  obtain ⟨item, accepted, ticket, done⟩ := waits
  obtain ⟨⟨value, channel⟩, receives, built⟩ := Option.map_eq_some_iff.mp received
  cases built
  exact ⟨item, accepted, ticket,
    (sound.mem_sent accepted done).mp (Chan.mem_sent_of_receive receives)⟩

/-- The point of a call once its `enqueueWait` has returned. -/
def OpenPoint.after : Option WriteError → OpenPoint
  | none => .returned none
  | some err => .failed (.write err)

/-- A call whose answer has come goes on as that answer says. -/
theorem OpenPoint.Sound.answered {queue conn ticket : ℕ} {w : WriteQueue} {err : Option WriteError}
    {closing : Multiset QueuedControlMessage} (queued : Control.Sound (s.queue queue) closing)
    (sound : OpenPoint.Sound s attempts (.waiting queue conn ticket))
    (received : (s.queue queue).receive ticket = some (w, err)) :
    (OpenPoint.after err).Sound s attempts := by
  obtain ⟨earlier, split, dead, waits⟩ := sound
  obtain ⟨item, accepted, own, completed⟩ := waits.answer queued received
  cases err with
  | none =>
      have outcome := (queued.answers item none completed).mp rfl
      exact ⟨earlier, _, split, dead, item, accepted, own, outcome⟩
  | some err =>
      rcases queued.errors item err completed with rfl | ⟨message, rfl⟩
      · -- the queue was closed first, and the attempt joins the dead ones
        refine OpenPoint.Sound.of_dead (fun attempt member => ?_) _
        rw [split, List.mem_append, List.mem_singleton] at member
        rcases member with early | rfl
        · exact dead attempt early
        · exact ⟨item, accepted, own, completed⟩
      · exact ⟨fun impossible => (nomatch impossible), earlier, _, split, dead, le_refl 1⟩

end Calls

/-! ## Every run -/

/-- What was passed to `WriteJSON` for a call, over all its attempts. -/
def OpenCall.writes (s : State) (call : OpenCall) : List QueuedControlMessage :=
  call.attempts.flatMap fun attempt =>
    (s.queue attempt.queue).written.filter (·.ticket = attempt.ticket)

end Sessions

end NryNet.Control
