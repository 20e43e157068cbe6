import NryNet.Control.WriteQueue

/-!
# What the write queue promises

A message that was accepted is in exactly one place: it waits in the queue, or the writer has it, or
a `close` that took it out still has it, or it has been completed.  This is one equation between
multisets (`Sound.places`), and most of what the queue promises is read off it: what is completed
is completed once, so a `done` of capacity one always has room.

`Sound` is preserved by each operation, whoever performs it.  What the callers of `close` hold is a
parameter of it, so that it serves for a queue that is part of a larger pool as well; here the pool
is `writeQueue`, and `write_queue_delivers` is the contract in every configuration it reaches.
-/

namespace NryNet.Control

open ThreadPool

/-! ## Where the messages are -/

/-- The error with which `fail` was called. -/
def Writer.cause : Writer → Option WriteError
  | .fail cause | .failing _ cause => some cause
  | _ => none

/-- The invariant of a queue, when `closing` is what the callers of `close` still have to
complete. -/
structure Sound (s : WriteQueue) (closing : Multiset QueuedControlMessage) : Prop where
  accounted : s.queue.Accounted
  /-- a message that was accepted is in one place -/
  places : (s.accepted : Multiset QueuedControlMessage) =
    s.queue.items + s.writer.held + closing + (s.completed.map Prod.fst : List _)
  tickets : (s.accepted.map QueuedControlMessage.ticket).Nodup
  called : ∀ item ∈ s.accepted,
    item.ticket < s.calls ∧ (item.done = none ∨ item.done = some item.ticket)
  sized : ∀ item ∈ s.accepted, item.size = controlMessageSize item.message
  inOrder : s.queue.closed = false →
    Lanes.InOrder QueuedControlMessage.lane s.queue.toLanes s.accepted s.taken
  fronts : ∀ kind,
    s.taken.filter (QueuedControlMessage.lane · = kind) <+:
      s.accepted.filter (QueuedControlMessage.lane · = kind)
  unwritten : s.taken = s.written ++ s.writer.unwritten
  unreturned : s.written = s.outcomes.map Prod.fst ++ s.writer.unreturned
  channels : ∀ n, (s.done n).capacity = 1 ∧
    (s.done n).sent = (s.completed.filter (·.1.done = some n)).map Prod.snd
  returned : ∀ item ∈ s.written, s.writer = .writing item ∨ ∃ err, (item, err) ∈ s.outcomes
  /-- what was written is still to be completed, or was completed with its outcome -/
  outcome : ∀ item err, (item, err) ∈ s.outcomes →
    s.writer = .complete item err ∨ (item, err) ∈ s.completed
  transport : ∀ item err, (item, some err) ∈ s.outcomes → ∃ message, err = .transport message
  completing : ∀ item err, s.writer = .complete item err → (item, err) ∈ s.outcomes
  causes : ∀ cause, s.writer.cause = some cause → ∃ message, cause = .transport message
  errors : ∀ item err, (item, some err) ∈ s.completed →
    err = .queueClosed ∨ ∃ message, err = .transport message
  answers : ∀ item err, (item, err) ∈ s.completed → (err = none ↔ (item, none) ∈ s.outcomes)

namespace Sound

variable {s s' : WriteQueue} {closing closing' : Multiset QueuedControlMessage}
variable {item : QueuedControlMessage} {err : Option WriteError}

theorem new : Sound .new 0 where
  accounted := ControlWriteQueue.accounted_new
  places := rfl
  tickets := List.nodup_nil
  called item member := by cases member
  sized item member := by cases member
  inOrder _ kind := by cases kind <;> rfl
  fronts kind := List.prefix_rfl
  unwritten := rfl
  unreturned := rfl
  channels n := ⟨rfl, rfl⟩
  returned item member := by cases member
  outcome item err member := by cases member
  transport item err member := by cases member
  completing item err impossible := nomatch impossible
  causes cause impossible := nomatch impossible
  errors item err member := by cases member
  answers item err member := by cases member

theorem nodup_accepted (sound : Sound s closing) : s.accepted.Nodup :=
  sound.tickets.of_map

/-- **A message is in one place at most.** -/
theorem once (sound : Sound s closing) (item : QueuedControlMessage) :
    s.queue.items.count item + s.writer.held.count item + closing.count item +
      (s.completed.map Prod.fst).count item ≤ 1 := by
  have once := List.nodup_iff_count_le_one.mp sound.nodup_accepted item
  rw [← Multiset.coe_count, sound.places] at once
  simpa only [Multiset.count_add, Multiset.coe_count] using once

/-- What is in someone's hands has not been completed. -/
theorem not_completed (sound : Sound s closing)
    (held : item ∈ s.writer.held ∨ item ∈ closing) : (item, err) ∉ s.completed := by
  intro member
  have once := sound.once item
  have completed : 0 < (s.completed.map Prod.fst).count item :=
    List.count_pos_iff.mpr (List.mem_map_of_mem member)
  rcases held with writer | closer
  · have writer := List.count_pos_iff.mpr writer
    omega
  · have closer := Multiset.count_pos.mpr closer
    omega

/-- What a `close` has taken out is not in the hands of the writer. -/
theorem not_held (sound : Sound s closing) (member : item ∈ closing) : item ∉ s.writer.held := by
  intro held
  have once := sound.once item
  have held := List.count_pos_iff.mpr held
  have member := Multiset.count_pos.mpr member
  omega

/-- A message that was accepted and is neither waiting nor in anyone's hands was completed. -/
theorem completed_of_idle (sound : Sound s closing) (accepted : item ∈ s.accepted)
    (empty : s.queue.items = []) (idle : s.writer.held = []) (none : closing = 0) :
    ∃ err, (item, err) ∈ s.completed := by
  rw [← Multiset.mem_coe, sound.places, empty, idle, none] at accepted
  simp only [Multiset.coe_nil, zero_add, Multiset.mem_coe, List.mem_map, Prod.exists,
    exists_and_right, exists_eq_right] at accepted
  exact accepted

/-- Whoever holds a message has it from the queue. -/
theorem accepted_of_held (sound : Sound s closing)
    (held : item ∈ s.writer.held ∨ item ∈ closing) : item ∈ s.accepted := by
  rw [← Multiset.mem_coe, sound.places]
  simp only [Multiset.mem_add, Multiset.mem_coe]
  rcases held with writer | closer
  · exact Or.inl (Or.inl (Or.inr writer))
  · exact Or.inl (Or.inr closer)

theorem accepted_of_completed (sound : Sound s closing) (member : (item, err) ∈ s.completed) :
    item ∈ s.accepted := by
  rw [← Multiset.mem_coe, sound.places]
  refine Multiset.mem_add.mpr (Or.inr ?_)
  exact Multiset.mem_coe.mpr (List.mem_map_of_mem member)

/-- Two accepted messages with the same channel are the same message. -/
theorem eq_of_done (sound : Sound s closing) {other : QueuedControlMessage} {n : ℕ}
    (first : item ∈ s.accepted) (second : other ∈ s.accepted) (done : item.done = some n)
    (done' : other.done = some n) : item = other := by
  have numbered {message : QueuedControlMessage} (member : message ∈ s.accepted)
      (done : message.done = some n) : message.ticket = n := by
    rcases (sound.called message member).2 with none | own
    · rw [none] at done
      cases done
    · rw [own] at done
      exact Option.some.inj done
  refine List.inj_on_of_nodup_map sound.tickets first second ?_
  rw [numbered first done, numbered second done']

/-! ### The operations keep it -/

/-- A call is numbered, whether its message is accepted or not. -/
theorem refuse (sound : Sound s closing) : Sound { s with calls := s.calls + 1 } closing :=
  { sound with
    called := fun item member =>
      ⟨(sound.called item member).1.trans (Nat.lt_succ_self _), (sound.called item member).2⟩ }

theorem accept (sound : Sound s closing) {message : ControlMessage} {waits : Bool}
    {queue : ControlWriteQueue}
    (accepted : s.queue.enqueueItem (s.item message waits) = .ok queue) :
    Sound
      { s with
        queue := queue
        calls := s.calls + 1
        accepted := s.accepted ++ [s.item message waits] }
      closing := by
  obtain ⟨isOpen, -, lanes, -, -, isOpen'⟩ := ControlWriteQueue.enqueueItem_ok accepted
  have inOrder : Lanes.InOrder QueuedControlMessage.lane queue.toLanes
      (s.accepted ++ [s.item message waits]) s.taken := by
    rw [lanes]
    exact (sound.inOrder isOpen).push
  refine
    { sound with
      accounted := sound.accounted.enqueueItem accepted
      places := ?_
      tickets := ?_
      called := ?_
      sized := ?_
      inOrder := fun _ => inOrder
      fronts := fun kind => inOrder.isPrefix kind }
  · simp only
    rw [← Multiset.coe_add, sound.places, lanes, Lanes.coe_items_push, Multiset.coe_singleton]
    abel
  · rw [List.map_append, List.map_singleton]
    refine sound.tickets.append (List.nodup_singleton _) ?_
    rintro ticket earlier last
    obtain ⟨item, member, rfl⟩ := List.mem_map.mp earlier
    rw [List.mem_singleton] at last
    exact (sound.called item member).1.ne last
  · intro item member
    rcases List.mem_append.mp member with earlier | last
    · exact ⟨(sound.called item earlier).1.trans (Nat.lt_succ_self _),
        (sound.called item earlier).2⟩
    · rw [List.mem_singleton] at last
      subst last
      refine ⟨Nat.lt_succ_self _, ?_⟩
      cases waits with
      | true => exact Or.inr rfl
      | false => exact Or.inl rfl
  · intro item member
    rcases List.mem_append.mp member with earlier | last
    · exact sound.sized item earlier
    · rw [List.mem_singleton.mp last]
      rfl

/-- What was written has an outcome, unless it is being written now. -/
theorem outcome_of_written (sound : Sound s closing)
    (quiet : ∀ item, s.writer ≠ .writing item) (written : item ∈ s.written) :
    ∃ err, (item, err) ∈ s.outcomes :=
  (sound.returned item written).resolve_left (quiet item)

/-- An outcome has been passed on, unless it is being passed on now. -/
theorem completed_of_outcome (sound : Sound s closing)
    (quiet : ∀ item err, s.writer ≠ .complete item err) (outcome : (item, err) ∈ s.outcomes) :
    (item, err) ∈ s.completed :=
  (sound.outcome item err outcome).resolve_left (quiet item err)

/-- The writer stops, with nothing in its hands. -/
theorem stop (sound : Sound s closing) (idle : s.writer.held = []) :
    Sound { s with writer := .stopped } closing := by
  have notWriting : ∀ item, s.writer ≠ .writing item := by
    intro item writing
    rw [writing] at idle
    cases idle
  have notCompleting : ∀ item err, s.writer ≠ .complete item err := by
    intro item err completing
    rw [completing] at idle
    cases idle
  have unwritten : s.writer.unwritten = [] := by
    cases writer : s.writer with
    | write item =>
        rw [writer] at idle
        cases idle
    | _ => rfl
  have unreturned : s.writer.unreturned = [] := by
    cases writer : s.writer with
    | writing item => exact absurd writer (notWriting item)
    | _ => rfl
  exact
    { sound with
      places := by
        rw [sound.places, idle]
        rfl
      unwritten := by
        rw [sound.unwritten, unwritten]
        rfl
      unreturned := by
        rw [sound.unreturned, unreturned]
        rfl
      returned := fun item written => Or.inr (sound.outcome_of_written notWriting written)
      outcome := fun item err outcome => Or.inr (sound.completed_of_outcome notCompleting outcome)
      completing := fun item err impossible => nomatch impossible
      causes := fun cause impossible => nomatch impossible }

/-- `next` returns a message to the writer. -/
theorem take (sound : Sound s closing) (ready : s.writer = .next) {queue : ControlWriteQueue}
    (taken : s.queue.next = some (some item, queue)) :
    Sound { s with queue := queue, writer := .write item, taken := s.taken ++ [item] } closing := by
  obtain ⟨isOpen, ⟨kind, took⟩, -, -, -⟩ := ControlWriteQueue.next_item taken
  have inOrder := (sound.inOrder isOpen).pop took
  refine
    { sound with
      accounted := sound.accounted.next taken
      places := ?_
      inOrder := fun _ => inOrder
      fronts := fun kind => inOrder.isPrefix kind
      unwritten := ?_
      unreturned := ?_
      returned := ?_
      outcome := ?_
      completing := fun _ _ impossible => nomatch impossible
      causes := fun _ impossible => nomatch impossible }
  · rw [sound.places, took.coe_items, ready]
    simp only [Writer.held, Multiset.coe_nil, Multiset.coe_singleton]
    abel
  · show s.taken ++ [item] = s.written ++ [item]
    rw [sound.unwritten, ready]
    show s.written ++ [] ++ [item] = _
    rw [List.append_nil]
  · rw [sound.unreturned, ready]
    rfl
  · intro item written
    exact Or.inr (sound.outcome_of_written (by simp [ready]) written)
  · intro item err outcome
    exact Or.inr (sound.completed_of_outcome (by simp [ready]) outcome)

/-- The message is passed to `WriteJSON`. -/
theorem write (sound : Sound s closing) (ready : s.writer = .write item) :
    Sound { s with writer := .writing item, written := s.written ++ [item] } closing := by
  refine
    { sound with
      places := ?_
      unwritten := ?_
      unreturned := ?_
      returned := ?_
      outcome := ?_
      completing := fun _ _ impossible => nomatch impossible
      causes := fun _ impossible => nomatch impossible }
  · rw [sound.places, ready]
    rfl
  · show s.taken = s.written ++ [item] ++ []
    rw [sound.unwritten, ready, List.append_nil]
    rfl
  · show s.written ++ [item] = s.outcomes.map Prod.fst ++ [item]
    rw [sound.unreturned, ready]
    show s.outcomes.map Prod.fst ++ [] ++ [item] = _
    rw [List.append_nil]
  · intro other written
    rcases List.mem_append.mp written with earlier | last
    · exact Or.inr (sound.outcome_of_written (by simp [ready]) earlier)
    · rw [List.mem_singleton.mp last]
      exact Or.inl rfl
  · intro other err outcome
    exact Or.inr (sound.completed_of_outcome (by simp [ready]) outcome)

/-- `WriteJSON` returns. -/
theorem wrote (sound : Sound s closing) (ready : s.writer = .writing item)
    (failure : Option String) :
    Sound
      { s with
        writer := .complete item (failure.map .transport)
        outcomes := s.outcomes ++ [(item, failure.map .transport)] }
      closing := by
  have held : item ∈ s.writer.held := by
    rw [ready]
    exact List.mem_cons_self
  refine
    { sound with
      places := ?_
      unwritten := ?_
      unreturned := ?_
      returned := ?_
      outcome := ?_
      transport := ?_
      completing := ?_
      causes := fun _ impossible => nomatch impossible
      answers := ?_ }
  · rw [sound.places, ready]
    rfl
  · rw [sound.unwritten, ready]
    rfl
  · show s.written = (s.outcomes ++ [(item, _)]).map Prod.fst ++ []
    rw [sound.unreturned, ready, List.map_append, List.append_nil]
    rfl
  · intro other written
    refine Or.inr ?_
    rcases sound.returned other written with writing | ⟨err, returned⟩
    · rw [ready] at writing
      cases writing
      exact ⟨_, List.mem_append_right _ List.mem_cons_self⟩
    · exact ⟨err, List.mem_append_left _ returned⟩
  · intro other err outcome
    rcases List.mem_append.mp outcome with earlier | last
    · exact Or.inr (sound.completed_of_outcome (by simp [ready]) earlier)
    · cases List.mem_singleton.mp last
      exact Or.inl rfl
  · intro other err outcome
    rcases List.mem_append.mp outcome with earlier | last
    · exact sound.transport other err earlier
    · rw [List.mem_singleton, Prod.mk.injEq] at last
      obtain ⟨message, -, built⟩ := Option.map_eq_some_iff.mp last.2.symm
      exact ⟨message, built.symm⟩
  · intro other err completing
    cases completing
    exact List.mem_append_right _ List.mem_cons_self
  · intro other err completed
    -- the message that was being written is not among the completed ones
    have different : other ≠ item := by
      rintro rfl
      exact sound.not_completed (Or.inl held) completed
    rw [sound.answers other err completed, List.mem_append, List.mem_singleton, Prod.mk.injEq]
    exact ⟨Or.inl, fun either => either.resolve_right fun same => different same.1⟩

/-- `close` takes everything out of the queue. -/
theorem close (sound : Sound s closing) : Sound s.close (closing + s.queue.items) :=
  { sound with
    accounted := ControlWriteQueue.accounted_drain
    places := by
      simp only [WriteQueue.close, ControlWriteQueue.items_drain, Multiset.coe_nil]
      rw [sound.places]
      abel
    inOrder := fun isOpen => nomatch isOpen }

/-- `fail` takes everything out of the queue. -/
theorem fail (sound : Sound s closing) {cause : WriteError} (ready : s.writer = .fail cause) :
    Sound { s with queue := s.queue.drain, writer := .failing s.queue.items cause } closing := by
  refine
    { sound with
      accounted := ControlWriteQueue.accounted_drain
      places := ?_
      inOrder := fun isOpen => nomatch isOpen
      unwritten := ?_
      unreturned := ?_
      returned := ?_
      outcome := ?_
      completing := fun _ _ impossible => nomatch impossible
      causes := ?_ }
  · rw [sound.places, ready]
    simp only [Writer.held, ControlWriteQueue.items_drain, Multiset.coe_nil]
    abel
  · rw [sound.unwritten, ready]
    rfl
  · rw [sound.unreturned, ready]
    rfl
  · intro item written
    exact Or.inr (sound.outcome_of_written (by simp [ready]) written)
  · intro item err outcome
    exact Or.inr (sound.completed_of_outcome (by simp [ready]) outcome)
  · intro other same
    cases same
    exact sound.causes cause (by rw [ready]; rfl)

/-- A message in someone's hands is completed.  `writer` and `closing'` are what is left there. -/
theorem complete (sound : Sound s closing) (completes : s.complete item err = some s')
    {writer : Writer}
    (hands : (s.writer.held : Multiset QueuedControlMessage) + closing =
      {item} + (writer.held + closing'))
    (unwritten : writer.unwritten = s.writer.unwritten)
    (unreturned : writer.unreturned = s.writer.unreturned)
    (writing : ∀ other, s.writer = .writing other → writer = .writing other)
    (passing : ∀ other result, s.writer = .complete other result →
      writer = .complete other result ∨ (other, result) = (item, err))
    (passing' : ∀ other result, writer = .complete other result →
      s.writer = .complete other result)
    (causes : ∀ cause, writer.cause = some cause → ∃ message, cause = .transport message)
    (error : ∀ cause, err = some cause → cause = .queueClosed ∨ ∃ message, cause = .transport message)
    (answer : err = none ↔ (item, none) ∈ s.outcomes) :
    Sound { s' with writer := writer } closing' := by
  obtain ⟨done, rfl, sent⟩ := WriteQueue.of_complete completes
  refine
    { sound with
      places := ?_
      unwritten := ?_
      unreturned := ?_
      channels := ?_
      returned := ?_
      outcome := ?_
      completing := fun other result now => sound.completing other result (passing' other result now)
      causes := causes
      errors := ?_
      answers := ?_ }
  · simp only [List.map_append, List.map_singleton]
    rw [sound.places, ← Multiset.coe_add, Multiset.coe_singleton, add_assoc _ _ closing, hands]
    abel
  · rw [sound.unwritten, unwritten]
  · rw [sound.unreturned, unreturned]
  · intro n
    obtain ⟨capacity, values⟩ := sound.channels n
    refine ⟨(sent n).1.trans capacity, ?_⟩
    rw [(sent n).2, values, List.filter_append, List.map_append, List.filter_singleton]
    congr 1
    by_cases own : item.done = some n
    · simp [own]
    · simp [own]
  · intro other written
    rcases sound.returned other written with now | returned
    · exact Or.inl (writing other now)
    · exact Or.inr returned
  · intro other result outcome
    rcases sound.outcome other result outcome with here | earlier
    · rcases passing other result here with still | now
      · exact Or.inl still
      · rw [now]
        exact Or.inr (List.mem_append_right _ List.mem_cons_self)
    · exact Or.inr (List.mem_append_left _ earlier)
  · intro other cause completed
    rcases List.mem_append.mp completed with earlier | last
    · exact sound.errors other cause earlier
    · rw [List.mem_singleton, Prod.mk.injEq] at last
      exact error cause last.2.symm
  · intro other result completed
    rcases List.mem_append.mp completed with earlier | last
    · exact sound.answers other result earlier
    · cases List.mem_singleton.mp last
      exact answer

/-- The writer passes on what `WriteJSON` returned. -/
theorem completeWritten (sound : Sound s closing) (ready : s.writer = .complete item err)
    (completes : s.complete item err = some s') {writer : Writer} (idle : writer.held = [])
    (caused : ∀ cause, writer.cause = some cause → err = some cause) :
    Sound { s' with writer := writer } closing := by
  have transport (cause : WriteError) (failed : err = some cause) :
      ∃ message, cause = .transport message := by
    subst failed
    exact sound.transport item cause (sound.completing item _ ready)
  have held : item ∈ s.writer.held := by
    rw [ready]
    exact List.mem_cons_self
  have notCompleting : ∀ other result, writer ≠ .complete other result := by
    rintro other result rfl
    cases idle
  refine sound.complete completes ?_ ?_ ?_ ?_ ?_ ?_
    (fun other same => transport other (caused other same))
    (fun other failed => Or.inr (transport other failed)) ?_
  · rw [ready, idle]
    simp [Writer.held]
  · rw [ready]
    cases writer <;> first | rfl | cases idle
  · rw [ready]
    cases writer <;> first | rfl | cases idle
  · simp [ready]
  · intro other result same
    rw [ready] at same
    cases same
    exact Or.inr rfl
  · exact fun other result now => absurd now (notCompleting other result)
  · constructor
    · rintro rfl
      exact sound.completing item none ready
    · intro outcome
      rcases sound.outcome item none outcome with here | completed
      · rw [ready] at here
        cases here
        rfl
      · exact absurd completed (sound.not_completed (Or.inl held))

/-- `fail` completes one of the messages it took out. -/
theorem completeFailed (sound : Sound s closing) {rest : List QueuedControlMessage}
    {cause : WriteError} (ready : s.writer = .failing (item :: rest) cause)
    (completes : s.complete item (some cause) = some s') :
    Sound { s' with writer := .failing rest cause } closing := by
  have held : item ∈ s.writer.held := by
    rw [ready]
    exact List.mem_cons_self
  have transport : ∃ message, cause = .transport message :=
    sound.causes cause (by rw [ready]; rfl)
  refine sound.complete completes ?_ ?_ ?_ ?_ ?_ ?_ ?_ ?_ ?_
  · rw [ready]
    simp only [Writer.held]
    rw [← Multiset.cons_coe, ← Multiset.singleton_add, add_assoc]
  · rw [ready]
    rfl
  · rw [ready]
    rfl
  · simp [ready]
  · simp [ready]
  · exact fun _ _ impossible => nomatch impossible
  · intro other same
    cases same
    exact transport
  · intro other same
    cases same
    exact Or.inr transport
  · refine ⟨fun impossible => (nomatch impossible), fun outcome => ?_⟩
    exact absurd (sound.completed_of_outcome (by simp [ready]) outcome)
      (sound.not_completed (Or.inl held))

/-- `close` completes one of the messages it took out. -/
theorem completeClosed (sound : Sound s (item ::ₘ closing))
    (completes : s.complete item (some .queueClosed) = some s') : Sound s' closing := by
  have member : item ∈ item ::ₘ closing := Multiset.mem_cons_self item closing
  have same : s'.writer = s.writer := by
    obtain ⟨done, rfl, -⟩ := WriteQueue.of_complete completes
    rfl
  have kept : Sound { s' with writer := s.writer } closing := by
    refine sound.complete completes ?_ rfl rfl (fun _ => id) (fun _ _ => Or.inl) (fun _ _ => id)
      sound.causes (fun cause same => Or.inl (Option.some.inj same).symm) ?_
    · rw [← Multiset.singleton_add]
      abel
    · refine ⟨fun impossible => (nomatch impossible), fun outcome => ?_⟩
      rcases sound.outcome item none outcome with here | completed
      · have held : item ∈ s.writer.held := by
          rw [here]
          exact List.mem_cons_self
        exact absurd held (sound.not_held member)
      · exact absurd completed (sound.not_completed (Or.inr member))
  rw [← same] at kept
  exact kept

/-- A caller of `enqueueWait` takes the value out of its channel. -/
theorem receive (sound : Sound s closing) {n : ℕ} (received : s.receive n = some (s', err)) :
    Sound s' closing := by
  unfold WriteQueue.receive at received
  obtain ⟨⟨value, channel⟩, receives, built⟩ := Option.map_eq_some_iff.mp received
  cases built
  obtain ⟨-, capacity, sent⟩ := Chan.of_receive receives
  refine { sound with channels := fun other => ?_ }
  by_cases same : other = n
  · subst same
    simp only [Function.update_self]
    rw [capacity, sent]
    exact sound.channels other
  · simp only [Function.update_of_ne same]
    exact sound.channels other

theorem enqueueItem (sound : Sound s closing) (message : ControlMessage) (waits : Bool) :
    Sound (s.enqueueItem message waits).1 closing := by
  unfold WriteQueue.enqueueItem
  split
  · exact sound.refuse
  · rename_i accepted
    exact sound.accept accepted

/-- **The writer keeps the invariant**, wherever it stands. -/
theorem run (sound : Sound s closing) {failure : Option String} (ran : s.run failure = some s') :
    Sound s' closing := by
  unfold WriteQueue.run at ran
  split at ran
  · rename_i ready
    split at ran
    · cases ran
    · cases ran
      exact sound.stop (by rw [ready]; rfl)
    · rename_i taken
      cases ran
      exact sound.take ready taken
  · rename_i ready
    cases ran
    exact sound.write ready
  · rename_i ready
    cases ran
    exact sound.wrote ready failure
  · rename_i err ready
    obtain ⟨completed, completes, rfl⟩ := Option.map_eq_some_iff.mp ran
    cases err with
    | none => exact sound.completeWritten ready completes rfl fun _ impossible => nomatch impossible
    | some cause => exact sound.completeWritten ready completes rfl fun _ same => same
  · rename_i ready
    split at ran
    · cases ran
      exact sound.stop (by rw [ready]; rfl)
    · cases ran
      exact sound.fail ready
  · rename_i ready
    cases ran
    exact sound.stop (by rw [ready]; rfl)
  · rename_i ready
    obtain ⟨completed, completes, rfl⟩ := Option.map_eq_some_iff.mp ran
    exact sound.completeFailed ready completes
  · cases ran

/-- **No completion blocks**: the channel of a message that is in someone's hands is empty. -/
theorem complete_isSome (sound : Sound s closing)
    (held : item ∈ s.writer.held ∨ item ∈ closing) (err : Option WriteError) :
    (s.complete item err).isSome = true := by
  unfold WriteQueue.complete
  split
  · rfl
  · rename_i n done
    have unsent : (s.done n).sent = [] := by
      rw [(sound.channels n).2, List.map_eq_nil_iff, List.filter_eq_nil_iff]
      rintro ⟨other, result⟩ completed own
      have same : item = other :=
        sound.eq_of_done (sound.accepted_of_held held) (sound.accepted_of_completed completed) done
          (of_decide_eq_true own)
      subst same
      exact sound.not_completed held completed
    rw [Option.isSome_map]
    refine Chan.send_isSome _ ?_
    rw [Chan.buffer_of_sent_nil unsent, (sound.channels n).1]
    exact Nat.zero_lt_one

/-- A message that waits was accepted. -/
theorem accepted_of_items (sound : Sound s closing) (member : item ∈ s.queue.items) :
    item ∈ s.accepted := by
  rw [← Multiset.mem_coe, sound.places]
  simp only [Multiset.mem_add, Multiset.mem_coe]
  exact Or.inl (Or.inl (Or.inl member))

/-- The bytes in the queue are not negative, as no message has a negative size. -/
theorem bytes_nonneg (sound : Sound s closing) : 0 ≤ s.queue.queuedBytes := by
  rw [sound.accounted.bytes]
  refine List.sum_nonneg ?_
  intro size member
  obtain ⟨item, waiting, rfl⟩ := List.mem_map.mp member
  rw [sound.sized item (sound.accepted_of_items waiting)]
  unfold controlMessageSize
  omega

theorem nodup_completed (sound : Sound s closing) : (s.completed.map Prod.fst).Nodup := by
  rw [List.nodup_iff_count_le_one]
  intro item
  have once := sound.once item
  omega

/-- The values sent on the channel of a message are the errors it was completed with. -/
theorem mem_sent (sound : Sound s closing) (accepted : item ∈ s.accepted) {n : ℕ}
    (done : item.done = some n) : err ∈ (s.done n).sent ↔ (item, err) ∈ s.completed := by
  rw [(sound.channels n).2, List.mem_map]
  constructor
  · rintro ⟨⟨other, result⟩, member, rfl⟩
    obtain ⟨completed, own⟩ := List.mem_filter.mp member
    have same : item = other :=
      sound.eq_of_done accepted (sound.accepted_of_completed completed) done (of_decide_eq_true own)
    rw [same]
    exact completed
  · intro completed
    exact ⟨(item, err), List.mem_filter.mpr ⟨completed, decide_eq_true done⟩, rfl⟩

/-- At most one value is sent on the channel of a message. -/
theorem length_sent (sound : Sound s closing) (n : ℕ) : (s.done n).sent.length ≤ 1 := by
  rw [(sound.channels n).2, List.length_map]
  have distinct : ((s.completed.filter (·.1.done = some n)).map Prod.fst).Nodup :=
    (List.filter_sublist.map Prod.fst).nodup sound.nodup_completed
  have own {entry : QueuedControlMessage × Option WriteError}
      (member : entry ∈ s.completed.filter (·.1.done = some n)) :
      entry.1 ∈ s.accepted ∧ entry.1.done = some n := by
    obtain ⟨completed, own⟩ := List.mem_filter.mp member
    exact ⟨sound.accepted_of_completed completed, of_decide_eq_true own⟩
  rcases found : s.completed.filter (·.1.done = some n) with _ | ⟨first, _ | ⟨second, rest⟩⟩
  · rw [found]
    exact Nat.zero_le _
  · rw [found]
    exact le_refl _
  · -- two messages with the same channel are the same message
    rw [found] at distinct own
    have first' := own List.mem_cons_self
    have second' := own (List.mem_cons_of_mem _ List.mem_cons_self)
    have same := sound.eq_of_done first'.1 second'.1 first'.2 second'.2
    exact absurd (same ▸ List.mem_cons_self) (List.nodup_cons.mp distinct).1

end Sound

/-! ## Every run -/

/-- The messages a caller of `close` still has to complete. -/
def Caller.held : Caller → Multiset QueuedControlMessage
  | .closing pending => pending
  | _ => 0

/-- One action keeps the invariant.  `others` is what the other callers hold. -/
theorem sound_of_step {s s' : WriteQueue} {caller caller' : Caller} {choice : WriteChoice}
    {spawned : List Caller} {others : Multiset QueuedControlMessage}
    (sound : Sound s (caller.held + others))
    (stepped : s.step caller choice = some (s', caller', spawned)) :
    Sound s' (caller'.held + others) ∧ spawned = [] := by
  unfold WriteQueue.step at stepped
  split at stepped
  · obtain ⟨next, ran, built⟩ := Option.map_eq_some_iff.mp stepped
    cases built
    exact ⟨sound.run ran, rfl⟩
  · obtain ⟨next, ran, built⟩ := Option.map_eq_some_iff.mp stepped
    cases built
    exact ⟨sound.run ran, rfl⟩
  · cases stepped
    exact ⟨sound.enqueueItem _ false, rfl⟩
  · rename_i message
    have sound' := sound.enqueueItem message true
    split at stepped
    · rename_i enqueued
      cases stepped
      rw [enqueued] at sound'
      exact ⟨sound', rfl⟩
    · rename_i enqueued
      cases stepped
      rw [enqueued] at sound'
      exact ⟨sound', rfl⟩
  · obtain ⟨received, receives, built⟩ := Option.map_eq_some_iff.mp stepped
    cases built
    exact ⟨sound.receive receives, rfl⟩
  · cases stepped
    exact ⟨sound, rfl⟩
  · cases stepped
    have sound' := sound.close
    rw [add_right_comm, add_comm Caller.close.held] at sound'
    refine ⟨?_, rfl⟩
    simpa [Caller.held] using sound'
  · rename_i item rest
    obtain ⟨next, completes, built⟩ := Option.map_eq_some_iff.mp stepped
    cases built
    have split : Caller.held (.closing (item :: rest)) + others =
        item ::ₘ (Caller.held (.closing rest) + others) := by
      show ((item :: rest : List _) : Multiset QueuedControlMessage) + others = _
      rw [← Multiset.cons_coe, Multiset.cons_add]
      rfl
    rw [split] at sound
    exact ⟨sound.completeClosed completes, rfl⟩
  · cases stepped
    exact ⟨sound, rfl⟩
  · cases stepped

variable {config : Config WriteQueue Caller}

/-- The invariant holds in every configuration that is reached. -/
theorem sound_of_reachable (reached : writeQueue.Reachable writeQueueStart config) :
    Sound config.shared (config.gather Caller.held) := by
  refine Machine.Run.reachable_invariant reached
    (fun config => Sound config.shared (config.gather Caller.held)) Sound.new ?_ ?_
  · intro config caller sound arrives
    rw [Config.gather_arrive]
    have empty : caller.held = 0 := by
      cases caller <;> first | rfl | cases arrives
    rw [empty, add_zero]
    exact sound
  · intro config index choice caller s' caller' spawned sound present stepped
    obtain ⟨others, before, after⟩ := Machine.gather_step Caller.held present
    rw [before] at sound
    obtain ⟨sound', rfl⟩ := sound_of_step sound stepped
    rw [after s' caller' [] fun _ member => by cases member]
    exact sound'

/-! ## What the queue promises -/

/-- No write and no `fail` is in progress. -/
def Writer.idle : Writer → Bool
  | .next | .stopped => true
  | _ => false

/-- A `close` is in progress. -/
def Caller.isClosing : Caller → Bool
  | .closing _ => true
  | _ => false

/-- No close, fail or write is in progress. -/
def AtRest (config : Config WriteQueue Caller) : Prop :=
  config.shared.writer.idle = true ∧ ∀ caller ∈ config.threads, caller.isClosing = false

/-- The contract of the queue, in one configuration and for the next move from it. -/
structure Delivers (config : Config WriteQueue Caller) : Prop where
  count : config.shared.queue.queuedCount = config.shared.queue.items.length
  bytes : config.shared.queue.queuedBytes =
    (config.shared.queue.items.map QueuedControlMessage.size).sum
  nonneg : 0 ≤ config.shared.queue.queuedCount ∧ 0 ≤ config.shared.queue.queuedBytes
  /-- the bounds hold after a message that is not critical was admitted -/
  admitted : ∀ move next item, writeQueue.exec config move = some next →
    next.shared.accepted = config.shared.accepted ++ [item] →
    isCriticalControlMessage item.message = false →
    next.shared.queue.queuedCount ≤ maxControlQueueMessages ∧
      next.shared.queue.queuedBytes ≤ maxControlQueueBytes
  /-- accepted messages are told apart by their tickets -/
  distinct : (config.shared.accepted.map QueuedControlMessage.ticket).Nodup
  writtenOnce : config.shared.written.Nodup
  /-- what was written of a class is what was accepted of it, from the front -/
  writtenInOrder : ∀ kind,
    config.shared.written.filter (QueuedControlMessage.lane · = kind) <+:
      config.shared.accepted.filter (QueuedControlMessage.lane · = kind)
  ownChannel : ∀ item ∈ config.shared.accepted, ∀ other ∈ config.shared.accepted, ∀ n,
    item.done = some n → other.done = some n → item = other
  answeredOnce : ∀ item ∈ config.shared.accepted, ∀ n, item.done = some n →
    (config.shared.done n).sent.length ≤ 1
  answeredOnceClosed : config.shared.queue.closed = true → AtRest config →
    ∀ item ∈ config.shared.accepted, ∀ n, item.done = some n →
      (config.shared.done n).sent.length = 1
  answeredRight : ∀ item ∈ config.shared.accepted, ∀ n, item.done = some n →
    ∀ value ∈ (config.shared.done n).sent,
      value = none ↔ (item, none) ∈ config.shared.outcomes
  neverBlocks : ∀ item err,
    (item ∈ config.shared.writer.held ∨ ∃ caller ∈ config.threads, item ∈ caller.held) →
    (config.shared.complete item err).isSome = true
  closedForGood : ∀ move next, config.shared.queue.closed = true →
    writeQueue.exec config move = some next →
    next.shared.taken = config.shared.taken ∧ next.shared.queue.closed = true

theorem Caller.mem_held {caller : Caller} {item : QueuedControlMessage}
    (member : caller ∈ config.threads) (held : item ∈ caller.held) : item ∈ config.gather Caller.held :=
  Multiset.mem_of_le (Config.le_gather member) held

/-- When nothing is in progress, nobody has a message in its hands. -/
theorem AtRest.empty (rest : AtRest config) :
    config.shared.writer.held = [] ∧ config.gather Caller.held = 0 := by
  refine ⟨?_, Config.gather_eq_zero fun caller member => ?_⟩
  · have idle := rest.1
    cases writer : config.shared.writer with
    | next => rfl
    | stopped => rfl
    | fail cause => rfl
    | _ =>
        rw [writer] at idle
        cases idle
  · have still := rest.2 caller member
    cases caller with
    | closing pending => cases still
    | _ => rfl

/-- **The write queue keeps its contract** under every interleaving of `enqueue`, `enqueueWait`,
`close`, the writer and its `fail`. -/
theorem write_queue_delivers (reached : writeQueue.Reachable writeQueueStart config) :
    Delivers config := by
  have sound := sound_of_reachable reached
  have written : config.shared.written <+: config.shared.taken := by
    rw [sound.unwritten]
    exact List.prefix_append _ _
  exact
    { count := sound.accounted.count
      bytes := sound.accounted.bytes
      nonneg := by
        refine ⟨?_, sound.bytes_nonneg⟩
        rw [sound.accounted.count]
        exact Int.natCast_nonneg _
      admitted := by
        intro move next item moved accepted ordinary
        have enqueued := (event_of_exec moved).accepted_eq accepted
        have accounted' := sound.accounted.enqueueItem enqueued
        rw [accounted'.count, accounted'.bytes]
        exact sound.accounted.admitted enqueued ordinary
      distinct := sound.tickets
      writtenOnce := written.sublist.nodup (Lanes.nodup_of_prefixes sound.fronts sound.nodup_accepted)
      writtenInOrder := fun kind => (written.filter _).trans (sound.fronts kind)
      ownChannel := fun item first other second n done done' =>
        sound.eq_of_done first second done done'
      answeredOnce := fun item accepted n done => sound.length_sent n
      answeredOnceClosed := by
        intro closed rest item accepted n done
        obtain ⟨writer, closing⟩ := rest.empty
        obtain ⟨err, completed⟩ :=
          sound.completed_of_idle accepted (sound.accounted.closed closed) writer closing
        have sent := List.length_pos_of_mem ((sound.mem_sent accepted done).mpr completed)
        exact le_antisymm (sound.length_sent n) sent
      answeredRight := fun item accepted n done value sent =>
        sound.answers item value ((sound.mem_sent accepted done).mp sent)
      neverBlocks := by
        intro item err held
        refine sound.complete_isSome ?_ err
        rcases held with writer | ⟨caller, member, closer⟩
        · exact Or.inl writer
        · exact Or.inr (Caller.mem_held member closer)
      closedForGood := fun move next closed moved => (event_of_exec moved).closed closed }

/-- A heartbeat acknowledgement waits in the queue behind an `open_connection` that is being written;
the write fails, and `fail` answers both. -/
def failingMoves : List (Move Caller WriteChoice) :=
  [.arrive (.enqueueWait ⟨.openConnection, "visitor-1", "tunnel-1", []⟩), .run 1 .go,
    .run 0 .go, .run 0 .go,
    .arrive (.enqueueWait ⟨.heartbeatAck, "heartbeat-1", "", []⟩), .run 2 .go,
    .run 0 (.failed "broken pipe"), .run 0 .go, .run 0 .go, .run 0 .go, .run 0 .go,
    .run 1 .go, .run 2 .go]

/-- In that run both callers have an answer, and one message was written. -/
theorem write_queue_delivers_failure :
    ∃ config, writeQueue.Reachable writeQueueStart config ∧
      config.threads = [.run, .returned (some (.transport "broken pipe")),
        .returned (some (.transport "broken pipe"))] ∧
      config.shared.written.length = 1 ∧ Delivers config := by
  obtain ⟨config, reached, returned, written⟩ :
      ∃ config, writeQueue.Reachable writeQueueStart config ∧
        config.threads = [.run, .returned (some (.transport "broken pipe")),
          .returned (some (.transport "broken pipe"))] ∧
        config.shared.written.length = 1 := by
    refine Machine.exists_run_of_replay failingMoves ?_
    decide +kernel
  exact ⟨config, reached, returned, written, write_queue_delivers reached⟩

end NryNet.Control
