import NryNet.Relay.PendingLifecycle

/-!
# Generations: stale channels and stale workers

`DisconnectActiveClient` increments the client's connection generation and then drains the client's
idle workers.  A channel carries the generation it captured when it was authorized; `register`
compares it, but `claimPendingForClient` and `workConnectionPool.add` do not.  So a channel that is
between its capture and its claim when the generation moves still consumes a visitor which it cannot
serve any more (`stale_channel_claims`), and a worker that is between its capture and its `add` still
joins the pool after the drain (`stale_worker_pooled`).

The positive statements are about runs in which no disconnect catches a channel there.

* `pool_fresh_of_settled`: if no disconnect finds a worker of its client between capture and `add`,
  then every idle worker carries its client's generation whenever no drain of the client is due.
* `claims_current_of_settled`: if no disconnect finds any channel of its client between capture and
  claim, and no worker is taken between the two halves of a disconnect, then a visitor leaves
  `pending` only by a claim at the current generation, by a failure, or by its caller.

`Goroutine.armed` is the pair of client and captured generation of a channel that may still claim or
be pooled.
-/

namespace NryNet.Relay

open ThreadPool

namespace Goroutine

/-- The client and the captured generation of a channel that may still claim a visitor or join the
pool.  A stream whose client record is disabled will be turned away. -/
def armed : Goroutine → Option (String × ℕ)
  | .claim _ clientID _ generation => some (clientID, generation)
  | .add worker => some (worker.clientID, worker.generation)
  | .streamToken _ _ client generation _ =>
      if client.disabled then none else some (client.id, generation)
  | .assign worker _ => some (worker.clientID, worker.generation)
  | _ => none

/-- The client record with which a goroutine is about to capture a generation. -/
def capturing : Goroutine → Option Client
  | .dataToken _ _ client (.done (.ok _)) => some client
  | .streamClient _ _ (.done (.ok entry)) => some entry.client
  | _ => none

/-- The client one of whose idle workers a visitor is about to be offered to. -/
def takesFrom (b : Broker) : Goroutine → Option String
  | .takeWorker _ _ found => (b.entries[found]?).map fun record => record.tunnel.clientID
  | _ => none

/-- The client of a worker that is being assigned. -/
def assigning : Goroutine → Option String
  | .assign worker _ => some worker.clientID
  | _ => none

/-- The client of a worker that is about to join the pool. -/
def adding : Goroutine → Option String
  | .add worker => some worker.clientID
  | _ => none

/-- The goroutine is between the two halves of `DisconnectActiveClient`. -/
def draining (clientID : String) : Goroutine → Bool
  | .drain other _ => other = clientID
  | _ => false

/-- The client of which a goroutine is about to increment the generation. -/
def disconnecting : Goroutine → Option String
  | .disconnect clientID _ => some clientID
  | _ => none

end Goroutine

namespace Goroutine

variable {goroutine : Goroutine} {clientID : String}

/-- A goroutine that is about to increment a generation does nothing else. -/
theorem eq_disconnect (disconnecting : goroutine.disconnecting = some clientID) :
    ∃ next, goroutine = .disconnect clientID next := by
  cases goroutine <;> cases disconnecting
  exact ⟨_, rfl⟩

/-- Goroutines arrive unarmed, and in the middle of nothing. -/
theorem arrives_unarmed (arrives : goroutine.arrives = true) :
    goroutine.armed = none ∧ goroutine.assigning = none ∧
      ∀ clientID, goroutine.draining clientID = false := by
  cases goroutine <;> first | exact ⟨rfl, rfl, fun _ => rfl⟩ | cases arrives

end Goroutine

/-! ## What an action does to generations, workers and channels -/

section Actions

variable {b b' : Broker} {goroutine goroutine' : Goroutine} {spawned : List Goroutine}
variable {clientID : String}

/-- The connections change when a claimed visitor is registered, when its closure runs, and in the
first half of `DisconnectActiveClient`. -/
theorem action_connections (action : Action b goroutine b' goroutine' spawned) :
    b'.connections = b.connections ∨
    (∃ conn entry record, goroutine = .relayPending conn entry ∧
      b.entries[entry]? = some record ∧
      record.connectionGeneration = b.connections.generationFor record.tunnel.clientID ∧
      b'.connections = (b.connections.register record.tunnel.clientID
        record.connectionGeneration record.requestID conn record.visitor).1) ∨
    (∃ clientID connection, b'.connections = b.connections.remove clientID connection) ∨
    (∃ clientID next, goroutine = .disconnect clientID next ∧ goroutine' = .drain clientID next ∧
      spawned = [] ∧ b'.connections = (b.connections.disconnect clientID).1) := by
  cases action with
  | claim claimed => exact Or.inl (Broker.claimPendingForClient_rest claimed).connections
  | register located current => exact Or.inr (Or.inl ⟨_, _, _, rfl, located, current, rfl⟩)
  | unregister located => exact Or.inr (Or.inr (Or.inl ⟨_, _, rfl⟩))
  | complete sent => exact Or.inl (Broker.sendDone_rest sent).connections
  | visitor caller registered => exact Or.inl (Broker.registerPending_rest registered).connections
  | waitDone received => exact Or.inl (Broker.receiveDone_rest received).connections
  | awaitDone received => exact Or.inl (Broker.receiveDone_rest received).connections
  | failSend clientID requestID cause entry worker conns =>
      exact Or.inl Broker.trySendDone_rest.connections
  | failOne clientID next conns listed => exact Or.inl Broker.trySendDone_rest.connections
  | disconnect clientID next conns =>
      exact Or.inr (Or.inr (Or.inr ⟨clientID, next, rfl, rfl, rfl, rfl⟩))
  | _ => exact Or.inl rfl

/-- Only the first half of `DisconnectActiveClient` moves a generation. -/
theorem action_generation (action : Action b goroutine b' goroutine' spawned) (clientID : String) :
    b'.connections.generationFor clientID = b.connections.generationFor clientID ∨
      ∃ next, goroutine = .disconnect clientID next ∧ goroutine' = .drain clientID next ∧
        spawned = [] ∧
        b'.connections.generationFor clientID = b.connections.generationFor clientID + 1 := by
  rcases action_connections action with
    same | ⟨conn, entry, record, -, -, -, same⟩ | ⟨other, connection, same⟩ |
      ⟨other, next, rfl, rfl, rfl, same⟩
  · exact Or.inl (by rw [same])
  · exact Or.inl (by rw [same, ClientConnections.generationFor_register])
  · exact Or.inl (by rw [same, ClientConnections.generationFor_remove])
  · rw [same, ClientConnections.generationFor_disconnect]
    by_cases own : clientID = other
    · subst own
      exact Or.inr ⟨next, rfl, rfl, rfl, if_pos rfl⟩
    · exact Or.inl (if_neg own)

/-- A worker is in the pool because it was there before or because it has just been added. -/
theorem action_workers (action : Action b goroutine b' goroutine' spawned)
    {worker : IdleWorkConnection} (member : worker ∈ b'.workers.workersOf clientID) :
    worker ∈ b.workers.workersOf clientID ∨
      goroutine = .add worker ∧ goroutine' = .finished ∧ clientID = worker.clientID := by
  cases action with
  | claim claimed =>
      exact Or.inl ((Broker.claimPendingForClient_rest claimed).workers ▸ member)
  | complete sent => exact Or.inl ((Broker.sendDone_rest sent).workers ▸ member)
  | visitor caller registered =>
      exact Or.inl ((Broker.registerPending_rest registered).workers ▸ member)
  | waitDone received => exact Or.inl ((Broker.receiveDone_rest received).workers ▸ member)
  | awaitDone received => exact Or.inl ((Broker.receiveDone_rest received).workers ▸ member)
  | failSend _ requestID cause entry worker conns =>
      rw [show ((b.trySendDone entry cause).close conns).workers = b.workers from
        Broker.trySendDone_rest.workers] at member
      exact Or.inl member
  | @failOne entries entry _ next conns listed =>
      rw [show ((b.trySendDone entry (some errClientDisconnected)).close conns).workers =
        b.workers from Broker.trySendDone_rest.workers] at member
      exact Or.inl member
  | add added accepted =>
      rcases WorkConnectionPool.mem_of_mem_add member with old | ⟨rfl, own⟩
      · exact Or.inl old
      · exact Or.inr ⟨rfl, rfl, own⟩
  | takeWorker located taken =>
      exact Or.inl (WorkConnectionPool.mem_of_mem_take taken member)
  | retry taken =>
      exact Or.inl (WorkConnectionPool.mem_of_mem_take taken member)
  | drain other conns =>
      refine Or.inl ?_
      simp only [WorkConnectionPool.workersOf_closeClient] at member
      split at member
      · cases member
      · exact member
  | drainOn other conns more =>
      refine Or.inl ?_
      simp only [WorkConnectionPool.workersOf_closeClient] at member
      split at member
      · cases member
      · exact member
  | closeIdle conns => cases member
  | _ => exact Or.inl member

/-- The second half of `DisconnectActiveClient` empties the client's slice. -/
theorem action_drain (action : Action b goroutine b' goroutine' spawned)
    (draining : goroutine.draining clientID = true) : b'.workers.workersOf clientID = [] := by
  cases action with
  | drain other conns =>
      have same : other = clientID := by simpa [Goroutine.draining] using draining
      subst same
      exact (WorkConnectionPool.workersOf_closeClient other).trans (if_pos rfl)
  | drainOn other conns more =>
      have same : other = clientID := by simpa [Goroutine.draining] using draining
      subst same
      exact (WorkConnectionPool.workersOf_closeClient other).trans (if_pos rfl)
  | quit _ conns idle =>
      cases goroutine <;> first | cases draining | cases idle
  | lookup _ looking stepped =>
      cases goroutine <;> first | cases draining | cases looking
  | _ => cases draining

/-- A worker that was taken stood in the pool. -/
theorem mem_of_take {pool : WorkConnectionPool} {workers : WorkConnectionPool}
    {worker : IdleWorkConnection} (taken : pool.take clientID = (workers, some worker)) :
    worker ∈ pool.workersOf clientID := by
  rw [(WorkConnectionPool.take_some taken).1]
  exact List.mem_append_right _ (List.mem_singleton_self worker)

/-- A channel is armed because it was before, because it has just captured the current generation
with an enabled record, or because it is a worker just taken from the pool. -/
theorem action_armed (action : Action b goroutine b' goroutine' spawned) {other : Goroutine}
    (born : other = goroutine' ∨ other ∈ spawned) {generation : ℕ}
    (armed : other.armed = some (clientID, generation)) :
    goroutine.armed = some (clientID, generation) ∨
    (∃ client, goroutine.capturing = some client ∧ client.id = clientID ∧
      client.disabled = false ∧ generation = b.connections.generationFor clientID) ∨
    (∃ pool worker,
      (goroutine.takesFrom b = some pool ∨ goroutine.assigning = some pool) ∧
      worker ∈ b.workers.workersOf pool ∧ worker.clientID = clientID ∧
      worker.generation = generation) := by
  cases action with
  | lookup _ looking stepped =>
      refine Or.inl ?_
      obtain rfl | impossible := born
      · cases goroutine <;> exact armed
      · cases impossible
  | captureData conn initial client entry enabled bound =>
      refine Or.inr (Or.inl ?_)
      obtain rfl | impossible := born
      · cases armed
        exact ⟨client, rfl, rfl, enabled, rfl⟩
      · cases impossible
  | captureWorker conn initial client entry enabled bound =>
      refine Or.inr (Or.inl ?_)
      obtain rfl | impossible := born
      · cases armed
        exact ⟨client, rfl, rfl, enabled, rfl⟩
      · cases impossible
  | captureStream conn handshake entry =>
      refine Or.inr (Or.inl ?_)
      obtain rfl | impossible := born
      · simp only [Goroutine.armed] at armed
        split at armed
        · cases armed
        · rename_i enabled
          cases armed
          exact ⟨entry.client, rfl, rfl, by simpa using enabled, rfl⟩
      · cases impossible
  | authorizeStream conn handshake client captured entry enabled =>
      refine Or.inl ?_
      obtain rfl | impossible := born
      · cases armed
        simp [Goroutine.armed, enabled]
      · cases impossible
  | takeWorker located taken =>
      refine Or.inr (Or.inr ?_)
      obtain rfl | spawnedHere := born
      · cases armed
      · rw [List.mem_singleton] at spawnedHere
        subst spawnedHere
        cases armed
        exact ⟨_, _, Or.inl (by simp [Goroutine.takesFrom, located]), mem_of_take taken, rfl, rfl⟩
  | retry taken =>
      refine Or.inr (Or.inr ?_)
      obtain rfl | impossible := born
      · cases armed
        exact ⟨_, _, Or.inr rfl, mem_of_take taken, rfl, rfl⟩
      · cases impossible
  | ready worker entry requestID =>
      obtain rfl | impossible := born
      · exact Or.inl armed
      · cases impossible
  | visitor caller registered =>
      obtain rfl | impossible := born
      · cases caller <;> cases armed
      · cases impossible
  | failReturns clientID next =>
      obtain rfl | impossible := born
      · cases next <;> cases armed
      · cases impossible
  | _ =>
      obtain rfl | impossible := born
      · cases armed
      · cases impossible

/-- Who is being assigned after an action was being assigned before or has been taken just now. -/
theorem action_assigning (action : Action b goroutine b' goroutine' spawned) {other : Goroutine}
    (born : other = goroutine' ∨ other ∈ spawned) {pool : String}
    (assigning : other.assigning = some pool) :
    ∃ source worker, (goroutine.takesFrom b = some source ∨ goroutine.assigning = some source) ∧
      worker ∈ b.workers.workersOf source ∧ worker.clientID = pool := by
  cases action with
  | takeWorker located taken =>
      obtain rfl | spawnedHere := born
      · cases assigning
      · rw [List.mem_singleton] at spawnedHere
        subst spawnedHere
        cases assigning
        exact ⟨_, _, Or.inl (by simp [Goroutine.takesFrom, located]), mem_of_take taken, rfl⟩
  | retry taken =>
      obtain rfl | impossible := born
      · cases assigning
        exact ⟨_, _, Or.inr rfl, mem_of_take taken, rfl⟩
      · cases impossible
  | lookup _ looking stepped =>
      obtain rfl | impossible := born
      · cases goroutine <;> cases looking <;> cases assigning
      · cases impossible
  | visitor caller registered =>
      obtain rfl | impossible := born
      · cases caller <;> cases assigning
      · cases impossible
  | failReturns clientID next =>
      obtain rfl | impossible := born
      · cases next <;> cases assigning
      · cases impossible
  | _ =>
      obtain rfl | impossible := born
      · cases assigning
      · cases impossible

/-- A worker that is about to join the pool has just captured the current generation, or was about
to join before. -/
theorem action_adding (action : Action b goroutine b' goroutine' spawned)
    {worker : IdleWorkConnection}
    (born : .add worker = goroutine' ∨ .add worker ∈ spawned) :
    worker.generation = b.connections.generationFor worker.clientID ∧ b' = b := by
  cases action with
  | captureWorker conn initial client entry enabled bound =>
      obtain same | impossible := born
      · cases same
        exact ⟨rfl, rfl⟩
      · cases impossible
  | lookup _ looking stepped =>
      obtain same | impossible := born
      · cases goroutine <;> cases looking <;> cases same
      · cases impossible
  | takeWorker located taken =>
      obtain same | impossible := born
      · cases same
      · simp at impossible
  | visitor caller registered =>
      obtain same | impossible := born
      · cases caller <;> cases same
      · cases impossible
  | failReturns clientID next =>
      obtain same | impossible := born
      · cases next <;> cases same
      · cases impossible
  | _ =>
      obtain same | impossible := born
      · cases same
      · cases impossible

end Actions

/-! ## Idle workers -/

/-- No generation is incremented while a worker of the client is between its capture and `add`. -/
def NoneAdding (config : Config Broker Goroutine) (goroutine : Goroutine) : Prop :=
  ∀ clientID ∈ goroutine.disconnecting, ∀ other ∈ config.threads, other.adding ≠ some clientID

instance (config : Config Broker Goroutine) (goroutine : Goroutine) :
    Decidable (NoneAdding config goroutine) := by
  unfold NoneAdding
  infer_instance

/-- Every idle worker is stored under its client, and carries its client's generation unless a
drain of the client is due. -/
structure PoolFresh (config : Config Broker Goroutine) : Prop where
  keyed : config.shared.workers.Keyed
  pooled : ∀ clientID, ∀ worker ∈ config.shared.workers.workersOf clientID,
    worker.generation = config.shared.connections.generationFor clientID ∨
      ∃ goroutine ∈ config.threads, goroutine.draining clientID = true

section Steps

variable {config : Config Broker Goroutine} {index : ℕ} {goroutine goroutine' : Goroutine}
variable {b' : Broker} {spawned : List Goroutine}

/-- Added workers keep the pool keyed, provided they are added under their own client. -/
theorem keyed_of_action (action : Action config.shared goroutine b' goroutine' spawned)
    (keyed : config.shared.workers.Keyed) : b'.workers.Keyed := by
  intro clientID worker member
  rcases action_workers action member with old | ⟨-, -, own⟩
  · exact keyed clientID worker old
  · exact own.symm

/-- An action keeps the pool fresh, provided the worker it adds, if it adds one, is current. -/
theorem PoolFresh.action (fresh : PoolFresh config)
    (present : config.threads[index]? = some goroutine)
    (action : Action config.shared goroutine b' goroutine' spawned)
    (adds : ∀ worker, goroutine = .add worker →
      worker.generation = config.shared.connections.generationFor worker.clientID) :
    PoolFresh { shared := b', threads := config.threads.set index goroutine' ++ spawned } := by
  refine ⟨keyed_of_action action fresh.keyed, fun clientID worker member => ?_⟩
  show worker.generation = b'.connections.generationFor clientID ∨ _
  rcases action_generation action clientID with same | ⟨next, rfl, rfl, rfl, -⟩
  · rw [same]
    rcases action_workers action member with old | ⟨rfl, -, rfl⟩
    · rcases fresh.pooled clientID worker old with current | ⟨other, due, draining⟩
      · exact Or.inl current
      · rcases Machine.mem_threads_after_step present due with rfl | kept
        · -- The drain itself: nothing is left in the slice.
          rw [action_drain action draining] at member
          cases member
        · exact Or.inr ⟨other, kept, draining⟩
    · exact Or.inl (adds worker rfl)
  · exact Or.inr ⟨_, Machine.stepped_mem_threads present, by simp [Goroutine.draining]⟩

end Steps

/-- The invariant behind the pool: workers about to be added carry the current generation. -/
structure WorkersCurrent (config : Config Broker Goroutine) : Prop extends PoolFresh config where
  adding : ∀ worker, .add worker ∈ config.threads →
    worker.generation = config.shared.connections.generationFor worker.clientID

/-- Along runs in which no disconnect finds a worker between capture and `add`, workers are
current. -/
theorem workersCurrent_of_settled {store : Store} {now : Time} {config : Config Broker Goroutine}
    (reached : dataPlane.Run (Machine.AtStep NoneAdding) (dataPlaneStart store now) config) :
    WorkersCurrent config := by
  refine reached.step_invariant WorkersCurrent ?_ ?_ ?_
  · exact ⟨⟨fun _ _ member => (nomatch member), fun _ _ member => (nomatch member)⟩,
      fun _ member => (nomatch member)⟩
  · intro config goroutine current arrives
    refine ⟨⟨current.keyed, fun clientID worker member => ?_⟩, fun worker member => ?_⟩
    · rcases current.pooled clientID worker member with same | ⟨other, due, draining⟩
      · exact Or.inl same
      · exact Or.inr ⟨other, List.mem_append_left _ due, draining⟩
    · rcases List.mem_append.mp member with old | new
      · exact current.adding worker old
      · rw [List.mem_singleton] at new
        subst new
        cases arrives
  · intro config index choice goroutine b' goroutine' spawned current present settled stepped
    have action := Broker.action_of_step stepped
    have member : goroutine ∈ config.threads := List.mem_of_getElem? present
    refine ⟨current.action present action ?_, fun worker located => ?_⟩
    · rintro worker rfl
      exact current.adding worker member
    · show worker.generation = b'.connections.generationFor worker.clientID
      rcases Machine.mem_threads_of_step located with own | fresh | old
      · obtain ⟨same, rfl⟩ := action_adding action (Or.inl own)
        exact same
      · obtain ⟨same, rfl⟩ := action_adding action (Or.inr fresh)
        exact same
      · rcases action_generation action worker.clientID with same | ⟨next, rfl, -, -, -⟩
        · rw [same]
          exact current.adding worker old
        · exact absurd rfl (settled _ rfl _ old)

/-- **Idle workers are fresh.**  In every run whose disconnects find no worker of their client
between its capture and `add`: whenever no `DisconnectActiveClient` of a client is in progress, every
idle worker of the client carries the client's current generation. -/
theorem pool_fresh_of_settled {store : Store} {now : Time} {config : Config Broker Goroutine}
    (reached : dataPlane.Run (Machine.AtStep NoneAdding) (dataPlaneStart store now) config)
    (clientID : String)
    (quiet : ∀ goroutine ∈ config.threads, goroutine.draining clientID = false) :
    ∀ worker ∈ config.shared.workers.workersOf clientID, worker.clientID = clientID ∧
      worker.generation = config.shared.connections.generationFor clientID := by
  intro worker member
  have current := workersCurrent_of_settled reached
  refine ⟨current.keyed clientID worker member, ?_⟩
  rcases current.pooled clientID worker member with same | ⟨goroutine, due, draining⟩
  · exact same
  · rw [quiet goroutine due] at draining
    cases draining

/-- A work connection of the office client arrives as goroutine `index` and goes on until it has
captured a generation. -/
def workerMoves (index : ℕ) : List (Move Goroutine Choice) :=
  [.arrive (.dataClient (.data 2) ⟨.workConnection, Auth.officeToken, "device-1", ""⟩ .probe)] ++
    loadMoves index ++ [.run index .go] ++ loadMoves index ++
    [.run index (.lookup .proceed), .run index .go]

/-- `DisconnectActiveClient` for the office client arrives as goroutine `index` and runs. -/
def disconnectMoves (index : ℕ) : List (Move Goroutine Choice) :=
  [.arrive (.disconnect "client-1" .nothing), .run index .go, .run index .go]

/-- A worker captures its generation, the client is disconnected, the worker joins the pool: no
disconnect is in progress and the pool holds a worker of an old generation. -/
theorem stale_worker_pooled :
    ∃ config, dataPlane.Reachable (dataPlaneStart Auth.office 0) config ∧
      (∀ goroutine ∈ config.threads,
        goroutine.disconnecting = none ∧ goroutine.draining "client-1" = false) ∧
      ∃ worker ∈ config.shared.workers.workersOf "client-1",
        worker.generation ≠ config.shared.connections.generationFor "client-1" := by
  refine Machine.exists_run_of_replay (workerMoves 0 ++ disconnectMoves 1 ++ [.run 0 .go]) ?_
  decide +kernel

/-- A worker joins the pool after a disconnect has ended. -/
theorem pool_fresh_after_disconnect :
    ∃ config, dataPlane.Run (Machine.AtStep NoneAdding) (dataPlaneStart Auth.office 0) config ∧
      (config.shared.connections.generationFor "client-1" = 1 ∧
        (config.shared.workers.workersOf "client-1").length = 1 ∧
        ∀ goroutine ∈ config.threads, goroutine.draining "client-1" = false) ∧
      ∀ worker ∈ config.shared.workers.workersOf "client-1", worker.clientID = "client-1" ∧
        worker.generation = config.shared.connections.generationFor "client-1" := by
  obtain ⟨config, reached, shape⟩ :
      ∃ config, dataPlane.Run (Machine.AtStep NoneAdding) (dataPlaneStart Auth.office 0) config ∧
        (config.shared.connections.generationFor "client-1" = 1 ∧
          (config.shared.workers.workersOf "client-1").length = 1 ∧
          ∀ goroutine ∈ config.threads, goroutine.draining "client-1" = false) := by
    refine Machine.exists_run_of_replay (disconnectMoves 0 ++ workerMoves 1 ++ [.run 1 .go]) ?_
    decide +kernel
  exact ⟨config, reached, shape, pool_fresh_of_settled reached "client-1" shape.2.2⟩

/-! ## Claims -/

/-- A claim is recorded with the generation of the channel and the generation of the client at that
moment; they agree. -/
def Removal.Current : Removal → Prop
  | .claimed _ generation current => generation = current
  | _ => True

/-- Every claim so far was made at the current generation. -/
def Broker.ClaimsCurrent (b : Broker) : Prop :=
  ∀ (entry : ℕ) record, b.entries[entry]? = some record →
    ∀ reason ∈ record.removals, reason.Current

namespace Broker.ClaimsCurrent

variable {b b' : Broker} {entry : ℕ} {requestID clientID : String}

/-- An assignment that records at most one more removal, a current one. -/
theorem modifyEntry (claims : b.ClaimsCurrent) {set : PendingConn → PendingConn}
    (keeps : ∀ record, ∀ reason ∈ (set record).removals,
      reason ∈ record.removals ∨ reason.Current) :
    (b.modifyEntry entry set).ClaimsCurrent := by
  intro other record located reason member
  simp only [Broker.modifyEntry, List.getElem?_modify, Option.map_eq_map,
    Option.map_eq_some_iff] at located
  obtain ⟨old, located, rfl⟩ := located
  split at member
  · rcases keeps old reason member with kept | current
    · exact claims other old located reason kept
    · exact current
  · exact claims other old located reason member

theorem removePending (claims : b.ClaimsCurrent) (requestID : String) {reason : Removal}
    (current : reason.Current) : (b.removePending requestID entry reason).ClaimsCurrent := by
  have marked : (b.modifyEntry entry fun record =>
      { record with removals := record.removals ++ [reason] }).ClaimsCurrent := by
    refine claims.modifyEntry fun record other member => ?_
    rcases List.mem_append.mp member with old | new
    · exact Or.inl old
    · rw [List.mem_singleton] at new
      exact Or.inr (new ▸ current)
  exact marked

theorem claim {conn : Closer} {generation : ℕ} (claims : b.ClaimsCurrent)
    (claimed : b.claimPendingForClient conn clientID requestID generation = .ok (b', entry))
    (current : generation = b.connections.generationFor clientID) : b'.ClaimsCurrent := by
  obtain ⟨record, -, -, -, rfl⟩ := claimPendingForClient_ok claimed
  have removed : (b.removePending requestID entry
      (.claimed conn generation (b.connections.generationFor clientID))).ClaimsCurrent :=
    claims.removePending requestID current
  exact removed.modifyEntry fun _ _ member => Or.inl member

theorem sendDone (claims : b.ClaimsCurrent) {result : GoError}
    (sent : b.sendDone entry result = some b') : b'.ClaimsCurrent := by
  unfold Broker.sendDone at sent
  split at sent
  · cases sent
  · split at sent
    · rw [← Option.some.inj sent]
      exact claims.modifyEntry fun _ _ member => Or.inl member
    · cases sent

theorem trySendDone (claims : b.ClaimsCurrent) {result : GoError} :
    (b.trySendDone entry result).ClaimsCurrent := by
  unfold Broker.trySendDone
  cases sent : b.sendDone entry result with
  | none => exact claims
  | some broker => exact claims.sendDone sent

theorem receiveDone (claims : b.ClaimsCurrent) {result : GoError}
    (received : b.receiveDone entry = some (b', result)) : b'.ClaimsCurrent := by
  unfold Broker.receiveDone at received
  split at received
  · cases received
  · split at received
    · cases received
    · rw [← (Prod.mk.inj (Option.some.inj received)).1]
      exact claims.modifyEntry fun _ _ member => Or.inl member

theorem registerPending (claims : b.ClaimsCurrent) {visitor : Closer} {tunnel : Tunnel}
    (registered : b.registerPending requestID visitor tunnel = .ok (b', entry)) :
    b'.ClaimsCurrent := by
  intro other record located reason member
  rcases entries_registerPending registered located with old | rfl
  · exact claims other record old reason member
  · cases member

theorem failPendingClient (claims : b.ClaimsCurrent) :
    (b.failPendingClient clientID).ClaimsCurrent := by
  intro other record located reason member
  rw [entries_failPendingClient, Option.map_eq_some_iff] at located
  obtain ⟨old, located, rfl⟩ := located
  split at member
  · rcases List.mem_append.mp member with kept | new
    · exact claims other old located reason kept
    · rw [List.mem_singleton] at new
      exact new ▸ trivial
  · exact claims other old located reason member

end Broker.ClaimsCurrent

/-- An action of a goroutine whose captured generation is current records only current claims. -/
theorem claimsCurrent_of_action {b b' : Broker} {goroutine goroutine' : Goroutine}
    {spawned : List Goroutine} (action : Action b goroutine b' goroutine' spawned)
    (claims : b.ClaimsCurrent)
    (current : ∀ clientID generation, goroutine.armed = some (clientID, generation) →
      generation = b.connections.generationFor clientID) : b'.ClaimsCurrent := by
  cases action with
  | claim claimed => exact claims.claim claimed (current _ _ rfl)
  | complete sent => exact claims.sendDone sent
  | visitor caller registered => exact claims.registerPending registered
  | waitDone received => exact claims.receiveDone received
  | awaitDone received => exact claims.receiveDone received
  | @timeOut entry requestID conns present => exact claims.removePending requestID trivial
  | @cancel entry requestID conns present => exact claims.removePending requestID trivial
  | @fail clientID requestID entry cause cause' worker present =>
      exact claims.removePending requestID trivial
  | failSend clientID requestID cause held worker conns => exact claims.trySendDone
  | failClient clientID next => exact claims.failPendingClient
  | failOne clientID next conns listed => exact claims.trySendDone
  | _ => exact claims

/-- No generation is incremented while a channel of the client is between its capture and its claim
or `add`; and no worker of a client is taken between the two halves of a disconnect of the
client. -/
def NoneArmed (config : Config Broker Goroutine) (goroutine : Goroutine) : Prop :=
  (∀ clientID ∈ goroutine.disconnecting,
    ∀ other ∈ config.threads, other.armed.map Prod.fst ≠ some clientID) ∧
  (∀ clientID ∈ goroutine.takesFrom config.shared,
    ∀ other ∈ config.threads, other.draining clientID = false)

instance (config : Config Broker Goroutine) (goroutine : Goroutine) :
    Decidable (NoneArmed config goroutine) := by
  unfold NoneArmed
  infer_instance

/-- The invariant behind the claims: armed channels carry the current generation, and no worker is
being assigned while a drain of its client is due. -/
structure ChannelsCurrent (config : Config Broker Goroutine) : Prop extends PoolFresh config where
  armed : ∀ goroutine ∈ config.threads, ∀ clientID generation,
    goroutine.armed = some (clientID, generation) →
      generation = config.shared.connections.generationFor clientID
  window : ∀ goroutine ∈ config.threads, ∀ other ∈ config.threads, ∀ clientID,
    goroutine.draining clientID = true → other.assigning ≠ some clientID
  claims : config.shared.ClaimsCurrent

section Steps

variable {config : Config Broker Goroutine} {index : ℕ} {goroutine goroutine' : Goroutine}
variable {b' : Broker} {spawned : List Goroutine}

/-- A goroutine drains a client only if it has just incremented the generation. -/
theorem action_draining {b : Broker} (action : Action b goroutine b' goroutine' spawned)
    {other : Goroutine} (born : other = goroutine' ∨ other ∈ spawned) {clientID : String}
    (draining : other.draining clientID = true) : goroutine.disconnecting = some clientID := by
  cases action with
  | disconnect client next conns =>
      obtain rfl | impossible := born
      · have same : client = clientID := by simpa [Goroutine.draining] using draining
        exact congrArg some same
      · cases impossible
  | lookup _ looking stepped =>
      obtain rfl | impossible := born
      · cases goroutine <;> cases looking <;> cases draining
      · cases impossible
  | takeWorker located taken =>
      obtain rfl | spawnedHere := born
      · cases draining
      · rw [List.mem_singleton] at spawnedHere
        subst spawnedHere
        cases draining
  | visitor caller registered =>
      obtain rfl | impossible := born
      · cases caller <;> cases draining
      · cases impossible
  | failReturns client next =>
      obtain rfl | impossible := born
      · cases next <;> cases draining
      · cases impossible
  | _ =>
      obtain rfl | impossible := born
      · cases draining
      · cases impossible

/-- A worker that is taken, where no disconnect of its client is half done, is current. -/
theorem ChannelsCurrent.taken (current : ChannelsCurrent config) {source : String}
    {worker : IdleWorkConnection} (settled : NoneArmed config goroutine)
    (member : goroutine ∈ config.threads)
    (takes : goroutine.takesFrom config.shared = some source ∨ goroutine.assigning = some source)
    (pooled : worker ∈ config.shared.workers.workersOf source) :
    worker.clientID = source ∧
      worker.generation = config.shared.connections.generationFor source ∧
      ∀ other ∈ config.threads, other.draining source = false := by
  have undrained : ∀ other ∈ config.threads, other.draining source = false := by
    intro other present
    rcases takes with offered | assigned
    · exact settled.2 source offered other present
    · cases due : other.draining source with
      | false => rfl
      | true => exact absurd assigned (current.window other present goroutine member source due)
  refine ⟨current.keyed source worker pooled, ?_, undrained⟩
  rcases current.pooled source worker pooled with same | ⟨other, due, draining⟩
  · exact same
  · rw [undrained other due] at draining
    cases draining

/-- A step that catches no armed channel keeps every channel current. -/
theorem ChannelsCurrent.step (current : ChannelsCurrent config)
    (present : config.threads[index]? = some goroutine) (settled : NoneArmed config goroutine)
    (action : Action config.shared goroutine b' goroutine' spawned) :
    ChannelsCurrent { shared := b', threads := config.threads.set index goroutine' ++ spawned } := by
  have member : goroutine ∈ config.threads := List.mem_of_getElem? present
  refine ⟨current.toPoolFresh.action present action ?_, ?_, ?_, ?_⟩
  · rintro worker rfl
    exact current.armed _ member _ _ rfl
  · intro other located clientID generation armed
    show generation = b'.connections.generationFor clientID
    -- Before the action the generation was the current one, whoever is armed now.
    have before : generation = config.shared.connections.generationFor clientID ∧
        goroutine.disconnecting ≠ some clientID := by
      have unmoved : (∃ holder ∈ config.threads, holder.armed = some (clientID, generation)) →
          goroutine.disconnecting ≠ some clientID := by
        rintro ⟨holder, present', armed'⟩ disconnecting
        exact settled.1 clientID disconnecting holder present' (by rw [armed']; rfl)
      have born : ∀ fresh, (fresh = goroutine' ∨ fresh ∈ spawned) →
          fresh.armed = some (clientID, generation) →
          generation = config.shared.connections.generationFor clientID ∧
            goroutine.disconnecting ≠ some clientID := by
        intro fresh isFresh armed'
        rcases action_armed action isFresh armed' with
          already | ⟨client, capturing, -, -, same⟩ | ⟨source, worker, takes, pooled, rfl, rfl⟩
        · exact ⟨current.armed _ member _ _ already, unmoved ⟨_, member, already⟩⟩
        · refine ⟨same, fun disconnecting => ?_⟩
          obtain ⟨next, rfl⟩ := Goroutine.eq_disconnect disconnecting
          cases capturing
        · obtain ⟨own, same, -⟩ := current.taken settled member takes pooled
          refine ⟨own ▸ same, fun disconnecting => ?_⟩
          obtain ⟨next, rfl⟩ := Goroutine.eq_disconnect disconnecting
          rcases takes with offered | assigned
          · cases offered
          · cases assigned
      rcases Machine.mem_threads_of_step located with rfl | fresh | old
      · exact born _ (Or.inl rfl) armed
      · exact born _ (Or.inr fresh) armed
      · exact ⟨current.armed _ old _ _ armed, unmoved ⟨_, old, armed⟩⟩
    rcases action_generation action clientID with same | ⟨next, rfl, -, -, -⟩
    · rw [same]
      exact before.1
    · exact absurd rfl before.2
  · intro other located holder located' clientID draining assigning
    have assignedBefore : (holder ∈ config.threads ∧ holder.assigning = some clientID) ∨
        ∃ source worker,
          (goroutine.takesFrom config.shared = some source ∨ goroutine.assigning = some source) ∧
          worker ∈ config.shared.workers.workersOf source ∧ worker.clientID = clientID := by
      rcases Machine.mem_threads_of_step located' with rfl | fresh | old
      · exact Or.inr (action_assigning action (Or.inl rfl) assigning)
      · exact Or.inr (action_assigning action (Or.inr fresh) assigning)
      · exact Or.inl ⟨old, assigning⟩
    have drainingBefore : (other ∈ config.threads ∧ other.draining clientID = true) ∨
        goroutine.disconnecting = some clientID := by
      rcases Machine.mem_threads_of_step located with rfl | fresh | old
      · exact Or.inr (action_draining action (Or.inl rfl) draining)
      · exact Or.inr (action_draining action (Or.inr fresh) draining)
      · exact Or.inl ⟨old, draining⟩
    rcases assignedBefore with ⟨old, assigned⟩ | ⟨source, worker, takes, pooled, own⟩
    · rcases drainingBefore with ⟨due, draining'⟩ | disconnecting
      · exact current.window other due holder old clientID draining' assigned
      · refine settled.1 clientID disconnecting holder old ?_
        cases holder <;> cases assigned
        rfl
    · obtain ⟨same, -, undrained⟩ := current.taken settled member takes pooled
      obtain rfl : source = clientID := same.symm.trans own
      rcases drainingBefore with ⟨due, draining'⟩ | disconnecting
      · rw [undrained other due] at draining'
        cases draining'
      · obtain ⟨next, rfl⟩ := Goroutine.eq_disconnect disconnecting
        rcases takes with offered | assigned
        · cases offered
        · cases assigned
  · exact claimsCurrent_of_action action current.claims (current.armed _ member)

end Steps

/-- Along runs whose disconnects catch no armed channel, every channel is current. -/
theorem channelsCurrent_of_settled {store : Store} {now : Time} {config : Config Broker Goroutine}
    (reached : dataPlane.Run (Machine.AtStep NoneArmed) (dataPlaneStart store now) config) :
    ChannelsCurrent config := by
  refine reached.step_invariant ChannelsCurrent ?_ ?_ ?_
  · exact ⟨⟨fun _ _ member => (nomatch member), fun _ _ member => (nomatch member)⟩,
      fun _ member => (nomatch member), fun _ member => (nomatch member),
      fun _ _ located => by simp [dataPlaneStart, Broker.newBroker] at located⟩
  · intro config goroutine current arrives
    obtain ⟨unarmed, unassigned, undrained⟩ := Goroutine.arrives_unarmed arrives
    have old : ∀ other ∈ config.threads ++ [goroutine], (other.armed ≠ none ∨
        other.assigning ≠ none ∨ ∃ clientID, other.draining clientID = true) →
        other ∈ config.threads := by
      intro other located busy
      rcases List.mem_append.mp located with kept | new
      · exact kept
      · rw [List.mem_singleton] at new
        subst new
        simp [unarmed, unassigned, undrained] at busy
    refine ⟨⟨current.keyed, fun clientID worker pooled => ?_⟩, ?_, ?_, current.claims⟩
    · rcases current.pooled clientID worker pooled with same | ⟨other, due, draining⟩
      · exact Or.inl same
      · exact Or.inr ⟨other, List.mem_append_left _ due, draining⟩
    · intro other located clientID generation armed
      exact current.armed other (old other located (Or.inl (by simp [armed]))) _ _ armed
    · intro other located holder located' clientID draining assigning
      exact current.window other (old other located (Or.inr (Or.inr ⟨clientID, draining⟩))) holder
        (old holder located' (Or.inr (Or.inl (by simp [assigning])))) clientID draining assigning
  · intro config index choice goroutine b' goroutine' spawned current present settled stepped
    exact current.step present settled (Broker.action_of_step stepped)

/-- **Visitors are not lost to stale channels.**  In every run whose disconnects catch no channel of
their client between capture and claim, and in which no worker is taken between the two halves of a
disconnect of its client: a visitor is still pending, or it was claimed by a channel that carried
its client's generation of that moment, or a failure, its caller or its timer has removed it. -/
theorem claims_current_of_settled {store : Store} {now : Time} {config : Config Broker Goroutine}
    (reached : dataPlane.Run (Machine.AtStep NoneArmed) (dataPlaneStart store now) config) (entry : ℕ)
    (record : PendingConn) (located : config.shared.entries[entry]? = some record) :
    config.shared.pending.lookup record.requestID = some entry ∨
      ∃ reason, record.removals = [reason] ∧ reason.Current := by
  have current := channelsCurrent_of_settled reached
  have lawful := lawful_of_reachable (reached.mono fun _ _ _ => trivial)
  have removal := (lawful.law entry).removal
  rw [Broker.account_of_some located] at removal
  simp only [Broker.accountOf] at removal
  by_cases waiting : config.shared.pending.lookup record.requestID = some entry
  · exact Or.inl waiting
  · rw [if_neg waiting] at removal
    obtain ⟨reason, only⟩ := List.length_eq_one_iff.mp (show record.removals.length = 1 by omega)
    refine Or.inr ⟨reason, only, current.claims entry record located reason ?_⟩
    rw [only]
    exact List.mem_singleton_self reason

/-- A stream of the office client goes on from `streamMoves` until it is about to claim. -/
def claimMoves (index : ℕ) : List (Move Goroutine Choice) :=
  streamMoves index ++ [.run index .go] ++ loadMoves index ++ [.run index .go]

/-- A stream captures its generation, the client is disconnected, the stream claims: the visitor has
left `pending`, claimed at generation zero while the client is at generation one. -/
theorem stale_channel_claims :
    ∃ config, dataPlane.Reachable (dataPlaneStart Auth.office 0) config ∧
      config.shared.connections.generationFor "client-1" = 1 ∧
      config.shared.pending.lookup "request-1" = none ∧
      (config.shared.entries[0]?).map PendingConn.removals = some [.claimed (.data 1) 0 1] := by
  refine Machine.exists_run_of_replay
    (visitorMoves 0 .wait ++ claimMoves 1 ++ disconnectMoves 2 ++ [.run 1 .go]) ?_
  decide +kernel

/-- The agent reconnects: a disconnect runs, and a stream that is authorized after it claims the
waiting visitor. -/
theorem claims_current_after_disconnect :
    ∃ config record, dataPlane.Run (Machine.AtStep NoneArmed) (dataPlaneStart Auth.office 0) config ∧
      config.shared.connections.generationFor "client-1" = 1 ∧
      config.shared.entries[0]? = some record ∧
      (config.shared.pending.lookup record.requestID = some 0 ∨
        ∃ reason, record.removals = [reason] ∧ reason.Current) := by
  obtain ⟨config, reached, moved, claimed⟩ :
      ∃ config, dataPlane.Run (Machine.AtStep NoneArmed) (dataPlaneStart Auth.office 0) config ∧
        config.shared.connections.generationFor "client-1" = 1 ∧
        (config.shared.entries[0]?).map PendingConn.removals =
          some [.claimed (.data 1) 1 1] := by
    refine Machine.exists_run_of_replay
      (visitorMoves 0 .wait ++ disconnectMoves 1 ++ claimMoves 2 ++ [.run 2 .go]) ?_
    decide +kernel
  obtain ⟨record, located, -⟩ := Option.map_eq_some_iff.mp claimed
  exact ⟨config, record, reached, moved, located,
    claims_current_of_settled reached 0 record located⟩

end NryNet.Relay
