import NryNet.Relay.Generations

/-!
# Disabling a client

`clientHandler.update` with `disabled = true` writes the row, increments the client's generation,
drains its idle workers, fails its pending visitors and clears the authorization cache, in this
order.  Once it has returned, and until the client is enabled again, no data channel of the client
should be active, pooled or able to claim.

The order leaves three gaps.  Between the increment and the end of the invalidation a handshake still
finds the enabled record in the cache, and captures a generation that is already the new one
(`channel_survives_disable`); a load that read the row before the update may save it after the
invalidation; and a channel that captured before the increment may claim, or be pooled, after it.

`Untangled` excludes exactly these, and then disabling is final (`disable_is_final`).  A handler
passes through four phases, and each phase adds one fact about the client that no later action
undoes: its row is disabled; it has no channel; it has no worker; nobody has an enabled record of
it.
-/

namespace NryNet.Relay

open ThreadPool

/-! ## Phases of the handler -/

/-- How far a disabling handler has come. -/
inductive Phase where
  /-- the row is written -/
  | written
  /-- the generation is incremented -/
  | disconnected
  /-- the pool is drained -/
  | drained
  /-- the cache is cleared and the handler has returned -/
  | returned
  deriving DecidableEq, Repr

namespace Goroutine

/-- A disabling handler: its client, how often the client had been enabled when its row was
written, and the phase. -/
def shutdown : Goroutine → Option (String × ℕ × Phase)
  | .disconnect clientID (.update enabledAt) => some (clientID, enabledAt, .written)
  | .drain clientID (.update enabledAt) => some (clientID, enabledAt, .disconnected)
  | .failClient clientID (.update enabledAt) => some (clientID, enabledAt, .drained)
  | .failSends _ clientID (.update enabledAt) => some (clientID, enabledAt, .drained)
  | .invalidate clientID (some enabledAt) => some (clientID, enabledAt, .drained)
  | .updated clientID (some enabledAt) => some (clientID, enabledAt, .returned)
  | _ => none

/-- The client record a handshake has in hand and has not used yet to capture a generation. -/
def record : Goroutine → Option Client
  | .dataClient _ _ pc => pc.held.map RelayTokenEntry.client
  | .dataToken _ _ client _ => some client
  | .streamClient _ _ pc => pc.held.map RelayTokenEntry.client
  | _ => none

/-- A handler that is about to clear the cache for a client it has disabled. -/
def clearing : Goroutine → Option (String × ℕ)
  | .invalidate clientID (some enabledAt) => some (clientID, enabledAt)
  | _ => none

end Goroutine

/-- The client has not been enabled since the handler in `goroutine` disabled it, and the handler is
in the given phase. -/
def Goroutine.inForce (b : Broker) (clientID : String) (phase : Phase) (goroutine : Goroutine) :
    Prop :=
  goroutine.shutdown = some (clientID, b.enables clientID, phase)

instance (b : Broker) (clientID : String) (phase : Phase) :
    DecidablePred (Goroutine.inForce b clientID phase) :=
  fun _ => inferInstanceAs (Decidable (_ = _))

/-- The gaps are avoided.  As long as the client has not been enabled again:
* when a disabling handler increments the generation, no channel of the client is between its
  capture and its claim or `add`;
* no worker of the client is taken before the handler has drained the pool;
* no handshake captures a generation with an enabled record until the cache is cleared;
* when the cache is cleared, no handshake has an enabled record in hand. -/
structure Untangled (config : Config Broker Goroutine) (goroutine : Goroutine) : Prop where
  increment : ∀ clientID ∈ goroutine.disconnecting,
    goroutine.inForce config.shared clientID .written →
      ∀ other ∈ config.threads, other.armed.map Prod.fst ≠ some clientID
  take : ∀ clientID ∈ goroutine.takesFrom config.shared, ∀ other ∈ config.threads,
    ¬ other.inForce config.shared clientID .disconnected
  capture : ∀ client ∈ goroutine.capturing, client.disabled = false → ∀ other ∈ config.threads,
    ¬ other.inForce config.shared client.id .disconnected ∧
      ¬ other.inForce config.shared client.id .drained
  clear : ∀ cleared ∈ goroutine.clearing, cleared.2 = config.shared.enables cleared.1 →
    ∀ other ∈ config.threads, ∀ client ∈ other.record,
      client.id = cleared.1 → client.disabled = true

instance (config : Config Broker Goroutine) (goroutine : Goroutine) :
    Decidable (Untangled config goroutine) :=
  decidable_of_iff
    ((∀ clientID ∈ goroutine.disconnecting,
        goroutine.inForce config.shared clientID .written →
          ∀ other ∈ config.threads, other.armed.map Prod.fst ≠ some clientID) ∧
      (∀ clientID ∈ goroutine.takesFrom config.shared, ∀ other ∈ config.threads,
        ¬ other.inForce config.shared clientID .disconnected) ∧
      (∀ client ∈ goroutine.capturing, client.disabled = false → ∀ other ∈ config.threads,
        ¬ other.inForce config.shared client.id .disconnected ∧
          ¬ other.inForce config.shared client.id .drained) ∧
      (∀ cleared ∈ goroutine.clearing, cleared.2 = config.shared.enables cleared.1 →
        ∀ other ∈ config.threads, ∀ client ∈ other.record,
          client.id = cleared.1 → client.disabled = true))
    ⟨fun ⟨increment, take, capture, clear⟩ => ⟨increment, take, capture, clear⟩,
      fun ⟨increment, take, capture, clear⟩ => ⟨increment, take, capture, clear⟩⟩

/-! ## What each phase guarantees -/

/-- The row of the client is disabled. -/
def RowDisabled (b : Broker) (clientID : String) : Prop :=
  ∀ client ∈ b.auth.store.clients, client.id = clientID → client.disabled = true

/-- The client has no active channel, no channel that may become active and none that may claim. -/
structure NoChannel (config : Config Broker Goroutine) (clientID : String) : Prop where
  moved : 0 < config.shared.connections.generationFor clientID
  inactive : config.shared.connections.connectionsOf clientID = ∅
  unarmed : ∀ goroutine ∈ config.threads, goroutine.armed.map Prod.fst ≠ some clientID
  stale : ∀ (entry : ℕ) record, config.shared.entries[entry]? = some record →
    record.tunnel.clientID = clientID →
      record.connectionGeneration < config.shared.connections.generationFor clientID

/-- Nobody has, or can find in the cache, an enabled record of the client. -/
structure NoRecord (config : Config Broker Goroutine) (clientID : String) : Prop where
  cached : ∀ deviceID entry,
    (AuthLookup.clientByDevice deviceID).entry config.shared.auth.cache = some entry →
      entry.client.id = clientID → entry.client.disabled = true
  held : ∀ goroutine ∈ config.threads, ∀ client ∈ goroutine.record,
    client.id = clientID → client.disabled = true

/-- What a handler in the given phase has achieved. -/
def Achieved (config : Config Broker Goroutine) (clientID : String) : Phase → Prop
  | .written => RowDisabled config.shared clientID
  | .disconnected => RowDisabled config.shared clientID ∧ NoChannel config clientID
  | .drained => RowDisabled config.shared clientID ∧ NoChannel config clientID ∧
      config.shared.workers.workersOf clientID = []
  | .returned => RowDisabled config.shared clientID ∧ NoChannel config clientID ∧
      config.shared.workers.workersOf clientID = [] ∧ NoRecord config clientID

/-! ## What an action does to the facts of a phase -/

section Actions

variable {b b' : Broker} {goroutine goroutine' : Goroutine} {spawned : List Goroutine}
variable {clientID : String}

/-- Enabling is counted, and nothing else touches the counter. -/
theorem action_enables (action : Action b goroutine b' goroutine' spawned) (clientID : String) :
    b.enables clientID ≤ b'.enables clientID := by
  cases action with
  | claim claimed => rw [(Broker.claimPendingForClient_rest claimed).enables]
  | complete sent => rw [(Broker.sendDone_rest sent).enables]
  | visitor caller registered => rw [(Broker.registerPending_rest registered).enables]
  | waitDone received => rw [(Broker.receiveDone_rest received).enables]
  | awaitDone received => rw [(Broker.receiveDone_rest received).enables]
  | failSend _ requestID cause entry worker conns =>
      exact Nat.le_of_eq (congrFun Broker.trySendDone_rest.enables clientID).symm
  | failOne _ next conns listed =>
      exact Nat.le_of_eq (congrFun Broker.trySendDone_rest.enables clientID).symm
  | enable written => exact Nat.le_add_right _ _
  | _ => exact Nat.le_refl _

/-- A disabled row stays disabled unless the client is enabled. -/
theorem action_row (action : Action b goroutine b' goroutine' spawned)
    (unchanged : b'.enables clientID = b.enables clientID) (disabled : RowDisabled b clientID) :
    RowDisabled b' clientID := by
  cases action with
  | lookup _ looking stepped =>
      obtain ⟨-, -, same | ⟨id, time, same⟩⟩ := AuthLookup.step_store stepped
      · intro client member
        simp only [same] at member
        exact disabled client member
      · intro client member
        simp only [same] at member
        exact disabled client member
  | rename id name flag =>
      intro client member own
      obtain ⟨old, present, sameID, sameFlag⟩ := Store.mem_setClientName member
      rw [sameFlag]
      exact disabled old present (sameID.symm.trans own)
  | disable written =>
      intro client member own
      rcases Store.mem_setClientDisabled written member with ⟨-, flag⟩ | ⟨-, old⟩
      · exact flag
      · exact disabled client old own
  | @enable id name store written =>
      have other : clientID ≠ id := by
        rintro rfl
        simp at unchanged
      intro client member own
      rcases Store.mem_setClientDisabled written member with ⟨same, -⟩ | ⟨-, old⟩
      · exact absurd (own.symm.trans same) other
      · exact disabled client old own
  | claim claimed =>
      unfold RowDisabled
      rw [(Broker.claimPendingForClient_rest claimed).auth]
      exact disabled
  | complete sent =>
      unfold RowDisabled
      rw [(Broker.sendDone_rest sent).auth]
      exact disabled
  | visitor caller registered =>
      unfold RowDisabled
      rw [(Broker.registerPending_rest registered).auth]
      exact disabled
  | waitDone received =>
      unfold RowDisabled
      rw [(Broker.receiveDone_rest received).auth]
      exact disabled
  | awaitDone received =>
      unfold RowDisabled
      rw [(Broker.receiveDone_rest received).auth]
      exact disabled
  | @failSend _ _ cause entry worker conns =>
      show RowDisabled (b.trySendDone entry cause) clientID
      unfold RowDisabled
      rw [Broker.trySendDone_rest.auth]
      exact disabled
  | @failOne entries entry _ next conns listed =>
      show RowDisabled (b.trySendDone entry _) clientID
      unfold RowDisabled
      rw [Broker.trySendDone_rest.auth]
      exact disabled
  | _ => exact disabled

/-- An entry is as it was, has just been claimed by an armed channel of its client, or is not
claimed. -/
theorem action_entries (action : Action b goroutine b' goroutine' spawned) {entry : ℕ}
    {record' : PendingConn} (located : b'.entries[entry]? = some record') :
    record'.connectionGeneration = 0 ∨
    goroutine.armed = some (record'.tunnel.clientID, record'.connectionGeneration) ∨
    ∃ record, b.entries[entry]? = some record ∧ record'.tunnel = record.tunnel ∧
      record'.connectionGeneration = record.connectionGeneration := by
  -- All but two operations on the table keep tunnels and generations.
  have kept : b.KeepsEntries b' → record'.connectionGeneration = 0 ∨
      goroutine.armed = some (record'.tunnel.clientID, record'.connectionGeneration) ∨
      ∃ record, b.entries[entry]? = some record ∧ record'.tunnel = record.tunnel ∧
        record'.connectionGeneration = record.connectionGeneration :=
    fun keeps => Or.inr (Or.inr (keeps entry record' located))
  cases action with
  | @claim conn owner requestID generation claimedEntry _ claimed =>
      obtain ⟨old, -, found, own, rfl⟩ := Broker.claimPendingForClient_ok claimed
      simp only [Broker.modifyEntry, List.getElem?_modify, Option.map_eq_map,
        Option.map_eq_some_iff] at located
      obtain ⟨record, located, rfl⟩ := located
      obtain ⟨before, present, tunnel, same⟩ :=
        Broker.keepsEntries_removePending requestID entry record located
      by_cases hit : claimedEntry = entry
      · subst hit
        rw [present, Option.some.injEq] at found
        subst found
        rw [if_pos rfl]
        refine Or.inr (Or.inl ?_)
        show some (owner, generation) = some (record.tunnel.clientID, generation)
        rw [tunnel, own]
      · rw [if_neg hit]
        exact Or.inr (Or.inr ⟨before, present, tunnel, same⟩)
  | visitor caller registered =>
      rcases Broker.entries_registerPending registered located with old | rfl
      · exact Or.inr (Or.inr ⟨record', old, rfl, rfl⟩)
      · exact Or.inl rfl
  | complete sent => exact kept (Broker.keepsEntries_sendDone sent)
  | waitDone received => exact kept (Broker.keepsEntries_receiveDone received)
  | awaitDone received => exact kept (Broker.keepsEntries_receiveDone received)
  | @timeOut _ requestID conns present => exact kept (Broker.keepsEntries_removePending requestID)
  | @cancel _ requestID conns present => exact kept (Broker.keepsEntries_removePending requestID)
  | @fail _ requestID _ cause cause' worker present =>
      exact kept (Broker.keepsEntries_removePending requestID)
  | failSend _ requestID cause held worker conns => exact kept Broker.keepsEntries_trySendDone
  | failClient _ next => exact kept Broker.keepsEntries_failPendingClient
  | failOne _ next conns listed => exact kept Broker.keepsEntries_trySendDone
  | _ => exact Or.inr (Or.inr ⟨record', located, rfl, rfl⟩)

/-- A record in hand was in hand before, comes out of the cache, or out of the database. -/
theorem action_record (action : Action b goroutine b' goroutine' spawned) {other : Goroutine}
    (born : other = goroutine' ∨ other ∈ spawned) {client : Client}
    (held : other.record = some client) :
    goroutine.record = some client ∨
    (∃ deviceID entry, (AuthLookup.clientByDevice deviceID).entry b.auth.cache = some entry ∧
      entry.client = client) ∨
    client ∈ b.auth.store.clients := by
  -- Both goroutines that look a client up do it with `clientByDevice`.
  have looked {deviceID : String} {pc pc' : LookupPC} {auth : AuthState} {choice : LookupChoice}
      (stepped : (AuthLookup.clientByDevice deviceID).step b.auth pc choice = some (auth, pc'))
      (held : pc'.held.map RelayTokenEntry.client = some client) :
      pc.held.map RelayTokenEntry.client = some client ∨
      (∃ deviceID entry, (AuthLookup.clientByDevice deviceID).entry b.auth.cache = some entry ∧
        entry.client = client) ∨
      client ∈ b.auth.store.clients := by
    obtain ⟨found, inHand, rfl⟩ := Option.map_eq_some_iff.mp held
    rcases AuthLookup.step_held stepped inHand with before | ⟨-, hit⟩ | ⟨-, read⟩
    · exact Or.inl (by rw [before]; rfl)
    · exact Or.inr (Or.inl ⟨deviceID, found, (AuthLookup.cached_hit.mp hit).1, rfl⟩)
    · refine Or.inr (Or.inr ?_)
      cases answer : b.auth.store.getClientByDevice deviceID with
      | error message => simp [AuthLookup.query, answer, Except.map] at read
      | ok row =>
          simp only [AuthLookup.query, answer, Except.map, Except.ok.injEq] at read
          subst read
          exact (Store.mem_of_getClientByDevice answer).1
  cases action with
  | lookup _ looking stepped =>
      obtain rfl | impossible := born
      · cases goroutine with
        | dataClient conn initial pc =>
            obtain ⟨rfl, rfl⟩ := Prod.mk.inj (Option.some.inj looking)
            exact looked stepped held
        | streamClient conn handshake pc =>
            obtain ⟨rfl, rfl⟩ := Prod.mk.inj (Option.some.inj looking)
            exact looked stepped held
        | dataToken conn initial holder pc => exact Or.inl held
        | streamToken conn handshake holder generation pc => cases held
        | _ => cases looking
      · cases impossible
  | dataClient conn initial entry =>
      obtain rfl | impossible := born
      · exact Or.inl held
      · cases impossible
  | takeWorker located taken =>
      obtain rfl | spawnedHere := born
      · cases held
      · rw [List.mem_singleton] at spawnedHere
        subst spawnedHere
        cases held
  | visitor caller registered =>
      obtain rfl | impossible := born
      · cases caller <;> cases held
      · cases impossible
  | failReturns id next =>
      obtain rfl | impossible := born
      · cases next <;> cases held
      · cases impossible
  | stream conn handshake =>
      obtain rfl | impossible := born
      · cases held
      · cases impossible
  | _ =>
      obtain rfl | impossible := born
      · cases held
      · cases impossible

/-- A cached record was cached before or has just been saved by the goroutine that had it in
hand. -/
theorem action_cached (action : Action b goroutine b' goroutine' spawned) {deviceID : String}
    {entry : RelayTokenEntry}
    (present : (AuthLookup.clientByDevice deviceID).entry b'.auth.cache = some entry) :
    (AuthLookup.clientByDevice deviceID).entry b.auth.cache = some entry ∨
      goroutine.record = some entry.client := by
  cases action with
  | lookup _ looking stepped =>
      rcases AuthLookup.step_entry stepped present with old | ⟨load, held, rfl, rfl, rfl⟩
      · exact Or.inl old
      · refine Or.inr ?_
        cases goroutine <;> cases looking <;> rfl
  | invalidate id enabledAt =>
      have empty : (AuthLookup.clientByDevice deviceID).entry
          (b.auth.cache.invalidateClient id) = none := AuthLookup.entry_invalidateAll
      rw [show b.auth.cache.invalidateClient id = (b.auth.invalidate fun c =>
        c.invalidateClient id).cache from rfl] at empty
      rw [empty] at present
      cases present
  | claim claimed =>
      exact Or.inl ((Broker.claimPendingForClient_rest claimed).auth ▸ present)
  | complete sent => exact Or.inl ((Broker.sendDone_rest sent).auth ▸ present)
  | visitor caller registered =>
      exact Or.inl ((Broker.registerPending_rest registered).auth ▸ present)
  | waitDone received => exact Or.inl ((Broker.receiveDone_rest received).auth ▸ present)
  | awaitDone received => exact Or.inl ((Broker.receiveDone_rest received).auth ▸ present)
  | failSend _ requestID cause held worker conns =>
      rw [show ((b.trySendDone held cause).close conns).auth = b.auth from
        Broker.trySendDone_rest.auth] at present
      exact Or.inl present
  | @failOne entries held _ next conns listed =>
      rw [show ((b.trySendDone held (some errClientDisconnected)).close conns).auth = b.auth from
        Broker.trySendDone_rest.auth] at present
      exact Or.inl present
  | _ => exact Or.inl present

/-- How a goroutine comes to be a disabling handler in some phase. -/
theorem action_shutdown (action : Action b goroutine b' goroutine' spawned) {other : Goroutine}
    (born : other = goroutine' ∨ other ∈ spawned) {enabledAt : ℕ} {phase : Phase}
    (shutdown : other.shutdown = some (clientID, enabledAt, phase)) :
    goroutine.shutdown = some (clientID, enabledAt, phase) ∨
    (phase = .written ∧ RowDisabled b' clientID ∧ enabledAt = b.enables clientID) ∨
    (phase = .disconnected ∧ goroutine = .disconnect clientID (.update enabledAt)) ∨
    (phase = .drained ∧ goroutine = .drain clientID (.update enabledAt)) ∨
    (phase = .returned ∧ goroutine = .invalidate clientID (some enabledAt)) := by
  cases action with
  | disable written =>
      obtain rfl | impossible := born
      · cases shutdown
        refine Or.inr (Or.inl ⟨rfl, fun client member own => ?_, rfl⟩)
        rcases Store.mem_setClientDisabled written member with ⟨-, flag⟩ | ⟨foreign, -⟩
        · exact flag
        · exact absurd own foreign
      · cases impossible
  | disconnect id next conns =>
      obtain rfl | impossible := born
      · cases next <;> cases shutdown
        exact Or.inr (Or.inr (Or.inl ⟨rfl, rfl⟩))
      · cases impossible
  | drainOn id conns more =>
      obtain rfl | impossible := born
      · rename_i next
        cases next <;> cases shutdown
        exact Or.inr (Or.inr (Or.inr (Or.inl ⟨rfl, rfl⟩)))
      · cases impossible
  | failClient id next =>
      obtain rfl | impossible := born
      · cases next <;> exact Or.inl shutdown
      · cases impossible
  | failOne id next conns listed =>
      obtain rfl | impossible := born
      · cases next <;> exact Or.inl shutdown
      · cases impossible
  | failReturns id next =>
      obtain rfl | impossible := born
      · cases next <;> exact Or.inl shutdown
      · cases impossible
  | invalidate id enabledAt =>
      obtain rfl | impossible := born
      · cases enabledAt <;> cases shutdown
        exact Or.inr (Or.inr (Or.inr (Or.inr ⟨rfl, rfl⟩)))
      · cases impossible
  | lookup _ looking stepped =>
      obtain rfl | impossible := born
      · cases goroutine <;> cases looking <;> cases shutdown
      · cases impossible
  | takeWorker located taken =>
      obtain rfl | spawnedHere := born
      · cases shutdown
      · rw [List.mem_singleton] at spawnedHere
        subst spawnedHere
        cases shutdown
  | visitor caller registered =>
      obtain rfl | impossible := born
      · cases caller <;> cases shutdown
      · cases impossible
  | _ =>
      obtain rfl | impossible := born
      · cases shutdown
      · cases impossible

end Actions

/-! ## Generations are never ahead -/

/-- Nobody carries a generation the client has not had yet. -/
structure Bounded (config : Config Broker Goroutine) : Prop where
  armed : ∀ goroutine ∈ config.threads, ∀ clientID generation,
    goroutine.armed = some (clientID, generation) →
      generation ≤ config.shared.connections.generationFor clientID
  keyed : config.shared.workers.Keyed
  pooled : ∀ clientID, ∀ worker ∈ config.shared.workers.workersOf clientID,
    worker.generation ≤ config.shared.connections.generationFor clientID
  claimed : ∀ (entry : ℕ) record, config.shared.entries[entry]? = some record →
    record.connectionGeneration ≤ config.shared.connections.generationFor record.tunnel.clientID

section Steps

variable {config : Config Broker Goroutine} {index : ℕ} {goroutine goroutine' : Goroutine}
variable {b' : Broker} {spawned : List Goroutine} {clientID : String}

theorem action_generation_le {b : Broker} (action : Action b goroutine b' goroutine' spawned)
    (clientID : String) :
    b.connections.generationFor clientID ≤ b'.connections.generationFor clientID := by
  rcases action_generation action clientID with same | ⟨next, -, -, -, moved⟩
  · exact Nat.le_of_eq same.symm
  · rw [moved]
    exact Nat.le_succ _

theorem Bounded.step (bounded : Bounded config)
    (present : config.threads[index]? = some goroutine)
    (action : Action config.shared goroutine b' goroutine' spawned) :
    Bounded { shared := b', threads := config.threads.set index goroutine' ++ spawned } := by
  have member : goroutine ∈ config.threads := List.mem_of_getElem? present
  refine ⟨?_, keyed_of_action action bounded.keyed, ?_, ?_⟩
  · intro other located owner generation armed
    refine le_trans ?_ (action_generation_le action owner)
    have born : ∀ fresh, (fresh = goroutine' ∨ fresh ∈ spawned) →
        fresh.armed = some (owner, generation) →
        generation ≤ config.shared.connections.generationFor owner := by
      intro fresh isFresh armed'
      rcases action_armed action isFresh armed' with
        already | ⟨client, -, -, -, same⟩ | ⟨source, worker, -, pooled, own, rfl⟩
      · exact bounded.armed goroutine member owner generation already
      · exact Nat.le_of_eq same
      · have keyed := bounded.keyed source worker pooled
        rw [← own, keyed]
        exact bounded.pooled source worker pooled
    rcases Machine.mem_threads_of_step located with rfl | fresh | old
    · exact born _ (Or.inl rfl) armed
    · exact born _ (Or.inr fresh) armed
    · exact bounded.armed other old owner generation armed
  · intro owner worker pooled
    refine le_trans ?_ (action_generation_le action owner)
    rcases action_workers action pooled with old | ⟨rfl, -, rfl⟩
    · exact bounded.pooled owner worker old
    · exact bounded.armed _ member _ _ rfl
  · intro entry record' located
    refine le_trans ?_ (action_generation_le action _)
    rcases action_entries action located with zero | armed | ⟨record, old, tunnel, same⟩
    · rw [zero]
      exact Nat.zero_le _
    · exact bounded.armed goroutine member _ _ armed
    · rw [tunnel, same]
      exact bounded.claimed entry record old

/-! ## What each action leaves of a phase -/

/-- A goroutine about to capture has its record in hand. -/
theorem Goroutine.record_of_capturing {client : Client}
    (captures : goroutine.capturing = some client) : goroutine.record = some client := by
  unfold Goroutine.capturing at captures
  split at captures
  · exact captures
  · exact captures
  · cases captures

/-- A client without channels gets none as long as nobody captures a generation for it with an
enabled record and none of its workers is taken. -/
theorem NoChannel.step (none : NoChannel config clientID) (keyed : config.shared.workers.Keyed)
    (present : config.threads[index]? = some goroutine)
    (action : Action config.shared goroutine b' goroutine' spawned)
    (captures : ∀ client ∈ goroutine.capturing, client.disabled = false → client.id ≠ clientID)
    (takes : goroutine.takesFrom config.shared = some clientID →
      config.shared.workers.workersOf clientID = []) :
    NoChannel { shared := b', threads := config.threads.set index goroutine' ++ spawned }
      clientID := by
  have member : goroutine ∈ config.threads := List.mem_of_getElem? present
  have moved : 0 < b'.connections.generationFor clientID :=
    Nat.lt_of_lt_of_le none.moved (action_generation_le action clientID)
  refine ⟨moved, ?_, ?_, ?_⟩
  · show b'.connections.connectionsOf clientID = ∅
    rcases action_connections action with
      same | ⟨conn, entry, record, -, located, current, same⟩ | ⟨owner, connection, same⟩ |
        ⟨owner, next, -, -, -, same⟩
    · rw [same]
      exact none.inactive
    · -- An entry of the client carries an old generation, so the registration is another's.
      have foreign : clientID ≠ record.tunnel.clientID := by
        rintro rfl
        exact absurd current (Nat.ne_of_lt (none.stale entry record located rfl))
      rw [same, current, ClientConnections.connectionsOf_register_current, if_neg foreign]
      exact none.inactive
    · rw [same, ClientConnections.connectionsOf_remove]
      split
      · rename_i own
        rw [← own, none.inactive]
        rfl
      · exact none.inactive
    · rw [same, ClientConnections.connectionsOf_disconnect]
      split
      · rfl
      · exact none.inactive
  · intro other located own
    obtain ⟨⟨owner, generation⟩, armed, rfl⟩ := Option.map_eq_some_iff.mp own
    have born : ∀ fresh, (fresh = goroutine' ∨ fresh ∈ spawned) →
        fresh.armed ≠ some (owner, generation) := by
      intro fresh isFresh armed'
      rcases action_armed action isFresh armed' with
        already | ⟨client, capturing, own, enabled, -⟩ | ⟨source, worker, takenBy, pooled, own, -⟩
      · exact none.unarmed goroutine member (by rw [already]; rfl)
      · exact captures client capturing enabled own
      · obtain rfl : source = owner := (keyed source worker pooled).symm.trans own
        rcases takenBy with offered | assigned
        · rw [takes offered] at pooled
          cases pooled
        · refine none.unarmed goroutine member ?_
          cases goroutine <;> cases assigned
          rfl
    rcases Machine.mem_threads_of_step located with rfl | fresh | old
    · exact born _ (Or.inl rfl) armed
    · exact born _ (Or.inr fresh) armed
    · exact none.unarmed other old own
  · intro entry record' located own
    show record'.connectionGeneration < b'.connections.generationFor clientID
    rcases action_entries action located with zero | armed | ⟨record, old, tunnel, same⟩
    · rw [zero]
      exact moved
    · refine absurd ?_ (none.unarmed goroutine member)
      rw [armed, own]
      rfl
    · rw [same]
      exact Nat.lt_of_lt_of_le (none.stale entry record old (tunnel ▸ own))
        (action_generation_le action clientID)

/-- A client without workers and without armed channels gets no workers. -/
theorem workersOf_of_action (none : NoChannel config clientID)
    (member : goroutine ∈ config.threads)
    (action : Action config.shared goroutine b' goroutine' spawned)
    (empty : config.shared.workers.workersOf clientID = []) :
    b'.workers.workersOf clientID = [] := by
  refine List.eq_nil_iff_forall_not_mem.mpr fun worker pooled => ?_
  rcases action_workers action pooled with old | ⟨rfl, -, rfl⟩
  · rw [empty] at old
    cases old
  · exact none.unarmed _ member rfl

/-- If the row is disabled and nobody has an enabled record, then nobody gets one. -/
theorem NoRecord.step (none : NoRecord config clientID)
    (disabled : RowDisabled config.shared clientID)
    (present : config.threads[index]? = some goroutine)
    (action : Action config.shared goroutine b' goroutine' spawned) :
    NoRecord { shared := b', threads := config.threads.set index goroutine' ++ spawned }
      clientID := by
  have member : goroutine ∈ config.threads := List.mem_of_getElem? present
  refine ⟨fun deviceID entry located own => ?_, fun other located client held own => ?_⟩
  · rcases action_cached action located with old | held
    · exact none.cached deviceID entry old own
    · exact none.held goroutine member entry.client held own
  · have born : ∀ fresh, (fresh = goroutine' ∨ fresh ∈ spawned) →
        fresh.record = some client → client.disabled = true := by
      intro fresh isFresh held'
      rcases action_record action isFresh held' with
        before | ⟨deviceID, entry, cached, rfl⟩ | row
      · exact none.held goroutine member client before own
      · exact none.cached deviceID entry cached own
      · exact disabled client row own
    rcases Machine.mem_threads_of_step located with rfl | fresh | old
    · exact born _ (Or.inl rfl) held
    · exact born _ (Or.inr fresh) held
    · exact none.held other old client held own

/-- What a handler has achieved, no later action undoes. -/
theorem Achieved.step (bounded : Bounded config)
    (present : config.threads[index]? = some goroutine) (untangled : Untangled config goroutine)
    (action : Action config.shared goroutine b' goroutine' spawned)
    (unchanged : b'.enables clientID = config.shared.enables clientID) {handler : Goroutine}
    (running : handler ∈ config.threads) {phase : Phase}
    (inForce : handler.inForce config.shared clientID phase)
    (achieved : Achieved config clientID phase) :
    Achieved { shared := b', threads := config.threads.set index goroutine' ++ spawned }
      clientID phase := by
  have member : goroutine ∈ config.threads := List.mem_of_getElem? present
  cases phase with
  | written => exact action_row action unchanged achieved
  | disconnected =>
      obtain ⟨row, none⟩ := achieved
      refine ⟨action_row action unchanged row, none.step bounded.keyed present action ?_ ?_⟩
      · rintro client capturing enabled rfl
        exact (untangled.capture client capturing enabled handler running).1 inForce
      · intro takes
        exact absurd inForce (untangled.take clientID takes handler running)
  | drained =>
      obtain ⟨row, none, empty⟩ := achieved
      refine ⟨action_row action unchanged row,
        none.step bounded.keyed present action ?_ fun _ => empty,
        workersOf_of_action none member action empty⟩
      rintro client capturing enabled rfl
      exact (untangled.capture client capturing enabled handler running).2 inForce
  | returned =>
      obtain ⟨row, none, empty, forgotten⟩ := achieved
      refine ⟨action_row action unchanged row,
        none.step bounded.keyed present action ?_ fun _ => empty,
        workersOf_of_action none member action empty, forgotten.step row present action⟩
      rintro client capturing enabled rfl
      have disabled := forgotten.held goroutine member client
        (Goroutine.record_of_capturing capturing) rfl
      rw [enabled] at disabled
      cases disabled

/-- The increment ends every channel of the client, provided none is armed. -/
theorem NoChannel.of_disconnect (bounded : Bounded config) {next : Aftermath}
    (unarmed : ∀ other ∈ config.threads, other.armed.map Prod.fst ≠ some clientID)
    (action : Action config.shared (.disconnect clientID next) b' goroutine' spawned) :
    NoChannel { shared := b', threads := config.threads.set index goroutine' ++ spawned }
      clientID := by
  cases action with
  | quit _ conns idle => cases idle
  | lookup _ looking stepped => cases looking
  | disconnect _ _ conns =>
      have moved : (config.shared.connections.disconnect clientID).1.generationFor clientID =
          config.shared.connections.generationFor clientID + 1 := by
        rw [ClientConnections.generationFor_disconnect, if_pos rfl]
      refine ⟨?_, ?_, fun other located => ?_, fun entry record located own => ?_⟩
      · show 0 < (config.shared.connections.disconnect clientID).1.generationFor clientID
        rw [moved]
        exact Nat.succ_pos _
      · show (config.shared.connections.disconnect clientID).1.connectionsOf clientID = ∅
        rw [ClientConnections.connectionsOf_disconnect, if_pos rfl]
      · rcases Machine.mem_threads_of_step located with rfl | impossible | old
        · exact fun armed => (nomatch armed)
        · cases impossible
        · exact unarmed other old
      · show _ < (config.shared.connections.disconnect clientID).1.generationFor clientID
        rw [moved, ← own]
        exact Nat.lt_succ_of_le (bounded.claimed entry record located)

/-- Clearing the cache leaves no enabled record of the client, provided nobody has one in hand. -/
theorem NoRecord.of_invalidate {enabledAt : Option ℕ}
    (unheld : ∀ other ∈ config.threads, ∀ client ∈ other.record,
      client.id = clientID → client.disabled = true)
    (action : Action config.shared (.invalidate clientID enabledAt) b' goroutine' spawned) :
    NoRecord { shared := b', threads := config.threads.set index goroutine' ++ spawned }
      clientID := by
  cases action with
  | quit _ conns idle => cases idle
  | lookup _ looking stepped => cases looking
  | invalidate _ _ =>
      refine ⟨fun deviceID entry located => ?_, fun other located client held => ?_⟩
      · have empty : (AuthLookup.clientByDevice deviceID).entry
            (config.shared.auth.cache.invalidateClient clientID) = none :=
          AuthLookup.entry_invalidateAll
        exact absurd (empty.symm.trans located) (by simp)
      · rcases Machine.mem_threads_of_step located with rfl | impossible | old
        · cases held
        · cases impossible
        · exact unheld other old client held

end Steps

/-! ## Every run -/

/-- Every disabling handler that is still in force has achieved what its phase promises. -/
structure Closing (config : Config Broker Goroutine) : Prop extends Bounded config where
  handlers : ∀ handler ∈ config.threads, ∀ clientID enabledAt phase,
    handler.shutdown = some (clientID, enabledAt, phase) →
      enabledAt ≤ config.shared.enables clientID ∧
        (enabledAt = config.shared.enables clientID → Achieved config clientID phase)

/-- A goroutine that arrives has no record in hand and is not in the middle of a handler. -/
theorem Goroutine.arrives_uninvolved {goroutine : Goroutine} (arrives : goroutine.arrives = true) :
    goroutine.record = none ∧ goroutine.shutdown = none := by
  cases goroutine with
  | dataClient conn initial pc => cases pc <;> first | exact ⟨rfl, rfl⟩ | cases arrives
  | disconnect id next => cases next <;> first | exact ⟨rfl, rfl⟩ | cases arrives
  | _ => first | exact ⟨rfl, rfl⟩ | cases arrives

/-- One more goroutine that is neither armed nor holding a record makes no difference. -/
theorem Achieved.arrive {config : Config Broker Goroutine} {goroutine : Goroutine}
    (arrives : goroutine.arrives = true) {clientID : String} {phase : Phase}
    (achieved : Achieved config clientID phase) :
    Achieved { config with threads := config.threads ++ [goroutine] } clientID phase := by
  have unarmed := (Goroutine.arrives_unarmed arrives).1
  have unheld := (Goroutine.arrives_uninvolved arrives).1
  have channel : NoChannel config clientID →
      NoChannel { config with threads := config.threads ++ [goroutine] } clientID := by
    intro none
    refine ⟨none.moved, none.inactive, fun other located => ?_, none.stale⟩
    rcases List.mem_append.mp located with old | new
    · exact none.unarmed other old
    · rw [List.mem_singleton.mp new, unarmed]
      exact fun impossible => (nomatch impossible)
  have record : NoRecord config clientID →
      NoRecord { config with threads := config.threads ++ [goroutine] } clientID := by
    intro none
    refine ⟨none.cached, fun other located client held => ?_⟩
    rcases List.mem_append.mp located with old | new
    · exact none.held other old client held
    · rw [List.mem_singleton.mp new, unheld] at held
      cases held
  cases phase with
  | written => exact achieved
  | disconnected => exact ⟨achieved.1, channel achieved.2⟩
  | drained => exact ⟨achieved.1, channel achieved.2.1, achieved.2.2⟩
  | returned => exact ⟨achieved.1, channel achieved.2.1, achieved.2.2.1, record achieved.2.2.2⟩

/-- A step of a run in which the gaps are avoided. -/
theorem Closing.step {config : Config Broker Goroutine} {index : ℕ}
    {goroutine goroutine' : Goroutine} {b' : Broker} {spawned : List Goroutine}
    (closing : Closing config) (present : config.threads[index]? = some goroutine)
    (untangled : Untangled config goroutine)
    (action : Action config.shared goroutine b' goroutine' spawned) :
    Closing { shared := b', threads := config.threads.set index goroutine' ++ spawned } := by
  have member : goroutine ∈ config.threads := List.mem_of_getElem? present
  refine ⟨closing.toBounded.step present action, ?_⟩
  intro handler located clientID enabledAt phase shutdown
  have counted := action_enables action clientID
  -- A handler that was there before, and has not moved on.
  have kept : ∀ old ∈ config.threads, ∀ reached,
      old.shutdown = some (clientID, enabledAt, reached) →
      enabledAt ≤ b'.enables clientID ∧ (enabledAt = b'.enables clientID →
        enabledAt = config.shared.enables clientID ∧
        Achieved { shared := b', threads := config.threads.set index goroutine' ++ spawned }
          clientID reached) := by
    intro old running reached shutdown'
    obtain ⟨bound, achieved⟩ := closing.handlers old running clientID enabledAt reached shutdown'
    refine ⟨le_trans bound counted, fun latest => ?_⟩
    have same : enabledAt = config.shared.enables clientID :=
      le_antisymm bound (latest ▸ counted)
    have inForce : old.inForce config.shared clientID reached := by
      unfold Goroutine.inForce
      rw [shutdown', same]
    exact ⟨same, (achieved same).step closing.toBounded present untangled action
      (latest.symm.trans same) running inForce⟩
  have born : ∀ fresh, (fresh = goroutine' ∨ fresh ∈ spawned) →
      fresh.shutdown = some (clientID, enabledAt, phase) →
      enabledAt ≤ b'.enables clientID ∧ (enabledAt = b'.enables clientID →
        Achieved { shared := b', threads := config.threads.set index goroutine' ++ spawned }
          clientID phase) := by
    intro fresh isFresh shutdown'
    rcases action_shutdown action isFresh shutdown' with
      same | ⟨rfl, row, rfl⟩ | ⟨rfl, rfl⟩ | ⟨rfl, rfl⟩ | ⟨rfl, rfl⟩
    · obtain ⟨bound, achieved⟩ := kept goroutine member phase same
      exact ⟨bound, fun latest => (achieved latest).2⟩
    · exact ⟨counted, fun _ => row⟩
    · obtain ⟨bound, achieved⟩ := kept _ member .written rfl
      refine ⟨bound, fun latest => ?_⟩
      obtain ⟨same, row⟩ := achieved latest
      have unarmed := untangled.increment clientID rfl (by rw [same]; rfl)
      exact ⟨row, NoChannel.of_disconnect closing.toBounded unarmed action⟩
    · obtain ⟨bound, achieved⟩ := kept _ member .disconnected rfl
      refine ⟨bound, fun latest => ?_⟩
      obtain ⟨-, row, none⟩ := achieved latest
      exact ⟨row, none, action_drain action (by simp [Goroutine.draining])⟩
    · obtain ⟨bound, achieved⟩ := kept _ member .drained rfl
      refine ⟨bound, fun latest => ?_⟩
      obtain ⟨same, row, none, empty⟩ := achieved latest
      exact ⟨row, none, empty,
        NoRecord.of_invalidate (untangled.clear (clientID, enabledAt) rfl same) action⟩
  rcases Machine.mem_threads_of_step located with rfl | fresh | old
  · exact born _ (Or.inl rfl) shutdown
  · exact born _ (Or.inr fresh) shutdown
  · obtain ⟨bound, achieved⟩ := kept handler old phase shutdown
    exact ⟨bound, fun latest => (achieved latest).2⟩

theorem closing_of_untangled {store : Store} {now : Time} {config : Config Broker Goroutine}
    (reached : dataPlane.Run (Machine.AtStep Untangled) (dataPlaneStart store now) config) :
    Closing config := by
  refine reached.step_invariant Closing ?_ ?_ ?_
  · refine ⟨⟨fun _ member => (List.not_mem_nil member).elim,
      fun _ _ member => (List.not_mem_nil member).elim,
      fun _ _ member => (List.not_mem_nil member).elim, fun entry record located => ?_⟩,
      fun _ member => (List.not_mem_nil member).elim⟩
    simp [dataPlaneStart, Broker.newBroker] at located
  · intro config goroutine closing arrives
    refine ⟨⟨fun other located => ?_, closing.keyed, closing.pooled, closing.claimed⟩, ?_⟩
    · rcases List.mem_append.mp located with old | new
      · exact closing.armed other old
      · rw [List.mem_singleton.mp new, (Goroutine.arrives_unarmed arrives).1]
        intro _ _ impossible
        cases impossible
    · intro handler located clientID enabledAt phase shutdown
      rcases List.mem_append.mp located with old | new
      · obtain ⟨bound, achieved⟩ :=
          closing.handlers handler old clientID enabledAt phase shutdown
        exact ⟨bound, fun latest => (achieved latest).arrive arrives⟩
      · rw [List.mem_singleton.mp new, (Goroutine.arrives_uninvolved arrives).2] at shutdown
        cases shutdown
  · intro config index choice goroutine b' goroutine' spawned closing present untangled stepped
    exact closing.step present untangled (Broker.action_of_step stepped)

/-- **Disabling a client is final for its data plane.**  In every run that avoids the gaps: once
`clientHandler.update` with `disabled = true` has returned, and until the client is enabled again,
no data channel of the client is active, none is in the pool of idle workers, and none is on its way
to a claim; nor can one get there, since nobody has an enabled record of the client. -/
theorem disable_is_final {store : Store} {now : Time} {config : Config Broker Goroutine}
    (reached : dataPlane.Run (Machine.AtStep Untangled) (dataPlaneStart store now) config)
    (clientID : String)
    (returned : ∃ handler ∈ config.threads, handler.inForce config.shared clientID .returned) :
    config.shared.connections.connectionsOf clientID = ∅ ∧
    config.shared.workers.workersOf clientID = [] ∧
    (∀ goroutine ∈ config.threads, goroutine.armed.map Prod.fst ≠ some clientID) ∧
    ∀ goroutine ∈ config.threads, ∀ client ∈ goroutine.record,
      client.id = clientID → client.disabled = true := by
  obtain ⟨handler, running, inForce⟩ := returned
  have closing := closing_of_untangled reached
  obtain ⟨-, none, empty, forgotten⟩ :=
    (closing.handlers handler running clientID _ .returned inForce).2 rfl
  exact ⟨none.inactive, empty, none.unarmed, forgotten.held⟩

/-- The administrator disables the office client: the handler arrives as goroutine `index` and runs
until it has drained the pool. -/
def disableMoves (index : ℕ) : List (Move Goroutine Choice) :=
  [.arrive (.update "client-1" "" (some true))] ++ List.replicate 4 (.run index .go)

/-- The rest of the handler, when no visitor is pending. -/
def returnMoves (index : ℕ) : List (Move Goroutine Choice) :=
  List.replicate 3 (.run index .go)

/-- A stream has read the enabled record; the handler increments the generation; the stream captures
the new generation; the handler clears the cache and returns; the stream claims the next visitor and
is registered.  The client is disabled and has an active channel. -/
theorem channel_survives_disable :
    ∃ config, dataPlane.Reachable (dataPlaneStart Auth.office 0) config ∧
      (∃ handler ∈ config.threads, handler.inForce config.shared "client-1" .returned) ∧
      config.shared.connections.connectionsOf "client-1" ≠ ∅ := by
  refine Machine.exists_run_of_replay
    (streamMoves 0 ++ disableMoves 1 ++ [.run 0 .go] ++ returnMoves 1 ++ visitorMoves 2 .wait ++
      loadMoves 0 ++ [.run 0 .go, .run 0 .go, .run 0 .go]) ?_
  decide +kernel

/-- The client is disabled while a visitor waits; a stream that comes afterwards finds the disabled
record. -/
theorem disable_is_final_office :
    ∃ config, dataPlane.Run (Machine.AtStep Untangled) (dataPlaneStart Auth.office 0) config ∧
      (∃ handler ∈ config.threads, handler.inForce config.shared "client-1" .returned) ∧
      config.shared.connections.connectionsOf "client-1" = ∅ ∧
      config.shared.workers.workersOf "client-1" = [] ∧
      (∀ goroutine ∈ config.threads, goroutine.armed.map Prod.fst ≠ some "client-1") ∧
      ∀ goroutine ∈ config.threads, ∀ client ∈ goroutine.record,
        client.id = "client-1" → client.disabled = true := by
  obtain ⟨config, reached, returned⟩ :
      ∃ config, dataPlane.Run (Machine.AtStep Untangled) (dataPlaneStart Auth.office 0) config ∧
        ∃ handler ∈ config.threads, handler.inForce config.shared "client-1" .returned := by
    refine Machine.exists_run_of_replay
      (disableMoves 0 ++ returnMoves 0 ++ visitorMoves 1 .wait ++ streamMoves 2) ?_
    decide +kernel
  exact ⟨config, reached, returned, disable_is_final reached "client-1" returned⟩

end NryNet.Relay
