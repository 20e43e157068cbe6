import NryNet.Control.ControlPlane

/-!
# A disabled client has no control session

`clientHandler.update` with `disabled = true` writes the row and then calls `Hub.Disconnect`.  A
handshake reads the row in `acceptHello` and becomes visible in `register`.  A handshake that has
read the enabled row and is not yet registered when `Hub.Disconnect` looks survives the update
(`session_survives_disable`).

If no `Hub.Disconnect` of a disabling handler finds a handshake of its client there, then the client
has no session once the handler has returned, until it is enabled again
(`disabled_client_has_no_session`).  The handler passes through three phases: its row is disabled;
no handshake has read the row while it was enabled; no session is left.
-/

namespace NryNet.Control

open ThreadPool

/-- How far a disabling handler has come. -/
inductive Phase where
  /-- the row is written -/
  | written
  /-- `Hub.Disconnect` has found a session -/
  | looked (conn : ℕ)
  /-- `Hub.Disconnect` has found none, or has unregistered what it found -/
  | ended
  deriving DecidableEq, Repr

namespace Goroutine

/-- A disabling handler: its client, how often the client had been enabled when its row was
written, and the phase. -/
def shutdown : Goroutine → Option (String × ℕ × Phase)
  | .disconnect clientID (.clientUpdate enabledAt) => some (clientID, enabledAt, .written)
  | .unregister conn clientID (.clientUpdate enabledAt) => some (clientID, enabledAt, .looked conn)
  | .markOffline clientID (.clientUpdate enabledAt) => some (clientID, enabledAt, .ended)
  | .setOffline clientID (.clientUpdate enabledAt) => some (clientID, enabledAt, .ended)
  | .clientUpdated clientID (some enabledAt) => some (clientID, enabledAt, .ended)
  | _ => none

/-- A disabling handler that has returned: its client, and how often the client had been enabled
when its row was written. -/
def disabled : Goroutine → Option (String × ℕ)
  | .clientUpdated clientID (some enabledAt) => some (clientID, enabledAt)
  | _ => none

/-- The client of a handshake that is between `acceptHello` and `register`. -/
def accepted : Goroutine → Option String
  | .register _ _ clientID => some clientID
  | _ => none

/-- A disabling handler that is about to look for a session. -/
def looking : Goroutine → Option (String × ℕ)
  | .disconnect clientID (.clientUpdate enabledAt) => some (clientID, enabledAt)
  | _ => none

end Goroutine

/-- When a disabling handler looks for a session of its client, and the client has not been enabled
again, no handshake of the client is between `acceptHello` and `register`. -/
def Unsplit (config : Config Hub Goroutine) (goroutine : Goroutine) : Prop :=
  ∀ looking ∈ goroutine.looking, looking.2 = config.shared.enables looking.1 →
    ∀ other ∈ config.threads, other.accepted ≠ some looking.1

instance (config : Config Hub Goroutine) (goroutine : Goroutine) :
    Decidable (Unsplit config goroutine) := by
  unfold Unsplit
  infer_instance

/-! ## What each phase guarantees -/

/-- The row of the client is disabled, and no other row will ever have its identifier. -/
structure RowDisabled (h : Hub) (clientID : String) : Prop where
  flag : ∀ client ∈ h.store.clients, client.id = clientID → client.disabled = true
  issued : clientID ∈ h.issued

/-- No handshake has read the row of the client while it was enabled, and is still to register. -/
def NoneAccepted (config : Config Hub Goroutine) (clientID : String) : Prop :=
  ∀ goroutine ∈ config.threads, goroutine.accepted ≠ some clientID

/-- What a handler in the given phase has achieved. -/
def Achieved (config : Config Hub Goroutine) (clientID : String) : Phase → Prop
  | .written => RowDisabled config.shared clientID
  | .looked conn => RowDisabled config.shared clientID ∧ NoneAccepted config clientID ∧
      ∀ other, config.shared.conns.lookup clientID = some other → other = conn
  | .ended => RowDisabled config.shared clientID ∧ NoneAccepted config clientID ∧
      config.shared.conns.lookup clientID = none

section Actions

variable {h h' : Hub} {goroutine goroutine' : Goroutine} {spawned : List Goroutine}
variable {clientID : String}

/-- Enabling is counted, and nothing else touches the counter. -/
theorem enables_le (action : Action h goroutine h' goroutine' spawned) (clientID : String) :
    h.enables clientID ≤ h'.enables clientID := by
  rcases action_records action with ⟨-, -, same⟩ | ⟨-, -, -, -, -, -, -, -, -, same⟩ |
    ⟨id, name, flag, -, -, -, same⟩ | ⟨-, -, -, -, same⟩
  · rw [same]
  · rw [same]
  · rw [same]
    exact Nat.le_add_right _ _
  · rw [same]

/-- Every row carries an identifier that was drawn. -/
theorem issued_of_action (action : Action h goroutine h' goroutine' spawned)
    (issued : ∀ client ∈ h.store.clients, client.id ∈ h.issued) :
    ∀ client ∈ h'.store.clients, client.id ∈ h'.issued := by
  intro client member
  rcases action_records action with ⟨same, ids, -⟩ |
    ⟨conn, tokenID, hello, id, -, -, -, inserted, ids, -⟩ | ⟨id, name, flag, -, written, ids, -⟩ |
    ⟨id, -, deleted, ids, -⟩
  · obtain ⟨old, present, access⟩ := same.exists_old member
    simp only [Client.access, Client.identity, Prod.mk.injEq] at access
    rw [ids, ← access.1.1]
    exact issued old present
  · rw [ids]
    obtain ⟨-, -, ⟨-, -, -, -, same⟩ | ⟨-, -, appended⟩⟩ := Store.insertClient_ok inserted
    · obtain ⟨old, present, access⟩ := same.exists_old member
      simp only [Client.access, Client.identity, Prod.mk.injEq] at access
      rw [← access.1.1]
      exact List.mem_cons_of_mem _ (issued old present)
    · rw [appended] at member
      rcases List.mem_append.mp member with old | new
      · exact List.mem_cons_of_mem _ (issued client old)
      · rw [List.mem_singleton.mp new]
        exact List.mem_cons_self
  · obtain ⟨old, present, identity⟩ :=
      (Store.setClientDisabled_identities written).1.exists_old member
    simp only [Client.identity, Prod.mk.injEq] at identity
    rw [ids, ← identity.1]
    exact issued old present
  · rw [ids]
    exact issued client (((Store.deleteToken_ok deleted).1 client).mp member).1

/-- A disabled row stays disabled unless the client is enabled. -/
theorem RowDisabled.action (row : RowDisabled h clientID)
    (action : Action h goroutine h' goroutine' spawned)
    (unchanged : h'.enables clientID = h.enables clientID) : RowDisabled h' clientID := by
  rcases action_records action with ⟨same, ids, -⟩ |
    ⟨conn, tokenID, hello, id, -, -, fresh, inserted, ids, -⟩ |
    ⟨id, name, flag, -, written, ids, counted⟩ | ⟨id, -, deleted, ids, -⟩
  · refine ⟨fun client member own => ?_, ids ▸ row.issued⟩
    obtain ⟨old, present, access⟩ := same.exists_old member
    simp only [Client.access, Client.identity, Prod.mk.injEq] at access
    rw [← access.2]
    exact row.flag old present (access.1.1.trans own)
  · refine ⟨fun client member own => ?_, ?_⟩
    · obtain ⟨-, -, ⟨-, -, -, -, same⟩ | ⟨-, -, appended⟩⟩ := Store.insertClient_ok inserted
      · obtain ⟨old, present, access⟩ := same.exists_old member
        simp only [Client.access, Client.identity, Prod.mk.injEq] at access
        rw [← access.2]
        exact row.flag old present (access.1.1.trans own)
      · rw [appended] at member
        rcases List.mem_append.mp member with old | new
        · exact row.flag client old own
        · -- The identifier of the new row is fresh, so it is not the client's.
          rw [List.mem_singleton.mp new] at own
          exact absurd row.issued (own ▸ fresh)
    · rw [ids]
      exact List.mem_cons_of_mem _ row.issued
  · refine ⟨fun client member own => ?_, ids ▸ row.issued⟩
    rcases Store.mem_setClientDisabled written member with ⟨hit, assigned⟩ | ⟨-, old⟩
    · rw [assigned]
      by_contra enabled
      have counts : h'.enables clientID = h.enables clientID + 1 := by
        rw [counted]
        simp [own.symm.trans hit, enabled]
      omega
    · exact row.flag client old own
  · refine ⟨fun client member own => ?_, ids ▸ row.issued⟩
    exact row.flag client (((Store.deleteToken_ok deleted).1 client).mp member).1 own

/-- Only a disabling handler is resumed as one. -/
theorem shutdown_resume {next : Return} {other : String} {enabledAt : ℕ} {phase : Phase}
    (shutdown : (next.resume other).shutdown = some (clientID, enabledAt, phase)) :
    next = .clientUpdate enabledAt ∧ other = clientID ∧ phase = .ended := by
  cases next with
  | clientUpdate at' =>
      cases shutdown
      exact ⟨rfl, rfl, rfl⟩
  | disconnectClients rest revocation =>
      cases rest <;> cases revocation <;> cases shutdown
  | _ => cases shutdown

/-- How a goroutine comes to be a disabling handler in some phase. -/
theorem action_phase (action : Action h goroutine h' goroutine' spawned) {other : Goroutine}
    (born : other = goroutine' ∨ other ∈ spawned) {enabledAt : ℕ} {phase : Phase}
    (shutdown : other.shutdown = some (clientID, enabledAt, phase)) :
    goroutine.shutdown = some (clientID, enabledAt, phase) ∨
    (phase = .written ∧ enabledAt = h.enables clientID ∧
      (∀ client ∈ h'.store.clients, client.id = clientID → client.disabled = true) ∧
      ∃ client ∈ h.store.clients, client.id = clientID) ∨
    (goroutine = .disconnect clientID (.clientUpdate enabledAt) ∧ h'.conns = h.conns ∧
      ((∃ conn, phase = .looked conn ∧ h.conns.lookup clientID = some conn) ∨
        (phase = .ended ∧ h.conns.lookup clientID = none))) ∨
    (∃ conn, goroutine = .unregister conn clientID (.clientUpdate enabledAt) ∧ phase = .ended ∧
      h'.conns.lookup clientID ≠ some conn) := by
  have unlooped (rest : List String) (revocation : Revocation) :
      (disconnectClients rest revocation).shutdown = none := by
    cases rest <;> cases revocation <;> rfl
  cases action with
  | @disable id name store written =>
      obtain rfl | impossible := born
      · cases shutdown
        refine Or.inr (Or.inl ⟨rfl, rfl, fun client member own => ?_,
          Store.exists_of_setClientDisabled written⟩)
        rcases Store.mem_setClientDisabled written member with ⟨-, flag⟩ | ⟨foreign, -⟩
        · exact flag
        · exact absurd own foreign
      · cases impossible
  | disconnect next current =>
      obtain rfl | impossible := born
      · cases next <;> cases shutdown
        exact Or.inr (Or.inr (Or.inl ⟨rfl, rfl, Or.inl ⟨_, rfl, current⟩⟩))
      · cases impossible
  | disconnected next missing =>
      obtain rfl | impossible := born
      · obtain ⟨rfl, rfl, rfl⟩ := shutdown_resume shutdown
        exact Or.inr (Or.inr (Or.inl ⟨rfl, rfl, Or.inr ⟨rfl, missing⟩⟩))
      · cases impossible
  | @unregister conn client next current =>
      obtain rfl | impossible := born
      · cases next <;> cases shutdown
        refine Or.inr (Or.inr (Or.inr ⟨conn, rfl, rfl, ?_⟩))
        rw [Hub.conns_unregister, if_pos ⟨rfl, current⟩]
        exact fun impossible => (nomatch impossible)
      · cases impossible
  | unregistered next stale =>
      obtain rfl | impossible := born
      · obtain ⟨rfl, rfl, rfl⟩ := shutdown_resume shutdown
        exact Or.inr (Or.inr (Or.inr ⟨_, rfl, rfl, stale⟩))
      · cases impossible
  | reconnected next free connected =>
      obtain rfl | impossible := born
      · obtain ⟨rfl, rfl, rfl⟩ := shutdown_resume shutdown
        exact Or.inl rfl
      · cases impossible
  | markOffline next free disconnected =>
      obtain rfl | impossible := born
      · cases next <;> exact Or.inl shutdown
      · cases impossible
  | setOffline client next =>
      obtain rfl | impossible := born
      · obtain ⟨rfl, rfl, rfl⟩ := shutdown_resume shutdown
        exact Or.inl rfl
      · cases impossible
  | listClients id =>
      obtain rfl | impossible := born
      · rw [unlooped] at shutdown
        cases shutdown
      · cases impossible
  | disableToken written =>
      obtain rfl | impossible := born
      · rw [unlooped] at shutdown
        cases shutdown
      · cases impossible
  | register conn tokenID client =>
      obtain rfl | spawnedHere := born
      · cases shutdown
      · rw [List.mem_singleton.mp spawnedHere] at shutdown
        cases shutdown
  | _ =>
      obtain rfl | impossible := born
      · cases shutdown
      · cases impossible

end Actions

section Steps

variable {config : Config Hub Goroutine} {index : ℕ} {goroutine goroutine' : Goroutine}
variable {h' : Hub} {spawned : List Goroutine} {clientID : String}

/-- While the row is disabled no further handshake is accepted. -/
theorem NoneAccepted.step (none : NoneAccepted config clientID)
    (row : RowDisabled config.shared clientID)
    (action : Action config.shared goroutine h' goroutine' spawned) :
    NoneAccepted { shared := h', threads := config.threads.set index goroutine' ++ spawned }
      clientID := by
  have unborn : ∀ fresh, (fresh = goroutine' ∨ fresh ∈ spawned) →
      fresh.accepted ≠ some clientID := by
    intro fresh isFresh accepted
    cases fresh with
    | register conn tokenID client =>
        obtain rfl : client = clientID := Option.some.inj accepted
        rcases action_handshake action isFresh rfl with ⟨_, _, -, impossible, -⟩ |
          ⟨_, -, impossible, -⟩ | ⟨_, _, _, _, -, impossible, -⟩ |
          ⟨_, _, record, -, same, member, enabled, -⟩
        · cases impossible
        · cases impossible
        · cases impossible
        · have disabled := row.flag record member (by cases same; rfl)
          rw [enabled] at disabled
          cases disabled
    | _ => cases accepted
  intro other located
  rcases Machine.mem_threads_of_step located with rfl | fresh | old
  · exact unborn _ (Or.inl rfl)
  · exact unborn _ (Or.inr fresh)
  · exact none other old

/-- While no handshake of the client is accepted, the client gets no new session. -/
theorem NoneAccepted.conns (none : NoneAccepted config clientID)
    (member : goroutine ∈ config.threads)
    (action : Action config.shared goroutine h' goroutine' spawned) {conn : ℕ}
    (current : h'.conns.lookup clientID = some conn) :
    config.shared.conns.lookup clientID = some conn := by
  rcases action_conns action with same | ⟨other, tokenID, client, rfl, rfl⟩ |
    ⟨other, client, next, rfl, -, -, rfl⟩
  · rw [← same]
    exact current
  · have foreign : clientID ≠ client := by
      rintro rfl
      exact none _ member rfl
    rw [Hub.conns_register, if_neg foreign] at current
    exact current
  · rw [Hub.conns_unregister] at current
    split at current
    · cases current
    · exact current

/-- What a handler has achieved, no later action undoes. -/
theorem Achieved.step (present : config.threads[index]? = some goroutine)
    (action : Action config.shared goroutine h' goroutine' spawned)
    (unchanged : h'.enables clientID = config.shared.enables clientID) {phase : Phase}
    (achieved : Achieved config clientID phase) :
    Achieved { shared := h', threads := config.threads.set index goroutine' ++ spawned }
      clientID phase := by
  have member : goroutine ∈ config.threads := List.mem_of_getElem? present
  cases phase with
  | written => exact RowDisabled.action achieved action unchanged
  | looked conn =>
      obtain ⟨row, none, only⟩ := achieved
      refine ⟨row.action action unchanged, none.step row action, fun other current => ?_⟩
      exact only other (none.conns member action current)
  | ended =>
      obtain ⟨row, none, gone⟩ := achieved
      refine ⟨row.action action unchanged, none.step row action, ?_⟩
      cases current : h'.conns.lookup clientID with
      | none => rfl
      | some conn =>
          have before := none.conns member action current
          rw [gone] at before
          cases before

end Steps

/-! ## Every run -/

/-- Every row carries an identifier that was drawn, and every disabling handler whose client has not
been enabled again has achieved what its phase promises. -/
structure Closing (config : Config Hub Goroutine) : Prop where
  issued : ∀ client ∈ config.shared.store.clients, client.id ∈ config.shared.issued
  handlers : ∀ handler ∈ config.threads, ∀ clientID enabledAt phase,
    handler.shutdown = some (clientID, enabledAt, phase) →
      enabledAt ≤ config.shared.enables clientID ∧
        (enabledAt = config.shared.enables clientID → Achieved config clientID phase)

/-- Goroutines arrive in the middle of nothing. -/
theorem Goroutine.arrives_idle {goroutine : Goroutine} (arrives : goroutine.arrives = true) :
    goroutine.shutdown = none ∧ goroutine.accepted = none := by
  cases goroutine with
  | disconnect clientID next => cases next <;> first | exact ⟨rfl, rfl⟩ | cases arrives
  | _ => first | exact ⟨rfl, rfl⟩ | cases arrives

theorem Achieved.arrive {config : Config Hub Goroutine} {goroutine : Goroutine}
    (arrives : goroutine.arrives = true) {clientID : String} {phase : Phase}
    (achieved : Achieved config clientID phase) :
    Achieved { config with threads := config.threads ++ [goroutine] } clientID phase := by
  have none : NoneAccepted config clientID →
      NoneAccepted { config with threads := config.threads ++ [goroutine] } clientID := by
    intro none other located
    rcases List.mem_append.mp located with old | new
    · exact none other old
    · rw [List.mem_singleton.mp new, (Goroutine.arrives_idle arrives).2]
      exact fun impossible => (nomatch impossible)
  cases phase with
  | written => exact achieved
  | looked conn => exact ⟨achieved.1, none achieved.2.1, achieved.2.2⟩
  | ended => exact ⟨achieved.1, none achieved.2.1, achieved.2.2⟩

/-- A step of a run in which no disabling handler overlooks a handshake. -/
theorem Closing.step {config : Config Hub Goroutine} {index : ℕ}
    {goroutine goroutine' : Goroutine} {h' : Hub} {spawned : List Goroutine}
    (closing : Closing config) (present : config.threads[index]? = some goroutine)
    (unsplit : Unsplit config goroutine)
    (action : Action config.shared goroutine h' goroutine' spawned) :
    Closing { shared := h', threads := config.threads.set index goroutine' ++ spawned } := by
  have member : goroutine ∈ config.threads := List.mem_of_getElem? present
  refine ⟨issued_of_action action closing.issued, ?_⟩
  intro handler located clientID enabledAt phase shutdown
  have counted := enables_le action clientID
  have kept : ∀ old ∈ config.threads, ∀ reached,
      old.shutdown = some (clientID, enabledAt, reached) →
      enabledAt ≤ h'.enables clientID ∧ (enabledAt = h'.enables clientID →
        enabledAt = config.shared.enables clientID ∧
        Achieved { shared := h', threads := config.threads.set index goroutine' ++ spawned }
          clientID reached) := by
    intro old running reached shutdown'
    obtain ⟨bound, achieved⟩ := closing.handlers old running clientID enabledAt reached shutdown'
    refine ⟨le_trans bound counted, fun latest => ?_⟩
    have same : enabledAt = config.shared.enables clientID :=
      le_antisymm bound (latest ▸ counted)
    exact ⟨same, (achieved same).step present action (latest.symm.trans same)⟩
  have born : ∀ fresh, (fresh = goroutine' ∨ fresh ∈ spawned) →
      fresh.shutdown = some (clientID, enabledAt, phase) →
      enabledAt ≤ h'.enables clientID ∧ (enabledAt = h'.enables clientID →
        Achieved { shared := h', threads := config.threads.set index goroutine' ++ spawned }
          clientID phase) := by
    intro fresh isFresh shutdown'
    rcases action_phase action isFresh shutdown' with
      same | ⟨rfl, rfl, flag, client, row, own⟩ | ⟨rfl, sessions, outcome⟩ |
        ⟨conn, rfl, rfl, gone⟩
    · obtain ⟨bound, achieved⟩ := kept goroutine member phase same
      exact ⟨bound, fun latest => (achieved latest).2⟩
    · refine ⟨counted, fun _ => ⟨flag, ?_⟩⟩
      have drawn : clientID ∈ config.shared.issued := own ▸ closing.issued client row
      rcases action_records action with ⟨-, ids, -⟩ | ⟨_, _, _, id, -, -, -, -, ids, -⟩ |
        ⟨_, _, _, -, -, ids, -⟩ | ⟨_, -, -, ids, -⟩
      · exact ids ▸ drawn
      · exact ids ▸ List.mem_cons_of_mem _ drawn
      · exact ids ▸ drawn
      · exact ids ▸ drawn
    · -- The look.  Nobody of the client is on the way to `register`, and nobody will be.
      obtain ⟨bound, achieved⟩ := kept _ member .written rfl
      refine ⟨bound, fun latest => ?_⟩
      obtain ⟨same, row⟩ := achieved latest
      have rowBefore : RowDisabled config.shared clientID :=
        (closing.handlers _ member clientID enabledAt .written rfl).2 same
      have none : NoneAccepted config clientID := unsplit (clientID, enabledAt) rfl same
      rcases outcome with ⟨conn, rfl, current⟩ | ⟨rfl, missing⟩
      · refine ⟨row, none.step rowBefore action, fun other found => ?_⟩
        rw [sessions, current] at found
        exact (Option.some.inj found).symm
      · refine ⟨row, none.step rowBefore action, ?_⟩
        rw [← missing]
        exact congrArg (fun conns : GoMap String ℕ => conns.lookup clientID) sessions
    · obtain ⟨bound, achieved⟩ := kept _ member (.looked conn) rfl
      refine ⟨bound, fun latest => ?_⟩
      obtain ⟨-, row, none, only⟩ := achieved latest
      refine ⟨row, none, ?_⟩
      cases current : h'.conns.lookup clientID with
      | none => rfl
      | some other => exact absurd (only other current ▸ current) gone
  rcases Machine.mem_threads_of_step located with rfl | fresh | old
  · exact born _ (Or.inl rfl) shutdown
  · exact born _ (Or.inr fresh) shutdown
  · obtain ⟨bound, achieved⟩ := kept handler old phase shutdown
    exact ⟨bound, fun latest => (achieved latest).2⟩

theorem closing_of_unsplit {store : Store} {now : Time} {config : Config Hub Goroutine}
    (reached : controlPlane.Run (Machine.AtStep Unsplit) (controlPlaneStart store now) config) :
    Closing config := by
  refine reached.step_invariant Closing ?_ ?_ ?_
  · exact ⟨fun client member => List.mem_map_of_mem member, fun _ member => (nomatch member)⟩
  · intro config goroutine closing arrives
    refine ⟨closing.issued, fun handler located clientID enabledAt phase shutdown => ?_⟩
    rcases List.mem_append.mp located with old | new
    · obtain ⟨bound, achieved⟩ := closing.handlers handler old clientID enabledAt phase shutdown
      exact ⟨bound, fun latest => (achieved latest).arrive arrives⟩
    · rw [List.mem_singleton.mp new, (Goroutine.arrives_idle arrives).1] at shutdown
      cases shutdown
  · intro config index choice goroutine h' goroutine' spawned closing present unsplit stepped
    exact closing.step present unsplit (Hub.action_of_step stepped)

/-- **A disabled client has no control session.**  In every run in which no disabling handler looks
for a session while a handshake of its client is between `acceptHello` and `register`: once
`clientHandler.update` with `disabled = true` has returned, and until the client is enabled again,
the hub has no session for the client, and no handshake of the client gets past `acceptHello`. -/
theorem disabled_client_has_no_session {store : Store} {now : Time} {config : Config Hub Goroutine}
    (reached : controlPlane.Run (Machine.AtStep Unsplit) (controlPlaneStart store now) config)
    (clientID : String)
    (returned : ∃ handler ∈ config.threads,
      handler.disabled = some (clientID, config.shared.enables clientID)) :
    config.shared.conns.lookup clientID = none ∧
      ∀ goroutine ∈ config.threads, goroutine.accepted ≠ some clientID := by
  obtain ⟨handler, running, disabled⟩ := returned
  have shutdown : handler.shutdown =
      some (clientID, config.shared.enables clientID, .ended) := by
    cases handler with
    | clientUpdated id enabledAt =>
        cases enabledAt <;> cases disabled
        rfl
    | _ => cases disabled
  obtain ⟨-, none, gone⟩ :=
    ((closing_of_unsplit reached).handlers handler running clientID _ .ended shutdown).2 rfl
  exact ⟨gone, none⟩

/-- The hello of the office client. -/
def officeHello : ClientHello := ⟨"gateway", "device-1", "192.0.2.1", "linux", "1.0"⟩

/-- A handshake of the office client arrives as goroutine `index` and goes on until it is about to
register. -/
def handshakeMoves (index : ℕ) (id : String) : List (Move Goroutine Choice) :=
  [.arrive (.authenticate Auth.officeToken), .run index .go, .run index .go,
    .run index (.hello officeHello id), .run index .go]

/-- The administrator disables the office client: the handler arrives as goroutine `index` and has
written the row. -/
def disableMoves (index : ℕ) : List (Move Goroutine Choice) :=
  [.arrive (.clientUpdate "client-1" "" (some true)), .run index .go, .run index .go]

/-- A handshake has read the enabled row; the client is disabled, `Hub.Disconnect` finds no session
and the handler returns; the handshake registers.  The client is disabled, has a session, and no
handshake is under way. -/
theorem session_survives_disable :
    ∃ config, controlPlane.Reachable (controlPlaneStart Auth.office 0) config ∧
      (∃ handler ∈ config.threads,
        handler.disabled = some ("client-1", config.shared.enables "client-1")) ∧
      (∀ goroutine ∈ config.threads, goroutine.accepted = none) ∧
      config.shared.conns.lookup "client-1" = some 0 := by
  refine Machine.exists_run_of_replay
    (handshakeMoves 0 "client-2" ++ disableMoves 1 ++ [.run 1 .go, .run 0 .go]) ?_
  decide +kernel

/-- The client has a session when it is disabled, and comes back afterwards: the session is closed
and the second handshake is turned away. -/
theorem disabled_office_has_no_session :
    ∃ config, controlPlane.Run (Machine.AtStep Unsplit) (controlPlaneStart Auth.office 0) config ∧
      config.shared.closed = [0] ∧
      (∃ handler ∈ config.threads,
        handler.disabled = some ("client-1", config.shared.enables "client-1")) ∧
      config.shared.conns.lookup "client-1" = none ∧
      ∀ goroutine ∈ config.threads, goroutine.accepted ≠ some "client-1" := by
  obtain ⟨config, reached, closed, returned⟩ :
      ∃ config,
        controlPlane.Run (Machine.AtStep Unsplit) (controlPlaneStart Auth.office 0) config ∧
          config.shared.closed = [0] ∧
          ∃ handler ∈ config.threads,
            handler.disabled = some ("client-1", config.shared.enables "client-1") := by
    refine Machine.exists_run_of_replay
      (handshakeMoves 0 "client-2" ++ [.run 0 .go] ++ disableMoves 2 ++
        List.replicate 4 (.run 2 .go) ++ handshakeMoves 3 "client-3") ?_
    decide +kernel
  exact ⟨config, reached, closed, returned,
    disabled_client_has_no_session reached "client-1" returned⟩

end NryNet.Control
