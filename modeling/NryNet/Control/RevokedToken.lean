import NryNet.Control.ControlPlane

/-!
# Revoking a token

`tokenHandler.update` with `disabled = true` disables the token, lists its clients and disconnects
them one by one; `tokenHandler.delete` lists first.  A handshake is checked against the token once,
when it starts, and is visible to the handler only as a client row and as a registered session.  So
a handshake that was authenticated before the token was disabled may enrol a device after the list
was taken, or register after the handler has looked for its session
(`session_survives_revocation`).

If handshakes of the token do neither, then no session of the token is left when the handler has
returned (`revoked_token_has_no_session`).  The proof keeps, for every handler, the list of clients
it has not looked for yet: only these may have sessions of the token.  Deleting the token drops the
clients' rows, so the same invariant says that a session's client always has its row, and that the
row belongs to the session's token.
-/

namespace NryNet.Control

open ThreadPool

namespace Handshake

/-- The token of a handshake that has not said hello. -/
def silent : Handshake → Option String
  | .touch tokenID => some tokenID
  | .hello _ tokenID => some tokenID
  | _ => none

/-- The handshake was authenticated with the token, has said hello and will register as the
client. -/
def headed (h : Hub) (tokenID clientID : String) : Handshake → Bool
  | .readBack _ token deviceID => token = tokenID ∧
      h.store.clients.any fun client => client.deviceID = deviceID ∧ client.id = clientID
  | .register _ token client => token = tokenID ∧ client = clientID
  | _ => false

/-- The transport of the handshake was opened for its token, and the row it has upserted is there
and belongs to the token. -/
def Bound (h : Hub) : Handshake → Prop
  | .touch _ => True
  | .hello conn tokenID => h.transports[conn]? = some tokenID
  | .readBack conn tokenID deviceID => h.transports[conn]? = some tokenID ∧
      ∃ client ∈ h.store.clients, client.deviceID = deviceID ∧ client.tokenID = tokenID
  | .register conn tokenID clientID => h.transports[conn]? = some tokenID ∧
      ∃ client ∈ h.store.clients, client.id = clientID ∧ client.tokenID = tokenID

end Handshake

namespace Goroutine

/-- The token of a handshake that is authenticated and has not said hello. -/
def authenticated (goroutine : Goroutine) : Option String :=
  goroutine.handshake.bind Handshake.silent

/-- The goroutine is in a handshake of the token that will register as the client. -/
def headed (h : Hub) (tokenID clientID : String) (goroutine : Goroutine) : Bool :=
  goroutine.handshake.any (Handshake.headed h tokenID clientID)

/-- A handler that has disabled a token and listed its clients: the token, the clients it has not
looked for, and the session it is about to unregister. -/
def revoking : Goroutine → Option (String × List String × Option (ℕ × String))
  | .disconnect clientID (.disconnectClients rest revocation) =>
      some (revocation.tokenID, clientID :: rest, none)
  | .unregister conn clientID (.disconnectClients rest revocation) =>
      some (revocation.tokenID, rest, some (conn, clientID))
  | .markOffline _ (.disconnectClients rest revocation) => some (revocation.tokenID, rest, none)
  | .setOffline _ (.disconnectClients rest revocation) => some (revocation.tokenID, rest, none)
  | .stopTunnels tokenID _ _ => some (tokenID, [], none)
  | .tokenRevoked tokenID => some (tokenID, [], none)
  | _ => none

/-- The token of a handler that has its list of clients. -/
def listed : Goroutine → Option String
  | .disableToken tokenID _ => some tokenID
  | goroutine => goroutine.revoking.map Prod.fst

/-- A token handler that is about to look for a session: the token and the client. -/
def seeking : Goroutine → Option (String × String)
  | .disconnect clientID (.disconnectClients _ revocation) => some (revocation.tokenID, clientID)
  | _ => none

/-- The goroutine is about to enable a token. -/
def restores : Goroutine → Bool
  | .tokenUpdate _ disabled => !disabled
  | _ => false

/-- The token of a handler that has revoked it and returned. -/
def revoked : Goroutine → Option String
  | .tokenRevoked tokenID => some tokenID
  | _ => none

end Goroutine

/-- The device that a handshake enrols, with the token it was authenticated with. -/
def enrols : Goroutine → Choice → Option (String × String)
  | .hello _ tokenID, .hello hello _ => some (tokenID, hello.deviceID)
  | _, _ => none

/-- Handshakes keep out of the way of revocations:
* no token is enabled;
* once a handler has its list, no handshake of its token enrols a device that has no row yet;
* when a handler looks for the session of a client, no handshake of its token is still to say hello,
  and none that has said it is headed for the client. -/
structure Ordered (config : Config Hub Goroutine) (goroutine : Goroutine) (choice : Choice) :
    Prop where
  restores : goroutine.restores = false
  enrols : ∀ device ∈ enrols goroutine choice,
    (∃ client ∈ config.shared.store.clients, client.deviceID = device.2) ∨
      ∀ handler ∈ config.threads, handler.listed ≠ some device.1
  seeks : ∀ session ∈ goroutine.seeking, ∀ other ∈ config.threads,
    other.authenticated ≠ some session.1 ∧ other.headed config.shared session.1 session.2 = false

instance (config : Config Hub Goroutine) (goroutine : Goroutine) (choice : Choice) :
    Decidable (Ordered config goroutine choice) :=
  decidable_of_iff
    (goroutine.restores = false ∧
      (∀ device ∈ enrols goroutine choice,
        (∃ client ∈ config.shared.store.clients, client.deviceID = device.2) ∨
          ∀ handler ∈ config.threads, handler.listed ≠ some device.1) ∧
      ∀ session ∈ goroutine.seeking, ∀ other ∈ config.threads,
        other.authenticated ≠ some session.1 ∧
          other.headed config.shared session.1 session.2 = false)
    ⟨fun ⟨restores, enrols, seeks⟩ => ⟨restores, enrols, seeks⟩,
      fun ⟨restores, enrols, seeks⟩ => ⟨restores, enrols, seeks⟩⟩

/-- A condition on the steps of a run, with what the environment decides. -/
def OrderedMoves (config : Config Hub Goroutine) : Move Goroutine Choice → Prop
  | .arrive _ => True
  | .run index choice => ∀ goroutine ∈ config.threads[index]?, Ordered config goroutine choice

instance (config : Config Hub Goroutine) (move : Move Goroutine Choice) :
    Decidable (OrderedMoves config move) := by
  unfold OrderedMoves
  split <;> infer_instance

/-! ## What an action does to handshakes and handlers -/

section Actions

variable {h h' : Hub} {goroutine goroutine' : Goroutine} {spawned : List Goroutine}
variable {tokenID clientID : String}

/-- `disconnectClients` is the handler with its whole list to go. -/
@[simp] theorem revoking_disconnectClients (rest : List String) (revocation : Revocation) :
    (disconnectClients rest revocation).revoking = some (revocation.tokenID, rest, none) := by
  cases rest <;> cases revocation <;> rfl

/-- Whoever resumes as a handler was one. -/
theorem revoking_resume {next : Return} {other : String} {todo : List String}
    {session : Option (ℕ × String)}
    (revoking : (next.resume other).revoking = some (tokenID, todo, session)) :
    ∃ revocation, next = .disconnectClients todo revocation ∧ revocation.tokenID = tokenID ∧
      session = none := by
  cases next with
  | disconnectClients rest revocation =>
      simp only [Return.resume, revoking_disconnectClients, Option.some.injEq,
        Prod.mk.injEq] at revoking
      obtain ⟨rfl, rfl, rfl⟩ := revoking
      exact ⟨revocation, rfl, rfl, rfl⟩
  | _ => cases revoking

/-- A token is enabled only by an administrator. -/
theorem action_tokens (action : Action h goroutine h' goroutine' spawned)
    (restores : goroutine.restores = false) {row' : TokenRow} (member : row' ∈ h'.store.tokens) :
    ∃ row ∈ h.store.tokens, row.id = row'.id ∧
      (row.disabled = row'.disabled ∨ row'.disabled = true) := by
  have kept (same : h'.store.tokens = h.store.tokens) : ∃ row ∈ h.store.tokens,
      row.id = row'.id ∧ (row.disabled = row'.disabled ∨ row'.disabled = true) :=
    ⟨row', same ▸ member, rfl, Or.inl rfl⟩
  have status (clientID : String) (status : ClientStatus) :
      (h.setStatus clientID status).store.tokens = h.store.tokens := by
    unfold Hub.setStatus
    split
    · rfl
    · rename_i written
      exact (Store.setClientStatus_access written).2
  have flagged {id : String} {store : Store}
      (written : h.store.setTokenDisabled id true = .ok store) (member : row' ∈ store.tokens) :
      ∃ row ∈ h.store.tokens, row.id = row'.id ∧
        (row.disabled = row'.disabled ∨ row'.disabled = true) := by
    obtain ⟨⟨row, present, same⟩, -, assigned⟩ := Store.setTokenDisabled_ok written
    rcases assigned row' member with ⟨hit, flag⟩ | ⟨-, old⟩
    · exact ⟨row, present, same.trans hit.symm, Or.inr flag⟩
    · exact ⟨row', old, rfl, Or.inl rfl⟩
  cases action with
  | touch token time =>
      obtain ⟨row, present, same, flag⟩ := Store.mem_touchToken member
      exact ⟨row, present, same, Or.inl flag⟩
  | hello fresh accepted =>
      obtain ⟨-, store, inserted, rfl⟩ := Hub.acceptHello_ok accepted
      exact kept (Store.insertClient_ok inserted).2.1
  | refuse conn client => exact kept (status client .offline)
  | setOnline conn client => exact kept (status client .online)
  | setOffline client next => exact kept (status client .offline)
  | unregister next current => exact kept (congrArg Store.tokens Hub.unregister_records.store)
  | forgetQueue conn client => exact kept (congrArg Store.tokens Hub.forgetQueue_records.store)
  | disable written => exact kept (Store.setClientDisabled_identities written).2
  | enable written => exact kept (Store.setClientDisabled_identities written).2
  | revoke written => exact flagged written member
  | disableToken written => exact flagged written member
  | restore written => cases restores
  | stopTunnel written => exact kept (Store.setTunnelStatus_clients written).2
  | deleteToken written =>
      exact ⟨row', (((Store.deleteToken_ok written).2 row').mp member).1, rfl, Or.inl rfl⟩
  | _ => exact kept rfl

/-- A handshake is authenticated because it was, or because its token was enabled just now. -/
theorem action_authenticated (action : Action h goroutine h' goroutine' spawned)
    {other : Goroutine} (born : other = goroutine' ∨ other ∈ spawned)
    (authenticated : other.authenticated = some tokenID) :
    goroutine.authenticated = some tokenID ∨
      ∃ row ∈ h.store.tokens, row.id = tokenID ∧ row.disabled = false := by
  obtain ⟨stage, standing, silent⟩ := Option.bind_eq_some_iff.mp authenticated
  rcases action_handshake action born standing with
    ⟨value, row, rfl, rfl, member, enabled, -⟩ | ⟨token, rfl, rfl, -⟩ |
    ⟨conn, token, hello, id, rfl, rfl, -⟩ | ⟨conn, token, client, rfl, rfl, -⟩
  · exact Or.inr ⟨row, member, Option.some.inj silent, enabled⟩
  · exact Or.inl silent
  · cases silent
  · cases silent

/-- A row of a client stays as long as its token does. -/
theorem action_row_kept (action : Action h goroutine h' goroutine' spawned) {client : Client}
    (member : client ∈ h.store.clients) :
    (∃ client' ∈ h'.store.clients, client'.identity = client.identity) ∨
      goroutine = .stopTunnels client.tokenID [] [] := by
  rcases action_records action with ⟨same, -, -⟩ |
    ⟨conn, token, hello, id, -, -, -, inserted, -, -⟩ | ⟨id, name, flag, -, written, -, -⟩ |
    ⟨id, rfl, deleted, -, -⟩
  · exact Or.inl (same.identities.symm.exists_old member)
  · obtain ⟨-, -, ⟨-, -, -, -, same⟩ | ⟨-, -, appended⟩⟩ := Store.insertClient_ok inserted
    · exact Or.inl (same.identities.symm.exists_old member)
    · refine Or.inl ⟨client, ?_, rfl⟩
      rw [appended]
      exact List.mem_append_left _ member
  · exact Or.inl ((Store.setClientDisabled_identities written).1.symm.exists_old member)
  · by_cases own : client.tokenID = id
    · exact Or.inr (by rw [own])
    · exact Or.inl ⟨client, ((Store.deleteToken_ok deleted).1 client).mpr ⟨member, own⟩, rfl⟩

/-- A row of a client was there before, or has just been inserted for a device that had none. -/
theorem action_row_origin (action : Action h goroutine h' goroutine' spawned) {client : Client}
    (member : client ∈ h'.store.clients) :
    (∃ old ∈ h.store.clients, old.identity = client.identity) ∨
    (∃ conn, goroutine = .hello conn client.tokenID ∧
      goroutine' = .readBack conn client.tokenID client.deviceID ∧
      ∀ old ∈ h.store.clients, old.deviceID ≠ client.deviceID) := by
  rcases action_records action with ⟨same, -, -⟩ |
    ⟨conn, token, hello, id, rfl, rfl, -, inserted, -, -⟩ | ⟨id, name, flag, -, written, -, -⟩ |
    ⟨id, -, deleted, -, -⟩
  · exact Or.inl (same.identities.exists_old member)
  · obtain ⟨-, -, ⟨-, -, -, -, same⟩ | ⟨none, -, appended⟩⟩ := Store.insertClient_ok inserted
    · exact Or.inl (same.identities.exists_old member)
    · rw [appended] at member
      rcases List.mem_append.mp member with old | new
      · exact Or.inl ⟨client, old, rfl⟩
      · rw [List.mem_singleton.mp new]
        exact Or.inr ⟨conn, rfl, rfl, none⟩
  · exact Or.inl ((Store.setClientDisabled_identities written).1.exists_old member)
  · exact Or.inl ⟨client, (((Store.deleteToken_ok deleted).1 client).mp member).1, rfl⟩

/-- How a goroutine comes to be a handler with some clients to go. -/
theorem action_revoking (action : Action h goroutine h' goroutine' spawned) {other : Goroutine}
    (born : other = goroutine' ∨ other ∈ spawned) {todo : List String}
    {session : Option (ℕ × String)}
    (revoking : other.revoking = some (tokenID, todo, session)) :
    goroutine.revoking = some (tokenID, todo, session) ∨
    (goroutine = .listClients tokenID ∧ todo = h.clientsUsingToken tokenID ∧ session = none ∧
      h' = h) ∨
    (goroutine = .disableToken tokenID todo ∧ session = none ∧
      h.store.setTokenDisabled tokenID true = .ok h'.store ∧
      h' = { h with store := h'.store }) ∨
    (∃ clientID, goroutine.seeking = some (tokenID, clientID) ∧
      goroutine.revoking = some (tokenID, clientID :: todo, none) ∧ h'.store = h.store ∧
      h'.transports = h.transports ∧ h'.conns = h.conns ∧
      session = (h.conns.lookup clientID).map fun conn => (conn, clientID)) ∨
    (∃ conn clientID, goroutine.revoking = some (tokenID, todo, some (conn, clientID)) ∧
      session = none ∧ h'.conns.lookup clientID ≠ some conn) := by
  cases action with
  | listClients id =>
      obtain rfl | impossible := born
      · rw [revoking_disconnectClients, Option.some.injEq, Prod.mk.injEq, Prod.mk.injEq] at revoking
        obtain ⟨rfl, rfl, rfl⟩ := revoking
        exact Or.inr (Or.inl ⟨rfl, rfl, rfl, rfl⟩)
      · cases impossible
  | disableToken written =>
      obtain rfl | impossible := born
      · rw [revoking_disconnectClients, Option.some.injEq, Prod.mk.injEq, Prod.mk.injEq] at revoking
        obtain ⟨rfl, rfl, rfl⟩ := revoking
        exact Or.inr (Or.inr (Or.inl ⟨rfl, rfl, written, rfl⟩))
      · cases impossible
  | @disconnect conn clientID next current =>
      obtain rfl | impossible := born
      · cases next <;> cases revoking
        refine Or.inr (Or.inr (Or.inr (Or.inl ⟨clientID, rfl, rfl, rfl, rfl, rfl, ?_⟩)))
        rw [current]
        rfl
      · cases impossible
  | @disconnected clientID next missing =>
      obtain rfl | impossible := born
      · obtain ⟨revocation, rfl, rfl, rfl⟩ := revoking_resume revoking
        refine Or.inr (Or.inr (Or.inr (Or.inl ⟨clientID, rfl, rfl, rfl, rfl, rfl, ?_⟩)))
        rw [missing]
        rfl
      · cases impossible
  | @unregister conn clientID next current =>
      obtain rfl | impossible := born
      · cases next <;> cases revoking
        refine Or.inr (Or.inr (Or.inr (Or.inr ⟨conn, clientID, rfl, rfl, ?_⟩)))
        rw [Hub.conns_unregister, if_pos ⟨rfl, current⟩]
        exact fun impossible => (nomatch impossible)
      · cases impossible
  | @unregistered conn clientID next stale =>
      obtain rfl | impossible := born
      · obtain ⟨revocation, rfl, rfl, rfl⟩ := revoking_resume revoking
        exact Or.inr (Or.inr (Or.inr (Or.inr ⟨conn, clientID, rfl, rfl, stale⟩)))
      · cases impossible
  | reconnected next free connected =>
      obtain rfl | impossible := born
      · obtain ⟨revocation, rfl, rfl, rfl⟩ := revoking_resume revoking
        exact Or.inl rfl
      · cases impossible
  | markOffline next free disconnected =>
      obtain rfl | impossible := born
      · cases next <;> exact Or.inl revoking
      · cases impossible
  | setOffline clientID next =>
      obtain rfl | impossible := born
      · obtain ⟨revocation, rfl, rfl, rfl⟩ := revoking_resume revoking
        exact Or.inl rfl
      · cases impossible
  | stopTunnel written =>
      obtain rfl | impossible := born
      · exact Or.inl revoking
      · cases impossible
  | nextTunnels id clientID tunnels clients =>
      obtain rfl | impossible := born
      · exact Or.inl revoking
      · cases impossible
  | deleteToken written =>
      obtain rfl | impossible := born
      · exact Or.inl revoking
      · cases impossible
  | register conn token client =>
      obtain rfl | spawnedHere := born
      · cases revoking
      · rw [List.mem_singleton.mp spawnedHere] at revoking
        cases revoking
  | _ =>
      obtain rfl | impossible := born
      · cases revoking
      · cases impossible

end Actions

/-! ## The invariant -/

/-- What a handler has achieved that has disabled the token and has the clients in `todo` to go: the
token stays disabled; the clients that are to go are all the clients of the token, or no handshake of
the token is still to say hello; and only the clients to go have, or will have, sessions of the
token, except for the session that is being unregistered. -/
structure Revoked (config : Config Hub Goroutine) (tokenID : String) (todo : List String)
    (session : Option (ℕ × String)) : Prop where
  closed : ∀ row ∈ config.shared.store.tokens, row.id = tokenID → row.disabled = true
  listed : (∀ client ∈ config.shared.store.clients, client.tokenID = tokenID → client.id ∈ todo) ∨
    ∀ goroutine ∈ config.threads, goroutine.authenticated ≠ some tokenID
  headed : ∀ clientID, clientID ∉ todo → ∀ goroutine ∈ config.threads,
    goroutine.headed config.shared tokenID clientID = false
  sessions : ∀ clientID conn, config.shared.conns.lookup clientID = some conn →
    config.shared.transports[conn]? = some tokenID →
      clientID ∈ todo ∨ session = some (conn, clientID)

/-- Handshakes and sessions belong to the tokens of their clients. -/
structure Tied (config : Config Hub Goroutine) : Prop where
  bound : ∀ goroutine ∈ config.threads, ∀ stage, goroutine.handshake = some stage →
    stage.Bound config.shared
  sessions : ∀ clientID conn, config.shared.conns.lookup clientID = some conn →
    ∃ client ∈ config.shared.store.clients, client.id = clientID ∧
      config.shared.transports[conn]? = some client.tokenID

/-- Moreover every handler has achieved what it should have. -/
structure Revoking (config : Config Hub Goroutine) : Prop extends Tied config where
  closed : ∀ tokenID, .listClients tokenID ∈ config.threads →
    ∀ row ∈ config.shared.store.tokens, row.id = tokenID → row.disabled = true
  complete : ∀ tokenID clients, .disableToken tokenID clients ∈ config.threads →
    ∀ client ∈ config.shared.store.clients, client.tokenID = tokenID → client.id ∈ clients
  handlers : ∀ handler ∈ config.threads, ∀ tokenID todo session,
    handler.revoking = some (tokenID, todo, session) → Revoked config tokenID todo session

section Steps

variable {config : Config Hub Goroutine} {index : ℕ} {goroutine goroutine' : Goroutine}
variable {h' : Hub} {spawned : List Goroutine} {tokenID clientID : String}

/-- A handshake that is bound is headed for a client of its token. -/
theorem Tied.headed_of_bound (tied : Tied config)
    (member : goroutine ∈ config.threads)
    (headed : goroutine.headed config.shared tokenID clientID = true) :
    ∃ client ∈ config.shared.store.clients, client.id = clientID ∧ client.tokenID = tokenID := by
  obtain ⟨stage, standing, toward⟩ := (Option.any_eq_true _ _).mp headed
  have bound := tied.bound goroutine member stage standing
  cases stage with
  | readBack conn token deviceID =>
      obtain ⟨-, client, row, device, own⟩ := bound
      simp only [Handshake.headed, decide_eq_true_eq, List.any_eq_true] at toward
      obtain ⟨rfl, other, present, sameDevice, rfl⟩ := toward
      have same : client = other := Table.eq_of_column_eq config.shared.store.clients_device row
        present (device.trans sameDevice.symm)
      exact ⟨client, row, congrArg Client.id same, own⟩
  | register conn token client =>
      obtain ⟨-, record, row, own, bound'⟩ := bound
      simp only [Handshake.headed, decide_eq_true_eq] at toward
      obtain ⟨rfl, rfl⟩ := toward
      exact ⟨record, row, own, bound'⟩
  | _ => cases toward

/-- The list of all clients of a disabled token is a place to start from. -/
theorem Tied.revoked_of_listed (tied : Tied config) {todo : List String}
    (closed : ∀ row ∈ config.shared.store.tokens, row.id = tokenID → row.disabled = true)
    (listed : ∀ client ∈ config.shared.store.clients, client.tokenID = tokenID →
      client.id ∈ todo) : Revoked config tokenID todo none := by
  refine ⟨closed, Or.inl listed, fun client absent other member => ?_, fun client conn found own => ?_⟩
  · by_contra headed
    rw [Bool.not_eq_false] at headed
    obtain ⟨record, row, rfl, bound⟩ := tied.headed_of_bound member headed
    exact absent (listed record row bound)
  · obtain ⟨record, row, rfl, transport⟩ := tied.sessions client conn found
    rw [transport, Option.some.injEq] at own
    exact Or.inl (listed record row own)

/-- What an action needs to be told about the run it is part of. -/
structure Quiet (config : Config Hub Goroutine) (goroutine goroutine' : Goroutine) : Prop where
  restores : goroutine.restores = false
  enrols : ∀ conn tokenID deviceID, goroutine = .hello conn tokenID →
    goroutine' = .readBack conn tokenID deviceID →
      (∃ client ∈ config.shared.store.clients, client.deviceID = deviceID) ∨
        ∀ handler ∈ config.threads, handler.listed ≠ some tokenID
  seeks : ∀ tokenID clientID, goroutine.seeking = some (tokenID, clientID) →
    ∀ other ∈ config.threads, other.authenticated ≠ some tokenID ∧
      other.headed config.shared tokenID clientID = false

/-- A disabled token stays disabled. -/
theorem closed_of_action (action : Action config.shared goroutine h' goroutine' spawned)
    (quiet : Quiet config goroutine goroutine')
    (closed : ∀ row ∈ config.shared.store.tokens, row.id = tokenID → row.disabled = true) :
    ∀ row ∈ h'.store.tokens, row.id = tokenID → row.disabled = true := by
  intro row' member own
  obtain ⟨row, present, same, kept | disabled⟩ := action_tokens action quiet.restores member
  · rw [← kept]
    exact closed row present (same.trans own)
  · exact disabled

/-- A complete list stays complete while its handler has it. -/
theorem listed_of_action (action : Action config.shared goroutine h' goroutine' spawned)
    (quiet : Quiet config goroutine goroutine') {todo : List String} {handler : Goroutine}
    (running : handler ∈ config.threads) (holds : handler.listed = some tokenID)
    (listed : ∀ client ∈ config.shared.store.clients, client.tokenID = tokenID →
      client.id ∈ todo) :
    ∀ client ∈ h'.store.clients, client.tokenID = tokenID → client.id ∈ todo := by
  rintro client member rfl
  rcases action_row_origin action member with ⟨old, present, same⟩ | ⟨conn, rfl, rfl, unknown⟩
  · simp only [Client.identity, Prod.mk.injEq] at same
    rw [← same.1]
    exact listed old present same.2.2
  · rcases quiet.enrols conn _ _ rfl rfl with ⟨old, present, device⟩ | unlisted
    · exact absurd device (unknown old present)
    · exact absurd holds (unlisted handler running)

/-- Nobody is authenticated with a disabled token. -/
theorem silent_of_action (member : goroutine ∈ config.threads)
    (action : Action config.shared goroutine h' goroutine' spawned)
    (closed : ∀ row ∈ config.shared.store.tokens, row.id = tokenID → row.disabled = true)
    (silent : ∀ other ∈ config.threads, other.authenticated ≠ some tokenID) :
    ∀ other ∈ config.threads.set index goroutine' ++ spawned,
      other.authenticated ≠ some tokenID := by
  have unborn : ∀ fresh, (fresh = goroutine' ∨ fresh ∈ spawned) →
      fresh.authenticated ≠ some tokenID := by
    intro fresh isFresh authenticated
    rcases action_authenticated action isFresh authenticated with before | ⟨row, present, own, enabled⟩
    · exact silent goroutine member before
    · have disabled := closed row present own
      rw [enabled] at disabled
      cases disabled
  intro other located
  rcases Machine.mem_threads_of_step located with rfl | fresh | old
  · exact unborn _ (Or.inl rfl)
  · exact unborn _ (Or.inr fresh)
  · exact silent other old

/-- A transport keeps its token. -/
theorem transport_of_action {h : Hub} (action : Action h goroutine h' goroutine' spawned) {conn : ℕ}
    (opened : h.transports[conn]? = some tokenID) : h'.transports[conn]? = some tokenID := by
  rcases action_transports action with same | ⟨token, -, appended⟩
  · rw [same]
    exact opened
  · have bound : conn < h.transports.length := (List.getElem?_eq_some_iff.mp opened).1
    rw [appended, List.getElem?_append_left bound]
    exact opened

/-- A handshake is headed for a client because one was before, or because it has just said hello:
for a client of its token that was there before, or for a device that had no row. -/
theorem headed_of_action (tied : Tied config) (member : goroutine ∈ config.threads)
    (action : Action config.shared goroutine h' goroutine' spawned) {other : Goroutine}
    (located : other ∈ config.threads.set index goroutine' ++ spawned)
    (headed : other.headed h' tokenID clientID = true) :
    (∃ before ∈ config.threads, before.headed config.shared tokenID clientID = true) ∨
    (∃ conn, goroutine = .hello conn tokenID ∧
      ((∃ client ∈ config.shared.store.clients, client.id = clientID ∧ client.tokenID = tokenID) ∨
        ∃ deviceID, goroutine' = .readBack conn tokenID deviceID ∧
          ∀ old ∈ config.shared.store.clients, old.deviceID ≠ deviceID)) := by
  obtain ⟨stage, standing, toward⟩ := (Option.any_eq_true _ _).mp headed
  -- A handshake that stood where it stands is headed where it was: its row is still the same.
  have kept : ∀ old ∈ config.threads, old.handshake = some stage →
      old.headed config.shared tokenID clientID = true := by
    intro old running standing'
    have bound := tied.bound old running stage standing'
    refine (Option.any_eq_true _ _).mpr ⟨stage, standing', ?_⟩
    cases stage with
    | readBack conn token deviceID =>
        obtain ⟨-, row, present, device, -⟩ := bound
        simp only [Handshake.headed, decide_eq_true_eq, List.any_eq_true] at toward ⊢
        obtain ⟨rfl, client, row', sameDevice, own⟩ := toward
        rcases action_row_origin action row' with ⟨before, row'', same⟩ | ⟨-, -, -, unknown⟩
        · simp only [Client.identity, Prod.mk.injEq] at same
          exact ⟨rfl, before, row'', same.2.1.trans sameDevice, same.1.trans own⟩
        · exact absurd (device.trans sameDevice.symm) (unknown row present)
    | _ => exact toward
  have born : (other = goroutine' ∨ other ∈ spawned) →
      (∃ before ∈ config.threads, before.headed config.shared tokenID clientID = true) ∨
      (∃ conn, goroutine = .hello conn tokenID ∧
        ((∃ client ∈ config.shared.store.clients,
            client.id = clientID ∧ client.tokenID = tokenID) ∨
          ∃ deviceID, goroutine' = .readBack conn tokenID deviceID ∧
            ∀ old ∈ config.shared.store.clients, old.deviceID ≠ deviceID)) := by
    intro isFresh
    rcases action_handshake action isFresh standing with
      ⟨value, row, rfl, rfl, -⟩ | ⟨token, rfl, rfl, -⟩ |
      ⟨conn, token, hello, id, rfl, rfl, inserted⟩ | ⟨conn, token, client, rfl, rfl, row, -, rfl⟩
    · cases toward
    · cases toward
    · simp only [Handshake.headed, decide_eq_true_eq, List.any_eq_true] at toward
      obtain ⟨rfl, client, row, device, rfl⟩ := toward
      obtain ⟨upserted, present, sameDevice, own⟩ := Store.exists_of_insertClient inserted
      obtain rfl : client = upserted := Table.eq_of_column_eq h'.store.clients_device row present
        (device.trans sameDevice.symm)
      refine Or.inr ⟨conn, rfl, ?_⟩
      rcases action_row_origin action row with ⟨before, row', same⟩ | ⟨other', same, moved, unknown⟩
      · simp only [Client.identity, Prod.mk.injEq] at same
        exact Or.inl ⟨before, row', same.1, same.2.2.trans own⟩
      · cases same
        exact Or.inr ⟨client.deviceID, moved, unknown⟩
    · simp only [Handshake.headed, decide_eq_true_eq] at toward
      obtain ⟨rfl, rfl⟩ := toward
      refine Or.inl ⟨_, member, (Option.any_eq_true _ _).mpr ⟨_, rfl, ?_⟩⟩
      simp only [Handshake.headed, decide_eq_true_eq, List.any_eq_true]
      exact ⟨trivial, client, row, rfl, rfl⟩
  rcases Machine.mem_threads_of_step located with rfl | fresh | old
  · exact born (Or.inl rfl)
  · exact born (Or.inr fresh)
  · exact Or.inl ⟨other, old, kept other old standing⟩

/-- A session is current because it was, or because its handshake has just registered it. -/
theorem session_of_action (tied : Tied config) (member : goroutine ∈ config.threads)
    (action : Action config.shared goroutine h' goroutine' spawned) {conn : ℕ}
    (found : h'.conns.lookup clientID = some conn)
    (opened : h'.transports[conn]? = some tokenID) :
    (config.shared.conns.lookup clientID = some conn ∧
      config.shared.transports[conn]? = some tokenID) ∨
    goroutine = .register conn tokenID clientID := by
  have known : config.shared.conns.lookup clientID = some conn →
      config.shared.conns.lookup clientID = some conn ∧
        config.shared.transports[conn]? = some tokenID := by
    intro before
    obtain ⟨client, -, -, transport⟩ := tied.sessions clientID conn before
    rw [transport_of_action action transport, Option.some.injEq] at opened
    exact ⟨before, opened ▸ transport⟩
  rcases action_conns action with same | ⟨other, token, client, rfl, rfl⟩ |
    ⟨other, client, next, -, -, -, rfl⟩
  · exact Or.inl (known (by rw [← same]; exact found))
  · rw [Hub.conns_register] at found
    split at found
    · rename_i own
      obtain rfl : other = conn := Option.some.inj found
      have bound := (tied.bound _ member _ rfl).1
      rw [transport_of_action action bound, Option.some.injEq] at opened
      rw [own, opened]
      exact Or.inr rfl
    · exact Or.inl (known found)
  · rw [Hub.conns_unregister] at found
    split at found
    · cases found
    · exact Or.inl (known found)

/-- What a handler has achieved, no action of another undoes. -/
theorem Revoked.step {todo : List String} {session : Option (ℕ × String)}
    (revoked : Revoked config tokenID todo session) (revoking : Revoking config)
    (present : config.threads[index]? = some goroutine)
    (action : Action config.shared goroutine h' goroutine' spawned)
    (quiet : Quiet config goroutine goroutine') {handler : Goroutine}
    (running : handler ∈ config.threads) (holds : handler.listed = some tokenID) :
    Revoked { shared := h', threads := config.threads.set index goroutine' ++ spawned }
      tokenID todo session := by
  have member : goroutine ∈ config.threads := List.mem_of_getElem? present
  refine ⟨closed_of_action action quiet revoked.closed, ?_, ?_, ?_⟩
  · rcases revoked.listed with listed | silent
    · exact Or.inl (listed_of_action action quiet running holds listed)
    · exact Or.inr (silent_of_action member action revoked.closed silent)
  · intro client absent other located
    by_contra headed
    rw [Bool.not_eq_false] at headed
    rcases headed_of_action revoking.toTied member action located headed with
      ⟨before, running', headed'⟩ | ⟨conn, rfl, ⟨row, row', rfl, own⟩ | ⟨deviceID, rfl, unknown⟩⟩
    · rw [revoked.headed client absent before running'] at headed'
      cases headed'
    · rcases revoked.listed with listed | silent
      · exact absent (listed row row' own)
      · exact silent _ member rfl
    · rcases quiet.enrols conn tokenID deviceID rfl rfl with ⟨old, known, device⟩ | unlisted
      · exact unknown old known device
      · exact unlisted handler running holds
  · intro client conn found opened
    rcases session_of_action revoking.toTied member action found opened with ⟨before, transport⟩ | rfl
    · exact revoked.sessions client conn before transport
    · refine Or.inl ?_
      by_contra absent
      have headed := revoked.headed client absent _ member
      simp [Goroutine.headed, Goroutine.handshake, Handshake.headed] at headed

/-- The row of a client is not deleted while a handshake or a session of its token needs it: the
handler that deletes the token has seen to that. -/
theorem Revoking.row_kept (revoking : Revoking config) (member : goroutine ∈ config.threads)
    (action : Action config.shared goroutine h' goroutine' spawned) {client : Client}
    (row : client ∈ config.shared.store.clients)
    (needed : (∃ other ∈ config.threads,
        other.headed config.shared client.tokenID client.id = true) ∨
      ∃ conn, config.shared.conns.lookup client.id = some conn ∧
        config.shared.transports[conn]? = some client.tokenID) :
    ∃ client' ∈ h'.store.clients, client'.identity = client.identity := by
  rcases action_row_kept action row with kept | rfl
  · exact kept
  · have revoked := revoking.handlers _ member client.tokenID [] none rfl
    rcases needed with ⟨other, running, headed⟩ | ⟨conn, found, opened⟩
    · rw [revoked.headed client.id List.not_mem_nil other running] at headed
      cases headed
    · rcases revoked.sessions client.id conn found opened with impossible | impossible
      · cases impossible
      · cases impossible

/-- Handshakes stay bound. -/
theorem Revoking.bound_step (revoking : Revoking config) (member : goroutine ∈ config.threads)
    (action : Action config.shared goroutine h' goroutine' spawned) {other : Goroutine}
    (located : other ∈ config.threads.set index goroutine' ++ spawned) {stage : Handshake}
    (standing : other.handshake = some stage) : stage.Bound h' := by
  have kept : ∀ old ∈ config.threads, old.handshake = some stage → stage.Bound h' := by
    intro old running standing'
    have bound := revoking.bound old running stage standing'
    cases stage with
    | touch token => trivial
    | hello conn token => exact transport_of_action action bound
    | readBack conn token deviceID =>
        obtain ⟨transport, client, row, rfl, rfl⟩ := bound
        have headed : old.headed config.shared client.tokenID client.id = true := by
          refine (Option.any_eq_true _ _).mpr ⟨_, standing', ?_⟩
          simp only [Handshake.headed, decide_eq_true_eq, List.any_eq_true]
          exact ⟨trivial, client, row, rfl, rfl⟩
        obtain ⟨client', row', same⟩ :=
          revoking.row_kept member action row (Or.inl ⟨old, running, headed⟩)
        simp only [Client.identity, Prod.mk.injEq] at same
        exact ⟨transport_of_action action transport, client', row', same.2⟩
    | register conn token id =>
        obtain ⟨transport, client, row, rfl, rfl⟩ := bound
        have headed : old.headed config.shared client.tokenID client.id = true :=
          (Option.any_eq_true _ _).mpr ⟨_, standing', by simp [Handshake.headed]⟩
        obtain ⟨client', row', same⟩ :=
          revoking.row_kept member action row (Or.inl ⟨old, running, headed⟩)
        simp only [Client.identity, Prod.mk.injEq] at same
        exact ⟨transport_of_action action transport, client', row', same.1, same.2.2⟩
  have born : (other = goroutine' ∨ other ∈ spawned) → stage.Bound h' := by
    intro isFresh
    rcases action_handshake action isFresh standing with
      ⟨value, row, rfl, rfl, -⟩ | ⟨token, rfl, rfl, appended⟩ |
      ⟨conn, token, hello, id, rfl, rfl, inserted⟩ | ⟨conn, token, client, rfl, rfl, row, -, rfl⟩
    · trivial
    · show h'.transports[_]? = _
      rw [appended, List.getElem?_concat_length]
    · have opened : config.shared.transports[conn]? = some token := revoking.bound _ member _ rfl
      exact ⟨transport_of_action action opened, Store.exists_of_insertClient inserted⟩
    · obtain ⟨opened, upserted, present, device, own⟩ := revoking.bound _ member _ rfl
      have same : client = upserted :=
        Table.eq_of_column_eq config.shared.store.clients_device row present device.symm
      exact ⟨opened, client, row, rfl, same ▸ own⟩
  rcases Machine.mem_threads_of_step located with rfl | fresh | old
  · exact born (Or.inl rfl)
  · exact born (Or.inr fresh)
  · exact kept other old standing

/-- Sessions keep their clients. -/
theorem Revoking.sessions_step (revoking : Revoking config) (member : goroutine ∈ config.threads)
    (action : Action config.shared goroutine h' goroutine' spawned) {conn : ℕ}
    (found : h'.conns.lookup clientID = some conn) :
    ∃ client ∈ h'.store.clients, client.id = clientID ∧
      h'.transports[conn]? = some client.tokenID := by
  have known : config.shared.conns.lookup clientID = some conn →
      ∃ client ∈ h'.store.clients, client.id = clientID ∧
        h'.transports[conn]? = some client.tokenID := by
    intro before
    obtain ⟨client, row, rfl, transport⟩ := revoking.sessions clientID conn before
    obtain ⟨client', row', same⟩ :=
      revoking.row_kept member action row (Or.inr ⟨conn, before, transport⟩)
    simp only [Client.identity, Prod.mk.injEq] at same
    refine ⟨client', row', same.1, ?_⟩
    rw [same.2.2]
    exact transport_of_action action transport
  rcases action_conns action with same | ⟨other, token, client, rfl, rfl⟩ |
    ⟨other, client, next, -, -, -, rfl⟩
  · exact known (by rw [← same]; exact found)
  · rw [Hub.conns_register] at found
    split at found
    · rename_i own
      obtain rfl : other = conn := Option.some.inj found
      obtain ⟨opened, record, row, sameID, rfl⟩ := revoking.bound _ member _ rfl
      exact ⟨record, row, sameID.trans own.symm, opened⟩
    · exact known found
  · rw [Hub.conns_unregister] at found
    split at found
    · cases found
    · exact known found

/-- How a token handler comes to list, or to have listed. -/
theorem action_listing {h : Hub} (action : Action h goroutine h' goroutine' spawned)
    {other : Goroutine} (born : other = goroutine' ∨ other ∈ spawned) :
    (other = .listClients tokenID → h.store.setTokenDisabled tokenID true = .ok h'.store) ∧
    ∀ clients, other = .disableToken tokenID clients →
      clients = h.clientsUsingToken tokenID ∧ h' = h := by
  have unresumed (next : Return) (clientID : String) :
      next.resume clientID ≠ .listClients tokenID ∧
        ∀ clients, next.resume clientID ≠ .disableToken tokenID clients := by
    cases next with
    | disconnectClients rest revocation =>
        cases rest <;> cases revocation <;> exact ⟨fun same => (nomatch same),
          fun _ same => (nomatch same)⟩
    | _ => exact ⟨fun same => (nomatch same), fun _ same => (nomatch same)⟩
  have resumes (next : Return) (clientID : String) (born : other = next.resume clientID ∨ other ∈ []) :
      (other = .listClients tokenID → h.store.setTokenDisabled tokenID true = .ok h'.store) ∧
      ∀ clients, other = .disableToken tokenID clients →
        clients = h.clientsUsingToken tokenID ∧ h' = h := by
    obtain rfl | impossible := born
    · exact ⟨fun same => absurd same (unresumed next clientID).1,
        fun clients same => absurd same ((unresumed next clientID).2 clients)⟩
    · cases impossible
  cases action with
  | revoke written =>
      obtain rfl | impossible := born
      · refine ⟨fun same => ?_, fun _ same => (nomatch same)⟩
        cases same
        exact written
      · cases impossible
  | tokenDelete id =>
      obtain rfl | impossible := born
      · refine ⟨fun same => (nomatch same), fun clients same => ?_⟩
        cases same
        exact ⟨rfl, rfl⟩
      · cases impossible
  | register conn token client =>
      obtain rfl | spawnedHere := born
      · exact ⟨fun same => (nomatch same), fun _ same => (nomatch same)⟩
      · rw [List.mem_singleton.mp spawnedHere]
        exact ⟨fun same => (nomatch same), fun _ same => (nomatch same)⟩
  | unregistered next stale => exact resumes next _ born
  | reconnected next free connected => exact resumes next _ born
  | setOffline client next => exact resumes next _ born
  | disconnected next missing => exact resumes next _ born
  | listClients id => exact resumes (.disconnectClients _ (.update id)) "" born
  | disableToken written => exact resumes (.disconnectClients _ (.delete _ _)) "" born
  | _ =>
      obtain rfl | impossible := born
      · exact ⟨fun same => (nomatch same), fun _ same => (nomatch same)⟩
      · cases impossible

/-- The list of a token's clients is complete when it is taken. -/
theorem mem_clientsUsingToken {h : Hub} {client : Client} (row : client ∈ h.store.clients)
    (own : client.tokenID = tokenID) : client.id ∈ h.clientsUsingToken tokenID :=
  List.mem_map_of_mem (Table.mem_selectAll.mpr ⟨row, by simpa using own⟩)

theorem listed_of_revoking {todo : List String} {session : Option (ℕ × String)}
    (revoking : goroutine.revoking = some (tokenID, todo, session)) :
    goroutine.listed = some tokenID := by
  unfold Goroutine.listed
  split
  · cases revoking
  · rw [revoking]
    rfl

/-- The handler looks for the session of the next client on its list. -/
theorem Revoked.look {todo : List String}
    (revoked : Revoked { shared := h', threads := config.threads.set index goroutine' ++ spawned }
      tokenID (clientID :: todo) none)
    (tied : Tied config) (member : goroutine ∈ config.threads)
    (action : Action config.shared goroutine h' goroutine' spawned)
    (quiet : Quiet config goroutine goroutine')
    (closed : ∀ row ∈ config.shared.store.tokens, row.id = tokenID → row.disabled = true)
    (seeking : goroutine.seeking = some (tokenID, clientID))
    (unmoved : h'.conns = config.shared.conns) :
    Revoked { shared := h', threads := config.threads.set index goroutine' ++ spawned } tokenID todo
      ((config.shared.conns.lookup clientID).map fun conn => (conn, clientID)) := by
  have silent := quiet.seeks tokenID clientID seeking
  refine ⟨revoked.closed, Or.inr (silent_of_action member action closed fun other running =>
    (silent other running).1), fun client absent other located => ?_, fun client conn found opened => ?_⟩
  · by_cases own : client = clientID
    · -- Nobody was headed for the client, and the handler's own action sends nobody there.
      subst own
      by_contra headed
      rw [Bool.not_eq_false] at headed
      rcases headed_of_action tied member action located headed with
        ⟨before, running, headed'⟩ | ⟨conn, rfl, -⟩
      · rw [(silent before running).2] at headed'
        cases headed'
      · cases seeking
    · refine revoked.headed client (fun listed => ?_) other located
      rcases List.mem_cons.mp listed with same | later
      · exact own same
      · exact absent later
  · rcases revoked.sessions client conn found opened with listed | impossible
    · rcases List.mem_cons.mp listed with rfl | later
      · have before : config.shared.conns.lookup client = some conn := by
          rw [← unmoved]
          exact found
        rw [before]
        exact Or.inr rfl
      · exact Or.inl later
    · cases impossible

/-- A step of a run in which handshakes keep out of the way. -/
theorem Revoking.step (revoking : Revoking config)
    (present : config.threads[index]? = some goroutine)
    (action : Action config.shared goroutine h' goroutine' spawned)
    (quiet : Quiet config goroutine goroutine') :
    Revoking { shared := h', threads := config.threads.set index goroutine' ++ spawned } := by
  have member : goroutine ∈ config.threads := List.mem_of_getElem? present
  have tied : Tied { shared := h', threads := config.threads.set index goroutine' ++ spawned } :=
    ⟨fun other located stage standing => revoking.bound_step member action located standing,
      fun clientID conn found => revoking.sessions_step member action found⟩
  refine ⟨tied, ?_, ?_, ?_⟩
  · intro token located
    have born : (.listClients token = goroutine' ∨ .listClients token ∈ spawned) →
        ∀ row ∈ h'.store.tokens, row.id = token → row.disabled = true := by
      intro isFresh row member' own
      have written := (action_listing action isFresh).1 rfl
      rcases (Store.setTokenDisabled_ok written).2.2 row member' with ⟨-, flag⟩ | ⟨foreign, -⟩
      · exact flag
      · exact absurd own foreign
    rcases Machine.mem_threads_of_step located with own | fresh | old
    · exact born (Or.inl own)
    · exact born (Or.inr fresh)
    · exact closed_of_action action quiet (revoking.closed token old)
  · intro token clients located
    have born : (.disableToken token clients = goroutine' ∨ .disableToken token clients ∈ spawned) →
        ∀ client ∈ h'.store.clients, client.tokenID = token → client.id ∈ clients := by
      intro isFresh
      obtain ⟨rfl, rfl⟩ := (action_listing action isFresh).2 clients rfl
      exact fun client row own => mem_clientsUsingToken row own
    rcases Machine.mem_threads_of_step located with own | fresh | old
    · exact born (Or.inl own)
    · exact born (Or.inr fresh)
    · exact listed_of_action action quiet old rfl (revoking.complete token clients old)
  · intro handler located token todo session holds
    have kept : ∀ old ∈ config.threads, ∀ left pending,
        old.revoking = some (token, left, pending) →
        Revoked { shared := h', threads := config.threads.set index goroutine' ++ spawned }
          token left pending := by
      intro old running left pending holds'
      exact (revoking.handlers old running token left pending holds').step revoking present action
        quiet running (listed_of_revoking holds')
    have born : (handler = goroutine' ∨ handler ∈ spawned) →
        Revoked { shared := h', threads := config.threads.set index goroutine' ++ spawned }
          token todo session := by
      intro isFresh
      rcases action_revoking action isFresh holds with
        same | ⟨rfl, rfl, rfl, rfl⟩ | ⟨rfl, rfl, written, -⟩ |
        ⟨client, seeking, holds', -, -, unmoved, rfl⟩ | ⟨conn, client, holds', rfl, gone⟩
      · exact kept goroutine member todo session same
      · exact tied.revoked_of_listed (revoking.closed token member)
          fun client row own => mem_clientsUsingToken row own
      · obtain ⟨-, clients, assigned⟩ := Store.setTokenDisabled_ok written
        refine tied.revoked_of_listed (fun row member' own => ?_) fun client row own => ?_
        · rcases assigned row member' with ⟨-, flag⟩ | ⟨foreign, -⟩
          · exact flag
          · exact absurd own foreign
        · exact revoking.complete token todo member client (clients ▸ row) own
      · have before := revoking.handlers goroutine member token (client :: todo) none holds'
        exact (kept goroutine member (client :: todo) none holds').look revoking.toTied member action
          quiet before.closed seeking unmoved
      · have revoked := kept goroutine member todo (some (conn, client)) holds'
        refine ⟨revoked.closed, revoked.listed, revoked.headed, fun other conn' found opened => ?_⟩
        rcases revoked.sessions other conn' found opened with listed | same
        · exact Or.inl listed
        · cases same
          exact absurd found gone
    rcases Machine.mem_threads_of_step located with own | fresh | old
    · exact born (Or.inl own)
    · exact born (Or.inr fresh)
    · exact kept handler old todo session holds

end Steps

/-! ## Every run -/

/-- A handshake that says hello says the hello that has arrived. -/
theorem enrols_of_step {h h' : Hub} {conn : ℕ} {tokenID deviceID : String} {choice : Choice}
    {spawned : List Goroutine}
    (stepped : h.step (.hello conn tokenID) choice =
      some (h', .readBack conn tokenID deviceID, spawned)) :
    enrols (.hello conn tokenID) choice = some (tokenID, deviceID) := by
  cases choice with
  | hello hello id =>
      simp only [Hub.step] at stepped
      split at stepped
      · cases stepped
      · split at stepped <;> cases stepped
        rfl
  | fail => cases stepped
  | _ => cases stepped

/-- Goroutines arrive in the middle of nothing. -/
theorem Goroutine.arrives_uninvolved {goroutine : Goroutine} (arrives : goroutine.arrives = true) :
    goroutine.handshake = none ∧ goroutine.revoking = none ∧
      (∀ tokenID, goroutine ≠ .listClients tokenID) ∧
      ∀ tokenID clients, goroutine ≠ .disableToken tokenID clients := by
  cases goroutine with
  | disconnect clientID next =>
      cases next <;> first
        | exact absurd arrives Bool.false_ne_true
        | exact ⟨rfl, rfl, fun _ same => (nomatch same), fun _ _ same => (nomatch same)⟩
  | _ =>
      first
        | exact absurd arrives Bool.false_ne_true
        | exact ⟨rfl, rfl, fun _ same => (nomatch same), fun _ _ same => (nomatch same)⟩

/-- One more goroutine that is neither a handshake nor a handler makes no difference. -/
theorem Revoking.arrive {config : Config Hub Goroutine} {goroutine : Goroutine}
    (revoking : Revoking config) (arrives : goroutine.arrives = true) :
    Revoking { config with threads := config.threads ++ [goroutine] } := by
  obtain ⟨unshaken, unrevoking, unlisted, undisabled⟩ := Goroutine.arrives_uninvolved arrives
  have old : ∀ {property : Goroutine → Prop}, (∀ other ∈ config.threads, property other) →
      property goroutine → ∀ other ∈ config.threads ++ [goroutine], property other := by
    intro property threads own other located
    rcases List.mem_append.mp located with before | new
    · exact threads other before
    · rw [List.mem_singleton.mp new]
      exact own
  have revoked : ∀ tokenID todo session, Revoked config tokenID todo session →
      Revoked { config with threads := config.threads ++ [goroutine] } tokenID todo session := by
    intro tokenID todo session revoked
    refine ⟨revoked.closed, ?_, fun client absent => ?_, revoked.sessions⟩
    · rcases revoked.listed with listed | silent
      · exact Or.inl listed
      · refine Or.inr (old silent ?_)
        simp [Goroutine.authenticated, unshaken]
    · refine old (revoked.headed client absent) ?_
      simp [Goroutine.headed, unshaken]
  refine ⟨⟨old revoking.bound ?_, revoking.sessions⟩, fun tokenID located => ?_,
    fun tokenID clients located => ?_, ?_⟩
  · intro stage standing
    rw [unshaken] at standing
    cases standing
  · rcases List.mem_append.mp located with before | new
    · exact revoking.closed tokenID before
    · exact absurd (List.mem_singleton.mp new).symm (unlisted tokenID)
  · rcases List.mem_append.mp located with before | new
    · exact revoking.complete tokenID clients before
    · exact absurd (List.mem_singleton.mp new).symm (undisabled tokenID clients)
  · refine old (fun handler running tokenID todo session holds => ?_) fun tokenID todo session holds => ?_
    · exact revoked tokenID todo session (revoking.handlers handler running tokenID todo session holds)
    · rw [unrevoking] at holds
      cases holds

theorem revoking_of_ordered {store : Store} {now : Time} {config : Config Hub Goroutine}
    (reached : controlPlane.Run OrderedMoves (controlPlaneStart store now) config) :
    Revoking config := by
  refine reached.invariant Revoking ?_ ?_
  · exact ⟨⟨fun _ member => (nomatch member), fun _ _ found => (nomatch found)⟩,
      fun _ member => (nomatch member), fun _ _ member => (nomatch member),
      fun _ member => (nomatch member)⟩
  · rintro config next (goroutine | ⟨index, choice⟩) revoking ordered moved
    · obtain ⟨arrives, rfl⟩ := Machine.exec_arrive moved
      exact revoking.arrive arrives
    · obtain ⟨goroutine, h', goroutine', spawned, present, stepped, rfl⟩ := Machine.exec_run moved
      have permitted := ordered goroutine present
      refine revoking.step present (Hub.action_of_step stepped)
        ⟨permitted.restores, ?_, fun tokenID clientID seeking => permitted.seeks _ seeking⟩
      rintro conn tokenID deviceID rfl rfl
      exact permitted.enrols (tokenID, deviceID) (enrols_of_step stepped)

/-- **Revoking a token ends every control session under it.**  In every run in which handshakes keep
out of the way of revocations: once `tokenHandler.update` with `disabled = true` or
`tokenHandler.delete` has returned for a token, the hub has no session whose handshake was
authenticated with the token. -/
theorem revoked_token_has_no_session {store : Store} {now : Time} {config : Config Hub Goroutine}
    (reached : controlPlane.Run OrderedMoves (controlPlaneStart store now) config)
    (tokenID : String)
    (returned : ∃ handler ∈ config.threads, handler.revoked = some tokenID) :
    ∀ clientID conn, config.shared.conns.lookup clientID = some conn →
      config.shared.transports[conn]? ≠ some tokenID := by
  obtain ⟨handler, running, revoked⟩ := returned
  have holds : handler.revoking = some (tokenID, [], none) := by
    cases handler <;> cases revoked
    rfl
  intro clientID conn found opened
  have done := (revoking_of_ordered reached).handlers handler running tokenID [] none holds
  rcases done.sessions clientID conn found opened with impossible | impossible
  · cases impossible
  · cases impossible

/-- A handshake of the office client has said hello when the token is disabled; the handler lists
the client, finds no session and returns; the handshake registers.  No handshake is under way, and
the hub has a session of the revoked token. -/
theorem session_survives_revocation :
    ∃ config, controlPlane.Reachable (controlPlaneStart Auth.office 0) config ∧
      (∃ handler ∈ config.threads, handler.revoked = some "token-1") ∧
      (∀ goroutine ∈ config.threads, goroutine.handshake = none) ∧
      config.shared.conns.lookup "client-1" = some 0 ∧
      config.shared.transports[0]? = some "token-1" := by
  refine Machine.exists_run_of_replay
    ([.arrive (.authenticate Auth.officeToken), .run 0 .go, .run 0 .go,
        .run 0 (.hello ⟨"gateway", "device-1", "192.0.2.1", "linux", "1.0"⟩ "client-2"),
        .run 0 .go, .arrive (.tokenUpdate "token-1" true), .run 1 .go, .run 1 .go, .run 1 .go,
        .run 0 .go]) ?_
  decide +kernel

/-- Two devices have sessions when the token is deleted: the office client, and one that has just
been enrolled. -/
theorem revoked_office_has_no_session :
    ∃ config, controlPlane.Run OrderedMoves (controlPlaneStart Auth.office 0) config ∧
      config.shared.closed = [0, 1] ∧ config.shared.store.tokens = [] ∧
      (∃ handler ∈ config.threads, handler.revoked = some "token-1") ∧
      ∀ clientID conn, config.shared.conns.lookup clientID = some conn →
        config.shared.transports[conn]? ≠ some "token-1" := by
  obtain ⟨config, reached, closed, deleted, returned⟩ :
      ∃ config, controlPlane.Run OrderedMoves (controlPlaneStart Auth.office 0) config ∧
        config.shared.closed = [0, 1] ∧ config.shared.store.tokens = [] ∧
        ∃ handler ∈ config.threads, handler.revoked = some "token-1" := by
    refine Machine.exists_run_of_replay
      ([.arrive (.authenticate Auth.officeToken), .run 0 .go, .run 0 .go,
          .run 0 (.hello ⟨"gateway", "device-1", "192.0.2.1", "linux", "1.0"⟩ "client-2"),
          .run 0 .go, .run 0 .go,
          .arrive (.authenticate Auth.officeToken), .run 2 .go, .run 2 .go,
          .run 2 (.hello ⟨"laptop", "device-2", "192.0.2.2", "linux", "1.0"⟩ "client-3"),
          .run 2 .go, .run 2 .go, .arrive (.tokenDelete "token-1")] ++
        List.replicate 13 (.run 4 .go)) ?_
    decide +kernel
  exact ⟨config, reached, closed, deleted, returned,
    revoked_token_has_no_session reached "token-1" returned⟩

end NryNet.Control
