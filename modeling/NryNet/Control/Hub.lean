import NryNet.Auth
import NryNet.Lib.GoMap

/-!
# The hub of control sessions (`server/client`)

`Hub` keeps one control session per client in three tables under one lock: the transport, the time
it was registered and its write queue.  Transports and queues are pointers and are modelled by
positions; a session creates exactly one of each, so one number serves for both.

Three fields are ghosts.  `transports` remembers which token a transport was authenticated with,
`issued` the client identifiers drawn so far (`uuid.NewString` never returns one of them again), and
`enables` how often each client has been enabled by an administrator.
-/

namespace NryNet.Control

/-- `Hub`, together with the database.  `statusMu` is `true` while it is locked. -/
structure Hub where
  store : Store
  now : Time
  conns : GoMap String ℕ
  connected : GoMap String Time
  writeQueues : GoMap String ℕ
  statusMu : Bool
  closed : List ℕ
  transports : List String
  issued : List String
  enables : String → ℕ

namespace Hub

/-- `NewHub`, on some database. -/
def newHub (store : Store) (now : Time) : Hub where
  store := store
  now := now
  conns := ∅
  connected := ∅
  writeQueues := ∅
  statusMu := false
  closed := []
  transports := []
  issued := store.clients.map Client.id
  enables _ := 0

/-- `Close` on some transports. -/
def close (h : Hub) (conns : List ℕ) : Hub :=
  { h with closed := h.closed ++ conns }

/-- A transport that was authenticated with a token is handed to `serveTransport`. -/
def openTransport (h : Hub) (tokenID : String) : Hub × ℕ :=
  ({ h with transports := h.transports ++ [tokenID] }, h.transports.length)

/-- `acceptHello` up to and including the statement of `UpsertClient`.  `id` is the identifier that
was drawn for the case that the device is new. -/
def acceptHello (h : Hub) (tokenID : String) (hello : ClientHello) (id : String) :
    Except String Hub :=
  if hello.deviceID = "" ∨ hello.name = "" then .error "device_id and name are required"
  else
    match h.store.insertClient id tokenID hello h.now with
    | .error message => .error message
    | .ok store => .ok { h with store := store, issued := id :: h.issued }

/-- `register`.  A session that is replaced is closed. -/
def register (h : Hub) (clientID : String) (conn : ℕ) : Hub :=
  { h.close (h.conns.lookup clientID).toList with
    conns := h.conns.insert clientID conn
    connected := h.connected.insert clientID h.now
    writeQueues := h.writeQueues.insert clientID conn }

/-- `unregister`, which ignores a session that is not the current one.  The result says whether it
was. -/
def unregister (h : Hub) (clientID : String) (conn : ℕ) : Hub × Bool :=
  if h.conns.lookup clientID = some conn then
    ({ h with
        conns := h.conns.erase clientID
        connected := h.connected.erase clientID
        writeQueues := h.writeQueues.erase clientID },
      true)
  else (h, false)

/-- The deferred closure of `serveTransport` that drops the session's write queue. -/
def forgetQueue (h : Hub) (clientID : String) (conn : ℕ) : Hub :=
  if h.writeQueues.lookup clientID = some conn then
    { h with writeQueues := h.writeQueues.erase clientID }
  else h

/-- `SetClientStatus`, whose error is ignored. -/
def setStatus (h : Hub) (clientID : String) (status : ClientStatus) : Hub :=
  match h.store.setClientStatus clientID status h.now with
  | .error _ => h
  | .ok store => { h with store := store }

variable {h h' : Hub} {clientID tokenID id : String} {conn : ℕ} {hello : ClientHello}

/-- Whose session is current after a registration. -/
theorem conns_register (other : String) :
    (h.register clientID conn).conns.lookup other =
      if other = clientID then some conn else h.conns.lookup other :=
  GoMap.lookup_insert_if _ _ _ _

/-- Unregistering leaves the sessions of other clients alone, and other sessions of the client. -/
theorem conns_unregister (other : String) :
    (h.unregister clientID conn).1.conns.lookup other =
      if other = clientID ∧ h.conns.lookup clientID = some conn then none
      else h.conns.lookup other := by
  unfold unregister
  by_cases current : h.conns.lookup clientID = some conn
  · rw [if_pos current]
    show (h.conns.erase clientID).lookup other = _
    rw [GoMap.lookup_erase_if]
    simp [current]
  · rw [if_neg current, if_neg fun both => current both.2]

/-- What a successful hello has checked and done. -/
theorem acceptHello_ok (accepted : h.acceptHello tokenID hello id = .ok h') :
    hello.deviceID ≠ "" ∧ ∃ store, h.store.insertClient id tokenID hello h.now = .ok store ∧
      h' = { h with store := store, issued := id :: h.issued } := by
  unfold acceptHello at accepted
  split at accepted
  · cases accepted
  · rename_i complete
    cases inserted : h.store.insertClient id tokenID hello h.now with
    | error message => simp [inserted] at accepted
    | ok store =>
        simp only [inserted, Except.ok.injEq] at accepted
        exact ⟨fun missing => complete (Or.inl missing), store, rfl, accepted.symm⟩

/-! ## What the operations leave alone

Everything but the tables of sessions, the lock and the log of closings. -/

/-- The database and the ghosts are as they were. -/
structure SameRecords (h h' : Hub) : Prop where
  store : h'.store = h.store
  transports : h'.transports = h.transports
  issued : h'.issued = h.issued
  enables : h'.enables = h.enables

theorem register_records : h.SameRecords (h.register clientID conn) := ⟨rfl, rfl, rfl, rfl⟩

theorem unregister_records : h.SameRecords (h.unregister clientID conn).1 := by
  unfold unregister
  split <;> exact ⟨rfl, rfl, rfl, rfl⟩

theorem forgetQueue_records : h.SameRecords (h.forgetQueue clientID conn) := by
  unfold forgetQueue
  split <;> exact ⟨rfl, rfl, rfl, rfl⟩

theorem conns_forgetQueue : (h.forgetQueue clientID conn).conns = h.conns := by
  unfold forgetQueue
  split <;> rfl

end Hub

end NryNet.Control
