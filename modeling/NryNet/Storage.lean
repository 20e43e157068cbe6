import NryNet.Lib.Table

/-!
# The store (`internal/model`, `internal/storage`)

The tables of the SQLite database that the server's authorization reads: `tokens`, `clients`,
`revoked_devices` and `tunnels`.  A `Store` is a database that satisfies the declared constraints
(primary keys, the unique device column, the foreign keys), carried as fields, so a statement that
would break one cannot be written down here any more than SQLite would execute it.

Each exported method of `storage.Store` is one function.  Methods that issue several statements
outside a transaction (`UpsertClient`, `UpdateClient`) are given statement by statement, because
another connection may get in between; the composite under the method's name is what a caller sees
when nothing does.  Time is a count of nanoseconds, supplied by the caller, and so are the
identifiers `uuid.NewString` returns.  Rows of `traffic_logs` are not modelled: the deletes that
touch them change nothing that is read here.
-/

namespace NryNet

/-- An instant, in nanoseconds. -/
abbrev Time := ℕ

/-- The two values of `clients.status`. -/
inductive ClientStatus where
  | online
  | offline
  deriving DecidableEq, Repr

/-- The values `SetTunnelStatus` admits for `tunnels.status`. -/
inductive TunnelStatus where
  | running
  | stopped
  | error
  deriving DecidableEq, Repr

/-- `model.Client`, a row of `clients`. -/
structure Client where
  id : String
  name : String
  deviceID : String
  tokenID : String
  status : ClientStatus
  disabled : Bool
  ip : String
  os : String
  version : String
  lastOnline : Time
  createdAt : Time
  deriving DecidableEq, Repr

/-- `model.Client{}`. -/
def Client.zero : Client := ⟨"", "", "", "", .offline, false, "", "", "", 0, 0⟩

/-- `model.Token`. -/
structure Token where
  id : String
  name : String
  tokenPrefix : String
  disabled : Bool
  lastUsed : Option Time
  createdAt : Time
  deriving DecidableEq, Repr

/-- `model.Token{}`. -/
def Token.zero : Token := ⟨"", "", "", false, none, 0⟩

/-- A row of `tokens`: the token together with the hash of its secret. -/
structure TokenRow extends Token where
  secretHash : String
  deriving DecidableEq, Repr

/-- A row of `revoked_devices`. -/
structure RevokedDevice where
  deviceID : String
  revokedAt : Time
  deriving DecidableEq, Repr

/-- `model.Tunnel`, a row of `tunnels`. -/
structure Tunnel where
  id : String
  clientID : String
  name : String
  protocol : String
  visitorToken : String
  localHost : String
  localPort : ℤ
  remotePort : ℤ
  domain : String
  status : TunnelStatus
  ipAllowlist : List String
  createdAt : Time
  updatedAt : Time
  deriving DecidableEq, Repr

/-- `storage.ClientHello`. -/
structure ClientHello where
  name : String
  deviceID : String
  ip : String
  os : String
  version : String
  deriving DecidableEq, Repr

/-- The database, with the constraints of its schema. -/
structure Store where
  tokens : List TokenRow
  clients : List Client
  revokedDevices : List RevokedDevice
  tunnels : List Tunnel
  tokens_primary : (tokens.map fun row => row.id).Nodup
  clients_primary : (clients.map Client.id).Nodup
  clients_device : (clients.map Client.deviceID).Nodup
  clients_token : ∀ client ∈ clients, ∃ token ∈ tokens, token.id = client.tokenID
  tunnels_client : ∀ tunnel ∈ tunnels, ∃ client ∈ clients, client.id = tunnel.clientID

namespace Store

/-- A freshly migrated database. -/
def empty : Store where
  tokens := []
  clients := []
  revokedDevices := []
  tunnels := []
  tokens_primary := List.nodup_nil
  clients_primary := List.nodup_nil
  clients_device := List.nodup_nil
  clients_token := by simp
  tunnels_client := by simp

/-- `sql.ErrNoRows`. -/
def errNoRows : String := "sql: no rows in result set"

/-- The error of `requireChanged`. -/
def errNotFound : String := "resource not found"

/-! ## Statements

`updateTokens` and `updateClients` are the `UPDATE`s that assign no constrained column; the
constraints survive them for one reason, stated once. -/

/-- `UPDATE tokens SET … WHERE …` for columns other than the identifier. -/
def updateTokens (s : Store) (hit : TokenRow → Bool) (set : TokenRow → TokenRow)
    (keeps : ∀ row, (set row).id = row.id) : Store where
  tokens := Table.update s.tokens hit set
  clients := s.clients
  revokedDevices := s.revokedDevices
  tunnels := s.tunnels
  tokens_primary := by
    rw [Table.map_update keeps]
    exact s.tokens_primary
  clients_primary := s.clients_primary
  clients_device := s.clients_device
  clients_token := by
    intro client member
    obtain ⟨token, present, same⟩ := s.clients_token client member
    refine ⟨_, Table.mem_update.mpr ⟨token, present, rfl⟩, ?_⟩
    split
    · exact (keeps token).trans same
    · exact same
  tunnels_client := s.tunnels_client

/-- `UPDATE clients SET … WHERE …` for columns other than the identifiers and the token. -/
def updateClients (s : Store) (hit : Client → Bool) (set : Client → Client)
    (keeps : ∀ row, (set row).id = row.id ∧ (set row).deviceID = row.deviceID ∧
      (set row).tokenID = row.tokenID) : Store where
  tokens := s.tokens
  clients := Table.update s.clients hit set
  revokedDevices := s.revokedDevices
  tunnels := s.tunnels
  tokens_primary := s.tokens_primary
  clients_primary := by
    rw [Table.map_update fun row => (keeps row).1]
    exact s.clients_primary
  clients_device := by
    rw [Table.map_update fun row => (keeps row).2.1]
    exact s.clients_device
  clients_token := by
    intro client member
    obtain ⟨old, present, rfl⟩ := Table.mem_update.mp member
    obtain ⟨token, exists', same⟩ := s.clients_token old present
    refine ⟨token, exists', ?_⟩
    split
    · exact same.trans (keeps old).2.2.symm
    · exact same
  tunnels_client := by
    intro tunnel member
    obtain ⟨client, present, same⟩ := s.tunnels_client tunnel member
    refine ⟨_, Table.mem_update.mpr ⟨client, present, rfl⟩, ?_⟩
    split
    · exact (keeps client).1.trans same
    · exact same

/-- `UPDATE tunnels SET … WHERE …` for columns other than the client. -/
def updateTunnels (s : Store) (hit : Tunnel → Bool) (set : Tunnel → Tunnel)
    (keeps : ∀ row, (set row).clientID = row.clientID) : Store :=
  { s with
    tunnels := Table.update s.tunnels hit set
    tunnels_client := by
      intro tunnel member
      obtain ⟨old, present, rfl⟩ := Table.mem_update.mp member
      obtain ⟨client, exists', same⟩ := s.tunnels_client old present
      refine ⟨client, exists', ?_⟩
      split
      · exact same.trans (keeps old).symm
      · exact same }

/-- `DELETE FROM tunnels WHERE client_id IN …; DELETE FROM clients WHERE …`, in one transaction. -/
def deleteClients (s : Store) (hit : Client → Bool) : Store :=
  { s with
    tunnels := Table.delete s.tunnels fun tunnel =>
      s.clients.any fun client => hit client && client.id == tunnel.clientID
    clients := Table.delete s.clients hit
    clients_primary := Table.nodup_delete s.clients_primary
    clients_device := Table.nodup_delete s.clients_device
    clients_token := fun client member => s.clients_token client (Table.mem_delete.mp member).1
    tunnels_client := by
      intro tunnel member
      obtain ⟨present, kept⟩ := Table.mem_delete.mp member
      obtain ⟨client, exists', same⟩ := s.tunnels_client tunnel present
      refine ⟨client, Table.mem_delete.mpr ⟨exists', ?_⟩, same⟩
      rw [List.any_eq_false] at kept
      simpa [same] using kept client exists' }

/-! ## `tokens.go` -/

/-- `GetToken`. -/
def getToken (s : Store) (id : String) : Except String Token :=
  match Table.select s.tokens (fun row => row.id) id with
  | none => .error errNoRows
  | some row => .ok row.toToken

theorem getToken_id {s : Store} {id : String} {token : Token} (found : s.getToken id = .ok token) :
    token.id = id := by
  unfold getToken at found
  cases selected : Table.select s.tokens (fun row => row.id) id with
  | none => simp [selected] at found
  | some row =>
      simp only [selected, Except.ok.injEq] at found
      rw [← found]
      exact ((Table.select_eq_some s.tokens_primary).mp selected).2

/-- `SetTokenDisabled`. -/
def setTokenDisabled (s : Store) (id : String) (disabled : Bool) : Except String Store :=
  if s.tokens.any fun row => row.id == id then
    .ok (s.updateTokens (fun row => row.id == id)
      (fun row => { row with disabled := disabled }) fun _ => rfl)
  else .error errNotFound

/-- `DeleteToken`, one transaction: the clients of the token, their tunnels, then the token.  Its
last statement fails when there is no such token, and the transaction is rolled back. -/
def deleteToken (s : Store) (id : String) : Except String Store :=
  if s.tokens.any fun row => row.id == id then
    let cleared := s.deleteClients fun client => client.tokenID == id
    .ok { cleared with
      tokens := Table.delete s.tokens fun row => row.id == id
      tokens_primary := Table.nodup_delete s.tokens_primary
      clients_token := by
        intro client member
        obtain ⟨present, kept⟩ := Table.mem_delete.mp member
        obtain ⟨token, exists', same⟩ := s.clients_token client present
        refine ⟨token, Table.mem_delete.mpr ⟨exists', ?_⟩, same⟩
        rw [same]
        exact kept }
  else .error errNotFound

/-- `INSERT INTO tokens …` of `CreateAgentToken`. -/
def insertToken (s : Store) (row : TokenRow) : Except String Store :=
  if fresh : ∀ old ∈ s.tokens, old.id ≠ row.id then
    .ok { s with
      tokens := s.tokens ++ [row]
      tokens_primary := Table.nodup_insert s.tokens_primary fresh
      clients_token := by
        intro client member
        obtain ⟨token, present, same⟩ := s.clients_token client member
        exact ⟨token, List.mem_append_left _ present, same⟩ }
  else .error "UNIQUE constraint failed: tokens.id"

/-- `UPDATE tokens SET last_used = ? WHERE id = ?` of `AuthenticateAgent`. -/
def touchToken (s : Store) (id : String) (now : Time) : Store :=
  s.updateTokens (fun row => row.id == id) (fun row => { row with lastUsed := some now })
    fun _ => rfl

/-! ## `clients.go` -/

/-- `GetClientByDevice`. -/
def getClientByDevice (s : Store) (deviceID : String) : Except String Client :=
  match Table.select s.clients Client.deviceID deviceID with
  | none => .error errNoRows
  | some client => .ok client

theorem mem_of_getClientByDevice {s : Store} {deviceID : String} {client : Client}
    (found : s.getClientByDevice deviceID = .ok client) :
    client ∈ s.clients ∧ client.deviceID = deviceID := by
  unfold getClientByDevice at found
  cases selected : Table.select s.clients Client.deviceID deviceID with
  | none => simp [selected] at found
  | some row =>
      simp only [selected, Except.ok.injEq] at found
      subst found
      exact (Table.select_eq_some s.clients_device).mp selected

/-- `GetClient`. -/
def getClient (s : Store) (id : String) : Except String Client :=
  match Table.select s.clients Client.id id with
  | none => .error errNoRows
  | some client => .ok client

/-- The device is listed in `revoked_devices`. -/
def isRevoked (s : Store) (deviceID : String) : Bool :=
  s.revokedDevices.any fun row => row.deviceID == deviceID

/-- The row `UpsertClient` inserts for a device it has not seen. -/
def helloRow (id tokenID : String) (hello : ClientHello) (now : Time) : Client where
  id := id
  name := hello.name
  deviceID := hello.deviceID
  tokenID := tokenID
  status := .online
  disabled := false
  ip := hello.ip
  os := hello.os
  version := hello.version
  lastOnline := now
  createdAt := now

/-- The error of `UpsertClient` when its statement changed no row. -/
def errDeviceBound : String := "device_id is bound to another token or has been revoked"

/-- The `INSERT … ON CONFLICT(device_id) DO UPDATE … WHERE clients.token_id = excluded.token_id`
of `UpsertClient`.  Nothing is selected for a revoked device; a row of the device is refreshed when
it belongs to the token and left alone otherwise; a new row has to name an existing token. -/
def insertClient (s : Store) (id tokenID : String) (hello : ClientHello) (now : Time) :
    Except String Store :=
  if s.isRevoked hello.deviceID then .error errDeviceBound
  else
    match Table.select s.clients Client.deviceID hello.deviceID with
    | some client =>
        if client.tokenID = tokenID then
          .ok (s.updateClients (fun row => row.deviceID == hello.deviceID)
            (fun row =>
              { row with
                name := hello.name
                status := .online
                ip := hello.ip
                os := hello.os
                version := hello.version
                lastOnline := now })
            fun _ => ⟨rfl, rfl, rfl⟩)
        else .error errDeviceBound
    | none =>
        if fresh : ∀ old ∈ s.clients, old.id ≠ id ∧ old.deviceID ≠ hello.deviceID then
          if known : ∃ token ∈ s.tokens, token.id = tokenID then
            .ok { s with
              clients := s.clients ++ [helloRow id tokenID hello now]
              clients_primary :=
                Table.nodup_insert s.clients_primary fun old member => (fresh old member).1
              clients_device :=
                Table.nodup_insert s.clients_device fun old member => (fresh old member).2
              clients_token := by
                intro client member
                rcases List.mem_append.mp member with old | new
                · exact s.clients_token client old
                · rw [List.mem_singleton] at new
                  exact new ▸ known
              tunnels_client := by
                intro tunnel member
                obtain ⟨client, present, same⟩ := s.tunnels_client tunnel member
                exact ⟨client, List.mem_append_left _ present, same⟩ }
          else .error "FOREIGN KEY constraint failed"
        else .error "UNIQUE constraint failed: clients.id"

/-- `UpsertClient`: the statement, then the row is read back. -/
def upsertClient (s : Store) (id tokenID : String) (hello : ClientHello) (now : Time) :
    Store × Except String Client :=
  match s.insertClient id tokenID hello now with
  | .error message => (s, .error message)
  | .ok s' => (s', s'.getClientByDevice hello.deviceID)

/-- `ListClientsByToken`. -/
def listClientsByToken (s : Store) (tokenID : String) : List Client :=
  Table.selectAll s.clients (fun client => client.tokenID == tokenID)
    fun a b => b.createdAt ≤ a.createdAt

/-- `SetClientStatus`. -/
def setClientStatus (s : Store) (id : String) (status : ClientStatus) (now : Time) :
    Except String Store :=
  if s.clients.any fun client => client.id == id then
    .ok (s.updateClients (fun client => client.id == id)
      (fun client => { client with status := status, lastOnline := now }) fun _ => ⟨rfl, rfl, rfl⟩)
  else .error errNotFound

/-- The first statement of `UpdateClient`. -/
def setClientName (s : Store) (id name : String) : Store :=
  s.updateClients (fun client => client.id == id) (fun client => { client with name := name })
    fun _ => ⟨rfl, rfl, rfl⟩

/-- `setClientDisabled`. -/
def setClientDisabled (s : Store) (id : String) (disabled : Bool) : Except String Store :=
  if s.clients.any fun client => client.id == id then
    .ok (s.updateClients (fun client => client.id == id)
      (fun client => { client with disabled := disabled }) fun _ => ⟨rfl, rfl, rfl⟩)
  else .error errNotFound

theorem mem_setClientName {s : Store} {id name : String} {client : Client}
    (member : client ∈ (s.setClientName id name).clients) :
    ∃ old ∈ s.clients, client.id = old.id ∧ client.disabled = old.disabled := by
  obtain ⟨old, present, rfl⟩ := Table.mem_update.mp member
  refine ⟨old, present, ?_⟩
  split <;> exact ⟨rfl, rfl⟩

/-- `setClientDisabled` assigns the flag of the client and of no other. -/
theorem mem_setClientDisabled {s s' : Store} {id : String} {flag : Bool} {client : Client}
    (written : s.setClientDisabled id flag = .ok s') (member : client ∈ s'.clients) :
    (client.id = id ∧ client.disabled = flag) ∨ (client.id ≠ id ∧ client ∈ s.clients) := by
  unfold setClientDisabled at written
  split at written
  · cases written
    obtain ⟨old, present, rfl⟩ := Table.mem_update.mp member
    by_cases hit : (old.id == id) = true
    · rw [if_pos hit]
      exact Or.inl ⟨by simpa using hit, rfl⟩
    · rw [if_neg hit]
      exact Or.inr ⟨by simpa using hit, present⟩
  · cases written

/-- `UpdateClient`: the name when one is given, then the flag when one is given. -/
def updateClient (s : Store) (id name : String) (disabled : Option Bool) :
    Store × Except String Unit :=
  let named := if name ≠ "" then s.setClientName id name else s
  match disabled with
  | some flag =>
      match named.setClientDisabled id flag with
      | .error message => (named, .error message)
      | .ok s' => (s', .ok ())
  | none =>
      if name = "" then (named, .error "no client changes supplied") else (named, .ok ())

/-- `RevokeClientDevice`. -/
def revokeClientDevice (s : Store) (id : String) (now : Time) : Except String Store :=
  match Table.select s.clients Client.id id with
  | none => .error errNotFound
  | some client =>
      .ok { s with
        revokedDevices :=
          if s.isRevoked client.deviceID then
            Table.update s.revokedDevices (fun row => row.deviceID == client.deviceID)
              fun row => { row with revokedAt := now }
          else s.revokedDevices ++ [⟨client.deviceID, now⟩] }

/-- `DeleteClient`, one transaction: the device is revoked, then the client and its tunnels go. -/
def deleteClient (s : Store) (id : String) (now : Time) : Except String Store :=
  match Table.select s.clients Client.id id with
  | none => .error errNotFound
  | some client =>
      let cleared := s.deleteClients fun row => row.id == id
      .ok { cleared with
        revokedDevices :=
          if s.isRevoked client.deviceID then s.revokedDevices
          else s.revokedDevices ++ [⟨client.deviceID, now⟩] }

/-- `UpdateClientToken`: the new token has to exist. -/
def updateClientToken (s : Store) (id tokenID : String) : Except String Store :=
  if s.clients.any fun client => client.id == id then
    if known : ∃ token ∈ s.tokens, token.id = tokenID then
      .ok { s with
        clients := Table.update s.clients (fun client => client.id == id)
          fun client => { client with tokenID := tokenID }
        clients_primary := by
          rw [Table.map_update]
          · exact s.clients_primary
          · exact fun _ => rfl
        clients_device := by
          rw [Table.map_update]
          · exact s.clients_device
          · exact fun _ => rfl
        clients_token := by
          intro client member
          obtain ⟨old, present, rfl⟩ := Table.mem_update.mp member
          split
          · exact known
          · exact s.clients_token old present
        tunnels_client := by
          intro tunnel member
          obtain ⟨client, present, same⟩ := s.tunnels_client tunnel member
          refine ⟨_, Table.mem_update.mpr ⟨client, present, rfl⟩, ?_⟩
          split <;> exact same }
    else .error "FOREIGN KEY constraint failed"
  else .error errNotFound

/-! ## `tunnels.go` -/

/-- `GetTunnel`. -/
def getTunnel (s : Store) (id : String) : Except String Tunnel :=
  match Table.select s.tunnels Tunnel.id id with
  | none => .error errNoRows
  | some tunnel => .ok tunnel

/-- `ListTunnels`. -/
def listTunnels (s : Store) : List Tunnel :=
  Table.selectAll s.tunnels (fun _ => true) fun a b => b.createdAt ≤ a.createdAt

/-- `ListClientTunnels`. -/
def listClientTunnels (s : Store) (clientID : String) : List Tunnel :=
  Table.selectAll s.tunnels (fun tunnel => tunnel.clientID == clientID)
    fun a b => a.createdAt ≤ b.createdAt

/-- `SetTunnelStatus`. -/
def setTunnelStatus (s : Store) (id : String) (status : TunnelStatus) (now : Time) :
    Except String Store :=
  if s.tunnels.any fun tunnel => tunnel.id == id then
    .ok (s.updateTunnels (fun tunnel => tunnel.id == id)
      (fun tunnel => { tunnel with status := status, updatedAt := now }) fun _ => rfl)
  else .error errNotFound

/-! ## Who may do what

The columns of `clients` that authorization reads.  Most statements leave them as they are, row by
row; the others are a new row, a flag, and deletions. -/

end Store

/-- The columns that identify a client and bind it to its token. -/
def Client.identity (client : Client) : String × String × String :=
  (client.id, client.deviceID, client.tokenID)

/-- The columns that authorization reads. -/
def Client.access (client : Client) : (String × String × String) × Bool :=
  (client.identity, client.disabled)

namespace Store

variable {s s' : Store} {id tokenID : String} {client : Client} {now : Time}

/-- The rows of the two databases correspond, and authorization does not tell them apart. -/
def SameAccess (s s' : Store) : Prop := s'.clients.map Client.access = s.clients.map Client.access

/-- The rows of the two databases correspond, up to their flags. -/
def SameIdentities (s s' : Store) : Prop :=
  s'.clients.map Client.identity = s.clients.map Client.identity

theorem SameAccess.identities (same : s.SameAccess s') : s.SameIdentities s' := by
  have projected := congrArg (List.map Prod.fst) same
  rw [List.map_map, List.map_map] at projected
  exact projected

theorem SameAccess.exists_old (same : s.SameAccess s') (member : client ∈ s'.clients) :
    ∃ old ∈ s.clients, old.access = client.access := by
  have image : client.access ∈ s'.clients.map Client.access := List.mem_map_of_mem member
  rw [same] at image
  exact List.mem_map.mp image

theorem SameIdentities.symm (same : s.SameIdentities s') : s'.SameIdentities s := Eq.symm same

theorem SameIdentities.exists_old (same : s.SameIdentities s') (member : client ∈ s'.clients) :
    ∃ old ∈ s.clients, old.identity = client.identity := by
  have image : client.identity ∈ s'.clients.map Client.identity := List.mem_map_of_mem member
  rw [same] at image
  exact List.mem_map.mp image

theorem setClientStatus_access {status : ClientStatus}
    (written : s.setClientStatus id status now = .ok s') :
    s.SameAccess s' ∧ s'.tokens = s.tokens := by
  unfold setClientStatus at written
  split at written
  · cases written
    exact ⟨Table.map_update fun _ => rfl, rfl⟩
  · cases written

theorem setClientName_access (s : Store) (id name : String) :
    s.SameAccess (s.setClientName id name) := Table.map_update fun _ => rfl

theorem setClientDisabled_identities {flag : Bool}
    (written : s.setClientDisabled id flag = .ok s') :
    s.SameIdentities s' ∧ s'.tokens = s.tokens := by
  unfold setClientDisabled at written
  split at written
  · cases written
    exact ⟨Table.map_update fun _ => rfl, rfl⟩
  · cases written

theorem setTunnelStatus_clients {status : TunnelStatus}
    (written : s.setTunnelStatus id status now = .ok s') :
    s'.clients = s.clients ∧ s'.tokens = s.tokens := by
  unfold setTunnelStatus at written
  split at written
  · cases written
    exact ⟨rfl, rfl⟩
  · cases written

/-- `setClientDisabled` found a row. -/
theorem exists_of_setClientDisabled {flag : Bool} (written : s.setClientDisabled id flag = .ok s') :
    ∃ client ∈ s.clients, client.id = id := by
  unfold setClientDisabled at written
  split at written
  · rename_i found
    obtain ⟨client, member, same⟩ := List.any_eq_true.mp found
    exact ⟨client, member, by simpa using same⟩
  · cases written

/-- `SetTokenDisabled` found a row, and assigns the flag of that token and of no other. -/
theorem setTokenDisabled_ok {flag : Bool} (written : s.setTokenDisabled id flag = .ok s') :
    (∃ row ∈ s.tokens, row.id = id) ∧ s'.clients = s.clients ∧
      ∀ row' ∈ s'.tokens, (row'.id = id ∧ row'.disabled = flag) ∨
        (row'.id ≠ id ∧ row' ∈ s.tokens) := by
  unfold setTokenDisabled at written
  split at written
  · rename_i found
    obtain ⟨row, member, same⟩ := List.any_eq_true.mp found
    cases written
    refine ⟨⟨row, member, by simpa using same⟩, rfl, fun row' member' => ?_⟩
    obtain ⟨old, present, rfl⟩ := Table.mem_update.mp member'
    by_cases hit : (old.id == id) = true
    · rw [if_pos hit]
      exact Or.inl ⟨by simpa using hit, rfl⟩
    · rw [if_neg hit]
      exact Or.inr ⟨by simpa using hit, present⟩
  · cases written

/-- `DeleteToken` removes the token and its clients. -/
theorem deleteToken_ok (written : s.deleteToken id = .ok s') :
    (∀ client, client ∈ s'.clients ↔ client ∈ s.clients ∧ client.tokenID ≠ id) ∧
      ∀ row, row ∈ s'.tokens ↔ row ∈ s.tokens ∧ row.id ≠ id := by
  unfold deleteToken at written
  split at written
  · cases written
    constructor
    · intro client
      show client ∈ Table.delete s.clients _ ↔ _
      rw [Table.mem_delete]
      simp
    · intro row
      show row ∈ Table.delete s.tokens _ ↔ _
      rw [Table.mem_delete]
      simp
  · cases written

/-- Recording the use of a token changes no flag. -/
theorem mem_touchToken {row' : TokenRow} (member : row' ∈ (s.touchToken id now).tokens) :
    ∃ row ∈ s.tokens, row.id = row'.id ∧ row.disabled = row'.disabled := by
  obtain ⟨row, present, rfl⟩ := Table.mem_update.mp member
  refine ⟨row, present, ?_⟩
  split <;> exact ⟨rfl, rfl⟩

/-- The statement of `UpsertClient` refreshes the row the token has for the device, or inserts a row
for a device that has none.  The device is not revoked, and the token exists. -/
theorem insertClient_ok {hello : ClientHello} (inserted : s.insertClient id tokenID hello now = .ok s') :
    s.isRevoked hello.deviceID = false ∧ s'.tokens = s.tokens ∧
      ((∃ client ∈ s.clients, client.deviceID = hello.deviceID ∧ client.tokenID = tokenID ∧
          s.SameAccess s') ∨
        ((∀ client ∈ s.clients, client.deviceID ≠ hello.deviceID) ∧
          (∃ row ∈ s.tokens, row.id = tokenID) ∧
          s'.clients = s.clients ++ [helloRow id tokenID hello now])) := by
  unfold insertClient at inserted
  split at inserted
  · cases inserted
  · rename_i allowed
    refine ⟨by simpa using allowed, ?_⟩
    split at inserted
    · rename_i client found
      obtain ⟨member, device⟩ := (Table.select_eq_some s.clients_device).mp found
      split at inserted
      · rename_i own
        cases inserted
        exact ⟨rfl, Or.inl ⟨client, member, device, own, Table.map_update fun _ => rfl⟩⟩
      · cases inserted
    · split at inserted
      · rename_i fresh
        split at inserted
        · rename_i known
          cases inserted
          exact ⟨rfl, Or.inr ⟨fun client member => (fresh client member).2, known, rfl⟩⟩
        · cases inserted
      · cases inserted

/-- After the statement of `UpsertClient` the device has a row, and it belongs to the token. -/
theorem exists_of_insertClient {hello : ClientHello}
    (inserted : s.insertClient id tokenID hello now = .ok s') :
    ∃ client ∈ s'.clients, client.deviceID = hello.deviceID ∧ client.tokenID = tokenID := by
  obtain ⟨-, -, ⟨client, member, device, own, same⟩ | ⟨-, -, appended⟩⟩ := insertClient_ok inserted
  · obtain ⟨new, present, identity⟩ := same.identities.symm.exists_old member
    simp only [Client.identity, Prod.mk.injEq] at identity
    exact ⟨new, present, identity.2.1.trans device, identity.2.2.trans own⟩
  · refine ⟨helloRow id tokenID hello now, ?_, rfl, rfl⟩
    rw [appended]
    exact List.mem_append_right _ (List.mem_singleton_self _)

end Store

end NryNet
