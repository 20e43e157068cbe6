import NryNet.Lib.Fallible
import NryNet.Storage.Tunnels

/-!
# The database (`internal/storage`)

The five tables that the store's operations keep together, and the statements that are sent to them.
SQLite executes a statement as a whole: when the rows it would leave behind violate a key or a
reference of the schema, the statement fails and nothing of it stays.  That is `execute`, and it is
the only way a table changes here.

The operations are those of the source, one by one.  An operation that issues several statements
outside a transaction keeps what the earlier ones did when a later one fails; inside a transaction
nothing is kept.  Identifiers that `uuid.NewString` returns and the time are supplied by the caller.
-/

namespace NryNet

open GoText

/-- A row of `traffic_logs`. -/
structure TrafficRow where
  tunnelID : String
  upload : ℤ
  download : ℤ
  createdAt : Time
  deriving DecidableEq, Repr

/-- The tables. -/
structure Database where
  tokens : List TokenRow
  clients : List Client
  revokedDevices : List RevokedDevice
  tunnels : List Tunnel
  trafficLogs : List TrafficRow
  deriving DecidableEq, Repr

namespace Database

/-- A freshly migrated database. -/
def empty : Database := ⟨[], [], [], [], []⟩

/-! ## The schema -/

/-- The rows that the index over protocols and domains looks at. -/
def domains (db : Database) : List (String × String) :=
  (db.tunnels.filter fun tunnel => tunnel.domain ≠ "").map fun tunnel =>
    (tunnel.protocol, tunnel.domain)

/-- The primary keys, the unique column and the unique index. -/
structure Unique (db : Database) : Prop where
  tokens : (db.tokens.map fun row => row.id).Nodup
  clients : (db.clients.map Client.id).Nodup
  devices : (db.clients.map Client.deviceID).Nodup
  revoked : (db.revokedDevices.map RevokedDevice.deviceID).Nodup
  tunnels : (db.tunnels.map Tunnel.id).Nodup
  domains : db.domains.Nodup

/-- The foreign keys. -/
structure Refers (db : Database) : Prop where
  token : ∀ client ∈ db.clients, ∃ token ∈ db.tokens, token.id = client.tokenID
  client : ∀ tunnel ∈ db.tunnels, ∃ client ∈ db.clients, client.id = tunnel.clientID
  tunnel : ∀ row ∈ db.trafficLogs, ∃ tunnel ∈ db.tunnels, tunnel.id = row.tunnelID

/-- The constraints of the schema. -/
structure Valid (db : Database) : Prop extends Unique db, Refers db

instance (db : Database) : Decidable db.Refers :=
  decidable_of_iff
    ((∀ client ∈ db.clients, ∃ token ∈ db.tokens, token.id = client.tokenID) ∧
      (∀ tunnel ∈ db.tunnels, ∃ client ∈ db.clients, client.id = tunnel.clientID) ∧
      ∀ row ∈ db.trafficLogs, ∃ tunnel ∈ db.tunnels, tunnel.id = row.tunnelID)
    ⟨fun ⟨token, client, tunnel⟩ => ⟨token, client, tunnel⟩,
      fun refers => ⟨refers.token, refers.client, refers.tunnel⟩⟩

/-- What SQLite complains about, if anything. -/
def violation (db : Database) : Option String :=
  if ¬(db.tokens.map fun row => row.id).Nodup then some "UNIQUE constraint failed: tokens.id"
  else if ¬(db.clients.map Client.id).Nodup then some "UNIQUE constraint failed: clients.id"
  else if ¬(db.clients.map Client.deviceID).Nodup then
    some "UNIQUE constraint failed: clients.device_id"
  else if ¬(db.revokedDevices.map RevokedDevice.deviceID).Nodup then
    some "UNIQUE constraint failed: revoked_devices.device_id"
  else if ¬(db.tunnels.map Tunnel.id).Nodup then some "UNIQUE constraint failed: tunnels.id"
  else if ¬db.domains.Nodup then
    some "UNIQUE constraint failed: tunnels.protocol, tunnels.domain"
  else if ¬db.Refers then some "FOREIGN KEY constraint failed"
  else none

theorem violation_eq_none {db : Database} : db.violation = none ↔ db.Valid := by
  constructor
  · intro fine
    unfold violation at fine
    split at fine
    · cases fine
    split at fine
    · cases fine
    split at fine
    · cases fine
    split at fine
    · cases fine
    split at fine
    · cases fine
    split at fine
    · cases fine
    split at fine
    · cases fine
    rename_i tokens clients devices revoked tunnels domains refers
    rw [not_not] at tokens clients devices revoked tunnels domains refers
    exact ⟨⟨tokens, clients, devices, revoked, tunnels, domains⟩, refers⟩
  · intro valid
    unfold violation
    rw [if_neg (not_not.mpr valid.tokens), if_neg (not_not.mpr valid.clients),
      if_neg (not_not.mpr valid.devices), if_neg (not_not.mpr valid.revoked),
      if_neg (not_not.mpr valid.tunnels), if_neg (not_not.mpr valid.domains),
      if_neg (not_not.mpr valid.toRefers)]

/-- The columns of a tunnel that the constraints look at. -/
def keys (tunnel : Tunnel) : String × String × String × String :=
  (tunnel.id, tunnel.clientID, tunnel.protocol, tunnel.domain)

/-- The constraints look at nothing else of the tunnels. -/
theorem violation_congr {db : Database} {tunnels : List Tunnel}
    (same : tunnels.map keys = db.tunnels.map keys) :
    ({ db with tunnels := tunnels } : Database).violation = db.violation := by
  have ids : tunnels.map Tunnel.id = db.tunnels.map Tunnel.id := by
    have projected := congrArg (List.map Prod.fst) same
    rwa [List.map_map, List.map_map] at projected
  have clients : tunnels.map Tunnel.clientID = db.tunnels.map Tunnel.clientID := by
    have projected := congrArg (List.map fun key => key.2.1) same
    rwa [List.map_map, List.map_map] at projected
  have indexed : ({ db with tunnels := tunnels } : Database).domains = db.domains := by
    have projected := congrArg
      (fun list => (list.filter fun key => key.2.2.2 ≠ "").map fun key => key.2.2) same
    simp only [List.filter_map, List.map_map] at projected
    exact projected
  have refers : ({ db with tunnels := tunnels } : Database).Refers ↔ db.Refers := by
    let known (id : String) : Prop := ∃ client ∈ db.clients, client.id = id
    have owners : (∀ tunnel ∈ tunnels, known tunnel.clientID) ↔
        ∀ tunnel ∈ db.tunnels, known tunnel.clientID := by
      rw [← List.forall_mem_map, clients, List.forall_mem_map]
    have present (id : String) :
        (∃ tunnel ∈ tunnels, tunnel.id = id) ↔ ∃ tunnel ∈ db.tunnels, tunnel.id = id := by
      rw [← List.mem_map, ids, List.mem_map]
    constructor
    · rintro ⟨token, client, tunnel⟩
      exact ⟨token, owners.mp client, fun row member => (present _).mp (tunnel row member)⟩
    · rintro ⟨token, client, tunnel⟩
      exact ⟨token, owners.mpr client, fun row member => (present _).mpr (tunnel row member)⟩
  unfold violation
  simp only [ids, indexed, refers]

theorem valid_empty : empty.Valid := by
  rw [← violation_eq_none]
  decide

/-! ## One more tunnel -/

section Append

variable {db : Database}

theorem domains_append (db : Database) (row : Tunnel) :
    ({ db with tunnels := db.tunnels ++ [row] } : Database).domains =
      db.domains ++ if row.domain = "" then [] else [(row.protocol, row.domain)] := by
  unfold domains
  rw [List.filter_append, List.map_append]
  by_cases empty : row.domain = "" <;> simp [empty]

/-- A row with a new identifier, of a client that is there, violates the index over the domains or
nothing. -/
theorem violation_append {row : Tunnel} (intact : db.Valid) (fresh : row.id ∉ db.tunnels.map Tunnel.id)
    (client : ∃ client ∈ db.clients, client.id = row.clientID) :
    ({ db with tunnels := db.tunnels ++ [row] } : Database).violation =
      if row.domain ≠ "" ∧ (row.protocol, row.domain) ∈ db.domains then
        some "UNIQUE constraint failed: tunnels.protocol, tunnels.domain"
      else none := by
  have ids : ((db.tunnels ++ [row]).map Tunnel.id).Nodup := by
    rw [List.map_append, List.map_singleton]
    exact List.nodup_append.mpr ⟨intact.tunnels, List.nodup_singleton _, fun id old other new =>
      (List.mem_singleton.mp new).symm ▸ fun same => fresh (same ▸ old)⟩
  have refers : ({ db with tunnels := db.tunnels ++ [row] } : Database).Refers := by
    refine ⟨intact.token, fun tunnel member => ?_, fun log member => ?_⟩
    · rcases List.mem_append.mp member with old | new
      · exact intact.client tunnel old
      · rw [List.mem_singleton.mp new]
        exact client
    · obtain ⟨tunnel, present, same⟩ := intact.tunnel log member
      exact ⟨tunnel, List.mem_append_left _ present, same⟩
  have indexed : ({ db with tunnels := db.tunnels ++ [row] } : Database).domains.Nodup ↔
      ¬ (row.domain ≠ "" ∧ (row.protocol, row.domain) ∈ db.domains) := by
    rw [domains_append]
    by_cases empty : row.domain = ""
    · rw [if_pos empty, List.append_nil]
      exact iff_of_true intact.domains fun filled => filled.1 empty
    · rw [if_neg empty, List.nodup_append]
      constructor
      · rintro ⟨-, -, apart⟩ ⟨-, held⟩
        exact apart _ held _ (List.mem_singleton_self _) rfl
      · intro free
        refine ⟨intact.domains, List.nodup_singleton _, fun pair old other new same => ?_⟩
        rw [List.mem_singleton.mp new] at same
        exact free ⟨empty, same ▸ old⟩
  unfold violation
  rw [if_neg (not_not.mpr intact.tokens), if_neg (not_not.mpr intact.clients),
    if_neg (not_not.mpr intact.devices), if_neg (not_not.mpr intact.revoked),
    if_neg (not_not.mpr ids), if_neg (not_not.mpr refers)]
  by_cases held : row.domain ≠ "" ∧ (row.protocol, row.domain) ∈ db.domains
  · rw [if_pos held, if_pos (fun nodup => indexed.mp nodup held)]
  · rw [if_neg held, if_neg (not_not.mpr (indexed.mpr held))]

end Append

/-! ## Statements -/

/-- One statement: the tables it would leave and the number of rows it touches. -/
def execute (change : Database → Database × ℕ) : Fallible Database String ℕ := fun db =>
  match (change db).1.violation with
  | some message => (db, .error message)
  | none => ((change db).1, .ok (change db).2)

variable {db : Database} {change : Database → Database × ℕ}

theorem execute_ok (valid : (change db).1.Valid) :
    execute change db = ((change db).1, .ok (change db).2) := by
  unfold execute
  rw [violation_eq_none.mpr valid]

/-- A statement that touches nothing. -/
theorem execute_idle (valid : db.Valid) (idle : (change db).1 = db) :
    execute change db = (db, .ok (change db).2) := by
  rw [execute_ok (by rw [idle]; exact valid), idle]

/-- A statement that would violate a constraint fails and changes nothing. -/
theorem execute_fails (invalid : ¬(change db).1.Valid) :
    ∃ message, execute change db = (db, .error message) := by
  unfold execute
  cases complaint : (change db).1.violation with
  | none => exact absurd (violation_eq_none.mp complaint) invalid
  | some message => exact ⟨message, rfl⟩

/-- `UPDATE tokens …`. -/
def updateTokens (hit : TokenRow → Bool) (set : TokenRow → TokenRow) : Fallible Database String ℕ :=
  execute fun db => ({ db with tokens := Table.update db.tokens hit set }, db.tokens.countP hit)

/-- `UPDATE clients …`. -/
def updateClients (hit : Client → Bool) (set : Client → Client) : Fallible Database String ℕ :=
  execute fun db => ({ db with clients := Table.update db.clients hit set }, db.clients.countP hit)

/-- `UPDATE tunnels …`. -/
def updateTunnels (hit : Tunnel → Bool) (set : Tunnel → Tunnel) : Fallible Database String ℕ :=
  execute fun db => ({ db with tunnels := Table.update db.tunnels hit set }, db.tunnels.countP hit)

/-- `DELETE FROM tokens …`. -/
def deleteTokens (hit : TokenRow → Bool) : Fallible Database String ℕ :=
  execute fun db => ({ db with tokens := Table.delete db.tokens hit }, db.tokens.countP hit)

/-- `DELETE FROM clients …`. -/
def deleteClients (hit : Client → Bool) : Fallible Database String ℕ :=
  execute fun db => ({ db with clients := Table.delete db.clients hit }, db.clients.countP hit)

/-- `DELETE FROM tunnels …`; the condition may look at the other tables. -/
def deleteTunnels (hit : Database → Tunnel → Bool) : Fallible Database String ℕ :=
  execute fun db =>
    ({ db with tunnels := Table.delete db.tunnels (hit db) }, db.tunnels.countP (hit db))

/-- `DELETE FROM traffic_logs …`. -/
def deleteTrafficLogs (hit : Database → TrafficRow → Bool) : Fallible Database String ℕ :=
  execute fun db =>
    ({ db with trafficLogs := Table.delete db.trafficLogs (hit db) },
      db.trafficLogs.countP (hit db))

/-- `INSERT INTO tokens …`. -/
def insertToken (row : TokenRow) : Fallible Database String ℕ :=
  execute fun db => ({ db with tokens := db.tokens ++ [row] }, 1)

/-- `INSERT INTO tunnels …`. -/
def insertTunnel (row : Tunnel) : Fallible Database String ℕ :=
  execute fun db => ({ db with tunnels := db.tunnels ++ [row] }, 1)

/-- `INSERT INTO traffic_logs …`. -/
def insertTraffic (row : TrafficRow) : Fallible Database String ℕ :=
  execute fun db => ({ db with trafficLogs := db.trafficLogs ++ [row] }, 1)

/-- The device is listed in `revoked_devices`. -/
def isRevoked (db : Database) (deviceID : String) : Bool :=
  db.revokedDevices.any fun row => row.deviceID == deviceID

/-- The columns that a hello refreshes in the row of its device. -/
def refreshed (hello : ClientHello) (now : Time) (row : Client) : Client :=
  { row with
    name := hello.name
    status := .online
    ip := hello.ip
    os := hello.os
    version := hello.version
    lastOnline := now }

/-- What `INSERT INTO clients … WHERE NOT EXISTS … ON CONFLICT(device_id) DO UPDATE … WHERE …` does:
nothing for a revoked device, a refresh of the row of the device when the row belongs to the token, and
a new row for a device that has none. -/
def helloChange (id tokenID : String) (hello : ClientHello) (now : Time) (db : Database) :
    Database × ℕ :=
  if db.isRevoked hello.deviceID then (db, 0)
  else if db.clients.any fun row => row.deviceID == hello.deviceID then
    let hit := fun row : Client => row.deviceID == hello.deviceID && row.tokenID == tokenID
    ({ db with clients := Table.update db.clients hit (refreshed hello now) }, db.clients.countP hit)
  else ({ db with clients := db.clients ++ [Store.helloRow id tokenID hello now] }, 1)

/-- The statement of `UpsertClient`. -/
def insertClient (id tokenID : String) (hello : ClientHello) (now : Time) :
    Fallible Database String ℕ :=
  execute (helloChange id tokenID hello now)

/-- `INSERT INTO revoked_devices SELECT device_id, ? FROM clients WHERE id = ?`, with what is done
about a device that is listed already. -/
def insertRevoked (id : String) (now : Time) (conflict : RevokedDevice → RevokedDevice) (touched : ℕ) :
    Fallible Database String ℕ :=
  execute fun db =>
    match Table.select db.clients Client.id id with
    | none => (db, 0)
    | some client =>
        if db.isRevoked client.deviceID then
          ({ db with
              revokedDevices :=
                Table.update db.revokedDevices (fun row => row.deviceID == client.deviceID) conflict },
            touched)
        else ({ db with revokedDevices := db.revokedDevices ++ [⟨client.deviceID, now⟩] }, 1)

/-! ## `tokens.go` -/

/-- `requireChanged`. -/
def requireChanged (count : ℕ) : Fallible Database String Unit :=
  if count = 0 then Fallible.abort Store.errNotFound else pure ()

/-- A statement that has to touch a row: it fails and changes nothing, or it is executed. -/
theorem changed_cases (idle : (change db).2 = 0 → (change db).1 = db) :
    (∃ message, (execute change >>= requireChanged) db = (db, .error message)) ∨
      (change db).1.Valid ∧ (change db).2 ≠ 0 ∧
        (execute change >>= requireChanged) db = ((change db).1, .ok ()) := by
  by_cases intact : (change db).1.Valid
  · rw [Fallible.bind_ok (execute_ok intact)]
    unfold requireChanged
    by_cases none : (change db).2 = 0
    · rw [if_pos none, idle none]
      exact Or.inl ⟨_, rfl⟩
    · rw [if_neg none]
      exact Or.inr ⟨intact, none, rfl⟩
  · obtain ⟨message, failed⟩ := execute_fails intact
    exact Or.inl ⟨message, Fallible.bind_error failed⟩

/-- `CreateAgentToken`, with the identifier and the secret it draws. -/
def createAgentToken (name id tokenPrefix secretHash : String) (now : Time) :
    Fallible Database String Unit := do
  if name = "" then Fallible.abort "token name is required"
  else
    let _ ← insertToken ⟨⟨id, name, tokenPrefix, false, none, now⟩, secretHash⟩
    pure ()

/-- `UPDATE tokens SET last_used = ? WHERE id = ?` of `AuthenticateAgent`, whose error is dropped. -/
def touchToken (id : String) (now : Time) : Fallible Database String Unit := do
  let _ ← updateTokens (fun row => row.id == id) fun row => { row with lastUsed := some now }
  pure ()

/-- `SetTokenDisabled`. -/
def setTokenDisabled (id : String) (disabled : Bool) : Fallible Database String Unit := do
  let count ← updateTokens (fun row => row.id == id) fun row => { row with disabled := disabled }
  requireChanged count

/-- `DeleteToken`. -/
def deleteToken (id : String) : Fallible Database String Unit := Fallible.transaction do
  let _ ← deleteTrafficLogs fun db row =>
    db.tunnels.any fun tunnel => tunnel.id == row.tunnelID &&
      db.clients.any fun client => client.id == tunnel.clientID && client.tokenID == id
  let _ ← deleteTunnels fun db tunnel =>
    db.clients.any fun client => client.tokenID == id && client.id == tunnel.clientID
  let _ ← deleteClients fun client => client.tokenID == id
  let count ← deleteTokens fun row => row.id == id
  requireChanged count

/-! ## `clients.go` -/

/-- `GetClientByDevice`. -/
def getClientByDevice (deviceID : String) : Fallible Database String Client := fun db =>
  match Table.select db.clients Client.deviceID deviceID with
  | none => (db, .error Store.errNoRows)
  | some client => (db, .ok client)

/-- `UpsertClient`. -/
def upsertClient (id tokenID : String) (hello : ClientHello) (now : Time) :
    Fallible Database String Client := do
  let count ← insertClient id tokenID hello now
  Fallible.reporting (fun _ => Store.errDeviceBound) (requireChanged count)
  getClientByDevice hello.deviceID

/-- `SetClientStatus`. -/
def setClientStatus (id : String) (status : ClientStatus) (now : Time) :
    Fallible Database String Unit := do
  let count ← updateClients (fun client => client.id == id)
    fun client => { client with status := status, lastOnline := now }
  requireChanged count

/-- `setClientDisabled`. -/
def setClientDisabled (id : String) (disabled : Bool) : Fallible Database String Unit := do
  let count ← updateClients (fun client => client.id == id)
    fun client => { client with disabled := disabled }
  requireChanged count

/-- `UpdateClient`. -/
def updateClient (id name : String) (disabled : Option Bool) : Fallible Database String Unit := do
  if name ≠ "" then
    let _ ← updateClients (fun client => client.id == id) fun client => { client with name := name }
  match disabled with
  | some flag => setClientDisabled id flag
  | none => if name = "" then Fallible.abort "no client changes supplied" else pure ()

/-- `DeleteClient`. -/
def deleteClient (id : String) (now : Time) : Fallible Database String Unit := Fallible.transaction do
  let _ ← insertRevoked id now (fun row => row) 0
  let _ ← deleteTrafficLogs fun db row =>
    db.tunnels.any fun tunnel => tunnel.id == row.tunnelID && tunnel.clientID == id
  let _ ← deleteTunnels fun _ tunnel => tunnel.clientID == id
  let count ← deleteClients fun client => client.id == id
  requireChanged count

/-- `RevokeClientDevice`. -/
def revokeClientDevice (id : String) (now : Time) : Fallible Database String Unit := do
  let count ← insertRevoked id now (fun row => { row with revokedAt := now }) 1
  requireChanged count

/-- `UpdateClientToken`. -/
def updateClientToken (id tokenID : String) : Fallible Database String Unit := do
  let count ← updateClients (fun client => client.id == id)
    fun client => { client with tokenID := tokenID }
  requireChanged count

/-! ## `tunnels.go` -/

section Tunnels

variable [CaseTable]

/-- `GetTunnel`. -/
def getTunnel (id : String) : Fallible Database String Tunnel := fun db =>
  match Table.select db.tunnels Tunnel.id id with
  | none => (db, .error Store.errNoRows)
  | some tunnel => (db, .ok tunnel)

/-- The checks, as a step of an operation. -/
def validated (tunnel : Tunnel) : Fallible Database String Unit :=
  match validateTunnel tunnel with
  | .error message => Fallible.abort message
  | .ok _ => pure ()

/-- `CreateTunnel`. -/
def createTunnel (tunnel : Tunnel) (id uuid : String) (now : Time) :
    Fallible Database String Tunnel := do
  validated tunnel
  let _ ← insertTunnel (tunnel.created id uuid now)
  pure (tunnel.created id uuid now)

/-- What `UpdateTunnel` does about the visitor token: the row is read if the request has none. -/
def updatedVisitorToken (tunnel : Tunnel) (uuid : String) : Fallible Database String String :=
  if toLower tunnel.protocol = "visitor_webrtc" then
    if tunnel.visitorToken = "" then do
      let current ← getTunnel tunnel.id
      pure (newVisitorToken current.visitorToken uuid)
    else pure (newVisitorToken tunnel.visitorToken uuid)
  else pure tunnel.visitorToken

/-- `UpdateTunnel`. -/
def updateTunnel (tunnel : Tunnel) (uuid : String) (now : Time) :
    Fallible Database String Tunnel := do
  validated tunnel
  let visitorToken ← updatedVisitorToken tunnel uuid
  let count ← updateTunnels (fun row => row.id == tunnel.id)
    fun row => tunnel.updated row visitorToken now
  requireChanged count
  getTunnel tunnel.id

/-- The tables with the columns that `UpdateTunnel` assigns. -/
def withTunnel (db : Database) (tunnel : Tunnel) (visitorToken : String) (now : Time) : Database :=
  { db with
    tunnels := Table.update db.tunnels (fun row => row.id == tunnel.id)
      fun row => tunnel.updated row visitorToken now }

variable {tunnel row : Tunnel} {now : Time}

/-- No constraint looks at the visitor token. -/
theorem violation_withTunnel (visitorToken visitorToken' : String) :
    (db.withTunnel tunnel visitorToken now).violation =
      (db.withTunnel tunnel visitorToken' now).violation := by
  refine @violation_congr (db.withTunnel tunnel visitorToken' now) _ ?_
  unfold withTunnel Table.update
  rw [List.map_map, List.map_map]
  refine List.map_congr_left fun old _ => ?_
  simp only [Function.comp_apply]
  split <;> rfl

theorem validated_ok (valid : validateTunnel tunnel = .ok ()) (db : Database) :
    validated tunnel db = (db, .ok ()) := by
  unfold validated
  rw [valid]
  rfl

/-- `CreateTunnel` of a request that does not pass the checks. -/
theorem createTunnel_of_error {id uuid message : String} (invalid : validateTunnel tunnel = .error message) :
    createTunnel tunnel id uuid now db = (db, .error message) := by
  have failed : validated tunnel db = (db, .error message) := by
    unfold validated
    rw [invalid]
    rfl
  unfold createTunnel
  exact Fallible.bind_error failed

/-- `CreateTunnel` of a request that passes the checks: the statement fails, … -/
theorem createTunnel_of_violation {id uuid message : String} (valid : validateTunnel tunnel = .ok ())
    (violated : ({ db with tunnels := db.tunnels ++ [tunnel.created id uuid now] } : Database).violation =
      some message) :
    createTunnel tunnel id uuid now db = (db, .error message) := by
  have failed : insertTunnel (tunnel.created id uuid now) db = (db, .error message) := by
    unfold insertTunnel execute
    simp only [violated]
  unfold createTunnel
  rw [Fallible.bind_ok (validated_ok valid db), Fallible.bind_error failed]

/-- … or adds the row. -/
theorem createTunnel_of_valid {id uuid : String} (valid : validateTunnel tunnel = .ok ())
    (intact : ({ db with tunnels := db.tunnels ++ [tunnel.created id uuid now] } : Database).violation =
      none) :
    createTunnel tunnel id uuid now db =
      ({ db with tunnels := db.tunnels ++ [tunnel.created id uuid now] },
        .ok (tunnel.created id uuid now)) := by
  have written : insertTunnel (tunnel.created id uuid now) db =
      ({ db with tunnels := db.tunnels ++ [tunnel.created id uuid now] }, .ok 1) :=
    execute_ok (violation_eq_none.mp intact)
  unfold createTunnel
  rw [Fallible.bind_ok (validated_ok valid db), Fallible.bind_ok written]
  rfl

/-- `CreateTunnel` fails and changes nothing, or it adds the row. -/
theorem createTunnel_cases (tunnel : Tunnel) (id uuid : String) (now : Time) (db : Database) :
    (∃ message, createTunnel tunnel id uuid now db = (db, .error message)) ∨
      (validateTunnel tunnel = .ok () ∧
        ({ db with tunnels := db.tunnels ++ [tunnel.created id uuid now] } : Database).violation =
          none ∧
        createTunnel tunnel id uuid now db =
          ({ db with tunnels := db.tunnels ++ [tunnel.created id uuid now] },
            .ok (tunnel.created id uuid now))) := by
  cases checked : validateTunnel tunnel with
  | error message => exact Or.inl ⟨message, createTunnel_of_error checked⟩
  | ok _ =>
      cases complaint :
          ({ db with tunnels := db.tunnels ++ [tunnel.created id uuid now] } : Database).violation with
      | some message => exact Or.inl ⟨message, createTunnel_of_violation checked complaint⟩
      | none => exact Or.inr ⟨rfl, rfl, createTunnel_of_valid checked complaint⟩

theorem updatedVisitorToken_ok (found : Table.select db.tunnels Tunnel.id tunnel.id = some row)
    (uuid : String) :
    updatedVisitorToken tunnel uuid db = (db, .ok (tunnel.nextVisitorToken row uuid)) := by
  have read : getTunnel tunnel.id db = (db, .ok row) := by
    unfold getTunnel
    rw [found]
  unfold updatedVisitorToken Tunnel.nextVisitorToken
  split
  · split
    · exact Fallible.bind_ok read
    · rfl
  · rfl

theorem select_withTunnel (found : Table.select db.tunnels Tunnel.id tunnel.id = some row)
    {visitorToken : String} :
    Table.select (db.withTunnel tunnel visitorToken now).tunnels Tunnel.id tunnel.id =
      some (tunnel.updated row visitorToken now) := by
  have named : row.id = tunnel.id := by simpa using List.find?_some found
  have updated : Table.select (db.withTunnel tunnel visitorToken now).tunnels Tunnel.id tunnel.id =
      (Table.select db.tunnels Tunnel.id tunnel.id).map fun row =>
        if row.id == tunnel.id then tunnel.updated row visitorToken now else row :=
    Table.select_update fun _ => rfl
  rw [updated, found]
  simp [named]

/-- `UpdateTunnel`, of a tunnel that is there: it fails and changes nothing when the request is not valid
or a constraint would be violated, and it writes the columns otherwise. -/
theorem updateTunnel_cases (found : Table.select db.tunnels Tunnel.id tunnel.id = some row)
    (uuid : String) (now : Time) :
    ((validateTunnel tunnel ≠ .ok () ∨
        (db.withTunnel tunnel tunnel.visitorToken now).violation ≠ none) ∧
      ∃ message, updateTunnel tunnel uuid now db = (db, .error message)) ∨
    (validateTunnel tunnel = .ok () ∧
      (db.withTunnel tunnel tunnel.visitorToken now).violation = none ∧
      (db.withTunnel tunnel (tunnel.nextVisitorToken row uuid) now).violation = none ∧
      updateTunnel tunnel uuid now db =
        (db.withTunnel tunnel (tunnel.nextVisitorToken row uuid) now,
          .ok (tunnel.updated row (tunnel.nextVisitorToken row uuid) now))) := by
  unfold updateTunnel
  cases checked : validateTunnel tunnel with
  | error message =>
      have failed : validated tunnel db = (db, .error message) := by
        unfold validated
        rw [checked]
        rfl
      exact Or.inl ⟨Or.inl nofun, message, Fallible.bind_error failed⟩
  | ok _ =>
      have passed : validated tunnel db = (db, .ok ()) := by
        unfold validated
        rw [checked]
        rfl
      rw [Fallible.bind_ok passed]
      rw [Fallible.bind_ok (updatedVisitorToken_ok found uuid)]
      generalize tunnel.nextVisitorToken row uuid = visitorToken
      have same : (db.withTunnel tunnel tunnel.visitorToken now).violation =
          (db.withTunnel tunnel visitorToken now).violation := violation_withTunnel _ _
      by_cases intact : (db.withTunnel tunnel visitorToken now).Valid
      · have fine := violation_eq_none.mpr intact
        refine Or.inr ⟨rfl, same.trans fine, fine, ?_⟩
        obtain ⟨member, named⟩ : row ∈ db.tunnels ∧ row.id = tunnel.id :=
          ⟨List.mem_of_find?_eq_some found, by simpa using List.find?_some found⟩
        have written : updateTunnels (fun row => row.id == tunnel.id)
            (fun row => tunnel.updated row visitorToken now) db =
              (db.withTunnel tunnel visitorToken now,
                .ok (db.tunnels.countP fun row => row.id == tunnel.id)) := execute_ok intact
        have hit : (db.tunnels.countP fun row => row.id == tunnel.id) ≠ 0 := by
          rw [Ne, List.countP_eq_zero]
          exact fun none => none row member (beq_iff_eq.mpr named)
        rw [Fallible.bind_ok written]
        have changed : requireChanged (db.tunnels.countP fun row => row.id == tunnel.id)
            (db.withTunnel tunnel visitorToken now) = (db.withTunnel tunnel visitorToken now, .ok ()) := by
          unfold requireChanged
          rw [if_neg hit]
          rfl
        rw [Fallible.bind_ok changed]
        unfold getTunnel
        rw [select_withTunnel found]
      · obtain ⟨message, failed⟩ : ∃ message, updateTunnels (fun row => row.id == tunnel.id)
            (fun row => tunnel.updated row visitorToken now) db = (db, .error message) :=
          execute_fails intact
        refine Or.inl ⟨Or.inr ?_, message, Fallible.bind_error failed⟩
        rw [same]
        exact fun fine => intact (violation_eq_none.mp fine)

end Tunnels

/-- `SetTunnelStatus`. -/
def setTunnelStatus (id : String) (status : TunnelStatus) (now : Time) :
    Fallible Database String Unit := do
  let count ← updateTunnels (fun tunnel => tunnel.id == id)
    fun tunnel => { tunnel with status := status, updatedAt := now }
  requireChanged count

/-- `DeleteTunnel`. -/
def deleteTunnel (id : String) : Fallible Database String Unit := do
  let count ← deleteTunnels fun _ tunnel => tunnel.id == id
  requireChanged count

end Database

/-! ## `traffic.go` -/

/-- `storage.TrafficDelta`. -/
structure TrafficDelta where
  tunnelID : String
  upload : ℤ
  download : ℤ
  deriving DecidableEq, Repr

namespace Database

/-- `RecordTraffic`. -/
def recordTraffic (item : TrafficDelta) (now : Time) : Fallible Database String Unit := do
  if item.upload < 0 ∨ item.download < 0 then Fallible.abort "traffic values cannot be negative"
  else if item.upload = 0 ∧ item.download = 0 then pure ()
  else
    let _ ← insertTraffic ⟨item.tunnelID, item.upload, item.download, now⟩
    pure ()

/-- One round of the loop of `RecordTrafficBatch`. -/
def insertDelta (now : Time) (item : TrafficDelta) : Fallible Database String Unit :=
  if item.upload = 0 ∧ item.download = 0 then pure ()
  else do
    let _ ← insertTraffic ⟨item.tunnelID, item.upload, item.download, now⟩
    pure ()

/-- `RecordTrafficBatch`. -/
def recordTrafficBatch (items : List TrafficDelta) (now : Time) : Fallible Database String Unit :=
  if items = [] then pure ()
  else if ∃ item ∈ items, item.tunnelID = "" ∨ item.upload < 0 ∨ item.download < 0 then
    Fallible.abort "invalid traffic delta"
  else Fallible.transaction (Fallible.each (insertDelta now) items)

end Database

/-! ## Sequences of operations -/

/-- An operation of the store, with the identifiers and the time it is given. -/
inductive Operation where
  | createAgentToken (name id tokenPrefix secretHash : String) (now : Time)
  | touchToken (id : String) (now : Time)
  | setTokenDisabled (id : String) (disabled : Bool)
  | deleteToken (id : String)
  | upsertClient (id tokenID : String) (hello : ClientHello) (now : Time)
  | setClientStatus (id : String) (status : ClientStatus) (now : Time)
  | updateClient (id name : String) (disabled : Option Bool)
  | deleteClient (id : String) (now : Time)
  | revokeClientDevice (id : String) (now : Time)
  | updateClientToken (id tokenID : String)
  | createTunnel (tunnel : Tunnel) (id uuid : String) (now : Time)
  | updateTunnel (tunnel : Tunnel) (uuid : String) (now : Time)
  | setTunnelStatus (id : String) (status : TunnelStatus) (now : Time)
  | deleteTunnel (id : String)
  | recordTraffic (item : TrafficDelta) (now : Time)
  | recordTrafficBatch (items : List TrafficDelta) (now : Time)
  deriving Repr

namespace Operation

variable [CaseTable]

/-- The operation; what it returns besides success is dropped. -/
def perform : Operation → Fallible Database String Unit
  | createAgentToken name id tokenPrefix secretHash now =>
      Database.createAgentToken name id tokenPrefix secretHash now
  | touchToken id now => Database.touchToken id now
  | setTokenDisabled id disabled => Database.setTokenDisabled id disabled
  | deleteToken id => Database.deleteToken id
  | upsertClient id tokenID hello now => do
      let _ ← Database.upsertClient id tokenID hello now
      pure ()
  | setClientStatus id status now => Database.setClientStatus id status now
  | updateClient id name disabled => Database.updateClient id name disabled
  | deleteClient id now => Database.deleteClient id now
  | revokeClientDevice id now => Database.revokeClientDevice id now
  | updateClientToken id tokenID => Database.updateClientToken id tokenID
  | createTunnel tunnel id uuid now => do
      let _ ← Database.createTunnel tunnel id uuid now
      pure ()
  | updateTunnel tunnel uuid now => do
      let _ ← Database.updateTunnel tunnel uuid now
      pure ()
  | setTunnelStatus id status now => Database.setTunnelStatus id status now
  | deleteTunnel id => Database.deleteTunnel id
  | recordTraffic item now => Database.recordTraffic item now
  | recordTrafficBatch items now => Database.recordTrafficBatch items now

/-- The tables after a sequence of operations, whatever each of them answered. -/
def runAll (operations : List Operation) (db : Database) : Database :=
  operations.foldl (fun db operation => (operation.perform db).1) db

end Operation

/-! ## What an operation keeps

Two operations write the columns that bind a device to its token: `UpsertClient`, which may add a row,
and `UpdateClientToken`.  The others leave these columns as they are in every row they do not delete,
and no operation takes a device off the list of the revoked. -/

namespace Database

open Fallible

variable {db₀ db : Database} {change : Database → Database × ℕ}

/-- The constraints hold, the bindings are among those of the earlier database, and what was revoked
there is revoked. -/
structure Kept (db₀ db : Database) : Prop where
  valid : db.Valid
  bindings : (db.clients.map Client.identity).Sublist (db₀.clients.map Client.identity)
  revoked : ∀ device, db₀.isRevoked device = true → db.isRevoked device = true

theorem Kept.refl (valid : db.Valid) : Kept db db :=
  ⟨valid, List.Sublist.refl _, fun _ listed => listed⟩

/-- The program keeps the constraints, the bindings and the list of the revoked. -/
def Keeps {α : Type} (program : Fallible Database String α) : Prop :=
  ∀ db₀, Triple (Kept db₀) program (fun _ => Kept db₀) (Kept db₀)

namespace Keeps

variable {α β : Type}

theorem kept {program : Fallible Database String α} (keeps : Keeps program) (valid : db.Valid) :
    Kept db (program db).1 := by
  rcases (keeps db).cases (Kept.refl valid) rfl with ⟨value, -, kept⟩ | ⟨-, kept⟩
  · exact kept
  · exact kept

theorem bind {program : Fallible Database String α} {next : α → Fallible Database String β}
    (first : Keeps program) (second : ∀ value, Keeps (next value)) : Keeps (program >>= next) :=
  fun db₀ => Triple.bind (first db₀) fun value => second value db₀

theorem pure (value : α) : Keeps (Pure.pure value) :=
  fun _ => Triple.pure fun _ kept => kept

theorem abort (message : String) : Keeps (Fallible.abort message : Fallible Database String α) :=
  fun _ => Triple.abort fun _ kept => kept

theorem transaction {program : Fallible Database String α} (keeps : Keeps program) :
    Keeps (Fallible.transaction program) :=
  fun db₀ => Triple.transaction (keeps db₀)

/-- A program that only reads. -/
theorem read {program : Fallible Database String α} (reads : ∀ db, (program db).1 = db) :
    Keeps program := by
  intro db₀ db kept
  have same := reads db
  cases outcome : program db with
  | mk left result =>
      rw [outcome] at same
      cases same
      cases result with
      | error message => exact kept
      | ok value => exact kept

theorem execute
    (bindings : ∀ db, ((change db).1.clients.map Client.identity).Sublist
      (db.clients.map Client.identity))
    (revoked : ∀ db device, db.isRevoked device = true → (change db).1.isRevoked device = true) :
    Keeps (Database.execute change) := by
  intro db₀ db kept
  unfold Database.execute
  cases complaint : (change db).1.violation with
  | some message => exact kept
  | none =>
      exact ⟨violation_eq_none.mp complaint, (bindings db).trans kept.bindings,
        fun device listed => revoked db device (kept.revoked device listed)⟩

/-- A statement over tokens, tunnels or traffic. -/
theorem execute_other (clients : ∀ db, (change db).1.clients = db.clients)
    (revoked : ∀ db, (change db).1.revokedDevices = db.revokedDevices) :
    Keeps (Database.execute change) := by
  refine execute (fun db => ?_) fun db device listed => ?_
  · rw [clients db]
  · unfold isRevoked
    rw [revoked db]
    exact listed

theorem updateTokens (hit : TokenRow → Bool) (set : TokenRow → TokenRow) :
    Keeps (Database.updateTokens hit set) := execute_other (fun _ => rfl) fun _ => rfl

theorem updateTunnels (hit : Tunnel → Bool) (set : Tunnel → Tunnel) :
    Keeps (Database.updateTunnels hit set) := execute_other (fun _ => rfl) fun _ => rfl

theorem deleteTokens (hit : TokenRow → Bool) : Keeps (Database.deleteTokens hit) :=
  execute_other (fun _ => rfl) fun _ => rfl

theorem deleteTunnels (hit : Database → Tunnel → Bool) : Keeps (Database.deleteTunnels hit) :=
  execute_other (fun _ => rfl) fun _ => rfl

theorem deleteTrafficLogs (hit : Database → TrafficRow → Bool) :
    Keeps (Database.deleteTrafficLogs hit) := execute_other (fun _ => rfl) fun _ => rfl

theorem insertToken (row : TokenRow) : Keeps (Database.insertToken row) :=
  execute_other (fun _ => rfl) fun _ => rfl

theorem insertTunnel (row : Tunnel) : Keeps (Database.insertTunnel row) :=
  execute_other (fun _ => rfl) fun _ => rfl

theorem insertTraffic (row : TrafficRow) : Keeps (Database.insertTraffic row) :=
  execute_other (fun _ => rfl) fun _ => rfl

theorem updateClients {hit : Client → Bool} {set : Client → Client}
    (same : ∀ row, (set row).identity = row.identity) : Keeps (Database.updateClients hit set) := by
  refine execute (fun db => ?_) fun _ _ listed => listed
  rw [Table.map_update same]

theorem deleteClients (hit : Client → Bool) : Keeps (Database.deleteClients hit) :=
  execute (fun _ => List.filter_sublist.map Client.identity) fun _ _ listed => listed

theorem insertRevoked {id : String} {now : Time} {conflict : RevokedDevice → RevokedDevice}
    {touched : ℕ} (same : ∀ row, (conflict row).deviceID = row.deviceID) :
    Keeps (Database.insertRevoked id now conflict touched) := by
  refine execute (fun db => ?_) fun db device listed => ?_
  · split
    · exact List.Sublist.refl _
    · split <;> exact List.Sublist.refl _
  · split
    · exact listed
    · unfold isRevoked at listed ⊢
      obtain ⟨row, member, equal⟩ := List.any_eq_true.mp listed
      split
      · -- the row of the device may have been rewritten, under the same key
        refine List.any_eq_true.mpr ⟨_, Table.mem_update.mpr ⟨row, member, rfl⟩, ?_⟩
        split
        · rw [same]
          exact equal
        · exact equal
      · exact List.any_eq_true.mpr ⟨row, List.mem_append_left _ member, equal⟩

theorem requireChanged (count : ℕ) : Keeps (Database.requireChanged count) := by
  unfold Database.requireChanged
  split
  · exact abort _
  · exact pure _

theorem each {α : Type} {body : α → Fallible Database String Unit} {items : List α}
    (keeps : ∀ item, Keeps (body item)) : Keeps (Fallible.each body items) :=
  fun db₀ => Triple.each fun item _ => keeps item db₀

theorem getTunnel (id : String) : Keeps (Database.getTunnel id) := by
  refine read fun db => ?_
  unfold Database.getTunnel
  split <;> rfl

/-! One lemma per operation. -/

theorem createAgentToken (name id tokenPrefix secretHash : String) (now : Time) :
    Keeps (Database.createAgentToken name id tokenPrefix secretHash now) := by
  unfold Database.createAgentToken
  split
  · exact abort _
  · exact (insertToken _).bind fun _ => pure _

theorem touchToken (id : String) (now : Time) : Keeps (Database.touchToken id now) := by
  unfold Database.touchToken
  exact (updateTokens _ _).bind fun _ => pure _

theorem setTokenDisabled (id : String) (disabled : Bool) :
    Keeps (Database.setTokenDisabled id disabled) := by
  unfold Database.setTokenDisabled
  exact (updateTokens _ _).bind fun count => requireChanged count

theorem deleteToken (id : String) : Keeps (Database.deleteToken id) := by
  unfold Database.deleteToken
  refine transaction ?_
  refine (deleteTrafficLogs _).bind fun _ => ?_
  refine (deleteTunnels _).bind fun _ => ?_
  refine (deleteClients _).bind fun _ => ?_
  exact (deleteTokens _).bind fun count => requireChanged count

theorem setClientStatus (id : String) (status : ClientStatus) (now : Time) :
    Keeps (Database.setClientStatus id status now) := by
  unfold Database.setClientStatus
  refine bind (updateClients ?_) fun count => requireChanged count
  exact fun _ => rfl

theorem setClientDisabled (id : String) (disabled : Bool) :
    Keeps (Database.setClientDisabled id disabled) := by
  unfold Database.setClientDisabled
  refine bind (updateClients ?_) fun count => requireChanged count
  exact fun _ => rfl

theorem updateClient (id name : String) (disabled : Option Bool) :
    Keeps (Database.updateClient id name disabled) := by
  unfold Database.updateClient
  cases disabled with
  | some flag =>
      simp only
      split
      · refine bind (updateClients ?_) fun _ => setClientDisabled id flag
        exact fun _ => rfl
      · exact setClientDisabled id flag
  | none =>
      simp only
      split
      · refine bind (updateClients ?_) fun _ => pure _
        exact fun _ => rfl
      · split
        · exact abort _
        · exact pure _

theorem deleteClient (id : String) (now : Time) : Keeps (Database.deleteClient id now) := by
  unfold Database.deleteClient
  refine transaction ?_
  refine bind (insertRevoked ?_) fun _ => ?_
  · exact fun _ => rfl
  · refine (deleteTrafficLogs _).bind fun _ => ?_
    refine (deleteTunnels _).bind fun _ => ?_
    exact (deleteClients _).bind fun count => requireChanged count

theorem revokeClientDevice (id : String) (now : Time) :
    Keeps (Database.revokeClientDevice id now) := by
  unfold Database.revokeClientDevice
  refine bind (insertRevoked ?_) fun count => requireChanged count
  exact fun _ => rfl

theorem setTunnelStatus (id : String) (status : TunnelStatus) (now : Time) :
    Keeps (Database.setTunnelStatus id status now) := by
  unfold Database.setTunnelStatus
  exact (updateTunnels _ _).bind fun count => requireChanged count

theorem deleteTunnel (id : String) : Keeps (Database.deleteTunnel id) := by
  unfold Database.deleteTunnel
  exact (deleteTunnels _).bind fun count => requireChanged count

theorem recordTraffic (item : TrafficDelta) (now : Time) :
    Keeps (Database.recordTraffic item now) := by
  unfold Database.recordTraffic
  split
  · exact abort _
  · split
    · exact pure _
    · exact (insertTraffic _).bind fun _ => pure _

theorem recordTrafficBatch (items : List TrafficDelta) (now : Time) :
    Keeps (Database.recordTrafficBatch items now) := by
  unfold Database.recordTrafficBatch
  split
  · exact pure _
  · split
    · exact abort _
    · refine transaction (each fun item => ?_)
      unfold Database.insertDelta
      split
      · exact pure _
      · exact (insertTraffic _).bind fun _ => pure _

variable [CaseTable]

theorem validated (tunnel : Tunnel) : Keeps (Database.validated tunnel) := by
  unfold Database.validated
  split
  · exact abort _
  · exact pure _

theorem createTunnel (tunnel : Tunnel) (id uuid : String) (now : Time) :
    Keeps (Database.createTunnel tunnel id uuid now) := by
  unfold Database.createTunnel
  refine (validated tunnel).bind fun _ => ?_
  exact (insertTunnel _).bind fun _ => pure _

theorem updateTunnel (tunnel : Tunnel) (uuid : String) (now : Time) :
    Keeps (Database.updateTunnel tunnel uuid now) := by
  unfold Database.updateTunnel
  refine (validated tunnel).bind fun _ => bind ?_ fun visitorToken => ?_
  · unfold Database.updatedVisitorToken
    split
    · split
      · exact (getTunnel _).bind fun _ => pure _
      · exact pure _
    · exact pure _
  · refine (updateTunnels _ _).bind fun count => ?_
    exact (requireChanged count).bind fun _ => getTunnel _

end Keeps

end Database

namespace Operation

open Database

variable [CaseTable]

/-- The operations that write the bindings of devices. -/
def Binds : Operation → Prop
  | upsertClient .. => True
  | updateClientToken .. => True
  | _ => False

theorem keeps_perform {operation : Operation} (other : ¬operation.Binds) :
    Keeps operation.perform := by
  cases operation with
  | createAgentToken name id tokenPrefix secretHash now =>
      exact Keeps.createAgentToken name id tokenPrefix secretHash now
  | touchToken id now => exact Keeps.touchToken id now
  | setTokenDisabled id disabled => exact Keeps.setTokenDisabled id disabled
  | deleteToken id => exact Keeps.deleteToken id
  | upsertClient id tokenID hello now => exact absurd trivial other
  | setClientStatus id status now => exact Keeps.setClientStatus id status now
  | updateClient id name disabled => exact Keeps.updateClient id name disabled
  | deleteClient id now => exact Keeps.deleteClient id now
  | revokeClientDevice id now => exact Keeps.revokeClientDevice id now
  | updateClientToken id tokenID => exact absurd trivial other
  | createTunnel tunnel id uuid now =>
      exact (Keeps.createTunnel tunnel id uuid now).bind fun _ => .pure _
  | updateTunnel tunnel uuid now =>
      exact (Keeps.updateTunnel tunnel uuid now).bind fun _ => .pure _
  | setTunnelStatus id status now => exact Keeps.setTunnelStatus id status now
  | deleteTunnel id => exact Keeps.deleteTunnel id
  | recordTraffic item now => exact Keeps.recordTraffic item now
  | recordTrafficBatch items now => exact Keeps.recordTrafficBatch items now

end Operation

end NryNet
