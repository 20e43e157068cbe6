import NryNet.App.BootSettings
import NryNet.Lib.Logged
import NryNet.Storage.Mirror
import NryNet.Tunnels.Resources

/-!
# The handlers of tunnels (`server/api/tunnels.go`, `auto_domains.go`)

A handler changes the rows of the database and calls `StartTunnel`, `StopTunnel` and `SyncClient` of the
`Manager`.  The administrator sends one request after the other, so a call of the manager is run to its
end (`call`), action by action, on the goroutines of `NryNet.Tunnels.Manager`.

## The model

The state is the manager with its store.  A handler is a program with a log: the log are the snapshots
that `SyncClient` has handed to the hub.  What a request meets with is a `World`: the answers of the
network and of the database, the clock, and new identifiers.  The rows of `traffic_logs` belong to it as
well, for they decide whether a tunnel can be deleted.  The event log is left out.

## The result

`update` stops a tunnel that is running before it knows whether the request can be carried out, and a
request that is refused leaves the tunnel stopped.  `UpdateTunnel` reads the row back after it has written
it, outside of a transaction, and when that fails the answer is 400 as well.  Otherwise a rejected update
changes nothing (`rejected_unchanged_iff`).
-/

namespace NryNet.TunnelApi

open GoText Tunnels

/-- What `SendSnapshot` is called with. -/
abbrev Snapshot := String × List Tunnel

/-- The part of a handler between two of its calls. -/
abbrev Handling := Logged Manager Snapshot

/-! ## Calls of the manager -/

/-- The snapshot that an action sends. -/
def sent (m : Manager) : Task → Choice → List Snapshot
  | .syncClient clientID, .go _ => [(clientID, m.store.listClientTunnels clientID)]
  | _, _ => []

/-- One action. -/
def act (task : Task) (choice : Choice) : Handling Task := fun m =>
  (step m task choice).map fun (m', next) => (m', sent m task choice, next)

/-- A call from its first action to its last: one choice for each of them. -/
def call (task : Task) : List Choice → Handling (Option String)
  | [] =>
      match task with
      | .returned err => pure err
      | _ => .stuck
  | choice :: rest => do
      let next ← act task choice
      call next rest

/-! ## Statements -/

/-- The tables that a statement works on. -/
def tables (store : Store) (trafficLogs : List TrafficRow) : Database where
  tokens := store.tokens
  clients := store.clients
  revokedDevices := store.revokedDevices
  tunnels := store.tunnels
  trafficLogs := trafficLogs

/-- An operation of `internal/storage` on the store of the manager; `failure` is an error of the database
before its statement has been executed.  An operation that fails so changes nothing. -/
def write {α : Type} (operation : Fallible Database String α) (trafficLogs : List TrafficRow)
    (failure : Option String) : Handling (Except String α) := fun m =>
  match failure, operation (tables m.store trafficLogs) with
  | some err, _ => some (m, [], .error err)
  | none, (_, .error err) => some (m, [], .error err)
  | none, (db, .ok value) =>
      if valid : db.violation = none then
        some ({ m with store := db.toStore (Database.violation_eq_none.mp valid) }, [], .ok value)
      else some (m, [], .error "database is malformed")

/-- What a request meets with. -/
structure World where
  /-- the first `GetTunnel` of `update` -/
  get : Choice := .go 0
  stop : List Choice := []
  start : List Choice := []
  sync : Choice := .go 0
  trafficLogs : List TrafficRow := []
  /-- errors of the database when a row is written, attempt by attempt -/
  failure : ℕ → Option String := fun _ => none
  /-- an error of the database when `UpdateTunnel` reads the row it has written -/
  readBack : Option String := none
  /-- the identifiers of `uuid.NewString` -/
  newID : ℕ → String
  uuid : String
  now : Time := 0
  /-- `AutoSubdomainConfig` -/
  auto : Except String App.AutoSubdomainConfig := .ok { enabled := false, baseDomain := "" }
  /-- how many domains are tried at most -/
  attempts : ℕ := 0

/-- What a handler answers. -/
structure Response where
  status : ℕ
  error : Option String := none
  deriving DecidableEq, Repr

section Handlers

variable [CaseTable]

/-! ## Automatic domains (`auto_domains.go`) -/

/-- `needsAutoDomain`. -/
def needsAutoDomain (tunnel : Tunnel) : Prop :=
  toLower tunnel.protocol ∈ ["http", "https"] ∧ trimSpace tunnel.domain = ""

instance (tunnel : Tunnel) : Decidable (needsAutoDomain tunnel) :=
  inferInstanceAs (Decidable (_ ∧ _))

/-- `normalizeTunnelDomain`. -/
def normalizeTunnelDomain (tunnel : Tunnel) : Tunnel :=
  if toLower tunnel.protocol ∉ ["http", "https"] ∨ trimSpace tunnel.domain = "" then tunnel
  else { tunnel with domain := trimSuffix (toLower (trimSpace tunnel.domain)) '.' }

/-- `trimSlugForSuffix`. -/
def trimSlugForSuffix (slug : String) (attempt : ℕ) : String :=
  let limit := 63 - ("-" ++ toString (attempt + 1)).length
  if slug.length ≤ limit then slug
  else String.ofList ((slug.toList.take limit).rdropWhile (· = '-'))

/-- `candidateDomain`. -/
def candidateDomain (slug baseDomain : String) (attempt : ℕ) : Except String String :=
  joinDomain
    (if attempt = 0 then slug
      else trimSlugForSuffix slug attempt ++ "-" ++ toString (attempt + 1)) baseDomain

/-- `isDomainConflict`. -/
def isDomainConflict (err : String) : Bool :=
  let message := toLower err
  contains message "idx_tunnels_protocol_domain" ||
    contains message "unique" && contains message "domain"

/-- `DomainInUse`; an error counts as a domain that is not in use. -/
def domainInUse (protocol domain : String) : Handling Bool := fun m =>
  match normalizeDomain domain with
  | .error _ => some (m, [], false)
  | .ok domain =>
      some (m, [], m.store.tunnels.any fun tunnel =>
        tunnel.protocol = toLower protocol && sqlLower tunnel.domain = sqlLower domain)

/-- The loop of `createTunnel`: one domain after the other, until one is free. -/
def tryDomains (tunnel : Tunnel) (slug baseDomain : String) (w : World) :
    ℕ → ℕ → Handling (Except String Tunnel)
  | 0, _ => .stuck
  | left + 1, attempt =>
      match candidateDomain slug baseDomain attempt with
      | .error err => pure (.error err)
      | .ok domain => do
          let result ← write
            (Database.createTunnel { tunnel with domain := domain } (w.newID attempt) w.uuid w.now)
            w.trafficLogs (w.failure attempt)
          match result with
          | .ok created => pure (.ok created)
          | .error err =>
              if isDomainConflict err then do
                let taken ← domainInUse (toLower tunnel.protocol) domain
                if taken then tryDomains tunnel slug baseDomain w left (attempt + 1)
                else pure (.error err)
              else pure (.error err)

/-- `tunnelHandler.createTunnel`. -/
def createTunnel (tunnel : Tunnel) (w : World) : Handling (Except String Tunnel) :=
  let plain (tunnel : Tunnel) :=
    write (Database.createTunnel tunnel (w.newID 0) w.uuid w.now) w.trafficLogs (w.failure 0)
  if ¬ needsAutoDomain tunnel then plain (normalizeTunnelDomain tunnel)
  else
    match w.auto with
    | .error err => pure (.error ("load auto-subdomain settings: " ++ err))
    | .ok cfg =>
        if cfg.enabled = false then plain tunnel
        else
          match normalizeDomain cfg.baseDomain, slugFromName tunnel.name with
          | .error _, _ => pure (.error "auto-subdomain base domain is invalid")
          | .ok _, .error _ => pure (.error "tunnel name cannot be converted to a safe subdomain")
          | .ok baseDomain, .ok slug => tryDomains tunnel slug baseDomain w w.attempts 0

/-! ## Handlers -/

/-- `tunnelHandler.create`; `none` is a body that cannot be read. -/
def create (body : Option Tunnel) (w : World) : Handling Response :=
  match body with
  | none => pure { status := 400, error := some "invalid tunnel" }
  | some tunnel => do
      let result ← createTunnel tunnel w
      match result with
      | .error err => pure { status := 400, error := some err }
      | .ok created =>
          if tunnel.status = .running then do
            let err ← call (.startTunnel created.id) w.start
            pure (if err = none then { status := 201 } else { status := 409, error := err })
          else pure { status := 201 }

/-- What `update` does before and after the row is written, when the tunnel was running. -/
def whenRunning (current : Tunnel) (program : Handling (Option String)) : Handling (Option String) :=
  if current.status = .running then program else pure none

/-- `UpdateTunnel`: the row is written, and read back by a statement of its own. -/
def updateTunnel (tunnel : Tunnel) (w : World) : Handling (Except String Tunnel) := do
  let result ← write (Database.updateTunnel tunnel w.uuid w.now) w.trafficLogs (w.failure 0)
  pure (result.bind fun updated => w.readBack.elim (.ok updated) .error)

/-- `tunnelHandler.update`. -/
def update (id : String) (body : Option Tunnel) (w : World) : Handling Response := fun m =>
  match m.getTunnel id w.get, body with
  | .error _, _ => some (m, [], { status := 404, error := some "tunnel not found" })
  | .ok _, none => some (m, [], { status := 400, error := some "invalid tunnel" })
  | .ok current, some request =>
      let program : Handling Response := do
        -- `_ = h.runtime.StopTunnel(…)`: an error is ignored
        let _ ← whenRunning current (call (.stopTunnel current.id) w.stop)
        let result ← updateTunnel { request with id := current.id } w
        match result with
        | .error err => pure { status := 400, error := some err }
        | .ok updated => do
            let err ← whenRunning current (call (.startTunnel updated.id) w.start)
            let _ ← call (.syncClient updated.clientID) [w.sync]
            pure (if err = none then { status := 200 } else { status := 409, error := err })
      program m

/-- `tunnelHandler.start`. -/
def start (id : String) (w : World) : Handling Response := do
  let err ← call (.startTunnel id) w.start
  pure (if err = none then { status := 204 } else { status := 409, error := err })

/-- `tunnelHandler.stop`. -/
def stop (id : String) (w : World) : Handling Response := do
  let err ← call (.stopTunnel id) w.stop
  pure (if err = none then { status := 204 } else { status := 409, error := err })

/-- `tunnelHandler.delete`. -/
def delete (id : String) (w : World) : Handling Response := do
  let _ ← call (.stopTunnel id) w.stop
  let result ← write (Database.deleteTunnel id) w.trafficLogs (w.failure 0)
  match result with
  | .error err => pure { status := 404, error := some err }
  | .ok () => pure { status := 204 }

end Handlers

/-! ## Runs of calls -/

section Calls

variable {m m' : Manager} {task : Task} {choice : Choice} {rest : List Choice} {log : List Snapshot}
variable {err : Option String}

theorem call_cons :
    call task (choice :: rest) m = some (m', log, err) ↔
      ∃ between next later, Tunnels.step m task choice = some (between, next) ∧
        call next rest between = some (m', later, err) ∧ log = sent m task choice ++ later := by
  rw [call, Logged.bind_eq_some]
  constructor
  · rintro ⟨between, earlier, next, later, acted, went, rfl⟩
    obtain ⟨⟨_, _⟩, stepped, built⟩ := Option.map_eq_some_iff.mp acted
    cases built
    exact ⟨between, next, later, stepped, went, rfl⟩
  · rintro ⟨between, next, later, stepped, went, rfl⟩
    refine ⟨between, sent m task choice, next, later, ?_, went, rfl⟩
    exact Option.map_eq_some_iff.mpr ⟨_, stepped, rfl⟩

/-- A call that has returned. -/
theorem call_nil : call task [] m = some (m', log, err) ↔ task = .returned err ∧ m' = m ∧ log = [] := by
  constructor
  · intro ran
    cases task with
    | returned given =>
        obtain ⟨rfl, rfl, rfl⟩ := Logged.pure_eq_some.mp ran
        exact ⟨rfl, rfl, rfl⟩
    | _ => cases ran
  · rintro ⟨rfl, rfl, rfl⟩
    rfl

end Calls

/-! ## The status of a tunnel -/

section Status

variable {s s' : Store} {id : String} {tunnel : Tunnel}

theorem select_of_getTunnel (found : s.getTunnel id = .ok tunnel) :
    Table.select s.tunnels Tunnel.id id = some tunnel ∧ tunnel.id = id ∧ tunnel ∈ s.tunnels := by
  unfold Store.getTunnel at found
  split at found
  · cases found
  · rename_i row selected
    rw [← Except.ok.inj found]
    exact ⟨selected, by simpa using List.find?_some selected, List.mem_of_find?_eq_some selected⟩

/-- The status of a tunnel that is there can be set. -/
theorem setTunnelStatus_of_getTunnel (found : s.getTunnel id = .ok tunnel) (status : TunnelStatus)
    (now : Time) :
    ∃ s', s.setTunnelStatus id status now = .ok s' ∧
      s'.getTunnel id = .ok { tunnel with status := status, updatedAt := now } := by
  obtain ⟨selected, named, member⟩ := select_of_getTunnel found
  have present : (s.tunnels.any fun row => row.id == id) = true :=
    List.any_eq_true.mpr ⟨tunnel, member, by simp [named]⟩
  refine ⟨_, if_pos present, ?_⟩
  have updated : Table.select (Table.update s.tunnels (fun row => row.id == id) fun row =>
      { row with status := status, updatedAt := now }) Tunnel.id id =
        (Table.select s.tunnels Tunnel.id id).map fun row =>
          if row.id == id then { row with status := status, updatedAt := now } else row :=
    Table.select_update fun _ => rfl
  unfold Store.getTunnel
  simp only [Store.updateTunnels, updated, selected]
  simp [named]

/-- When nothing fails, `StopTunnel` sets the status. -/
theorem call_stopTunnel {m : Manager} (found : m.store.getTunnel id = .ok tunnel) (now : Time) :
    ∃ m' log, call (.stopTunnel id) (List.replicate 6 (.go now)) m = some (m', log, none) ∧
      m'.store.getTunnel id = .ok { tunnel with status := .stopped, updatedAt := now } := by
  obtain ⟨written, wrote, row⟩ := setTunnelStatus_of_getTunnel found .stopped now
  obtain ⟨closed, closes, same⟩ : ∃ closed : Manager,
      Tunnels.step ((m.withoutTunnel id).releaseTunnel id)
        (.stopClose id (m.taken id) (.stopTunnel tunnel.clientID)) (.go now) =
          some (closed, .stopped id none (.stopTunnel tunnel.clientID)) ∧ closed.store = m.store := by
    cases toClose : (m.taken id).toClose with
    | none =>
        exact ⟨(m.withoutTunnel id).releaseTunnel id, by simp only [Tunnels.step, toClose], rfl⟩
    | some resource =>
        exact ⟨((m.withoutTunnel id).releaseTunnel id).close resource none,
          by simp only [Tunnels.step, toClose, Choice.err], rfl⟩
  have reads : Tunnels.step m (.stopTunnel id) (.go now) =
      some (m, .stop id (.stopTunnel tunnel.clientID)) := by
    simp only [Tunnels.step, Manager.getTunnel, found]
  have stores : Tunnels.step closed (.stopped id none (.stopTunnel tunnel.clientID)) (.go now) =
      some ({ closed with store := written }, .syncClient tunnel.clientID) := by
    simp only [Tunnels.step, Manager.setTunnelStatus, same, wrote, Except.map]
  refine ⟨{ closed with store := written },
    [(tunnel.clientID, written.listClientTunnels tunnel.clientID)], ?_, row⟩
  refine call_cons.mpr ⟨_, _, _, reads, ?_, rfl⟩
  refine call_cons.mpr ⟨_, _, _, rfl, ?_, rfl⟩
  refine call_cons.mpr ⟨_, _, _, rfl, ?_, rfl⟩
  refine call_cons.mpr ⟨_, _, _, closes, ?_, rfl⟩
  refine call_cons.mpr ⟨_, _, _, stores, ?_, rfl⟩
  exact call_cons.mpr ⟨_, _, _, rfl, rfl, rfl⟩

/-- Nothing that a constraint looks at has changed. -/
structure SameKeys (s s' : Store) : Prop where
  tokens : s'.tokens = s.tokens
  clients : s'.clients = s.clients
  revokedDevices : s'.revokedDevices = s.revokedDevices
  tunnels : s'.tunnels.map Database.keys = s.tunnels.map Database.keys

theorem setTunnelStatus_sameKeys {status : TunnelStatus} {now : Time}
    (written : s.setTunnelStatus id status now = .ok s') : SameKeys s s' := by
  unfold Store.setTunnelStatus at written
  split at written
  · cases written
    exact ⟨rfl, rfl, rfl, Table.map_update fun _ => rfl⟩
  · cases written

/-- The manager changes nothing but the status of tunnels. -/
theorem step_sameKeys {m m' : Manager} {task next : Task} {choice : Choice}
    (stepped : Tunnels.step m task choice = some (m', next)) : SameKeys m.store m'.store := by
  cases step_action stepped with
  | setRunning written => exact setTunnelStatus_sameKeys written
  | setError _ written => exact setTunnelStatus_sameKeys written
  | setStopped _ written => exact setTunnelStatus_sameKeys written
  | _ => exact ⟨rfl, rfl, rfl, rfl⟩

theorem call_sameKeys {choices : List Choice} {m m' : Manager} {task : Task} {log : List Snapshot}
    {err : Option String} (called : call task choices m = some (m', log, err)) :
    SameKeys m.store m'.store := by
  induction choices generalizing m task log with
  | nil =>
      obtain ⟨-, rfl, -⟩ := call_nil.mp called
      exact ⟨rfl, rfl, rfl, rfl⟩
  | cons choice rest ih =>
      obtain ⟨between, next, later, stepped, went, -⟩ := call_cons.mp called
      have first := step_sameKeys stepped
      have others := ih went
      exact ⟨others.tokens.trans first.tokens, others.clients.trans first.clients,
        others.revokedDevices.trans first.revokedDevices, others.tunnels.trans first.tunnels⟩

theorem SameKeys.getTunnel (same : SameKeys s s') (found : s.getTunnel id = .ok tunnel) :
    ∃ tunnel', s'.getTunnel id = .ok tunnel' := by
  obtain ⟨-, named, member⟩ := select_of_getTunnel found
  have image : Database.keys tunnel ∈ s.tunnels.map Database.keys := List.mem_map_of_mem member
  rw [← same.tunnels] at image
  obtain ⟨tunnel', member', keys⟩ := List.mem_map.mp image
  unfold Store.getTunnel
  cases selected : Table.select s'.tunnels Tunnel.id id with
  | none => exact absurd ((congrArg Prod.fst keys).trans named) (Table.select_eq_none.mp selected _ member')
  | some row => exact ⟨row, rfl⟩

theorem whenRunning_sameKeys {current : Tunnel} {task : Task} {choices : List Choice} {m m' : Manager}
    {log : List Snapshot} {err : Option String}
    (ran : whenRunning current (call task choices) m = some (m', log, err)) :
    SameKeys m.store m'.store := by
  unfold whenRunning at ran
  split at ran
  · exact call_sameKeys ran
  · obtain ⟨rfl, -, -⟩ := Logged.pure_eq_some.mp ran
    exact ⟨rfl, rfl, rfl, rfl⟩

end Status

/-! ## Refused updates -/

/-- The row of a tunnel and what it is reached through. -/
def SameTunnel (id : String) (before after : Manager) : Prop :=
  after.store.getTunnel id = before.store.getTunnel id ∧
    after.listeners.lookup id = before.listeners.lookup id ∧
    after.udpRuntimes.lookup id = before.udpRuntimes.lookup id ∧
    after.relayBinds.lookup id = before.relayBinds.lookup id ∧
    (after.registry.bind fun registry => registry.assignments.lookup id) =
      before.registry.bind fun registry => registry.assignments.lookup id

section Updates

variable [CaseTable]

/-- `UpdateTunnel` cannot carry out the request: the database reports an error, the request does not pass
`validateTunnel`, or its row would violate a constraint of the schema. -/
def Refused (m : Manager) (id : String) (request : Tunnel) (w : World) : Prop :=
  w.failure 0 ≠ none ∨ validateTunnel request ≠ .ok () ∨
    ((tables m.store w.trafficLogs).withTunnel { request with id := id } request.visitorToken
      w.now).violation ≠ none

variable {m m' : Manager} {id : String} {request current : Tunnel} {w : World}
variable {log : List Snapshot} {response : Response}

/-- Whether a request is refused does not depend on the status of the tunnels. -/
theorem refused_congr (same : SameKeys m.store m'.store) :
    Refused m' id request w ↔ Refused m id request w := by
  have rows : tables m'.store w.trafficLogs =
      { tables m.store w.trafficLogs with tunnels := m'.store.tunnels } := by
    unfold tables
    rw [same.tokens, same.clients, same.revokedDevices]
  let set (key : String × String × String × String) : String × String × String × String :=
    (key.1, request.clientID, toLower request.protocol, storedDomain request.domain)
  have keys (s : Store) : (Table.update s.tunnels (fun row => row.id == id) fun row =>
      { request with id := id }.updated row request.visitorToken w.now).map Database.keys =
        Table.update (s.tunnels.map Database.keys) (fun key => key.1 == id) set :=
    Table.map_update_of_commutes (fun _ => rfl) fun _ => rfl
  have updated : ((tables m'.store w.trafficLogs).withTunnel { request with id := id }
      request.visitorToken w.now).violation = ((tables m.store w.trafficLogs).withTunnel
        { request with id := id } request.visitorToken w.now).violation := by
    rw [rows]
    refine @Database.violation_congr ((tables m.store w.trafficLogs).withTunnel
      { request with id := id } request.visitorToken w.now) _ ?_
    exact (keys m'.store).trans (by rw [same.tunnels]; exact (keys m.store).symm)
  unfold Refused
  rw [updated]

/-- The row that `UpdateTunnel` writes in place of `current`. -/
def writtenRow (current request : Tunnel) (w : World) : Tunnel :=
  request.updated current (request.nextVisitorToken current w.uuid) w.now

/-- `UpdateTunnel`, of a tunnel that is there.  Once the row is written, only the read-back can fail. -/
theorem updateTunnel_cases (found : m.store.getTunnel id = .ok current) :
    (Refused m id request w ∧ ∃ err,
      updateTunnel { request with id := id } w m = some (m, [], .error err)) ∨
    (¬ Refused m id request w ∧ ∃ store,
      updateTunnel { request with id := id } w m = some ({ m with store := store }, [],
        w.readBack.elim (.ok (writtenRow current request w)) .error) ∧
      store.tunnels = Table.update m.store.tunnels (fun row => row.id == id) fun row =>
        request.updated row (request.nextVisitorToken current w.uuid) w.now) := by
  obtain ⟨selected, -, -⟩ := select_of_getTunnel found
  have answers {store : Store} {result : Except String Tunnel}
      (wrote : write (Database.updateTunnel { request with id := id } w.uuid w.now) w.trafficLogs
        (w.failure 0) m = some ({ m with store := store }, [], result)) :
      updateTunnel { request with id := id } w m = some ({ m with store := store }, [],
        result.bind fun updated => w.readBack.elim (.ok updated) .error) :=
    Logged.bind_of_silent wrote
  cases fails : w.failure 0 with
  | some err =>
      refine Or.inl ⟨Or.inl (by rw [fails]; nofun), err, @answers m.store (.error err) ?_⟩
      simp only [write, fails]
  | none =>
      have checks : validateTunnel { request with id := id } = validateTunnel request := by
        simp only [validateTunnel]
      have found : Table.select (tables m.store w.trafficLogs).tunnels Tunnel.id
        ({ request with id := id } : Tunnel).id = some current := selected
      have cases := Database.updateTunnel_cases found w.uuid w.now
      rw [checks] at cases
      rcases cases with ⟨refused, message, failed⟩ | ⟨valid, fine, intact, written⟩
      · refine Or.inl ⟨Or.inr refused, message, @answers m.store (.error message) ?_⟩
        unfold write
        rw [fails, failed]
      · have accepted : ¬ Refused m id request w := by
          rintro (broken | invalid | violated)
          · exact broken fails
          · exact invalid valid
          · exact violated fine
        have wrote : write (Database.updateTunnel { request with id := id } w.uuid w.now) w.trafficLogs
            (w.failure 0) m =
              some ({ m with store := Database.toStore _ (Database.violation_eq_none.mp intact) }, [],
                .ok (writtenRow current request w)) := by
          unfold write
          rw [fails, written]
          exact dif_pos intact
        exact Or.inr ⟨accepted, _, answers wrote, rfl⟩

/-- `update`, of a tunnel that is there: what was running is stopped, and then the request is refused, or
the row is written.  In the second case it is not read back, or the tunnel is started again and its new
client gets a snapshot. -/
theorem update_cases (found : m.getTunnel id w.get = .ok current)
    (updated : update id (some request) w m = some (m', log, response)) :
    ∃ between stopLog stopErr,
      whenRunning current (call (.stopTunnel id) w.stop) m = some (between, stopLog, stopErr) ∧
      ((Refused m id request w ∧ response.status = 400 ∧ m' = between ∧ log = stopLog) ∨
        (¬ Refused m id request w ∧ ∃ store before,
          between.store.getTunnel id = .ok before ∧
          store.tunnels = Table.update between.store.tunnels (fun row => row.id == id)
            (fun row => request.updated row (request.nextVisitorToken before w.uuid) w.now) ∧
          ((w.readBack ≠ none ∧ response.status = 400 ∧ m' = { between with store := store } ∧
              log = stopLog) ∨
            (w.readBack = none ∧ (response.status = 200 ∨ response.status = 409) ∧
              ∃ started startLog startErr syncLog syncErr,
                whenRunning current (call (.startTunnel id) w.start) { between with store := store } =
                  some (started, startLog, startErr) ∧
                call (.syncClient request.clientID) [w.sync] started = some (m', syncLog, syncErr) ∧
                log = stopLog ++ (startLog ++ syncLog))))) := by
  obtain ⟨_, -, row⟩ := Manager.getTunnel_ok found
  obtain ⟨-, rfl, -⟩ := select_of_getTunnel row
  unfold update at updated
  rw [found] at updated
  simp only at updated
  obtain ⟨between, stopLog, stopErr, _, stopped, rest, rfl⟩ := Logged.bind_eq_some.mp updated
  refine ⟨between, stopLog, stopErr, stopped, ?_⟩
  have same := whenRunning_sameKeys stopped
  obtain ⟨before, present⟩ := same.getTunnel row
  obtain ⟨-, named, -⟩ := select_of_getTunnel present
  obtain ⟨written, writeLog, result, _, wrote, answers, rfl⟩ := Logged.bind_eq_some.mp rest
  rw [← refused_congr same]
  rcases updateTunnel_cases present with ⟨refused, err, failed⟩ | ⟨accepted, store, succeeded, rows⟩
  · rw [failed] at wrote
    cases wrote
    obtain ⟨rfl, rfl, rfl⟩ := Logged.pure_eq_some.mp answers
    exact Or.inl ⟨refused, rfl, rfl, by simp⟩
  · rw [succeeded] at wrote
    cases wrote
    refine Or.inr ⟨accepted, store, before, present, rows, ?_⟩
    cases reads : w.readBack with
    | some err =>
        rw [reads] at answers
        obtain ⟨rfl, rfl, rfl⟩ := Logged.pure_eq_some.mp answers
        exact Or.inl ⟨nofun, rfl, rfl, by simp⟩
    | none =>
        rw [reads] at answers
        obtain ⟨started, startLog, startErr, _, starts, final, rfl⟩ := Logged.bind_eq_some.mp answers
        obtain ⟨synced, syncLog, syncErr, _, syncs, responds, rfl⟩ := Logged.bind_eq_some.mp final
        obtain ⟨rfl, rfl, rfl⟩ := Logged.pure_eq_some.mp responds
        have identified : (writtenRow before request w).id = current.id := named
        change whenRunning current (call (.startTunnel (writtenRow before request w).id) w.start) _ = _
          at starts
        rw [identified] at starts
        refine Or.inr ⟨rfl, ?_, started, startLog, startErr, syncLog, syncErr, starts, syncs, by simp⟩
        split
        · exact Or.inl rfl
        · exact Or.inr rfl

/-- An update ends when its row is not written, or not read back. -/
theorem update_of_error (found : m.getTunnel id w.get = .ok current)
    {between : Manager} {stopLog : List Snapshot} {stopErr : Option String} {message : String}
    (stopped : whenRunning current (call (.stopTunnel id) w.stop) m = some (between, stopLog, stopErr))
    (failed : updateTunnel { request with id := id } w between = some (m', [], .error message)) :
    update id (some request) w m = some (m', stopLog, { status := 400, error := some message }) := by
  obtain ⟨_, -, row⟩ := Manager.getTunnel_ok found
  obtain ⟨-, rfl, -⟩ := select_of_getTunnel row
  unfold update
  rw [found]
  exact Logged.bind_eq_some.mpr ⟨between, stopLog, stopErr, [], stopped, Logged.bind_of_silent failed,
    (List.append_nil _).symm⟩

/-- The row that was written is the one that is found. -/
theorem getTunnel_written {s s' : Store} (found : s.getTunnel id = .ok current)
    (rows : s'.tunnels = Table.update s.tunnels (fun row => row.id == id) fun row =>
      request.updated row (request.nextVisitorToken current w.uuid) w.now) :
    s'.getTunnel id = .ok (writtenRow current request w) := by
  obtain ⟨selected, named, -⟩ := select_of_getTunnel found
  have after : Table.select s'.tunnels Tunnel.id id = (Table.select s.tunnels Tunnel.id id).map fun row =>
      if row.id == id then request.updated row (request.nextVisitorToken current w.uuid) w.now
      else row := by
    rw [rows]
    exact Table.select_update fun _ => rfl
  unfold Store.getTunnel
  rw [after, selected]
  simp [named, writtenRow]

/-- The update is rejected after something has been done: the tunnel was running and has been stopped, or
another row than the one that was there is written and not read back. -/
def Halfway (m : Manager) (id : String) (tunnel request : Tunnel) (w : World) : Prop :=
  (tunnel.status = .running ∧ (Refused m id request w ∨ w.readBack ≠ none)) ∨
    (¬ Refused m id request w ∧ w.readBack ≠ none ∧ writtenRow tunnel request w ≠ tunnel)

/-- When nothing else fails, such an update is answered with 400, and the row of the tunnel has changed. -/
theorem update_of_halfway {tunnel : Tunnel} (found : m.store.getTunnel id = .ok tunnel)
    (halfway : Halfway m id tunnel request w) (reads : w.get = .go 0)
    (stops : w.stop = if tunnel.status = .running then List.replicate 6 (.go 0) else []) :
    ∃ m' log message,
      update id (some request) w m = some (m', log, { status := 400, error := some message }) ∧
        m'.store.getTunnel id ≠ .ok tunnel := by
  have read : m.getTunnel id w.get = .ok tunnel := by
    rw [reads]
    exact found
  by_cases running : tunnel.status = .running
  · obtain ⟨between, log, stopped, row⟩ := call_stopTunnel found 0
    have same := call_sameKeys stopped
    have called : whenRunning tunnel (call (.stopTunnel id) w.stop) m = some (between, log, none) := by
      unfold whenRunning
      rw [if_pos running, stops, if_pos running, stopped]
    have other {row : Tunnel} (idle : row.status = .stopped) :
        (.ok row : Except String Tunnel) ≠ .ok tunnel := by
      intro equal
      rw [← Except.ok.inj equal, idle] at running
      cases running
    rcases @updateTunnel_cases _ between id request _ w row with
      ⟨-, message, failed⟩ | ⟨accepted, store, succeeded, rows⟩
    · exact ⟨between, log, message, update_of_error read called failed, row ▸ other rfl⟩
    · have unread : w.readBack ≠ none := by
        rcases halfway with ⟨-, refused | unread⟩ | ⟨-, unread, -⟩
        · exact absurd ((refused_congr same).mpr refused) accepted
        · exact unread
        · exact unread
      obtain ⟨message, fails⟩ := Option.ne_none_iff_exists'.mp unread
      rw [fails] at succeeded
      refine ⟨_, log, message, update_of_error read called succeeded, ?_⟩
      simp only [getTunnel_written row rows]
      exact other rfl
  · obtain ⟨accepted, unread, changed⟩ := halfway.resolve_left fun both => running both.1
    obtain ⟨message, fails⟩ := Option.ne_none_iff_exists'.mp unread
    have called : whenRunning tunnel (call (.stopTunnel id) w.stop) m = some (m, [], none) := by
      unfold whenRunning
      rw [if_neg running]
      rfl
    rcases @updateTunnel_cases _ m id request _ w found with
      ⟨refused, -⟩ | ⟨-, store, succeeded, rows⟩
    · exact absurd refused accepted
    · rw [fails] at succeeded
      refine ⟨_, [], message, update_of_error read called succeeded, ?_⟩
      simp only [getTunnel_written found rows]
      exact fun equal => changed (Except.ok.inj equal)

/-- **An update that is rejected leaves the tunnel as it was, whatever the network does, exactly when it
finds no tunnel, or cannot be read, or does not stop halfway.** -/
theorem rejected_unchanged_iff (m : Manager) (id : String) (body : Option Tunnel) (w : World) :
    (∀ get stop start sync m' log response,
      update id body { w with get := get, stop := stop, start := start, sync := sync } m =
        some (m', log, response) →
      response.status = 400 ∨ response.status = 404 → SameTunnel id m m') ↔
      ¬ ∃ tunnel request, m.store.getTunnel id = .ok tunnel ∧ body = some request ∧
        Halfway m id tunnel request w := by
  have unchanged : SameTunnel id m m := ⟨rfl, rfl, rfl, rfl, rfl⟩
  constructor
  · rintro holds ⟨tunnel, request, found, rfl, halfway⟩
    obtain ⟨m', log, message, updated, changed⟩ := @update_of_halfway _ m id request
      { w with
        get := .go 0
        stop := if tunnel.status = .running then List.replicate 6 (.go 0) else []
        start := []
        sync := .go 0 } tunnel found halfway rfl rfl
    obtain ⟨same, -⟩ := holds _ _ _ _ _ _ _ updated (Or.inl rfl)
    exact changed (same.trans found)
  · intro fine get stop start sync m' log response updated rejected
    cases read : m.getTunnel id get with
    | error err =>
        unfold update at updated
        rw [read] at updated
        cases updated
        exact unchanged
    | ok current =>
        cases body with
        | none =>
            unfold update at updated
            rw [read] at updated
            cases updated
            exact unchanged
        | some request =>
            obtain ⟨_, -, found⟩ := Manager.getTunnel_ok read
            have entire : ¬ Halfway m id current request w := fun halfway =>
              fine ⟨current, request, found, rfl, halfway⟩
            obtain ⟨between, _, _, stopped, ⟨refused, -, rfl, -⟩ | ⟨accepted, store, before, present, rows,
              ⟨unread, -, rfl, -⟩ | ⟨-, answered, -⟩⟩⟩ := update_cases read updated
            · have idle : current.status ≠ .running := fun running =>
                entire (Or.inl ⟨running, Or.inl refused⟩)
              unfold whenRunning at stopped
              rw [if_neg idle] at stopped
              obtain ⟨rfl, -, -⟩ := Logged.pure_eq_some.mp stopped
              exact unchanged
            · have idle : current.status ≠ .running := fun running =>
                entire (Or.inl ⟨running, Or.inr unread⟩)
              unfold whenRunning at stopped
              rw [if_neg idle] at stopped
              obtain ⟨rfl, -, -⟩ := Logged.pure_eq_some.mp stopped
              obtain rfl := Except.ok.inj (found.symm.trans present)
              have written := @getTunnel_written _ id request current w _ _ found rows
              have same : writtenRow current request w = current := by
                by_contra changed
                exact entire (Or.inr ⟨accepted, unread, changed⟩)
              rw [same] at written
              exact ⟨written.trans found.symm, rfl, rfl, rfl, rfl⟩
            · omega

end Updates

/-! ## A concrete request -/

/-- A day on which nothing fails: a call makes six actions at most. -/
def calm : World where
  stop := List.replicate 6 (.go 0)
  start := List.replicate 5 (.go 0)
  newID _ := "tunnel-2"
  uuid := "visitor-2"

/-- A running tunnel, and a request without a port: it is answered with 400, and nobody listens on the
port of the tunnel anymore. -/
theorem rejected_update_stops :
    let _ := CaseTable.ascii
    ∃ m m' log response,
      (∃ log response, start "tunnel-1" calm (newManager tunnelStore none false) =
        some (m, log, response)) ∧
      update "tunnel-1" (some { stoppedTunnel with localPort := 0 }) calm m =
        some (m', log, response) ∧
      response.status = 400 ∧ ¬ SameTunnel "tunnel-1" m m' := by
  intro ascii
  have found : ((start "tunnel-1" calm (newManager tunnelStore none false)).bind fun (m, _, _) =>
      (update "tunnel-1" (some { stoppedTunnel with localPort := 0 }) calm m).map
        fun (m', _, response) => (response.status, (m.listeners.lookup "tunnel-1").isSome,
          (m'.listeners.lookup "tunnel-1").isSome)) = some (400, true, false) := by
    decide +kernel
  obtain ⟨⟨m, startLog, started⟩, starts, rest⟩ := Option.bind_eq_some_iff.mp found
  obtain ⟨⟨m', log, response⟩, updates, shows⟩ := Option.map_eq_some_iff.mp rest
  simp only [Prod.mk.injEq] at shows
  obtain ⟨status, before, after⟩ := shows
  refine ⟨m, m', log, response, ⟨startLog, started, starts⟩, updates, status, ?_⟩
  rintro ⟨-, listening, -⟩
  rw [listening, before] at after
  cases after

end NryNet.TunnelApi
