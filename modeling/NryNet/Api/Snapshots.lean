import NryNet.Api.CallOutcomes

/-!
# What the agents are told (`server/api/tunnels.go`, `server/client/hub.go`)

An agent that is connected holds the list of its tunnels.  It gets one when it connects
(`sendInitialSnapshot`) and another one whenever `SyncClient` is called for it.

## The model

`Panel` is the manager and, for every client that is connected, the last snapshot that was put into its
queue.  The queues accept every message.  Agents come and go, and the administrator sends one request
after the other.

## The result

Not every request tells those whose tunnels it changes.  `Heard` says which do: it speaks about the
request, the rows that are there when it arrives and what the network answers.  In a run of such requests
every agent that is connected knows the tunnels that the store has for it (`inStep_of_runs`).
-/

namespace NryNet.TunnelApi

open GoText Tunnels

/-! ## The server and its agents -/

/-- What the administrator asks for. -/
inductive Request where
  | create (body : Option Tunnel)
  | update (id : String) (body : Option Tunnel)
  | start (id : String)
  | stop (id : String)
  | delete (id : String)
  deriving DecidableEq, Repr

/-- The handler of a request. -/
def Request.handle [CaseTable] (w : World) : Request → Handling Response
  | .create body => TunnelApi.create body w
  | .update id body => TunnelApi.update id body w
  | .start id => TunnelApi.start id w
  | .stop id => TunnelApi.stop id w
  | .delete id => TunnelApi.delete id w

/-- The manager, and the last snapshot in the queue of each client that is connected. -/
structure Panel where
  manager : Manager
  last : GoMap String (List Tunnel)

/-- `SendSnapshot`, again and again: who is not connected gets nothing. -/
def deliver (last : GoMap String (List Tunnel)) : List Snapshot → GoMap String (List Tunnel)
  | [] => last
  | (clientID, tunnels) :: rest =>
      deliver (if (last.lookup clientID).isSome then last.insert clientID tunnels else last) rest

/-- What happens. -/
inductive Event where
  /-- a hello is accepted, and `sendInitialSnapshot` follows -/
  | connect (clientID : String)
  | disconnect (clientID : String)
  | request (request : Request) (w : World)

namespace Panel

/-- A server that was just started: nobody is connected. -/
def boot (m : Manager) : Panel := ⟨m, ∅⟩

/-- The client is connected. -/
def Online (p : Panel) (clientID : String) : Prop := (p.last.lookup clientID).isSome = true

instance (p : Panel) (clientID : String) : Decidable (p.Online clientID) :=
  inferInstanceAs (Decidable (_ = true))

/-- One event. -/
def step [CaseTable] (p : Panel) : Event → Option Panel
  | .connect clientID =>
      some { p with last := p.last.insert clientID (p.manager.store.listClientTunnels clientID) }
  | .disconnect clientID => some { p with last := p.last.erase clientID }
  | .request request w =>
      (request.handle w p.manager).map fun (m, log, _) => ⟨m, deliver p.last log⟩

/-- Every agent knows the tunnels that the store has for it. -/
def InStep (p : Panel) : Prop :=
  ∀ clientID tunnels, p.last.lookup clientID = some tunnels →
    tunnels = p.manager.store.listClientTunnels clientID

end Panel

/-! ## Whose tunnels change -/

section Lists

variable {s s' : Store} {id clientID other : String} {tunnel : Tunnel} {log : List Snapshot}
variable {complete heard : Prop}

/-- The primary key of `tunnels`. -/
def Primary (s : Store) : Prop := (s.tunnels.map Tunnel.id).Nodup

/-- The tunnel does not belong to this client. -/
def Foreign (s : Store) (id other : String) : Prop :=
  ∀ row ∈ s.tunnels, row.id = id → row.clientID ≠ other

theorem foreign_of_getTunnel (primary : Primary s) (found : s.getTunnel id = .ok tunnel)
    (apart : other ≠ tunnel.clientID) : Foreign s id other := by
  obtain ⟨-, rfl, member⟩ := select_of_getTunnel found
  intro row present same
  rw [Table.eq_of_column_eq primary present member same]
  exact apart.symm

theorem foreign_of_missing {message : String} (absent : s.getTunnel id = .error message) :
    Foreign s id other := by
  unfold Store.getTunnel at absent
  split at absent
  · rename_i nothing
    exact fun row member named => absurd named (Table.select_eq_none.mp nothing row member)
  · cases absent

theorem SameKeys.primary (same : SameKeys s s') (primary : Primary s) : Primary s' := by
  have ids := congrArg (List.map Prod.fst) same.tunnels
  rw [List.map_map, List.map_map] at ids
  have columns : s'.tunnels.map Tunnel.id = s.tunnels.map Tunnel.id := ids
  unfold Primary
  rw [columns]
  exact primary

theorem SameKeys.foreign (same : SameKeys s s') (foreign : Foreign s id other) :
    Foreign s' id other := by
  intro row member named
  have image : Database.keys row ∈ s'.tunnels.map Database.keys := List.mem_map_of_mem member
  rw [same.tunnels] at image
  obtain ⟨old, present, keys⟩ := List.mem_map.mp image
  simp only [Database.keys, Prod.mk.injEq] at keys
  rw [← keys.2.1]
  exact foreign old present (keys.1.trans named)

theorem setTunnelStatus_list {status : TunnelStatus} {now : Time} (foreign : Foreign s id other)
    (written : s.setTunnelStatus id status now = .ok s') :
    s'.listClientTunnels other = s.listClientTunnels other := by
  unfold Store.setTunnelStatus at written
  split at written
  · cases written
    refine Table.selectAll_update fun row member hit => ?_
    have unseen : (row.clientID == other) = false :=
      beq_eq_false_iff_ne.mpr (foreign row member (beq_iff_eq.mp hit))
    exact ⟨unseen, unseen⟩
  · cases written

/-- A call of the manager does not concern other clients. -/
theorem Outcome.apart (outcome : Outcome id clientID s complete heard s' log)
    (foreign : Foreign s id other) (apart : other ≠ clientID) :
    other ∉ log.map Prod.fst ∧ s'.listClientTunnels other = s.listClientTunnels other := by
  cases outcome with
  | quiet => exact ⟨nofun, rfl⟩
  | told written =>
      exact ⟨by simpa using apart, setTunnelStatus_list foreign written⟩
  | untold written => exact ⟨nofun, setTunnelStatus_list foreign written⟩

/-- The messages bring a client that was in step back into step. -/
def Caught (clientID : String) (s s' : Store) (log : List Snapshot) : Prop :=
  (clientID ∉ log.map Prod.fst ∧ s'.listClientTunnels clientID = s.listClientTunnels clientID) ∨
    ∃ earlier, log = earlier ++ [(clientID, s'.listClientTunnels clientID)]

theorem Outcome.caught (outcome : Outcome id clientID s complete heard s' log)
    (foreign : other ≠ clientID → Foreign s id other) (hears : other = clientID → heard) :
    Caught other s s' log := by
  by_cases same : other = clientID
  · subst same
    cases outcome with
    | quiet => exact Or.inl ⟨nofun, rfl⟩
    | told written => exact Or.inr ⟨[], rfl⟩
    | untold _ _ unheard => exact absurd (hears rfl) unheard
  · exact Or.inl (outcome.apart (foreign same) same)

variable {last : GoMap String (List Tunnel)}

theorem deliver_append (earlier later : List Snapshot) :
    deliver last (earlier ++ later) = deliver (deliver last earlier) later := by
  induction earlier generalizing last with
  | nil => rfl
  | cons message rest ih => exact ih

/-- Nobody connects or disconnects here. -/
theorem isSome_deliver : ((deliver last log).lookup other).isSome = (last.lookup other).isSome := by
  induction log generalizing last with
  | nil => rfl
  | cons message rest ih =>
      obtain ⟨addressee, tunnels⟩ := message
      rw [deliver, ih]
      split
      · rename_i online
        rw [GoMap.lookup_insert_if]
        split
        · rename_i same
          rw [same, online]
          rfl
        · rfl
      · rfl

theorem lookup_deliver_of_notMem (apart : other ∉ log.map Prod.fst) :
    (deliver last log).lookup other = last.lookup other := by
  induction log generalizing last with
  | nil => rfl
  | cons message rest ih =>
      obtain ⟨addressee, tunnels⟩ := message
      rw [List.map_cons, List.mem_cons, not_or] at apart
      rw [deliver, ih apart.2]
      split
      · rw [GoMap.lookup_insert_if, if_neg apart.1]
      · rfl

/-- Everybody who is connected is in step after the messages, if they are the right ones. -/
theorem inStep_deliver {m m' : Manager} (before : Panel.InStep ⟨m, last⟩)
    (caught : ∀ other, Panel.Online ⟨m, last⟩ other → Caught other m.store m'.store log) :
    Panel.InStep ⟨m', deliver last log⟩ := by
  intro other tunnels told
  have online : (last.lookup other).isSome = true := by
    rw [← @isSome_deliver other log last, told]
    rfl
  rcases caught other online with ⟨apart, same⟩ | ⟨earlier, rfl⟩
  · simp only at told
    rw [lookup_deliver_of_notMem apart] at told
    exact (before other tunnels told).trans same.symm
  · simp only [deliver_append, deliver] at told
    rw [isSome_deliver, online, if_pos rfl, GoMap.lookup_insert_if, if_pos rfl] at told
    exact (Option.some.inj told).symm

end Lists

/-! ## Calls and statements, and whom they concern -/

section Concerns

variable {m m' : Manager} {id other : String} {log : List Snapshot}

/-- A statement fails and changes nothing, or it leaves the rows of a database that is intact. -/
theorem write_cases {α : Type} {operation : Fallible Database String α} {trafficLogs : List TrafficRow}
    {failure : Option String} {result : Except String α}
    (wrote : write operation trafficLogs failure m = some (m', log, result)) :
    log = [] ∧ ((∃ err, result = .error err ∧ m' = m) ∨
      ∃ db value, failure = none ∧ operation (tables m.store trafficLogs) = (db, .ok value) ∧
        result = .ok value ∧ m'.store.tunnels = db.tunnels ∧ Primary m'.store) := by
  unfold write at wrote
  split at wrote
  · cases wrote
    exact ⟨rfl, Or.inl ⟨_, rfl, rfl⟩⟩
  · cases wrote
    exact ⟨rfl, Or.inl ⟨_, rfl, rfl⟩⟩
  · rename_i db value executed
    split at wrote
    · rename_i intact
      cases wrote
      exact ⟨rfl, Or.inr ⟨db, value, rfl, executed, rfl, rfl, (Database.violation_eq_none.mp intact).tunnels⟩⟩
    · cases wrote
      exact ⟨rfl, Or.inl ⟨_, rfl, rfl⟩⟩

/-- A call for a tunnel concerns nobody but its client. -/
theorem call_apart {task : Task} {choices : List Choice} {err : Option String}
    (foreign : Foreign m.store id other) (entry : task = .startTunnel id ∨ task = .stopTunnel id)
    (called : call task choices m = some (m', log, err)) :
    other ∉ log.map Prod.fst ∧
      m'.store.listClientTunnels other = m.store.listClientTunnels other := by
  cases found : m.store.getTunnel id with
  | error message =>
      obtain ⟨same, rfl⟩ := call_missing found entry called
      exact ⟨nofun, by rw [same]⟩
  | ok tunnel =>
      obtain ⟨-, named, member⟩ := select_of_getTunnel found
      have apart : other ≠ tunnel.clientID := (foreign tunnel member named).symm
      rcases entry with rfl | rfl
      · exact (call_startTunnel found called).apart foreign apart
      · exact (stopTunnel_outcome found called).apart foreign apart

/-- A call for a tunnel whose client hears of it, or is not connected. -/
theorem call_caught {task : Task} {choices : List Choice} {err : Option String}
    (primary : Primary m.store) (entry : task = .startTunnel id ∨ task = .stopTunnel id)
    (called : call task choices m = some (m', log, err))
    (hears : ∀ tunnel, m.store.getTunnel id = .ok tunnel → other = tunnel.clientID →
      (task = .startTunnel id → tunnel.protocol ∈ runnable ∧ goesWell listening task choices m = true) ∧
        (task = .stopTunnel id → goesWell reading task choices m = true)) :
    Caught other m.store m'.store log := by
  cases found : m.store.getTunnel id with
  | error message =>
      obtain ⟨same, rfl⟩ := call_missing found entry called
      exact Or.inl ⟨nofun, by rw [same]⟩
  | ok tunnel =>
      have foreign := @foreign_of_getTunnel _ _ other _ primary found
      rcases entry with rfl | rfl
      · exact (call_startTunnel found called).caught foreign fun same => (hears tunnel found same).1 rfl
      · exact (stopTunnel_outcome found called).caught foreign fun same => (hears tunnel found same).2 rfl

theorem whenRunning_apart {current : Tunnel} {task : Task} {choices : List Choice} {err : Option String}
    (foreign : Foreign m.store id other) (entry : task = .startTunnel id ∨ task = .stopTunnel id)
    (ran : whenRunning current (call task choices) m = some (m', log, err)) :
    other ∉ log.map Prod.fst ∧
      m'.store.listClientTunnels other = m.store.listClientTunnels other := by
  unfold whenRunning at ran
  split at ran
  · exact call_apart foreign entry ran
  · obtain ⟨rfl, rfl, -⟩ := Logged.pure_eq_some.mp ran
    exact ⟨nofun, rfl⟩

end Concerns

/-! ## Who hears of a request -/

section Hearing

variable [CaseTable]

/-- Why `CreateTunnel` would refuse the row in this attempt, if it would. -/
def refusal (m : Manager) (tunnel : Tunnel) (w : World) (attempt : ℕ) : Option String :=
  match w.failure attempt, validateTunnel tunnel with
  | some err, _ => some err
  | none, .error err => some err
  | none, .ok _ =>
      ({ tables m.store w.trafficLogs with
          tunnels := m.store.tunnels ++ [tunnel.created (w.newID attempt) w.uuid w.now] } :
        Database).violation

/-- The domain of this attempt is one that somebody has. -/
def Occupied (m : Manager) (tunnel : Tunnel) (w : World) (slug baseDomain : String) (attempt : ℕ) :
    Prop :=
  ∃ domain err, candidateDomain slug baseDomain attempt = .ok domain ∧
    refusal m { tunnel with domain := domain } w attempt = some err ∧ isDomainConflict err = true ∧
    domainInUse (toLower tunnel.protocol) domain m = some (m, [], true)

/-- The request adds this row to the rows that are there: the tunnel as it is, or, if it is to get a
domain, with the first candidate that nobody has. -/
inductive Adds (m : Manager) (tunnel : Tunnel) (w : World) : Tunnel → Prop
  | plain (auto : ¬ needsAutoDomain tunnel)
      (accepted : refusal m (normalizeTunnelDomain tunnel) w 0 = none) :
      Adds m tunnel w ((normalizeTunnelDomain tunnel).created (w.newID 0) w.uuid w.now)
  | disabled {cfg : App.AutoSubdomainConfig} (auto : needsAutoDomain tunnel) (settings : w.auto = .ok cfg)
      (off : cfg.enabled = false) (accepted : refusal m tunnel w 0 = none) :
      Adds m tunnel w (tunnel.created (w.newID 0) w.uuid w.now)
  | candidate {cfg : App.AutoSubdomainConfig} {baseDomain slug domain : String} {attempt : ℕ}
      (auto : needsAutoDomain tunnel) (settings : w.auto = .ok cfg) (enabled : cfg.enabled = true)
      (base : normalizeDomain cfg.baseDomain = .ok baseDomain) (name : slugFromName tunnel.name = .ok slug)
      (allowed : attempt < w.attempts)
      (occupied : ∀ earlier < attempt, Occupied m tunnel w slug baseDomain earlier)
      (found : candidateDomain slug baseDomain attempt = .ok domain)
      (accepted : refusal m { tunnel with domain := domain } w attempt = none) :
      Adds m tunnel w ({ tunnel with domain := domain }.created (w.newID attempt) w.uuid w.now)

/-- Whoever is connected hears of what the request changes.

* A new tunnel is announced by nothing but its start.
* After an update the new client gets a snapshot, the old one does not; nobody does if the row was written
  and could not be read back.
* A start that fails leaves the status `error`, and no snapshot follows.
* When a tunnel is deleted the last snapshot still has it. -/
def Panel.Heard (p : Panel) (w : World) : Request → Prop
  | .create none => True
  | .create (some tunnel) => p.Online tunnel.clientID → ∀ row, Adds p.manager tunnel w row →
      tunnel.status = .running ∧ ∀ store : Store, store.getTunnel row.id = .ok row →
        goesWell starting (.startTunnel row.id) w.start { p.manager with store := store } = true
  | .update _ none => True
  | .update id (some request) => ∀ current, p.manager.getTunnel id w.get = .ok current →
      (Refused p.manager id request w → current.status = .running → p.Online current.clientID →
        goesWell reading (.stopTunnel id) w.stop p.manager = true) ∧
      (¬ Refused p.manager id request w → w.readBack ≠ none →
        ¬ p.Online current.clientID ∧ ¬ p.Online request.clientID) ∧
      (¬ Refused p.manager id request w → w.readBack = none →
        (p.Online current.clientID → current.clientID = request.clientID) ∧
        (p.Online request.clientID → w.sync.err = none))
  | .start id => ∀ tunnel, p.manager.store.getTunnel id = .ok tunnel → p.Online tunnel.clientID →
      tunnel.protocol ∈ runnable ∧ goesWell listening (.startTunnel id) w.start p.manager = true
  | .stop id => ∀ tunnel, p.manager.store.getTunnel id = .ok tunnel → p.Online tunnel.clientID →
      goesWell reading (.stopTunnel id) w.stop p.manager = true
  | .delete id => ∀ tunnel, p.manager.store.getTunnel id = .ok tunnel → p.Online tunnel.clientID →
      (w.failure 0 ≠ none ∨ ∃ row ∈ w.trafficLogs, row.tunnelID = id) ∧
        goesWell reading (.stopTunnel id) w.stop p.manager = true

/-- The events that meet the condition. -/
def Panel.Hears (p : Panel) : Event → Prop
  | .request request w => p.Heard w request
  | _ => True

/-- One event that meets the condition. -/
def Panel.Moves (allowed : Panel → Event → Prop) (p p' : Panel) : Prop :=
  ∃ event, allowed p event ∧ p.step event = some p'

/-- Any number of them. -/
abbrev Panel.Runs (allowed : Panel → Event → Prop) : Panel → Panel → Prop :=
  Relation.ReflTransGen (Panel.Moves allowed)

/-! ## What a request does -/

section Requests

variable {m m' : Manager} {s : Store} {id clientID other : String} {tunnel : Tunnel} {w : World}
variable {log : List Snapshot} {response : Response}

theorem runnable_of_validateTunnel (valid : validateTunnel tunnel = .ok ()) :
    toLower tunnel.protocol ∈ runnable := by
  unfold validateTunnel at valid
  split at valid
  · cases valid
  split at valid
  · cases valid
  simp only at valid
  split at valid
  · cases valid
  · rename_i known
    rw [not_not] at known
    have all : ∀ protocol ∈ ["tcp", "p2p", "http", "https", "udp", "visitor_webrtc"],
        protocol ∈ runnable := by decide
    exact all _ known

/-- The row was added to a database that is intact, for the client of the tunnel. -/
structure Inserted (m m' : Manager) (tunnel row : Tunnel) (store : Store) : Prop where
  manager : m' = { m with store := store }
  rows : store.tunnels = m.store.tunnels ++ [row]
  client : row.clientID = tunnel.clientID
  known : row.protocol ∈ runnable
  primary : Primary store

/-- One attempt: it is refused, or its row is added. -/
theorem write_createTunnel {attempt : ℕ} {result : Except String Tunnel}
    (wrote : write (Database.createTunnel tunnel (w.newID attempt) w.uuid w.now) w.trafficLogs
      (w.failure attempt) m = some (m', log, result)) :
    log = [] ∧
      ((∃ err, refusal m tunnel w attempt = some err ∧ result = .error err ∧ m' = m) ∨
        (refusal m tunnel w attempt = none ∧
          result = .ok (tunnel.created (w.newID attempt) w.uuid w.now) ∧
          ∃ store, Inserted m m' tunnel (tunnel.created (w.newID attempt) w.uuid w.now) store)) := by
  unfold refusal
  unfold write at wrote
  cases fails : w.failure attempt with
  | some err =>
      rw [fails] at wrote
      cases wrote
      exact ⟨rfl, Or.inl ⟨err, rfl, rfl, rfl⟩⟩
  | none =>
      rw [fails] at wrote
      cases checked : validateTunnel tunnel with
      | error err =>
          rw [Database.createTunnel_of_error checked] at wrote
          cases wrote
          exact ⟨rfl, Or.inl ⟨err, rfl, rfl, rfl⟩⟩
      | ok _ =>
          cases complaint : ({ tables m.store w.trafficLogs with
              tunnels := m.store.tunnels ++ [tunnel.created (w.newID attempt) w.uuid w.now] } :
            Database).violation with
          | some err =>
              rw [Database.createTunnel_of_violation checked complaint] at wrote
              cases wrote
              exact ⟨rfl, Or.inl ⟨err, rfl, rfl, rfl⟩⟩
          | none =>
              rw [Database.createTunnel_of_valid checked complaint] at wrote
              simp only at wrote
              split at wrote
              · rename_i intact
                cases wrote
                exact ⟨rfl, Or.inr ⟨rfl, rfl, _,
                  { manager := rfl
                    rows := rfl
                    client := rfl
                    known := runnable_of_validateTunnel checked
                    primary := (Database.violation_eq_none.mp intact).tunnels }⟩⟩
              · rename_i violated
                exact absurd complaint violated

/-- What `createTunnel` does: nothing, or it adds a row. -/
def Added (tunnel : Tunnel) (w : World) (m m' : Manager) (result : Except String Tunnel) : Prop :=
  (∃ err, result = .error err ∧ m' = m) ∨
    ∃ row store, result = .ok row ∧ Adds m tunnel w row ∧ Inserted m m' tunnel row store

theorem tryDomains_added {cfg : App.AutoSubdomainConfig} {slug baseDomain : String} {left attempt : ℕ}
    {result : Except String Tunnel} (auto : needsAutoDomain tunnel) (settings : w.auto = .ok cfg)
    (enabled : cfg.enabled = true) (base : normalizeDomain cfg.baseDomain = .ok baseDomain)
    (name : slugFromName tunnel.name = .ok slug) (allowed : attempt + left = w.attempts)
    (occupied : ∀ earlier < attempt, Occupied m tunnel w slug baseDomain earlier)
    (tried : tryDomains tunnel slug baseDomain w left attempt m = some (m', log, result)) :
    log = [] ∧ Added tunnel w m m' result := by
  induction left generalizing attempt log with
  | zero => cases tried
  | succ left ih =>
      rw [tryDomains] at tried
      cases found : candidateDomain slug baseDomain attempt with
      | error err =>
        rw [found] at tried
        obtain ⟨rfl, rfl, rfl⟩ := Logged.pure_eq_some.mp tried
        exact ⟨rfl, Or.inl ⟨_, rfl, rfl⟩⟩
      | ok domain =>
        rw [found] at tried
        obtain ⟨written, writeLog, outcome, later, wrote, rest, rfl⟩ := Logged.bind_eq_some.mp tried
        obtain ⟨rfl, ⟨err, refused, rfl, rfl⟩ | ⟨accepted, rfl, store, inserted⟩⟩ :=
          write_createTunnel wrote
        · simp only at rest
          split at rest
          · rename_i conflict
            obtain ⟨looked, lookLog, taken, final, looks, again, rfl⟩ := Logged.bind_eq_some.mp rest
            obtain ⟨rfl, rfl⟩ : looked = written ∧ lookLog = [] := by
              unfold domainInUse at looks
              split at looks <;> cases looks <;> exact ⟨rfl, rfl⟩
            split at again
            · rename_i used
              subst used
              -- the domain of this attempt is occupied, and the loop goes on
              obtain ⟨rfl, done⟩ := ih (by omega) (fun earlier before =>
                (Nat.lt_succ_iff_lt_or_eq.mp before).elim (occupied earlier) fun same =>
                  same ▸ ⟨domain, err, found, refused, conflict, looks⟩) again
              exact ⟨rfl, done⟩
            · obtain ⟨rfl, rfl, rfl⟩ := Logged.pure_eq_some.mp again
              exact ⟨rfl, Or.inl ⟨_, rfl, rfl⟩⟩
          · obtain ⟨rfl, rfl, rfl⟩ := Logged.pure_eq_some.mp rest
            exact ⟨rfl, Or.inl ⟨_, rfl, rfl⟩⟩
        · obtain ⟨rfl, rfl, rfl⟩ := Logged.pure_eq_some.mp rest
          refine ⟨rfl, Or.inr ⟨_, store, rfl, ?_, ?_⟩⟩
          · exact .candidate auto settings enabled base name (by omega) occupied found accepted
          · exact ⟨inserted.manager, inserted.rows, rfl, inserted.known, inserted.primary⟩

theorem createTunnel_added {result : Except String Tunnel}
    (ran : createTunnel tunnel w m = some (m', log, result)) : log = [] ∧ Added tunnel w m m' result := by
  unfold createTunnel at ran
  simp only at ran
  split at ran
  · rename_i auto
    have client : (normalizeTunnelDomain tunnel).clientID = tunnel.clientID := by
      unfold normalizeTunnelDomain
      split <;> rfl
    obtain ⟨rfl, ⟨err, -, rfl, rfl⟩ | ⟨accepted, rfl, store, inserted⟩⟩ := write_createTunnel ran
    · exact ⟨rfl, Or.inl ⟨_, rfl, rfl⟩⟩
    · refine ⟨rfl, Or.inr ⟨_, store, rfl, .plain auto accepted, ?_⟩⟩
      exact ⟨inserted.manager, inserted.rows, client, inserted.known, inserted.primary⟩
  · rename_i auto
    rw [not_not] at auto
    cases settings : w.auto with
    | error err =>
        rw [settings] at ran
        obtain ⟨rfl, rfl, rfl⟩ := Logged.pure_eq_some.mp ran
        exact ⟨rfl, Or.inl ⟨_, rfl, rfl⟩⟩
    | ok cfg =>
        simp only [settings] at ran
        split at ran
        · rename_i off
          obtain ⟨rfl, ⟨err, -, rfl, rfl⟩ | ⟨accepted, rfl, store, inserted⟩⟩ := write_createTunnel ran
          · exact ⟨rfl, Or.inl ⟨_, rfl, rfl⟩⟩
          · exact ⟨rfl, Or.inr ⟨_, store, rfl, .disabled auto settings off accepted, inserted⟩⟩
        · rename_i on
          cases base : normalizeDomain cfg.baseDomain with
          | error _ =>
              rw [base] at ran
              obtain ⟨rfl, rfl, rfl⟩ := Logged.pure_eq_some.mp ran
              exact ⟨rfl, Or.inl ⟨_, rfl, rfl⟩⟩
          | ok baseDomain =>
              cases name : slugFromName tunnel.name with
              | error _ =>
                  rw [base, name] at ran
                  obtain ⟨rfl, rfl, rfl⟩ := Logged.pure_eq_some.mp ran
                  exact ⟨rfl, Or.inl ⟨_, rfl, rfl⟩⟩
              | ok slug =>
                  rw [base, name] at ran
                  have enabled : cfg.enabled = true := by simpa using on
                  exact tryDomains_added auto settings enabled base name (Nat.zero_add _)
                    (fun _ before => absurd before (Nat.not_lt_zero _)) ran

variable {p : Panel}

theorem start_caught (primary : Primary p.manager.store) (heard : p.Heard w (.start id))
    (handled : start id w p.manager = some (m', log, response)) :
    Primary m'.store ∧ ∀ other, p.Online other → Caught other p.manager.store m'.store log := by
  obtain ⟨_, _, err, _, called, answers, rfl⟩ := Logged.bind_eq_some.mp handled
  obtain ⟨rfl, rfl, -⟩ := Logged.pure_eq_some.mp answers
  rw [List.append_nil]
  refine ⟨(call_sameKeys called).primary primary, fun other online => ?_⟩
  refine call_caught primary (Or.inl rfl) called fun tunnel found same => ⟨fun _ => ?_, nofun⟩
  exact heard tunnel found (same ▸ online)

theorem stop_caught (primary : Primary p.manager.store) (heard : p.Heard w (.stop id))
    (handled : stop id w p.manager = some (m', log, response)) :
    Primary m'.store ∧ ∀ other, p.Online other → Caught other p.manager.store m'.store log := by
  obtain ⟨_, _, err, _, called, answers, rfl⟩ := Logged.bind_eq_some.mp handled
  obtain ⟨rfl, rfl, -⟩ := Logged.pure_eq_some.mp answers
  rw [List.append_nil]
  refine ⟨(call_sameKeys called).primary primary, fun other online => ?_⟩
  refine call_caught primary (Or.inr rfl) called fun tunnel found same => ⟨nofun, fun _ => ?_⟩
  exact heard tunnel found (same ▸ online)

theorem delete_caught (primary : Primary p.manager.store) (heard : p.Heard w (.delete id))
    (handled : delete id w p.manager = some (m', log, response)) :
    Primary m'.store ∧ ∀ other, p.Online other → Caught other p.manager.store m'.store log := by
  obtain ⟨between, stopLog, err, _, called, rest, rfl⟩ := Logged.bind_eq_some.mp handled
  have keys := call_sameKeys called
  obtain ⟨written, writeLog, result, _, wrote, answers, rfl⟩ := Logged.bind_eq_some.mp rest
  obtain ⟨rfl, ⟨message, rfl, rfl⟩ | ⟨db, value, works, executed, rfl, rows, unique⟩⟩ := write_cases wrote
  · obtain ⟨rfl, rfl, -⟩ := Logged.pure_eq_some.mp answers
    rw [List.append_nil, List.append_nil]
    refine ⟨keys.primary primary, fun other online => ?_⟩
    refine call_caught primary (Or.inr rfl) called fun tunnel found same => ⟨nofun, fun _ => ?_⟩
    exact (heard tunnel found (same ▸ online)).2
  · obtain ⟨rfl, rfl, -⟩ := Logged.pure_eq_some.mp answers
    rw [List.append_nil, List.append_nil]
    rcases Database.deleteTunnel_cases (tables between.store w.trafficLogs) id with
      ⟨message, failed⟩ | ⟨unlogged, deleted⟩
    · rw [failed] at executed
      cases executed
    · rw [deleted] at executed
      obtain ⟨rfl, -⟩ := Prod.mk.inj executed
      refine ⟨unique, fun other online => Or.inl ?_⟩
      have foreign : Foreign p.manager.store id other := by
        cases found : p.manager.store.getTunnel id with
        | error message => exact foreign_of_missing found
        | ok tunnel =>
            refine foreign_of_getTunnel primary found fun same => ?_
            rcases (heard tunnel found (same ▸ online)).1 with fails | ⟨row, logged, same⟩
            · exact fails works
            · exact unlogged row logged same
      obtain ⟨apart, same⟩ := call_apart foreign (Or.inr rfl) called
      refine ⟨apart, Eq.trans ?_ same⟩
      unfold Store.listClientTunnels
      rw [rows]
      exact Table.selectAll_delete fun row member hit =>
        beq_eq_false_iff_ne.mpr (keys.foreign foreign row member (beq_iff_eq.mp hit))

theorem create_caught {body : Option Tunnel} (primary : Primary p.manager.store)
    (heard : p.Heard w (.create body))
    (handled : create body w p.manager = some (m', log, response)) :
    Primary m'.store ∧ ∀ other, p.Online other → Caught other p.manager.store m'.store log := by
  cases body with
  | none =>
      obtain ⟨rfl, rfl, -⟩ := Logged.pure_eq_some.mp handled
      exact ⟨primary, fun other _ => Or.inl ⟨nofun, rfl⟩⟩
  | some tunnel =>
      obtain ⟨inserted, _, result, _, created, rest, rfl⟩ := Logged.bind_eq_some.mp handled
      obtain ⟨rfl, ⟨message, rfl, rfl⟩ |
          ⟨row, store, rfl, adds, ⟨rfl, rows, client, known, unique⟩⟩⟩ := createTunnel_added created
      · obtain ⟨rfl, rfl, -⟩ := Logged.pure_eq_some.mp rest
        exact ⟨primary, fun other _ => Or.inl ⟨nofun, rfl⟩⟩
      · have member : row ∈ store.tunnels := by
          rw [rows]
          exact List.mem_append_right _ (List.mem_singleton_self row)
        have found : store.getTunnel row.id = .ok row := by
          unfold Store.getTunnel
          rw [(Table.select_eq_some unique).mpr ⟨member, rfl⟩]
        have unseen {other : String} (apart : other ≠ tunnel.clientID) :
            store.listClientTunnels other = p.manager.store.listClientTunnels other := by
          unfold Store.listClientTunnels
          rw [rows]
          exact Table.selectAll_insert (beq_eq_false_iff_ne.mpr (client ▸ apart.symm))
        simp only at rest
        split at rest
        · obtain ⟨started, startLog, err, _, called, answers, rfl⟩ := Logged.bind_eq_some.mp rest
          obtain ⟨rfl, rfl, -⟩ := Logged.pure_eq_some.mp answers
          rw [List.nil_append, List.append_nil]
          refine ⟨(call_sameKeys called).primary unique, fun other online => ?_⟩
          by_cases same : other = tunnel.clientID
          · obtain ⟨-, well⟩ := heard (same ▸ online) row adds
            have told := (call_startTunnel found called).told_of_complete ⟨known, well store found⟩
            rw [client, ← same] at told
            exact Or.inr ⟨[], told⟩
          · have foreign := foreign_of_getTunnel unique found (client ▸ same)
            obtain ⟨apart, kept⟩ := call_apart foreign (Or.inl rfl) called
            exact Or.inl ⟨apart, kept.trans (unseen same)⟩
        · rename_i idle
          obtain ⟨rfl, rfl, -⟩ := Logged.pure_eq_some.mp rest
          refine ⟨unique, fun other online => Or.inl ⟨nofun, unseen fun same => ?_⟩⟩
          exact idle (heard (same ▸ online) row adds).1

/-- An update writes no identifiers. -/
theorem primary_written {request : Tunnel} {visitorToken : String} {now : Time} {s s' : Store}
    (rows : s'.tunnels = Table.update s.tunnels (fun row => row.id == id)
      fun row => request.updated row visitorToken now) (primary : Primary s) : Primary s' := by
  have ids : s'.tunnels.map Tunnel.id = s.tunnels.map Tunnel.id := by
    rw [rows]
    exact Table.map_update fun _ => rfl
  unfold Primary
  rw [ids]
  exact primary

/-- The columns of a request, in the row of its tunnel. -/
theorem updated_foreign {request : Tunnel} {visitorToken : String} {now : Time} {s s' : Store}
    (rows : s'.tunnels = Table.update s.tunnels (fun row => row.id == id)
      fun row => request.updated row visitorToken now)
    (foreign : Foreign s id other) (apart : other ≠ request.clientID) :
    Foreign s' id other ∧ s'.listClientTunnels other = s.listClientTunnels other := by
  constructor
  · intro row member named
    rw [rows] at member
    obtain ⟨old, present, rfl⟩ := Table.mem_update.mp member
    split
    · exact apart.symm
    · rename_i missed
      rw [if_neg missed] at named
      exact absurd (beq_iff_eq.mpr named) missed
  · unfold Store.listClientTunnels
    rw [rows]
    exact Table.selectAll_update fun row member hit =>
      ⟨beq_eq_false_iff_ne.mpr (foreign row member (beq_iff_eq.mp hit)),
        beq_eq_false_iff_ne.mpr apart.symm⟩

theorem update_caught {body : Option Tunnel} (primary : Primary p.manager.store)
    (heard : p.Heard w (.update id body))
    (handled : update id body w p.manager = some (m', log, response)) :
    Primary m'.store ∧ ∀ other, p.Online other → Caught other p.manager.store m'.store log := by
  have nothing : Primary p.manager.store ∧ ∀ other, p.Online other →
      Caught other p.manager.store p.manager.store [] :=
    ⟨primary, fun other _ => Or.inl ⟨nofun, rfl⟩⟩
  cases read : p.manager.getTunnel id w.get with
  | error message =>
      unfold update at handled
      rw [read] at handled
      cases handled
      exact nothing
  | ok current =>
      cases body with
      | none =>
          unfold update at handled
          rw [read] at handled
          cases handled
          exact nothing
      | some request =>
          obtain ⟨_, -, found⟩ := Manager.getTunnel_ok read
          obtain ⟨whenRefused, whenUnread, whenAccepted⟩ := heard current read
          obtain ⟨between, stopLog, stopErr, stopped, ⟨refused, -, rfl, rfl⟩ |
              ⟨accepted, store, before, -, rows, ⟨unread, -, rfl, rfl⟩ | ⟨reads, -, started, startLog,
                startErr, syncLog, syncErr, starts, syncs, rfl⟩⟩⟩ := update_cases read handled
          · refine ⟨(whenRunning_sameKeys stopped).primary primary, fun other online => ?_⟩
            unfold whenRunning at stopped
            split at stopped
            · rename_i running
              refine call_caught primary (Or.inr rfl) stopped fun tunnel present same =>
                ⟨nofun, fun _ => ?_⟩
              obtain rfl := Except.ok.inj (found.symm.trans present)
              exact whenRefused refused running (same ▸ online)
            · obtain ⟨rfl, rfl, -⟩ := Logged.pure_eq_some.mp stopped
              exact Or.inl ⟨nofun, rfl⟩
          · -- the row has changed and nobody is told, but those whose list has changed are away
            obtain ⟨oldClient, newClient⟩ := whenUnread accepted unread
            have keys := whenRunning_sameKeys stopped
            refine ⟨primary_written rows (keys.primary primary), fun other online => Or.inl ?_⟩
            have foreign := foreign_of_getTunnel primary found fun same => oldClient (same ▸ online)
            obtain ⟨unstopped, stopList⟩ := whenRunning_apart foreign (Or.inr rfl) stopped
            obtain ⟨-, writeList⟩ := updated_foreign rows (keys.foreign foreign) fun same =>
              newClient (same ▸ online)
            exact ⟨unstopped, writeList.trans stopList⟩
          · obtain ⟨oldClient, synced⟩ := whenAccepted accepted reads
            obtain ⟨rfl, sent⟩ := call_syncClient syncs
            have keys := whenRunning_sameKeys stopped
            have written := primary_written rows (keys.primary primary)
            refine ⟨(whenRunning_sameKeys starts).primary written, fun other online => ?_⟩
            by_cases same : other = request.clientID
            · subst same
              rcases sent with rfl | ⟨-, unread⟩
              · exact Or.inr ⟨stopLog ++ startLog, by rw [List.append_assoc]⟩
              · refine absurd ?_ (unread reading rfl)
                simp [goesWell, synced online, Tunnels.step]
            · have apart : other ≠ current.clientID := fun equal =>
                same (equal.trans (oldClient (equal ▸ online)))
              have foreign := foreign_of_getTunnel primary found apart
              obtain ⟨unstopped, stopList⟩ := whenRunning_apart foreign (Or.inr rfl) stopped
              obtain ⟨foreign', writeList⟩ := updated_foreign rows (keys.foreign foreign) same
              obtain ⟨unstarted, startList⟩ := whenRunning_apart foreign' (Or.inl rfl) starts
              have unsynced : other ∉ syncLog.map Prod.fst := by
                rcases sent with rfl | ⟨rfl, -⟩
                · simpa using same
                · nofun
              refine Or.inl ⟨?_, startList.trans (writeList.trans stopList)⟩
              rw [List.map_append, List.map_append, List.mem_append, List.mem_append]
              rintro (told | told | told)
              · exact unstopped told
              · exact unstarted told
              · exact unsynced told

/-- One request. -/
theorem handle_caught {request : Request} (primary : Primary p.manager.store)
    (heard : p.Heard w request) (handled : request.handle w p.manager = some (m', log, response)) :
    Primary m'.store ∧ ∀ other, p.Online other → Caught other p.manager.store m'.store log := by
  cases request with
  | create body => exact create_caught primary heard handled
  | update id body => exact update_caught primary heard handled
  | start id => exact start_caught primary heard handled
  | stop id => exact stop_caught primary heard handled
  | delete id => exact delete_caught primary heard handled

/-- One event. -/
theorem step_inStep {p' : Panel} {event : Event} (primary : Primary p.manager.store)
    (inStep : p.InStep) (hears : p.Hears event) (stepped : p.step event = some p') :
    Primary p'.manager.store ∧ p'.InStep := by
  cases event with
  | connect clientID =>
      cases stepped
      refine ⟨primary, fun other tunnels told => ?_⟩
      simp only [GoMap.lookup_insert_if] at told
      split at told
      · rename_i same
        subst same
        exact (Option.some.inj told).symm
      · exact inStep other tunnels told
  | disconnect clientID =>
      cases stepped
      refine ⟨primary, fun other tunnels told => ?_⟩
      simp only [GoMap.lookup_erase_if] at told
      split at told
      · cases told
      · exact inStep other tunnels told
  | request request w =>
      obtain ⟨⟨m', log, response⟩, handled, rfl⟩ := Option.map_eq_some_iff.mp stepped
      obtain ⟨unique, caught⟩ := handle_caught primary hears handled
      exact ⟨unique, inStep_deliver inStep caught⟩

end Requests

/-- **When everybody hears of every request, everybody who is connected knows the tunnels that the store
has for it**, whatever agents come and go in between. -/
theorem inStep_of_runs {m : Manager} {p : Panel} (primary : Primary m.store)
    (reached : Panel.Runs Panel.Hears (Panel.boot m) p) : p.InStep := by
  have both : Primary p.manager.store ∧ p.InStep := by
    induction reached with
    | refl => exact ⟨primary, fun _ _ told => nomatch told⟩
    | tail _ moved ih =>
        obtain ⟨event, hears, stepped⟩ := moved
        exact step_inStep ih.1 ih.2 hears stepped
  exact both.2

end Hearing

/-! ## Concrete runs -/

/-- A tunnel is deleted while its agent is connected: the last snapshot still has it. -/
theorem deleted_unheard :
    let _ := CaseTable.ascii
    Primary tunnelStore ∧
      ∃ p, Panel.Runs (fun _ _ => True) (Panel.boot (newManager tunnelStore none false)) p ∧
        ¬ p.InStep := by
  intro ascii
  refine ⟨by unfold Primary; decide, ?_⟩
  have found : (((Panel.boot (newManager tunnelStore none false)).step (.connect "client-1")).bind
      fun p => (p.step (.request (.delete "tunnel-1") calm)).map fun p' =>
        ((p'.last.lookup "client-1").map List.length,
          (p'.manager.store.listClientTunnels "client-1").length)) = some (some 1, 0) := by
    decide +kernel
  obtain ⟨connected, connects, rest⟩ := Option.bind_eq_some_iff.mp found
  obtain ⟨p, deletes, shows⟩ := Option.map_eq_some_iff.mp rest
  simp only [Prod.mk.injEq] at shows
  obtain ⟨tunnels, told, length⟩ := Option.map_eq_some_iff.mp shows.1
  refine ⟨p, .tail (.single ⟨_, trivial, connects⟩) ⟨_, trivial, deletes⟩, fun inStep => ?_⟩
  have same := shows.2
  rw [← inStep "client-1" tunnels told, length] at same
  cases same

/-- A tunnel is started while its agent is connected: the agent knows that it is running. -/
theorem started_heard :
    let _ := CaseTable.ascii
    Primary tunnelStore ∧
      ∃ p, Panel.Runs Panel.Hears (Panel.boot (newManager tunnelStore none false)) p ∧ p.InStep ∧
        p.last.lookup "client-1" = some [{ stoppedTunnel with status := .running }] := by
  intro ascii
  have primary : Primary tunnelStore := by
    unfold Primary
    decide
  refine ⟨primary, ?_⟩
  have found : (((Panel.boot (newManager tunnelStore none false)).step (.connect "client-1")).bind
      fun p => (p.step (.request (.start "tunnel-1") calm)).map fun p' =>
        p'.last.lookup "client-1") = some (some [{ stoppedTunnel with status := .running }]) := by
    decide +kernel
  obtain ⟨connected, connects, rest⟩ := Option.bind_eq_some_iff.mp found
  obtain ⟨p, starts, shows⟩ := Option.map_eq_some_iff.mp rest
  have hears : connected.Hears (.request (.start "tunnel-1") calm) := by
    cases connects
    intro tunnel read _
    have row : tunnelStore.getTunnel "tunnel-1" = .ok stoppedTunnel := rfl
    obtain rfl := Except.ok.inj (row.symm.trans read)
    exact ⟨by decide, by decide +kernel⟩
  have reached : Panel.Runs Panel.Hears (Panel.boot (newManager tunnelStore none false)) p :=
    .tail (.single ⟨.connect "client-1", trivial, connects⟩) ⟨_, hears, starts⟩
  exact ⟨p, reached, inStep_of_runs primary reached, shows⟩

end NryNet.TunnelApi
