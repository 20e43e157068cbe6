import NryNet.Storage.Devices

/-!
# Deletes and the references between the tables

`traffic_logs` refers to `tunnels`, `tunnels` to `clients` and `clients` to `tokens`, and SQLite refuses
a delete that would leave a reference behind.  `DeleteToken` and `DeleteClient` therefore clear the
tables from the far end of the chain; `DeleteTunnel` does not touch `traffic_logs`, so it works for the
tunnels that have no traffic yet.
-/

namespace NryNet

open GoText

namespace Database

variable {db db' : Database}

/-- Fewer rows need fewer keys. -/
theorem Unique.sublist (unique : db.Unique) (tokens : db'.tokens.Sublist db.tokens)
    (clients : db'.clients.Sublist db.clients)
    (revoked : db'.revokedDevices.Sublist db.revokedDevices)
    (tunnels : db'.tunnels.Sublist db.tunnels) : db'.Unique where
  tokens := unique.tokens.sublist (tokens.map _)
  clients := unique.clients.sublist (clients.map _)
  devices := unique.devices.sublist (clients.map _)
  revoked := unique.revoked.sublist (revoked.map _)
  tunnels := unique.tunnels.sublist (tunnels.map _)
  domains := unique.domains.sublist ((tunnels.filter _).map _)

theorem Valid.deleteTrafficLogs (valid : db.Valid) (hit : TrafficRow → Bool) :
    ({ db with trafficLogs := Table.delete db.trafficLogs hit } : Database).Valid where
  toUnique := valid.toUnique.sublist (List.Sublist.refl _) (List.Sublist.refl _)
    (List.Sublist.refl _) (List.Sublist.refl _)
  token := valid.token
  client := valid.client
  tunnel := fun row member => valid.tunnel row (Table.mem_delete.mp member).1

/-- Tunnels may go when no traffic refers to them. -/
theorem Valid.deleteTunnels (valid : db.Valid) (hit : Tunnel → Bool)
    (free : ∀ row ∈ db.trafficLogs, ∀ tunnel ∈ db.tunnels, tunnel.id = row.tunnelID →
      hit tunnel = false) :
    ({ db with tunnels := Table.delete db.tunnels hit } : Database).Valid where
  toUnique := valid.toUnique.sublist (List.Sublist.refl _) (List.Sublist.refl _)
    (List.Sublist.refl _) List.filter_sublist
  token := valid.token
  client := fun tunnel member => valid.client tunnel (Table.mem_delete.mp member).1
  tunnel := by
    intro row member
    obtain ⟨tunnel, present, same⟩ := valid.tunnel row member
    exact ⟨tunnel, Table.mem_delete.mpr ⟨present, free row member tunnel present same⟩, same⟩

/-- Clients may go when no tunnel refers to them. -/
theorem Valid.deleteClients (valid : db.Valid) (hit : Client → Bool)
    (free : ∀ tunnel ∈ db.tunnels, ∀ client ∈ db.clients, client.id = tunnel.clientID →
      hit client = false) :
    ({ db with clients := Table.delete db.clients hit } : Database).Valid where
  toUnique := valid.toUnique.sublist (List.Sublist.refl _) List.filter_sublist
    (List.Sublist.refl _) (List.Sublist.refl _)
  token := fun client member => valid.token client (Table.mem_delete.mp member).1
  client := by
    intro tunnel member
    obtain ⟨client, present, same⟩ := valid.client tunnel member
    exact ⟨client, Table.mem_delete.mpr ⟨present, free tunnel member client present same⟩, same⟩
  tunnel := valid.tunnel

/-- Tokens may go when no client refers to them. -/
theorem Valid.deleteTokens (valid : db.Valid) (hit : TokenRow → Bool)
    (free : ∀ client ∈ db.clients, ∀ token ∈ db.tokens, token.id = client.tokenID →
      hit token = false) :
    ({ db with tokens := Table.delete db.tokens hit } : Database).Valid where
  toUnique := valid.toUnique.sublist List.filter_sublist (List.Sublist.refl _)
    (List.Sublist.refl _) (List.Sublist.refl _)
  token := by
    intro client member
    obtain ⟨token, present, same⟩ := valid.token client member
    exact ⟨token, Table.mem_delete.mpr ⟨present, free client member token present same⟩, same⟩
  client := valid.client
  tunnel := valid.tunnel

/-! ## The three deletes -/

/-- The statement found a row. -/
theorem requireChanged_countP {ρ : Type} {rows : List ρ} {hit : ρ → Bool} {row : ρ}
    (member : row ∈ rows) (found : hit row = true) :
    requireChanged (rows.countP hit) db = (db, .ok ()) := by
  have positive := (List.countP_pos_iff.mpr ⟨row, member, found⟩).ne'
  unfold requireChanged
  rw [if_neg positive]
  rfl

/-- `DeleteTunnel` fails and changes nothing, or the tunnel has no traffic and goes. -/
theorem deleteTunnel_cases (db : Database) (id : String) :
    (∃ message, deleteTunnel id db = (db, .error message)) ∨
      (∀ row ∈ db.trafficLogs, row.tunnelID ≠ id) ∧
        deleteTunnel id db =
          ({ db with tunnels := Table.delete db.tunnels fun tunnel => tunnel.id == id }, .ok ()) := by
  set change := fun db : Database =>
    ({ db with tunnels := Table.delete db.tunnels fun tunnel => tunnel.id == id },
      db.tunnels.countP fun tunnel => tunnel.id == id) with change_eq
  have idle (none : (change db).2 = 0) : (change db).1 = db := by
    have misses (tunnel : Tunnel) (member : tunnel ∈ db.tunnels) : (tunnel.id == id) = false := by
      have := List.countP_eq_zero.mp none tunnel member
      simpa using this
    simp only [change_eq, Table.delete_of_forall misses]
  rcases changed_cases idle with ⟨message, failed⟩ | ⟨intact, -, returned⟩
  · exact Or.inl ⟨message, failed⟩
  · refine Or.inr ⟨fun row member same => ?_, returned⟩
    obtain ⟨tunnel, present, refers⟩ := intact.tunnel row member
    have kept := (Table.mem_delete.mp present).2
    rw [refers, same, beq_self_eq_true] at kept
    cases kept

/-- `DeleteTunnel` of a tunnel without traffic. -/
theorem deleteTunnel_existing (valid : db.Valid) {tunnel : Tunnel} (member : tunnel ∈ db.tunnels)
    (unlogged : ∀ row ∈ db.trafficLogs, row.tunnelID ≠ tunnel.id) :
    deleteTunnel tunnel.id db =
      ({ db with tunnels := Table.delete db.tunnels fun row => row.id == tunnel.id }, .ok ()) := by
  have intact := valid.deleteTunnels (fun row => row.id == tunnel.id) (by
    intro row logged other _ same
    rw [same]
    exact beq_eq_false_iff_ne.mpr (unlogged row logged))
  unfold deleteTunnel Database.deleteTunnels
  rw [Fallible.bind_ok (execute_ok intact)]
  exact requireChanged_countP member (beq_self_eq_true _)

/-- `revoked_devices` after `DeleteClient` of the client. -/
def revokedWith (db : Database) (client : Client) (now : Time) : List RevokedDevice :=
  if db.isRevoked client.deviceID then db.revokedDevices
  else db.revokedDevices ++ [⟨client.deviceID, now⟩]

theorem insertRevoked_ok (valid : db.Valid) {client : Client} (member : client ∈ db.clients)
    (now : Time) :
    ({ db with revokedDevices := revokedWith db client now } : Database).Valid ∧
      ∃ count, insertRevoked client.id now (fun row => row) 0 db =
        ({ db with revokedDevices := revokedWith db client now }, .ok count) := by
  have unique : ((revokedWith db client now).map RevokedDevice.deviceID).Nodup := by
    unfold revokedWith
    split
    · exact valid.revoked
    · rename_i unlisted
      refine Table.nodup_insert valid.revoked fun old present same => unlisted ?_
      exact List.any_eq_true.mpr ⟨old, present, beq_iff_eq.mpr same⟩
  have intact : ({ db with revokedDevices := revokedWith db client now } : Database).Valid :=
    { valid with revoked := unique }
  refine ⟨intact, ?_⟩
  have selected : Table.select db.clients Client.id client.id = some client :=
    (Table.select_eq_some valid.clients).mpr ⟨member, rfl⟩
  have whole (hit : RevokedDevice → Bool) :
      Table.update db.revokedDevices hit (fun row => row) = db.revokedDevices := by
    unfold Table.update
    simp only [ite_self, List.map_id']
  unfold insertRevoked execute
  simp only [selected, whole]
  unfold revokedWith at intact ⊢
  by_cases listed : db.isRevoked client.deviceID = true
  · simp only [listed, if_true] at intact ⊢
    rw [violation_eq_none.mpr intact]
    exact ⟨_, rfl⟩
  · simp only [listed, if_false, Bool.false_eq_true] at intact ⊢
    rw [violation_eq_none.mpr intact]
    exact ⟨_, rfl⟩

/-- `DeleteClient` of a client: its traffic, its tunnels and its row go, and its device is revoked. -/
theorem deleteClient_existing (valid : db.Valid) {client : Client} (member : client ∈ db.clients)
    (now : Time) :
    deleteClient client.id now db =
      ({ db with
          clients := Table.delete db.clients fun row => row.id == client.id
          revokedDevices := revokedWith db client now
          tunnels := Table.delete db.tunnels fun tunnel => tunnel.clientID == client.id
          trafficLogs := Table.delete db.trafficLogs fun row =>
            db.tunnels.any fun tunnel =>
              tunnel.id == row.tunnelID && tunnel.clientID == client.id },
        .ok ()) := by
  obtain ⟨intact, count, revoked⟩ := insertRevoked_ok valid member now
  have cleared := intact.deleteTrafficLogs fun row =>
    db.tunnels.any fun tunnel => tunnel.id == row.tunnelID && tunnel.clientID == client.id
  have stopped := cleared.deleteTunnels (fun tunnel => tunnel.clientID == client.id) (by
    intro row logged tunnel present same
    have kept := List.any_eq_false.mp (Table.mem_delete.mp logged).2 tunnel present
    simpa [same] using kept)
  have gone := stopped.deleteClients (fun row => row.id == client.id) (by
    intro tunnel present row _ same
    have kept := (Table.mem_delete.mp present).2
    rw [same]
    exact kept)
  unfold deleteClient
  refine Fallible.transaction_ok ?_
  rw [Fallible.bind_ok revoked]
  unfold Database.deleteTrafficLogs Database.deleteTunnels Database.deleteClients
  rw [Fallible.bind_ok (execute_ok cleared), Fallible.bind_ok (execute_ok stopped),
    Fallible.bind_ok (execute_ok gone)]
  exact requireChanged_countP member (beq_self_eq_true _)

/-- `DeleteToken` of a token: the traffic and the tunnels of its clients, its clients and its row. -/
theorem deleteToken_existing (valid : db.Valid) {token : TokenRow} (member : token ∈ db.tokens) :
    deleteToken token.id db =
      ({ db with
          tokens := Table.delete db.tokens fun row => row.id == token.id
          clients := Table.delete db.clients fun client => client.tokenID == token.id
          tunnels := Table.delete db.tunnels fun tunnel =>
            db.clients.any fun client =>
              client.tokenID == token.id && client.id == tunnel.clientID
          trafficLogs := Table.delete db.trafficLogs fun row =>
            db.tunnels.any fun tunnel => tunnel.id == row.tunnelID &&
              db.clients.any fun client =>
                client.id == tunnel.clientID && client.tokenID == token.id },
        .ok ()) := by
  have cleared := valid.deleteTrafficLogs fun row =>
    db.tunnels.any fun tunnel => tunnel.id == row.tunnelID &&
      db.clients.any fun client => client.id == tunnel.clientID && client.tokenID == token.id
  have stopped := cleared.deleteTunnels (fun tunnel =>
      db.clients.any fun client => client.tokenID == token.id && client.id == tunnel.clientID) (by
    intro row logged tunnel present same
    have kept := List.any_eq_false.mp (Table.mem_delete.mp logged).2 tunnel present
    refine List.any_eq_false.mpr fun client there found => kept ?_
    rw [Bool.and_eq_true] at found
    rw [same, beq_self_eq_true, Bool.true_and]
    exact List.any_eq_true.mpr ⟨client, there, by rw [found.1, found.2]; rfl⟩)
  have gone := stopped.deleteClients (fun client => client.tokenID == token.id) (by
    intro tunnel present client there same
    have kept := List.any_eq_false.mp (Table.mem_delete.mp present).2 client there
    simpa [same] using kept)
  have unbound := gone.deleteTokens (fun row => row.id == token.id) (by
    intro client present row _ same
    have kept := (Table.mem_delete.mp present).2
    rw [same]
    exact kept)
  unfold deleteToken
  refine Fallible.transaction_ok ?_
  unfold Database.deleteTrafficLogs Database.deleteTunnels Database.deleteClients
    Database.deleteTokens
  rw [Fallible.bind_ok (execute_ok cleared), Fallible.bind_ok (execute_ok stopped),
    Fallible.bind_ok (execute_ok gone), Fallible.bind_ok (execute_ok unbound)]
  exact requireChanged_countP member (beq_self_eq_true _)

end Database

/-- The deletes. -/
inductive Deletion where
  | tunnel (id : String)
  | client (id : String) (now : Time)
  | token (id : String)
  deriving DecidableEq, Repr

namespace Deletion

/-- `DeleteTunnel`, `DeleteClient` or `DeleteToken`. -/
def perform : Deletion → Fallible Database String Unit
  | tunnel id => Database.deleteTunnel id
  | client id now => Database.deleteClient id now
  | token id => Database.deleteToken id

/-- The row that is to go is there. -/
def Exists (db : Database) : Deletion → Prop
  | tunnel id => ∃ row ∈ db.tunnels, row.id = id
  | client id _ => ∃ row ∈ db.clients, row.id = id
  | token id => ∃ row ∈ db.tokens, row.id = id

/-- The rows of `tokens` that a delete is meant to remove. -/
def dropsToken : Deletion → TokenRow → Bool
  | token id, row => row.id == id
  | _, _ => false

/-- The client itself, or the clients of the token. -/
def dropsClient : Deletion → Client → Bool
  | tunnel _, _ => false
  | client id _, row => row.id == id
  | token id, row => row.tokenID == id

/-- The tunnel itself, or the tunnels of the clients that go. -/
def dropsTunnel (db : Database) : Deletion → Tunnel → Bool
  | tunnel id, row => row.id == id
  | deletion, row =>
      db.clients.any fun client => deletion.dropsClient client && client.id == row.clientID

/-- The traffic of the tunnels that go. -/
def dropsTraffic (db : Database) (deletion : Deletion) (row : TrafficRow) : Bool :=
  db.tunnels.any fun tunnel => deletion.dropsTunnel db tunnel && tunnel.id == row.tunnelID

/-- The entity and what depends on it are gone, and every other row is where it was. -/
structure Removes (db db' : Database) (deletion : Deletion) : Prop where
  tokens : db'.tokens = Table.delete db.tokens deletion.dropsToken
  clients : db'.clients = Table.delete db.clients deletion.dropsClient
  tunnels : db'.tunnels = Table.delete db.tunnels (deletion.dropsTunnel db)
  trafficLogs : db'.trafficLogs = Table.delete db.trafficLogs (deletion.dropsTraffic db)
  revokedDevices : ∃ added, db'.revokedDevices = db.revokedDevices ++ added ∧
    ∀ row ∈ added, ∃ client ∈ db.clients, ∃ id now, deletion = .client id now ∧ client.id = id ∧
      row = ⟨client.deviceID, now⟩

/-- What is expected of a delete: it works for what exists, no reference is left dangling, and a delete
that fails leaves no trace. -/
structure Works (db : Database) (deletion : Deletion) : Prop where
  succeeds : deletion.Exists db → (deletion.perform db).2 = .ok ()
  removes : deletion.Exists db → deletion.Removes db (deletion.perform db).1
  refers : (deletion.perform db).1.Refers
  unchanged : ∀ message, (deletion.perform db).2 = .error message → (deletion.perform db).1 = db

/-- A tunnel that is to go has no traffic. -/
def Unlogged (db : Database) : Deletion → Prop
  | tunnel id => ∀ row ∈ db.trafficLogs, row.tunnelID ≠ id
  | _ => True

variable {db : Database}

theorem works_tunnel (valid : db.Valid) {id : String}
    (unlogged : ∀ row ∈ db.trafficLogs, row.tunnelID ≠ id) : (tunnel id).Works db := by
  have ran : (tunnel id).Exists db → Database.deleteTunnel id db =
      ({ db with tunnels := Table.delete db.tunnels fun row => row.id == id }, .ok ()) := by
    rintro ⟨row, member, rfl⟩
    exact Database.deleteTunnel_existing valid member unlogged
  have removes : (tunnel id).Exists db → (tunnel id).Removes db (Database.deleteTunnel id db).1 := by
    intro existing
    rw [ran existing]
    refine ⟨(Table.delete_of_forall fun _ _ => rfl).symm, (Table.delete_of_forall fun _ _ => rfl).symm,
      rfl, ?_, [], (List.append_nil _).symm, by simp⟩
    refine (Table.delete_of_forall fun row logged => ?_).symm
    refine List.any_eq_false.mpr fun other _ found => unlogged row logged ?_
    rw [Bool.and_eq_true] at found
    exact (beq_iff_eq.mp found.2).symm.trans (beq_iff_eq.mp found.1)
  have refers := ((Database.Keeps.deleteTunnel id).kept valid).valid.toRefers
  refine ⟨fun existing => congrArg Prod.snd (ran existing), removes, refers, fun message failed => ?_⟩
  rcases Database.deleteTunnel_cases db id with ⟨text, ended⟩ | ⟨-, returned⟩
  · exact congrArg Prod.fst ended
  · exact absurd ((congrArg Prod.snd returned).symm.trans failed) nofun

/-- A transaction that fails leaves no trace. -/
theorem unchanged_of_transaction {program : Fallible Database String Unit} {message : String}
    (failed : (program.transaction db).2 = .error message) : (program.transaction db).1 = db :=
  Fallible.transaction_error (Prod.ext_iff.mpr ⟨rfl, failed⟩)

theorem works_client (valid : db.Valid) (id : String) (now : Time) : (client id now).Works db := by
  have removes : (client id now).Exists db →
      (client id now).Removes db (Database.deleteClient id now db).1 := by
    rintro ⟨row, member, rfl⟩
    rw [Database.deleteClient_existing valid member now]
    have owned (tunnel : Tunnel) : (tunnel.clientID == row.id) =
        (client row.id now).dropsTunnel db tunnel := by
      rw [Bool.eq_iff_iff]
      unfold dropsTunnel
      rw [List.any_eq_true]
      constructor
      · intro same
        refine ⟨row, member, ?_⟩
        rw [beq_iff_eq.mp same]
        simp only [dropsClient, beq_self_eq_true, Bool.and_self]
      · rintro ⟨other, -, found⟩
        simp only [dropsClient, Bool.and_eq_true, beq_iff_eq] at found
        rw [beq_iff_eq]
        exact found.2.symm.trans found.1
    have logged (traffic : TrafficRow) :
        (db.tunnels.any fun tunnel => tunnel.id == traffic.tunnelID && tunnel.clientID == row.id) =
          (client row.id now).dropsTraffic db traffic := by
      unfold dropsTraffic
      congr 1
      funext tunnel
      rw [owned tunnel, Bool.and_comm]
    refine ⟨(Table.delete_of_forall fun _ _ => rfl).symm, rfl, ?_, ?_, ?_⟩
    · simp only [owned]
    · simp only [logged]
    · unfold Database.revokedWith
      split
      · exact ⟨[], (List.append_nil _).symm, by simp⟩
      · refine ⟨_, rfl, fun added new => ?_⟩
        exact ⟨row, member, row.id, now, rfl, rfl, List.mem_singleton.mp new⟩
  refine ⟨?_, removes, ((Database.Keeps.deleteClient id now).kept valid).valid.toRefers,
    fun message failed => unchanged_of_transaction failed⟩
  rintro ⟨row, member, rfl⟩
  exact congrArg Prod.snd (Database.deleteClient_existing valid member now)

theorem works_token (valid : db.Valid) (id : String) : (token id).Works db := by
  have removes : (token id).Exists db → (token id).Removes db (Database.deleteToken id db).1 := by
    rintro ⟨row, member, rfl⟩
    rw [Database.deleteToken_existing valid member]
    refine ⟨rfl, rfl, rfl, ?_, [], (List.append_nil _).symm, by simp⟩
    have same (traffic : TrafficRow) :
        (db.tunnels.any fun tunnel => tunnel.id == traffic.tunnelID &&
          db.clients.any fun client => client.id == tunnel.clientID && client.tokenID == row.id) =
        (token row.id).dropsTraffic db traffic := by
      unfold dropsTraffic
      congr 1
      funext tunnel
      rw [Bool.and_comm]
      congr 2
      funext client
      exact Bool.and_comm _ _
    simp only [same]
  refine ⟨?_, removes, ((Database.Keeps.deleteToken id).kept valid).valid.toRefers,
    fun message failed => unchanged_of_transaction failed⟩
  rintro ⟨row, member, rfl⟩
  exact congrArg Prod.snd (Database.deleteToken_existing valid member)

/-- A tunnel with traffic stays. -/
theorem not_works_logged (valid : db.Valid) {row : TrafficRow} (member : row ∈ db.trafficLogs) :
    ¬(tunnel row.tunnelID).Works db := by
  intro works
  have done := works.succeeds (valid.tunnel row member)
  rcases Database.deleteTunnel_cases db row.tunnelID with ⟨message, failed⟩ | ⟨unlogged, -⟩
  · exact absurd (done.symm.trans (congrArg Prod.snd failed)) nofun
  · exact unlogged row member rfl

section

variable [CaseTable]

/-- After every sequence of operations, a delete works exactly when it is not the delete of a tunnel
that has traffic. -/
theorem works_iff_unlogged (operations : List Operation) (deletion : Deletion) :
    deletion.Works (Operation.runAll operations Database.empty) ↔
      deletion.Unlogged (Operation.runAll operations Database.empty) := by
  have valid := (Operation.runAll_keeps operations Database.valid_empty).1
  cases deletion with
  | tunnel id =>
      refine ⟨fun works row member same => ?_, works_tunnel valid⟩
      exact not_works_logged valid member (same.symm ▸ works)
  | client id now => exact ⟨fun _ => trivial, fun _ => works_client valid id now⟩
  | token id => exact ⟨fun _ => trivial, fun _ => works_token valid id⟩

end

/-- A tunnel that was used once. -/
def usedTunnel : List Operation :=
  [.createAgentToken "home" "t" "abcdefgh" "hash" 1,
    .upsertClient "c" "t" ⟨"laptop", "device", "192.0.2.1", "linux", "1.0"⟩ 2,
    .createTunnel
      ⟨"", "c", "ssh", "tcp", "", "127.0.0.1", 22, 2222, "", .stopped, [], 0, 0⟩ "u" "uuid" 3,
    .recordTrafficBatch [⟨"u", 10, 20⟩] 4]

/-- `DeleteTunnel` fails for it. -/
theorem usedTunnel_not_deleted :
    ¬(tunnel "u").Works (@Operation.runAll CaseTable.ascii usedTunnel Database.empty) := by
  let _ := CaseTable.ascii
  have valid := (Operation.runAll_keeps usedTunnel Database.valid_empty).1
  have logged : ⟨"u", 10, 20, 4⟩ ∈ (Operation.runAll usedTunnel Database.empty).trafficLogs := by
    decide +kernel
  exact not_works_logged valid logged

end Deletion

end NryNet
