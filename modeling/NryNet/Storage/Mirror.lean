import NryNet.Storage.Integrity

/-!
# The tables that authorization reads

`Store` is the part of a valid database without its traffic.  It carries the constraints as fields, so that
its operations cannot fail on the way, and authorization is modelled over it.

The operations of the two are kept in step here: from a valid database, each operation of `tokens.go` and
`clients.go`, and `SetTunnelStatus`, leaves the tables and returns the value or the error that its
counterpart over the `Store` leaves and returns (`mirrors_perform`), and so does every sequence of them
(`runAll_toStore`).
-/

namespace NryNet

open GoText

/-- What an operation over the `Store` leaves and returns: one that fails changes nothing. -/
def Store.attempt (s : Store) : Except String Store → Store × Except String Unit
  | .ok s' => (s', .ok ())
  | .error message => (s, .error message)

namespace Database

/-- The database without its traffic. -/
def toStore (db : Database) (valid : db.Valid) : Store where
  tokens := db.tokens
  clients := db.clients
  revokedDevices := db.revokedDevices
  tunnels := db.tunnels
  tokens_primary := valid.tokens
  clients_primary := valid.clients
  clients_device := valid.devices
  clients_token := valid.token
  tunnels_client := valid.client

/-- An operation of the database leaves the tables and returns what its counterpart does. -/
def Mirrors {α : Type} (outcome : Database × Except String α) (result : Store × Except String α) : Prop :=
  (∃ valid, outcome.1.toStore valid = result.1) ∧ outcome.2 = result.2

section Outcomes

variable {db db' : Database} {change : Database → Database × ℕ} {id : String} {now : Time}

theorem toStore_congr (valid : db.Valid) (valid' : db'.Valid) (same : db = db') :
    db.toStore valid = db'.toStore valid' := by
  subst same
  rfl

theorem mirrors_error (valid : db.Valid) (message : String) :
    Mirrors (db, (.error message : Except String Unit)) ((db.toStore valid).attempt (.error message)) :=
  ⟨⟨valid, rfl⟩, rfl⟩

/-- A statement that has to touch a row. -/
theorem mirrors_changed (valid : db.Valid) (intact : (change db).1.Valid) {touched : Bool}
    (counted : (change db).2 = 0 ↔ touched = false) (idle : (change db).2 = 0 → (change db).1 = db) :
    Mirrors ((execute change >>= requireChanged) db) ((db.toStore valid).attempt
      (if touched then .ok ((change db).1.toStore intact) else .error Store.errNotFound)) := by
  rw [Fallible.bind_ok (execute_ok intact)]
  unfold requireChanged
  by_cases none : (change db).2 = 0
  · rw [if_pos none, counted.mp none]
    exact ⟨⟨intact, toStore_congr intact valid (idle none)⟩, rfl⟩
  · rw [if_neg none, if_pos (Bool.eq_true_of_not_eq_false (mt counted.mpr none))]
    exact ⟨⟨intact, rfl⟩, rfl⟩

/-- The rows that a statement touches. -/
theorem countP_eq_zero_iff_any {ρ : Type} {rows : List ρ} {hit : ρ → Bool} :
    rows.countP hit = 0 ↔ rows.any hit = false := by
  rw [List.countP_eq_zero, List.any_eq_false]

theorem countP_of_forall {ρ : Type} {rows : List ρ} {hit : ρ → Bool}
    (misses : ∀ row ∈ rows, hit row = false) : rows.countP hit = 0 :=
  List.countP_eq_zero.mpr fun row member => Bool.eq_false_iff.mp (misses row member)

theorem update_of_countP {ρ : Type} {rows : List ρ} {hit : ρ → Bool} {set : ρ → ρ}
    (none : rows.countP hit = 0) : Table.update rows hit set = rows :=
  Table.update_of_forall fun row member =>
    Bool.eq_false_of_not_eq_true (List.countP_eq_zero.mp none row member)

/-! ## Tokens -/

theorem Valid.updateTokens (valid : db.Valid) (hit : TokenRow → Bool) (set : TokenRow → TokenRow)
    (keeps : ∀ row, (set row).id = row.id) :
    ({ db with tokens := Table.update db.tokens hit set } : Database).Valid :=
  { valid with
    tokens := ((db.toStore valid).updateTokens hit set keeps).tokens_primary
    token := ((db.toStore valid).updateTokens hit set keeps).clients_token }

theorem mirrors_setTokenDisabled (valid : db.Valid) (disabled : Bool) :
    Mirrors (setTokenDisabled id disabled db)
      ((db.toStore valid).attempt ((db.toStore valid).setTokenDisabled id disabled)) := by
  have intact := valid.updateTokens (fun row => row.id == id)
    (fun row => { row with disabled := disabled }) fun _ => rfl
  refine mirrors_changed valid intact countP_eq_zero_iff_any fun none => ?_
  simp only [update_of_countP none]

theorem mirrors_touchToken (valid : db.Valid) :
    Mirrors (touchToken id now db) ((db.toStore valid).touchToken id now, .ok ()) := by
  have intact := valid.updateTokens (fun row => row.id == id)
    (fun row => { row with lastUsed := some now }) fun _ => rfl
  unfold touchToken Database.updateTokens
  rw [Fallible.bind_ok (execute_ok intact)]
  exact ⟨⟨intact, rfl⟩, rfl⟩

/-- A token with a new identifier, and none with an old one. -/
theorem mirrors_insertToken (valid : db.Valid) (row : TokenRow) :
    Mirrors ((insertToken row >>= fun _ => pure ()) db)
      ((db.toStore valid).attempt ((db.toStore valid).insertToken row)) := by
  unfold Store.insertToken insertToken
  by_cases fresh : ∀ old ∈ (db.toStore valid).tokens, old.id ≠ row.id
  · have intact : ({ db with tokens := db.tokens ++ [row] } : Database).Valid :=
      { valid with
        tokens := Table.nodup_insert valid.tokens fresh
        token := fun client member =>
          let ⟨token, present, same⟩ := valid.token client member
          ⟨token, List.mem_append_left _ present, same⟩ }
    rw [Fallible.bind_ok (execute_ok intact), dif_pos fresh]
    exact ⟨⟨intact, rfl⟩, rfl⟩
  · have taken : ¬ ((db.tokens ++ [row]).map fun row => row.id).Nodup :=
      fun unique => fresh (Table.fresh_of_nodup_insert unique)
    have failed : execute (fun db : Database => ({ db with tokens := db.tokens ++ [row] }, 1)) db =
        (db, .error "UNIQUE constraint failed: tokens.id") := by
      unfold execute violation
      simp only [if_pos taken]
    rw [Fallible.bind_error failed, dif_neg fresh]
    exact mirrors_error valid _

theorem requireChanged_zero {count : ℕ} (none : count = 0) :
    requireChanged count db = (db, .error Store.errNotFound) := by
  subst none
  rfl

/-- `DeleteToken` of no token: it comes to its last statement, and everything is rolled back. -/
theorem deleteToken_missing (valid : db.Valid) (missing : ∀ token ∈ db.tokens, token.id ≠ id) :
    deleteToken id db = (db, .error Store.errNotFound) := by
  have clients (client : Client) (member : client ∈ db.clients) : (client.tokenID == id) = false := by
    obtain ⟨token, present, same⟩ := valid.token client member
    exact beq_eq_false_iff_ne.mpr fun equal => missing token present (same.trans equal)
  have traffic : Table.delete db.trafficLogs (fun row => db.tunnels.any fun tunnel =>
      tunnel.id == row.tunnelID && db.clients.any fun client =>
        client.id == tunnel.clientID && client.tokenID == id) = db.trafficLogs := by
    refine Table.delete_of_forall fun row _ => List.any_eq_false.mpr fun tunnel _ found => ?_
    obtain ⟨client, member, both⟩ := List.any_eq_true.mp (Bool.and_eq_true_iff.mp found).2
    exact absurd (Bool.and_eq_true_iff.mp both).2 (by rw [clients client member]; exact Bool.false_ne_true)
  have tunnels : Table.delete db.tunnels (fun tunnel => db.clients.any fun client =>
      client.tokenID == id && client.id == tunnel.clientID) = db.tunnels := by
    refine Table.delete_of_forall fun tunnel _ => List.any_eq_false.mpr fun client member found => ?_
    exact absurd (Bool.and_eq_true_iff.mp found).1 (by rw [clients client member]; exact Bool.false_ne_true)
  have tokens (token : TokenRow) (member : token ∈ db.tokens) : (token.id == id) = false :=
    beq_eq_false_iff_ne.mpr (missing token member)
  unfold deleteToken Fallible.transaction deleteTrafficLogs deleteTunnels deleteClients deleteTokens
  rw [Fallible.bind_ok (execute_idle valid (by simp only [traffic])),
    Fallible.bind_ok (execute_idle valid (by simp only [tunnels])),
    Fallible.bind_ok (execute_idle valid (by simp only [Table.delete_of_forall clients])),
    Fallible.bind_ok (execute_idle valid (by simp only [Table.delete_of_forall tokens])),
    requireChanged_zero (countP_of_forall tokens)]

theorem mirrors_deleteToken (valid : db.Valid) :
    Mirrors (deleteToken id db) ((db.toStore valid).attempt ((db.toStore valid).deleteToken id)) := by
  unfold Store.deleteToken
  by_cases known : (db.toStore valid).tokens.any (fun row => row.id == id) = true
  · obtain ⟨token, member, same⟩ := List.any_eq_true.mp known
    obtain rfl := beq_iff_eq.mp same
    have intact := ((Keeps.deleteToken token.id).kept valid).valid
    rw [if_pos known]
    rw [deleteToken_existing valid member] at intact ⊢
    exact ⟨⟨intact, rfl⟩, rfl⟩
  · rw [if_neg known, deleteToken_missing valid fun token member same =>
      known (List.any_eq_true.mpr ⟨token, member, beq_iff_eq.mpr same⟩)]
    exact mirrors_error valid _

/-! ## Clients -/

theorem mirrors_setClientStatus (valid : db.Valid) (status : ClientStatus) :
    Mirrors (setClientStatus id status now db)
      ((db.toStore valid).attempt ((db.toStore valid).setClientStatus id status now)) := by
  have intact := @Valid.updateClients db valid (fun client => client.id == id)
    (fun client => { client with status := status, lastOnline := now }) fun _ => rfl
  refine mirrors_changed valid intact countP_eq_zero_iff_any fun none => ?_
  simp only [update_of_countP none]

theorem mirrors_setClientDisabled (valid : db.Valid) (disabled : Bool) :
    Mirrors (setClientDisabled id disabled db)
      ((db.toStore valid).attempt ((db.toStore valid).setClientDisabled id disabled)) := by
  have intact := @Valid.updateClients db valid (fun client => client.id == id)
    (fun client => { client with disabled := disabled }) fun _ => rfl
  refine mirrors_changed valid intact countP_eq_zero_iff_any fun none => ?_
  simp only [update_of_countP none]

/-- `UpdateClient`, with the flag or without it, when the name has been written. -/
theorem updateClient_eq (s : Store) (id name : String) (disabled : Option Bool) :
    s.updateClient id name disabled =
      let named := if name ≠ "" then s.setClientName id name else s
      disabled.elim (if name = "" then (named, .error "no client changes supplied") else (named, .ok ()))
        fun flag => named.attempt (named.setClientDisabled id flag) := by
  unfold Store.updateClient
  generalize (if name ≠ "" then s.setClientName id name else s) = named
  cases disabled with
  | none => rfl
  | some flag =>
      show _ = named.attempt (named.setClientDisabled id flag)
      simp only
      cases named.setClientDisabled id flag <;> rfl

theorem mirrors_updateClient (valid : db.Valid) (name : String) (disabled : Option Bool) :
    Mirrors (updateClient id name disabled db) ((db.toStore valid).updateClient id name disabled) := by
  have intact := @Valid.updateClients db valid (fun client => client.id == id)
    (fun client => { client with name := name }) fun _ => rfl
  rw [updateClient_eq]
  unfold Database.updateClient Database.updateClients
  cases disabled with
  | some flag =>
      simp only
      by_cases named : name ≠ ""
      · rw [if_pos named, if_pos named, Fallible.bind_ok (execute_ok intact)]
        exact mirrors_setClientDisabled intact flag
      · rw [if_neg named, if_neg named]
        exact mirrors_setClientDisabled valid flag
  | none =>
      simp only
      by_cases named : name ≠ ""
      · rw [if_pos named, if_pos named, if_neg named, if_neg named, Fallible.bind_ok (execute_ok intact)]
        exact ⟨⟨intact, rfl⟩, rfl⟩
      · rw [if_neg named, if_neg named, if_pos (not_not.mp named), if_pos (not_not.mp named)]
        exact ⟨⟨valid, rfl⟩, rfl⟩

theorem mirrors_revokeClientDevice (valid : db.Valid) :
    Mirrors (revokeClientDevice id now db)
      ((db.toStore valid).attempt ((db.toStore valid).revokeClientDevice id now)) := by
  unfold Store.revokeClientDevice revokeClientDevice insertRevoked
  cases selected : Table.select db.clients Client.id id with
  | none =>
      have there : Table.select (db.toStore valid).clients Client.id id = none := selected
      rw [Fallible.bind_ok (execute_idle valid (by simp only [selected])), requireChanged_zero
        (by simp only [selected]), there]
      exact mirrors_error valid _
  | some client =>
      have there : Table.select (db.toStore valid).clients Client.id id = some client := selected
      rw [there]
      simp only
      by_cases listed : db.isRevoked client.deviceID = true
      · have devices : (Table.update db.revokedDevices (fun row => row.deviceID == client.deviceID)
            fun row => { row with revokedAt := now }).map RevokedDevice.deviceID =
              db.revokedDevices.map RevokedDevice.deviceID := Table.map_update fun _ => rfl
        have intact : ({ db with
            revokedDevices :=
              Table.update db.revokedDevices (fun row => row.deviceID == client.deviceID)
                fun row => { row with revokedAt := now } } : Database).Valid :=
          { valid with revoked := devices.symm ▸ valid.revoked }
        have present : (db.toStore valid).isRevoked client.deviceID = true := listed
        rw [Fallible.bind_ok (execute_ok (by simpa only [selected, if_pos listed] using intact))]
        simp only [selected, if_pos listed, if_pos present]
        exact ⟨⟨intact, rfl⟩, rfl⟩
      · have intact : ({ db with
            revokedDevices := db.revokedDevices ++ [⟨client.deviceID, now⟩] } : Database).Valid :=
          { valid with
            revoked := Table.nodup_insert valid.revoked fun old member same =>
              listed (List.any_eq_true.mpr ⟨old, member, beq_iff_eq.mpr same⟩) }
        have absent : ¬ (db.toStore valid).isRevoked client.deviceID = true := listed
        rw [Fallible.bind_ok (execute_ok (by simpa only [selected, if_neg listed] using intact))]
        simp only [selected, if_neg listed, if_neg absent]
        exact ⟨⟨intact, rfl⟩, rfl⟩

/-- `DeleteClient` of no client: it comes to its last statement, and everything is rolled back. -/
theorem deleteClient_missing (valid : db.Valid) (missing : ∀ client ∈ db.clients, client.id ≠ id) :
    deleteClient id now db = (db, .error Store.errNotFound) := by
  have selected : Table.select db.clients Client.id id = none :=
    Table.select_eq_none.mpr fun client member => missing client member
  have tunnels (tunnel : Tunnel) (member : tunnel ∈ db.tunnels) : (tunnel.clientID == id) = false := by
    obtain ⟨client, present, same⟩ := valid.client tunnel member
    exact beq_eq_false_iff_ne.mpr fun equal => missing client present (same.trans equal)
  have traffic : Table.delete db.trafficLogs (fun row => db.tunnels.any fun tunnel =>
      tunnel.id == row.tunnelID && tunnel.clientID == id) = db.trafficLogs := by
    refine Table.delete_of_forall fun row _ => List.any_eq_false.mpr fun tunnel member found => ?_
    exact absurd (Bool.and_eq_true_iff.mp found).2 (by rw [tunnels tunnel member]; exact Bool.false_ne_true)
  have clients (client : Client) (member : client ∈ db.clients) : (client.id == id) = false :=
    beq_eq_false_iff_ne.mpr (missing client member)
  unfold deleteClient Fallible.transaction insertRevoked deleteTrafficLogs deleteTunnels deleteClients
  rw [Fallible.bind_ok (execute_idle valid (by simp only [selected])),
    Fallible.bind_ok (execute_idle valid (by simp only [traffic])),
    Fallible.bind_ok (execute_idle valid (by simp only [Table.delete_of_forall tunnels])),
    Fallible.bind_ok (execute_idle valid (by simp only [Table.delete_of_forall clients])),
    requireChanged_zero (countP_of_forall clients)]

theorem mirrors_deleteClient (valid : db.Valid) :
    Mirrors (deleteClient id now db)
      ((db.toStore valid).attempt ((db.toStore valid).deleteClient id now)) := by
  unfold Store.deleteClient
  cases selected : Table.select (db.toStore valid).clients Client.id id with
  | none =>
      rw [deleteClient_missing valid (Table.select_eq_none.mp selected)]
      exact mirrors_error valid _
  | some client =>
      obtain ⟨member, rfl⟩ := (Table.select_eq_some valid.clients).mp selected
      have owned (tunnel : Tunnel) :
          (db.clients.any fun row => row.id == client.id && row.id == tunnel.clientID) =
            (tunnel.clientID == client.id) := by
        rw [Bool.eq_iff_iff, List.any_eq_true]
        constructor
        · rintro ⟨row, -, found⟩
          rw [Bool.and_eq_true, beq_iff_eq, beq_iff_eq] at found
          exact beq_iff_eq.mpr (found.2.symm.trans found.1)
        · intro same
          rw [beq_iff_eq] at same
          exact ⟨client, member, by rw [same, beq_self_eq_true]; rfl⟩
      have intact := ((Keeps.deleteClient client.id now).kept valid).valid
      rw [deleteClient_existing valid member now] at intact ⊢
      refine ⟨⟨intact, ?_⟩, rfl⟩
      simp only [toStore, Store.attempt, Store.deleteClients, owned]
      rfl

/-- Keys in order and a reference that dangles. -/
theorem violation_of_dangling (unique : db.Unique) (dangling : ¬ db.Refers) :
    db.violation = some "FOREIGN KEY constraint failed" := by
  unfold violation
  rw [if_neg (not_not.mpr unique.tokens), if_neg (not_not.mpr unique.clients),
    if_neg (not_not.mpr unique.devices), if_neg (not_not.mpr unique.revoked),
    if_neg (not_not.mpr unique.tunnels), if_neg (not_not.mpr unique.domains), if_pos dangling]

theorem execute_violation {message : String} (complaint : (change db).1.violation = some message) :
    execute change db = (db, .error message) := by
  unfold execute
  rw [complaint]

section Binding

variable {tokenID : String}

/-- The database with the client bound to a token. -/
def bound (db : Database) (id tokenID : String) : Database :=
  { db with
    clients := Table.update db.clients (fun client => client.id == id)
      fun client => { client with tokenID := tokenID } }

theorem bound_unique (valid : db.Valid) : (db.bound id tokenID).Unique := by
  have ids : (db.bound id tokenID).clients.map Client.id = db.clients.map Client.id :=
    Table.map_update fun _ => rfl
  have devices : (db.bound id tokenID).clients.map Client.deviceID = db.clients.map Client.deviceID :=
    Table.map_update fun _ => rfl
  exact { valid.toUnique with
    clients := ids.symm ▸ valid.clients
    devices := devices.symm ▸ valid.devices }

theorem bound_valid (valid : db.Valid) (known : ∃ token ∈ db.tokens, token.id = tokenID) :
    (db.bound id tokenID).Valid := by
  refine ⟨bound_unique valid, ?_, ?_, valid.tunnel⟩
  · intro row listed
    obtain ⟨old, present, rfl⟩ := Table.mem_update.mp listed
    split
    · exact known
    · exact valid.token old present
  · intro tunnel listed
    obtain ⟨owner, present, owns⟩ := valid.client tunnel listed
    refine ⟨_, Table.mem_update.mpr ⟨owner, present, rfl⟩, ?_⟩
    split <;> exact owns

theorem bound_dangling {client : Client} (member : client ∈ db.clients) (same : (client.id == id) = true)
    (unknown : ¬ ∃ token ∈ db.tokens, token.id = tokenID) : ¬ (db.bound id tokenID).Refers := by
  intro refers
  have rewritten := refers.token _ (Table.mem_update.mpr ⟨client, member, rfl⟩)
  rw [if_pos same] at rewritten
  exact unknown rewritten

theorem mirrors_updateClientToken (valid : db.Valid) (tokenID : String) :
    Mirrors (updateClientToken id tokenID db)
      ((db.toStore valid).attempt ((db.toStore valid).updateClientToken id tokenID)) := by
  unfold Store.updateClientToken updateClientToken Database.updateClients
  by_cases found : (db.toStore valid).clients.any (fun client => client.id == id) = true
  · rw [if_pos found]
    obtain ⟨client, member, same⟩ : ∃ client ∈ db.clients, (client.id == id) = true :=
      List.any_eq_true.mp found
    by_cases known : ∃ token ∈ (db.toStore valid).tokens, token.id = tokenID
    · have intact : (db.bound id tokenID).Valid := bound_valid valid known
      rw [dif_pos known, Fallible.bind_ok (execute_ok intact), requireChanged_countP member same]
      exact ⟨⟨intact, rfl⟩, rfl⟩
    · have complaint := violation_of_dangling (bound_unique valid) (bound_dangling member same known)
      rw [dif_neg known, Fallible.bind_error (execute_violation complaint)]
      exact mirrors_error valid _
  · have none : (db.clients.countP fun client => client.id == id) = 0 :=
      countP_eq_zero_iff_any.mpr (Bool.eq_false_of_not_eq_true found)
    rw [if_neg found, Fallible.bind_ok (execute_idle valid (by simp only [update_of_countP none])),
      requireChanged_zero none]
    exact mirrors_error valid _

end Binding

/-! ## A hello -/

section Hello

variable {tokenID : String} {hello : ClientHello}

/-- The statement of `UpsertClient` touched a row, and the row of the device is read. -/
theorem mirrors_upsertClient_accepted {count : ℕ}
    (changed : helloChange id tokenID hello now db = (db', count)) (touched : count ≠ 0)
    (intact : db'.Valid) :
    Mirrors (upsertClient id tokenID hello now db)
      (db'.toStore intact, (db'.toStore intact).getClientByDevice hello.deviceID) := by
  have ran : insertClient id tokenID hello now db = (db', .ok count) := by
    unfold insertClient
    rw [execute_ok (by rw [changed]; exact intact), changed]
  unfold upsertClient requireChanged
  rw [Fallible.bind_ok ran, if_neg touched]
  show Mirrors (getClientByDevice hello.deviceID db') _
  unfold getClientByDevice Store.getClientByDevice
  cases selected : Table.select db'.clients Client.deviceID hello.deviceID with
  | none =>
      have there : Table.select (db'.toStore intact).clients Client.deviceID hello.deviceID = none := selected
      rw [there]
      exact ⟨⟨intact, rfl⟩, rfl⟩
  | some client =>
      have there : Table.select (db'.toStore intact).clients Client.deviceID hello.deviceID =
        some client := selected
      rw [there]
      exact ⟨⟨intact, rfl⟩, rfl⟩

/-- A device that has a row. -/
theorem mirrors_upsertClient_known (valid : db.Valid) {owner : Client} (member : owner ∈ db.clients)
    (device : owner.deviceID = hello.deviceID) (accepted : db.isRevoked hello.deviceID = false) :
    Mirrors (upsertClient id tokenID hello now db)
      ((db.toStore valid).upsertClient id tokenID hello now) := by
  have selected : Table.select (db.toStore valid).clients Client.deviceID hello.deviceID = some owner :=
    (Table.select_eq_some valid.devices).mpr ⟨member, device⟩
  have unlisted : ¬ (db.toStore valid).isRevoked hello.deviceID = true :=
    fun listed => Bool.false_ne_true (accepted.symm.trans listed)
  unfold Store.upsertClient Store.insertClient
  rw [if_neg unlisted, selected]
  simp only
  by_cases bound : owner.tokenID = tokenID
  · -- the row of the device belongs to the token, so that both conditions hit it alone
    have hits : Table.update db.clients
        (fun row => row.deviceID == hello.deviceID && row.tokenID == tokenID) (refreshed hello now) =
          Table.update db.clients (fun row => row.deviceID == hello.deviceID) (refreshed hello now) := by
      refine List.map_congr_left fun row there => ?_
      have both : (row.deviceID == hello.deviceID && row.tokenID == tokenID) =
          (row.deviceID == hello.deviceID) := by
        by_cases same : row.deviceID = hello.deviceID
        · rw [Table.eq_of_column_eq valid.devices there member (same.trans device.symm), bound,
            beq_self_eq_true, Bool.and_true]
        · rw [beq_eq_false_iff_ne.mpr same, Bool.false_and]
      show (if (row.deviceID == hello.deviceID && row.tokenID == tokenID) = true then _ else _) = _
      rw [both]
    have known : (db.clients.any fun row => row.deviceID == hello.deviceID) = true :=
      List.any_eq_true.mpr ⟨owner, member, beq_iff_eq.mpr device⟩
    have touched : (db.clients.countP fun row : Client =>
        row.deviceID == hello.deviceID && row.tokenID == tokenID) ≠ 0 :=
      (List.countP_pos_iff.mpr ⟨owner, member, by simp [device, bound]⟩).ne'
    have changed : helloChange id tokenID hello now db =
        ({ db with clients :=
            Table.update db.clients (fun row => row.deviceID == hello.deviceID) (refreshed hello now) },
          db.clients.countP fun row => row.deviceID == hello.deviceID && row.tokenID == tokenID) := by
      unfold helloChange
      rw [if_neg (by rw [accepted]; exact Bool.false_ne_true), if_pos known]
      simp only [hits]
    rw [if_pos bound]
    exact mirrors_upsertClient_accepted changed touched (valid.updateClients fun _ => rfl)
  · rw [if_neg bound, upsertClient_refused valid (helloChange_bound valid member device bound)]
    exact ⟨⟨valid, rfl⟩, rfl⟩

/-- A device that has none. -/
theorem mirrors_upsertClient_new (valid : db.Valid)
    (fresh : ∀ client ∈ db.clients, client.deviceID ≠ hello.deviceID)
    (accepted : db.isRevoked hello.deviceID = false) :
    Mirrors (upsertClient id tokenID hello now db)
      ((db.toStore valid).upsertClient id tokenID hello now) := by
  have selected : Table.select (db.toStore valid).clients Client.deviceID hello.deviceID = none :=
    Table.select_eq_none.mpr fresh
  have unlisted : ¬ (db.toStore valid).isRevoked hello.deviceID = true :=
    fun listed => Bool.false_ne_true (accepted.symm.trans listed)
  have unknown : ¬ (db.clients.any fun row => row.deviceID == hello.deviceID) = true := by
    intro found
    obtain ⟨client, member, same⟩ := List.any_eq_true.mp found
    exact fresh client member (beq_iff_eq.mp same)
  have changed : helloChange id tokenID hello now db =
      ({ db with clients := db.clients ++ [Store.helloRow id tokenID hello now] }, 1) :=
    (if_neg (by rw [accepted]; exact Bool.false_ne_true)).trans (if_neg unknown)
  have fails {message : String} (complaint : ({ db with
      clients := db.clients ++ [Store.helloRow id tokenID hello now] } : Database).violation =
        some message) : upsertClient id tokenID hello now db = (db, .error message) := by
    refine Fallible.bind_error (execute_violation ?_)
    rw [changed]
    exact complaint
  unfold Store.upsertClient Store.insertClient
  rw [if_neg unlisted, selected]
  simp only
  by_cases new : ∀ old ∈ (db.toStore valid).clients, old.id ≠ id ∧ old.deviceID ≠ hello.deviceID
  · have unique : ({ db with
        clients := db.clients ++ [Store.helloRow id tokenID hello now] } : Database).Unique :=
      { valid.toUnique with
        clients := Table.nodup_insert valid.clients fun old member => (new old member).1
        devices := Table.nodup_insert valid.devices fun old member => (new old member).2 }
    by_cases known : ∃ token ∈ (db.toStore valid).tokens, token.id = tokenID
    · have intact : ({ db with
          clients := db.clients ++ [Store.helloRow id tokenID hello now] } : Database).Valid := by
        refine ⟨unique, ?_, ?_, valid.tunnel⟩
        · intro client listed
          rcases List.mem_append.mp listed with old | last
          · exact valid.token client old
          · rw [List.mem_singleton.mp last]
            exact known
        · intro tunnel listed
          obtain ⟨client, present, same⟩ := valid.client tunnel listed
          exact ⟨client, List.mem_append_left _ present, same⟩
      rw [dif_pos new, dif_pos known]
      exact mirrors_upsertClient_accepted changed Nat.one_ne_zero intact
    · have dangling : ¬ ({ db with
          clients := db.clients ++ [Store.helloRow id tokenID hello now] } : Database).Refers :=
        fun refers => known (refers.token _ (List.mem_append_right _ (List.mem_singleton_self _)))
      rw [dif_pos new, dif_neg known, fails (violation_of_dangling unique dangling)]
      exact ⟨⟨valid, rfl⟩, rfl⟩
  · have taken : ¬ ((db.clients ++ [Store.helloRow id tokenID hello now]).map Client.id).Nodup :=
      fun unique => new fun old member =>
        ⟨Table.fresh_of_nodup_insert unique old member, fresh old member⟩
    have complaint : ({ db with
        clients := db.clients ++ [Store.helloRow id tokenID hello now] } : Database).violation =
          some "UNIQUE constraint failed: clients.id" := by
      unfold violation
      rw [if_neg (not_not.mpr valid.tokens), if_pos taken]
    rw [dif_neg new, fails complaint]
    exact ⟨⟨valid, rfl⟩, rfl⟩

theorem mirrors_upsertClient (valid : db.Valid) :
    Mirrors (upsertClient id tokenID hello now db)
      ((db.toStore valid).upsertClient id tokenID hello now) := by
  by_cases revoked : db.isRevoked hello.deviceID = true
  · have listed : (db.toStore valid).isRevoked hello.deviceID = true := revoked
    unfold Store.upsertClient Store.insertClient
    rw [if_pos listed, upsertClient_refused valid (helloChange_revoked revoked)]
    exact ⟨⟨valid, rfl⟩, rfl⟩
  · have accepted := Bool.eq_false_of_not_eq_true revoked
    by_cases known : ∃ owner ∈ db.clients, owner.deviceID = hello.deviceID
    · obtain ⟨owner, member, device⟩ := known
      exact mirrors_upsertClient_known valid member device accepted
    · exact mirrors_upsertClient_new valid
        (fun client member same => known ⟨client, member, same⟩) accepted

end Hello

/-! ## The status of a tunnel -/

theorem mirrors_setTunnelStatus (valid : db.Valid) (status : TunnelStatus) :
    Mirrors (setTunnelStatus id status now db)
      ((db.toStore valid).attempt ((db.toStore valid).setTunnelStatus id status now)) := by
  have columns : (Table.update db.tunnels (fun tunnel => tunnel.id == id)
      fun tunnel => { tunnel with status := status, updatedAt := now }).map keys =
        db.tunnels.map keys := Table.map_update fun _ => rfl
  have intact := violation_eq_none.mp
    ((violation_congr columns).trans (violation_eq_none.mpr valid))
  refine mirrors_changed valid intact countP_eq_zero_iff_any fun none => ?_
  simp only [update_of_countP none]

/-- Without the value that is returned. -/
theorem Mirrors.discard {α : Type} {program : Fallible Database String α}
    {result : Store × Except String α} (mirrors : Mirrors (program db) result) :
    Mirrors ((program >>= fun _ => pure ()) db) (result.1, result.2.map fun _ => ()) := by
  obtain ⟨⟨valid, tables⟩, value⟩ := mirrors
  have same : (program >>= fun _ => pure ()) db =
      ((program db).1, (program db).2.map fun _ => ()) := by
    rw [Fallible.bind_apply]
    rcases program db with ⟨after, _ | _⟩ <;> rfl
  rw [same]
  exact ⟨⟨valid, tables⟩, congrArg (Except.map fun _ => ()) value⟩

end Outcomes

end Database

/-! ## Sequences of operations -/

namespace Operation

open Database

/-- The counterpart of an operation over the `Store`, if there is one. -/
def onStore : Operation → Option (Store → Store × Except String Unit)
  | createAgentToken name id tokenPrefix secretHash now => some fun s =>
      if name = "" then (s, .error "token name is required")
      else s.attempt (s.insertToken ⟨⟨id, name, tokenPrefix, false, none, now⟩, secretHash⟩)
  | touchToken id now => some fun s => (s.touchToken id now, .ok ())
  | setTokenDisabled id disabled => some fun s => s.attempt (s.setTokenDisabled id disabled)
  | deleteToken id => some fun s => s.attempt (s.deleteToken id)
  | upsertClient id tokenID hello now => some fun s =>
      let outcome := s.upsertClient id tokenID hello now
      (outcome.1, outcome.2.map fun _ => ())
  | setClientStatus id status now => some fun s => s.attempt (s.setClientStatus id status now)
  | updateClient id name disabled => some fun s => s.updateClient id name disabled
  | deleteClient id now => some fun s => s.attempt (s.deleteClient id now)
  | revokeClientDevice id now => some fun s => s.attempt (s.revokeClientDevice id now)
  | updateClientToken id tokenID => some fun s => s.attempt (s.updateClientToken id tokenID)
  | setTunnelStatus id status now => some fun s => s.attempt (s.setTunnelStatus id status now)
  | createTunnel _ _ _ _ | updateTunnel _ _ _ | deleteTunnel _ | recordTraffic _ _
  | recordTrafficBatch _ _ => none

/-- The `Store` after a sequence of operations. -/
def runOnStore (operations : List Operation) (s : Store) : Store :=
  operations.foldl (fun s operation => operation.onStore.elim s fun step => (step s).1) s

variable [CaseTable] {db : Database}

/-- **An operation and its counterpart** leave the same tables and return the same. -/
theorem mirrors_perform (valid : db.Valid) {operation : Operation}
    {step : Store → Store × Except String Unit} (known : operation.onStore = some step) :
    Mirrors (operation.perform db) (step (db.toStore valid)) := by
  cases operation with
  | createAgentToken name id tokenPrefix secretHash now =>
      cases known
      show Mirrors (Database.createAgentToken name id tokenPrefix secretHash now db) _
      unfold Database.createAgentToken
      by_cases unnamed : name = ""
      · rw [if_pos unnamed]
        simp only [if_pos unnamed]
        exact ⟨⟨valid, rfl⟩, rfl⟩
      · rw [if_neg unnamed]
        simp only [if_neg unnamed]
        exact mirrors_insertToken valid _
  | touchToken id now =>
      cases known
      exact mirrors_touchToken valid
  | setTokenDisabled id disabled =>
      cases known
      exact mirrors_setTokenDisabled valid disabled
  | deleteToken id =>
      cases known
      exact mirrors_deleteToken valid
  | upsertClient id tokenID hello now =>
      cases known
      exact (mirrors_upsertClient valid).discard
  | setClientStatus id status now =>
      cases known
      exact mirrors_setClientStatus valid status
  | updateClient id name disabled =>
      cases known
      exact mirrors_updateClient valid name disabled
  | deleteClient id now =>
      cases known
      exact mirrors_deleteClient valid
  | revokeClientDevice id now =>
      cases known
      exact mirrors_revokeClientDevice valid
  | updateClientToken id tokenID =>
      cases known
      exact mirrors_updateClientToken valid tokenID
  | setTunnelStatus id status now =>
      cases known
      exact mirrors_setTunnelStatus valid status
  | createTunnel _ _ _ _ | updateTunnel _ _ _ | deleteTunnel _ | recordTraffic _ _
  | recordTrafficBatch _ _ => cases known

/-- **A sequence of operations and its counterpart** leave the same tables. -/
theorem runAll_toStore (operations : List Operation)
    (known : ∀ operation ∈ operations, operation.onStore ≠ none) (valid : db.Valid) :
    ∃ valid', (runAll operations db).toStore valid' = runOnStore operations (db.toStore valid) := by
  induction operations generalizing db with
  | nil => exact ⟨valid, rfl⟩
  | cons operation rest ih =>
      obtain ⟨step, has⟩ := Option.ne_none_iff_exists'.mp (known operation List.mem_cons_self)
      obtain ⟨⟨intact, tables⟩, -⟩ := mirrors_perform valid has
      obtain ⟨valid', same⟩ := ih (fun later member => known later (List.mem_cons_of_mem _ member)) intact
      refine ⟨valid', same.trans ?_⟩
      rw [tables]
      unfold runOnStore
      rw [List.foldl_cons, has]
      rfl

end Operation
end NryNet
