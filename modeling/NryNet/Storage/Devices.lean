import NryNet.Storage.Database

/-!
# Who owns a device

A device is a column of `clients`.  The row of a device is bound to the token with which the device
said hello first; a hello with another token is refused by the condition in the conflict clause of
`UpsertClient`, and a hello of a revoked device by the condition in its insert clause.  So there are
two operations to look at, and `Database.Keeps` speaks for all the others.
-/

namespace NryNet

open GoText

namespace Database

variable {db : Database} {id tokenID : String} {hello : ClientHello} {now : Time}

/-- Rewriting rows of `clients` without their identifiers and their token violates nothing. -/
theorem Valid.updateClients (valid : db.Valid) {hit : Client → Bool} {set : Client → Client}
    (same : ∀ row, (set row).identity = row.identity) :
    ({ db with clients := Table.update db.clients hit set } : Database).Valid := by
  have identity (row : Client) : (if hit row then set row else row).identity = row.identity := by
    split
    · exact same row
    · rfl
  have ids (row : Client) : (set row).id = row.id := congrArg Prod.fst (same row)
  have devices (row : Client) : (set row).deviceID = row.deviceID :=
    congrArg (fun identity => identity.2.1) (same row)
  exact
    { tokens := valid.tokens
      clients := by
        rw [Table.map_update ids]
        exact valid.clients
      devices := by
        rw [Table.map_update devices]
        exact valid.devices
      revoked := valid.revoked
      tunnels := valid.tunnels
      domains := valid.domains
      token := by
        intro client present
        obtain ⟨old, was, rfl⟩ := Table.mem_update.mp present
        obtain ⟨token, exists', equal⟩ := valid.token old was
        exact ⟨token, exists',
          equal.trans (congrArg (fun identity => identity.2.2) (identity old)).symm⟩
      client := by
        intro tunnel present
        obtain ⟨client, exists', equal⟩ := valid.client tunnel present
        exact ⟨_, Table.mem_update.mpr ⟨client, exists', rfl⟩,
          (congrArg Prod.fst (identity client)).trans equal⟩
      tunnel := valid.tunnel }

/-! ## A hello -/

/-- The statement of `UpsertClient` touched no row. -/
theorem upsertClient_refused (valid : db.Valid)
    (nothing : helloChange id tokenID hello now db = (db, 0)) :
    upsertClient id tokenID hello now db = (db, .error Store.errDeviceBound) := by
  have ran : insertClient id tokenID hello now db = (db, .ok 0) := by
    unfold insertClient
    rw [execute_ok (by rw [nothing]; exact valid), nothing]
  unfold upsertClient
  rw [Fallible.bind_ok ran]
  rfl

/-- The statement of `UpsertClient` touched the row of the device. -/
theorem upsertClient_accepted {db' : Database} {count : ℕ}
    (changed : helloChange id tokenID hello now db = (db', count)) (touched : count ≠ 0)
    (valid : db'.Valid) {client : Client} (member : client ∈ db'.clients)
    (device : client.deviceID = hello.deviceID) :
    upsertClient id tokenID hello now db = (db', .ok client) := by
  have ran : insertClient id tokenID hello now db = (db', .ok count) := by
    unfold insertClient
    rw [execute_ok (by rw [changed]; exact valid), changed]
  have read : getClientByDevice hello.deviceID db' = (db', .ok client) := by
    unfold getClientByDevice
    rw [(Table.select_eq_some valid.devices).mpr ⟨member, device⟩]
  unfold upsertClient requireChanged
  rw [Fallible.bind_ok ran, if_neg touched]
  exact read

theorem helloChange_revoked (revoked : db.isRevoked hello.deviceID = true) :
    helloChange id tokenID hello now db = (db, 0) := if_pos revoked

/-- A device whose row belongs to another token: the conflict clause applies to no row. -/
theorem helloChange_bound (valid : db.Valid) {owner : Client} (member : owner ∈ db.clients)
    (device : owner.deviceID = hello.deviceID) (bound : owner.tokenID ≠ tokenID) :
    helloChange id tokenID hello now db = (db, 0) := by
  have known : (db.clients.any fun row => row.deviceID == hello.deviceID) = true :=
    List.any_eq_true.mpr ⟨owner, member, beq_iff_eq.mpr device⟩
  have misses (row : Client) (there : row ∈ db.clients) :
      (row.deviceID == hello.deviceID && row.tokenID == tokenID) = false := by
    by_cases equal : row.deviceID = hello.deviceID
    · rw [Table.eq_of_column_eq valid.devices there member (equal.trans device.symm)]
      simp [bound]
    · simp [equal]
  have none : (db.clients.countP fun row : Client =>
      row.deviceID == hello.deviceID && row.tokenID == tokenID) = 0 :=
    List.countP_eq_zero.mpr fun row there => by rw [misses row there]; exact Bool.false_ne_true
  unfold helloChange
  split
  · rfl
  · simp only [Table.update_of_forall misses, none]

/-- A hello is refused and changes nothing, or it refreshes the row of its device, or it adds a row
for a device that has none. -/
theorem upsertClient_cases (valid : db.Valid) (id tokenID : String) (hello : ClientHello)
    (now : Time) :
    (∃ message, upsertClient id tokenID hello now db = (db, .error message)) ∨
      db.isRevoked hello.deviceID = false ∧
        (∀ client ∈ db.clients, client.deviceID = hello.deviceID → client.tokenID = tokenID) ∧
        ∃ db' client, upsertClient id tokenID hello now db = (db', .ok client) ∧ db'.Valid ∧
          db'.revokedDevices = db.revokedDevices ∧
          (db'.clients.map Client.identity = db.clients.map Client.identity ∨
            (∀ client ∈ db.clients, client.deviceID ≠ hello.deviceID) ∧
              db'.clients = db.clients ++ [Store.helloRow id tokenID hello now]) := by
  by_cases revoked : db.isRevoked hello.deviceID = true
  · exact Or.inl ⟨_, upsertClient_refused valid (helloChange_revoked revoked)⟩
  by_cases known : (db.clients.any fun row => row.deviceID == hello.deviceID) = true
  · obtain ⟨owner, member, device⟩ := List.any_eq_true.mp known
    rw [beq_iff_eq] at device
    by_cases bound : owner.tokenID = tokenID
    · right
      have hits : (db.clients.countP fun row : Client =>
          row.deviceID == hello.deviceID && row.tokenID == tokenID) ≠ 0 :=
        (List.countP_pos_iff.mpr ⟨owner, member, by simp [device, bound]⟩).ne'
      have changed : helloChange id tokenID hello now db = (_, _) :=
        (if_neg revoked).trans (if_pos known)
      have intact : (helloChange id tokenID hello now db).1.Valid := by
        rw [changed]
        exact valid.updateClients fun _ => rfl
      rw [changed] at intact
      refine ⟨by simpa using revoked, fun row there equal => ?_, _, _,
        upsertClient_accepted changed hits intact (Table.mem_update.mpr ⟨owner, member, rfl⟩) ?_,
        intact, rfl, Or.inl (Table.map_update fun _ => rfl)⟩
      · rw [Table.eq_of_column_eq valid.devices there member (equal.trans device.symm)]
        exact bound
      · split <;> exact device
    · exact Or.inl ⟨_, upsertClient_refused valid (helloChange_bound valid member device bound)⟩
  · have changed : helloChange id tokenID hello now db =
        ({ db with clients := db.clients ++ [Store.helloRow id tokenID hello now] }, 1) :=
      (if_neg revoked).trans (if_neg known)
    have fresh (client : Client) (member : client ∈ db.clients) :
        client.deviceID ≠ hello.deviceID := by
      intro equal
      exact known (List.any_eq_true.mpr ⟨client, member, beq_iff_eq.mpr equal⟩)
    by_cases intact : (helloChange id tokenID hello now db).1.Valid
    · right
      rw [changed] at intact
      refine ⟨by simpa using revoked, fun client member equal => absurd equal (fresh client member),
        _, _, upsertClient_accepted changed Nat.one_ne_zero intact
          (List.mem_append_right _ (List.mem_singleton_self _)) rfl, intact, rfl,
        Or.inr ⟨fresh, rfl⟩⟩
    · left
      obtain ⟨message, failed⟩ := execute_fails intact
      exact ⟨message, Fallible.bind_error failed⟩

/-- A hello of a revoked device, or of a device that is bound to another token. -/
theorem upsertClient_error (valid : db.Valid)
    (refused : db.isRevoked hello.deviceID = true ∨
      ∃ client ∈ db.clients, client.deviceID = hello.deviceID ∧ client.tokenID ≠ tokenID) :
    upsertClient id tokenID hello now db = (db, .error Store.errDeviceBound) := by
  rcases refused with revoked | ⟨owner, member, device, bound⟩
  · exact upsertClient_refused valid (helloChange_revoked revoked)
  · exact upsertClient_refused valid (helloChange_bound valid member device bound)

/-! ## A change of the token -/

/-- `UpdateClientToken` fails and changes nothing, or it assigns the token in the row of the client. -/
theorem updateClientToken_cases (db : Database) (id tokenID : String) :
    (∃ message, updateClientToken id tokenID db = (db, .error message)) ∨
      ∃ db', updateClientToken id tokenID db = (db', .ok ()) ∧ db'.Valid ∧
        db'.revokedDevices = db.revokedDevices ∧
        db'.clients = Table.update db.clients (fun client => client.id == id)
          fun client => { client with tokenID := tokenID } := by
  set change := fun db : Database =>
    ({ db with
        clients := Table.update db.clients (fun client => client.id == id)
          fun client => { client with tokenID := tokenID } },
      db.clients.countP fun client => client.id == id) with change_eq
  have idle (none : (change db).2 = 0) : (change db).1 = db := by
    have misses (row : Client) (member : row ∈ db.clients) : (row.id == id) = false := by
      have := List.countP_eq_zero.mp none row member
      simpa using this
    simp only [change_eq, Table.update_of_forall misses]
  rcases changed_cases idle with ⟨message, failed⟩ | ⟨intact, -, returned⟩
  · exact Or.inl ⟨message, failed⟩
  · exact Or.inr ⟨_, returned, intact, rfl, rfl⟩

end Database

/-! ## Sequences of operations -/

namespace Operation

open Database

variable [CaseTable] {db : Database}

theorem perform_upsertClient (id tokenID : String) (hello : ClientHello) (now : Time) :
    ((upsertClient id tokenID hello now).perform db).1 =
      (Database.upsertClient id tokenID hello now db).1 := by
  show ((Database.upsertClient id tokenID hello now >>= fun _ => pure ()) db).1 = _
  rw [Fallible.bind_apply]
  split
  · rename_i same
    rw [same]
  · rename_i same
    rw [same]
    rfl

/-- What one operation may do to the rows of `clients` and the list of the revoked. -/
theorem perform_cases (valid : db.Valid) (operation : Operation) :
    Kept db (operation.perform db).1 ∨
      (∃ id tokenID hello now, operation = upsertClient id tokenID hello now ∧
        (∀ client ∈ db.clients, client.deviceID ≠ hello.deviceID) ∧
        (operation.perform db).1.Valid ∧
        (operation.perform db).1.revokedDevices = db.revokedDevices ∧
        (operation.perform db).1.clients =
          db.clients ++ [Store.helloRow id tokenID hello now]) ∨
      ∃ id tokenID, operation = updateClientToken id tokenID ∧ (operation.perform db).1.Valid ∧
        (operation.perform db).1.revokedDevices = db.revokedDevices ∧
        (operation.perform db).1.clients =
          Table.update db.clients (fun client => client.id == id)
            fun client => { client with tokenID := tokenID } := by
  by_cases binds : operation.Binds
  · cases operation with
    | upsertClient id tokenID hello now =>
        rw [perform_upsertClient]
        rcases upsertClient_cases valid id tokenID hello now with ⟨message, failed⟩ |
          ⟨-, -, db', client, returned, intact, revoked, same | ⟨fresh, added⟩⟩
        · rw [failed]
          exact Or.inl (Kept.refl valid)
        · rw [returned]
          refine Or.inl ⟨intact, same ▸ List.Sublist.refl _, fun device listed => ?_⟩
          unfold isRevoked
          rw [revoked]
          exact listed
        · rw [returned]
          exact Or.inr (Or.inl ⟨id, tokenID, hello, now, rfl, fresh, intact, revoked, added⟩)
    | updateClientToken id tokenID =>
        rcases updateClientToken_cases db id tokenID with ⟨message, failed⟩ |
          ⟨db', returned, intact, revoked, updated⟩
        · left
          show Kept db (Database.updateClientToken id tokenID db).1
          rw [failed]
          exact Kept.refl valid
        · have left' : ((updateClientToken id tokenID).perform db).1 = db' := congrArg Prod.fst returned
          rw [left']
          exact Or.inr (Or.inr ⟨id, tokenID, rfl, intact, revoked, updated⟩)
    | _ => exact binds.elim
  · exact Or.inl ((keeps_perform binds).kept valid)

theorem valid_perform (valid : db.Valid) (operation : Operation) :
    (operation.perform db).1.Valid := by
  rcases perform_cases valid operation with kept | ⟨_, _, _, _, -, -, intact, -⟩ |
    ⟨_, _, -, intact, -⟩
  · exact kept.valid
  · exact intact
  · exact intact

theorem revoked_perform (valid : db.Valid) (operation : Operation) {device : String}
    (listed : db.isRevoked device = true) : (operation.perform db).1.isRevoked device = true := by
  rcases perform_cases valid operation with kept | ⟨_, _, _, _, -, -, -, revoked, -⟩ |
    ⟨_, _, -, -, revoked, -⟩
  · exact kept.revoked device listed
  · unfold isRevoked
    rw [revoked]
    exact listed
  · unfold isRevoked
    rw [revoked]
    exact listed

/-- Along a sequence of operations the constraints hold and what is revoked stays revoked. -/
theorem runAll_keeps (operations : List Operation) (valid : db.Valid) :
    (runAll operations db).Valid ∧
      ∀ device, db.isRevoked device = true → (runAll operations db).isRevoked device = true := by
  induction operations generalizing db with
  | nil => exact ⟨valid, fun _ listed => listed⟩
  | cons operation later hypothesis =>
      obtain ⟨intact, revoked⟩ := hypothesis (valid_perform valid operation)
      exact ⟨intact, fun device listed => revoked device (revoked_perform valid operation listed)⟩

/-- A row that lost its token lost it to `UpdateClientToken`. -/
theorem tokenID_perform (valid : db.Valid) {operation : Operation} {client client' : Client}
    (member : client ∈ db.clients) (member' : client' ∈ (operation.perform db).1.clients)
    (device : client'.deviceID = client.deviceID) (moved : client'.tokenID ≠ client.tokenID) :
    operation = updateClientToken client.id client'.tokenID := by
  rcases perform_cases valid operation with kept | ⟨id, tokenID, hello, now, -, fresh, -, -, added⟩ |
    ⟨id, tokenID, rfl, -, -, updated⟩
  · obtain ⟨old, present, same⟩ :=
      List.mem_map.mp (kept.bindings.subset (List.mem_map_of_mem member'))
    have device' : old.deviceID = client'.deviceID := congrArg (fun identity => identity.2.1) same
    have token' : old.tokenID = client'.tokenID := congrArg (fun identity => identity.2.2) same
    rw [Table.eq_of_column_eq valid.devices present member (device'.trans device)] at token'
    exact absurd token'.symm moved
  · rw [added] at member'
    rcases List.mem_append.mp member' with old | new
    · rw [Table.eq_of_column_eq valid.devices old member device] at moved
      exact absurd rfl moved
    · rw [List.mem_singleton.mp new] at device
      exact absurd device.symm (fresh client member)
  · rw [updated] at member'
    obtain ⟨old, present, rfl⟩ := Table.mem_update.mp member'
    by_cases hit : (old.id == id) = true
    · rw [if_pos hit] at device moved ⊢
      rw [← Table.eq_of_column_eq valid.devices present member device, ← beq_iff_eq.mp hit]
    · rw [if_neg hit] at device moved
      rw [Table.eq_of_column_eq valid.devices present member device] at moved
      exact absurd rfl moved

/-- Device ownership, after every sequence of operations. -/
theorem device_ownership (operations : List Operation) :
    let db := runAll operations empty
    (∀ operation, ∀ client ∈ db.clients, ∀ client' ∈ (perform operation db).1.clients,
        client'.deviceID = client.deviceID → client'.tokenID ≠ client.tokenID →
          operation = updateClientToken client.id client'.tokenID) ∧
      (∀ id tokenID hello now,
        (db.isRevoked hello.deviceID = true ∨
          ∃ client ∈ db.clients, client.deviceID = hello.deviceID ∧ client.tokenID ≠ tokenID) →
        Database.upsertClient id tokenID hello now db = (db, .error Store.errDeviceBound)) ∧
      (∀ later id tokenID hello now, db.isRevoked hello.deviceID = true →
        (runAll later db).isRevoked hello.deviceID = true ∧
          Database.upsertClient id tokenID hello now (runAll later db) =
            (runAll later db, .error Store.errDeviceBound)) ∧
      ∀ client ∈ db.clients, ∀ other ∈ db.clients, client.deviceID = other.deviceID →
        client = other := by
  intro db
  have valid : db.Valid := (runAll_keeps operations valid_empty).1
  refine ⟨?_, ?_, ?_, ?_⟩
  · intro operation client member client' member' device moved
    exact tokenID_perform valid member member' device moved
  · intro id tokenID hello now refused
    exact upsertClient_error valid refused
  · intro later id tokenID hello now listed
    obtain ⟨intact, revoked⟩ := runAll_keeps later valid
    exact ⟨revoked _ listed, upsertClient_error intact (Or.inl (revoked _ listed))⟩
  · intro client member other member' same
    exact Table.eq_of_column_eq valid.devices member member' same

end Operation

end NryNet
