import NryNet.Auth

/-!
# What the database authorizes

Authorization reads three things out of the database: which tokens there are and whether they are
enabled, which device belongs to which client and token, and which devices are revoked.  `Authority`
is that much of a database and nothing else.  Names, addresses, times of use and the tunnels are
gone, so most statements the server executes are the identity on it.

The decisions are stated here once, as relations: `Accepts` for the text of a token, `Admits` for a
data handshake, `AdmitsStream` for a stream of an authenticated session.  The checks the server makes
against the database are shown to decide them; checks that go through a cache can then be compared
with them without looking at rows again.

Every statement that does change the authority has its counterpart as an operation on `Authority`,
and an equation that says so.
-/

namespace NryNet

/-- A client as authorization sees it. -/
structure ClientGrant where
  id : String
  deviceID : String
  tokenID : String
  disabled : Bool
  deriving DecidableEq, Repr

/-- A token as authentication sees it. -/
structure TokenGrant where
  id : String
  disabled : Bool
  secretHash : String
  deriving DecidableEq, Repr

/-- The columns of a client that authorization reads. -/
def Client.grant (client : Client) : ClientGrant :=
  ⟨client.id, client.deviceID, client.tokenID, client.disabled⟩

/-- The columns of a token that authentication reads. -/
def TokenRow.grant (row : TokenRow) : TokenGrant := ⟨row.id, row.disabled, row.secretHash⟩

/-- The part of a database that decides who is let in. -/
structure Authority where
  clients : List ClientGrant
  tokens : List TokenGrant
  revoked : List String
  deriving DecidableEq, Repr

namespace Authority

/-- The text is the cleartext of an enabled token. -/
def Accepts (a : Authority) (value tokenID : String) : Prop :=
  ∃ secret, Auth.tokenParts value = .ok (tokenID, secret) ∧
    ⟨tokenID, false, Auth.hashToken secret⟩ ∈ a.tokens

/-- A handshake with this text, from this device, is let in as this client. -/
def Admits (a : Authority) (value deviceID clientID : String) : Prop :=
  ∃ client ∈ a.clients, client.deviceID = deviceID ∧ client.disabled = false ∧
    client.id = clientID ∧ a.Accepts value client.tokenID

/-- The token exists and is enabled. -/
def Enabled (a : Authority) (tokenID : String) : Prop :=
  ∃ token ∈ a.tokens, token.id = tokenID ∧ token.disabled = false

/-- A stream of a session of this token, from this device, is let in as this client. -/
def AdmitsStream (a : Authority) (tokenID deviceID clientID : String) : Prop :=
  ∃ client ∈ a.clients, client.deviceID = deviceID ∧ client.disabled = false ∧
    client.id = clientID ∧ client.tokenID = tokenID ∧ a.Enabled tokenID

/-- No client has the device. -/
def Unused (a : Authority) (deviceID : String) : Prop :=
  ∀ client ∈ a.clients, client.deviceID ≠ deviceID

/-- There is no such token. -/
def Unknown (a : Authority) (tokenID : String) : Prop :=
  ∀ token ∈ a.tokens, token.id ≠ tokenID

/-- No revoked device still has a client. -/
def Severed (a : Authority) : Prop := ∀ deviceID ∈ a.revoked, a.Unused deviceID

instance (a : Authority) (tokenID : String) : Decidable (a.Unknown tokenID) :=
  inferInstanceAs (Decidable (∀ _ ∈ _, _))

instance (a : Authority) (deviceID : String) : Decidable (a.Unused deviceID) :=
  inferInstanceAs (Decidable (∀ _ ∈ _, _))

instance (a : Authority) : Decidable a.Severed := inferInstanceAs (Decidable (∀ _ ∈ _, _))

theorem Accepts.enabled {a : Authority} {value tokenID : String}
    (accepted : a.Accepts value tokenID) : a.Enabled tokenID := by
  obtain ⟨secret, -, member⟩ := accepted
  exact ⟨_, member, rfl, rfl⟩

/-- The text names its token. -/
theorem Accepts.tokenID_eq {a : Authority} {value tokenID other : String}
    (accepted : a.Accepts value tokenID) (accepted' : a.Accepts value other) : tokenID = other := by
  obtain ⟨secret, parts, -⟩ := accepted
  obtain ⟨secret', parts', -⟩ := accepted'
  rw [parts] at parts'
  exact (Prod.mk.inj (Except.ok.inj parts')).1

theorem Enabled.not_unknown {a : Authority} {tokenID : String} (enabled : a.Enabled tokenID) :
    ¬ a.Unknown tokenID := by
  obtain ⟨token, member, same, -⟩ := enabled
  exact fun unknown => unknown token member same

theorem unknown_iff {a : Authority} {tokenID : String} :
    a.Unknown tokenID ↔ tokenID ∉ a.tokens.map TokenGrant.id := by
  unfold Unknown
  simp only [List.mem_map, not_exists, not_and]

/-! ## Operations -/

/-- A token is switched on or off. -/
def setTokenDisabled (a : Authority) (id : String) (disabled : Bool) : Authority :=
  { a with
    tokens := Table.update a.tokens (fun token => token.id == id)
      fun token => { token with disabled := disabled } }

/-- A token goes, and its clients with it. -/
def deleteToken (a : Authority) (id : String) : Authority :=
  { a with
    clients := Table.delete a.clients fun client => client.tokenID == id
    tokens := Table.delete a.tokens fun token => token.id == id }

/-- A new token. -/
def addToken (a : Authority) (token : TokenGrant) : Authority :=
  { a with tokens := a.tokens ++ [token] }

/-- A new client. -/
def enrol (a : Authority) (client : ClientGrant) : Authority :=
  { a with clients := a.clients ++ [client] }

/-- A client is switched on or off. -/
def setClientDisabled (a : Authority) (id : String) (disabled : Bool) : Authority :=
  { a with
    clients := Table.update a.clients (fun client => client.id == id)
      fun client => { client with disabled := disabled } }

/-- A client is switched on or off when a flag is given. -/
def updateClient (a : Authority) (id : String) : Option Bool → Authority
  | some disabled => a.setClientDisabled id disabled
  | none => a

/-- A client is bound to another token. -/
def updateClientToken (a : Authority) (id tokenID : String) : Authority :=
  { a with
    clients := Table.update a.clients (fun client => client.id == id)
      fun client => { client with tokenID := tokenID } }

/-- A device is revoked. -/
def revoke (a : Authority) (deviceID : String) : Authority :=
  { a with revoked := if deviceID ∈ a.revoked then a.revoked else a.revoked ++ [deviceID] }

/-- A client goes. -/
def deleteClient (a : Authority) (id : String) : Authority :=
  { a with clients := Table.delete a.clients fun client => client.id == id }

variable {a : Authority} {id value tokenID deviceID : String} {token : TokenGrant}
variable {client : ClientGrant}

theorem mem_setTokenDisabled {flag : Bool} (other : token.id ≠ id) :
    token ∈ (a.setTokenDisabled id flag).tokens ↔ token ∈ a.tokens := by
  show token ∈ Table.update a.tokens _ _ ↔ _
  rw [Table.mem_update]
  constructor
  · rintro ⟨old, member, rfl⟩
    by_cases hit : (old.id == id) = true
    · rw [if_pos hit] at other
      exact absurd (by simpa using hit) other
    · rw [if_neg hit]
      exact member
  · intro member
    exact ⟨token, member, if_neg (by simpa using other)⟩

@[simp] theorem unknown_setTokenDisabled {flag : Bool} :
    (a.setTokenDisabled id flag).Unknown tokenID ↔ a.Unknown tokenID := by
  have ids : (a.setTokenDisabled id flag).tokens.map TokenGrant.id = a.tokens.map TokenGrant.id :=
    Table.map_update fun _ => rfl
  rw [unknown_iff, unknown_iff, ids]

theorem mem_tokens_deleteToken : token ∈ (a.deleteToken id).tokens ↔
    token ∈ a.tokens ∧ token.id ≠ id := by
  show token ∈ Table.delete a.tokens _ ↔ _
  rw [Table.mem_delete]
  simp

theorem mem_clients_deleteToken : client ∈ (a.deleteToken id).clients ↔
    client ∈ a.clients ∧ client.tokenID ≠ id := by
  show client ∈ Table.delete a.clients _ ↔ _
  rw [Table.mem_delete]
  simp

/-- The devices in use, on which the flags and the tokens of the clients have no bearing. -/
def devices (a : Authority) : List String := a.clients.map ClientGrant.deviceID

theorem unused_iff : a.Unused deviceID ↔ deviceID ∉ a.devices := by
  unfold Unused devices
  simp only [List.mem_map, not_exists, not_and]

theorem devices_updateClient {disabled : Option Bool} :
    (a.updateClient id disabled).devices = a.devices := by
  cases disabled with
  | none => rfl
  | some flag => exact Table.map_update fun _ => rfl

theorem devices_updateClientToken : (a.updateClientToken id tokenID).devices = a.devices :=
  Table.map_update fun _ => rfl

theorem mem_revoke {other : String} :
    other ∈ (a.revoke deviceID).revoked ↔ other ∈ a.revoked ∨ other = deviceID := by
  unfold revoke
  by_cases known : deviceID ∈ a.revoked
  · simp only [if_pos known]
    constructor
    · exact Or.inl
    · rintro (old | rfl)
      · exact old
      · exact known
  · simp [known]

end Authority

namespace Store

/-- The authority of a database. -/
def authority (s : Store) : Authority where
  clients := s.clients.map Client.grant
  tokens := s.tokens.map TokenRow.grant
  revoked := s.revokedDevices.map RevokedDevice.deviceID

variable {s s' : Store} {id tokenID deviceID value clientID : String} {now : Time}

theorem authority_congr (clients : s.SameAccess s')
    (tokens : s'.tokens.map TokenRow.grant = s.tokens.map TokenRow.grant)
    (revoked : s'.revokedDevices = s.revokedDevices) : s'.authority = s.authority := by
  have grants : s'.clients.map Client.grant = s.clients.map Client.grant := by
    have projected := congrArg
      (List.map fun access : (String × String × String) × Bool =>
        (⟨access.1.1, access.1.2.1, access.1.2.2, access.2⟩ : ClientGrant)) clients
    rw [List.map_map, List.map_map] at projected
    exact projected
  unfold authority
  rw [grants, tokens, revoked]

/-! ## Statements that leave the authority alone -/

@[simp] theorem touchToken_authority : (s.touchToken id now).authority = s.authority :=
  authority_congr rfl (Table.map_update fun _ => rfl) rfl

@[simp] theorem setClientName_authority {name : String} :
    (s.setClientName id name).authority = s.authority :=
  authority_congr (setClientName_access s id name) rfl rfl

theorem setClientStatus_authority {status : ClientStatus}
    (written : s.setClientStatus id status now = .ok s') : s'.authority = s.authority := by
  unfold setClientStatus at written
  split at written
  · cases written
    exact authority_congr (Table.map_update fun _ => rfl) rfl rfl
  · cases written

theorem setTunnelStatus_authority {status : TunnelStatus}
    (written : s.setTunnelStatus id status now = .ok s') : s'.authority = s.authority := by
  unfold setTunnelStatus at written
  split at written
  · cases written
    rfl
  · cases written

/-! ## Statements that change it -/

theorem setTokenDisabled_authority {flag : Bool} (written : s.setTokenDisabled id flag = .ok s') :
    s'.authority = s.authority.setTokenDisabled id flag := by
  unfold setTokenDisabled at written
  split at written
  · cases written
    show Authority.mk _ _ _ = Authority.mk _ _ _
    congr 1
    exact Table.map_update_of_commutes (fun _ => rfl) fun _ => rfl
  · cases written

theorem deleteToken_authority (written : s.deleteToken id = .ok s') :
    s'.authority = s.authority.deleteToken id := by
  unfold deleteToken at written
  split at written
  · cases written
    show Authority.mk _ _ _ = Authority.mk _ _ _
    congr 1
    · exact Table.map_delete fun _ => rfl
    · exact Table.map_delete fun _ => rfl
  · cases written

theorem deleteToken_error {message : String} (failed : s.deleteToken id = .error message) :
    s.authority.Unknown id := by
  unfold deleteToken at failed
  split at failed
  · cases failed
  · rename_i missing
    intro token member same
    obtain ⟨row, present, rfl⟩ := List.mem_map.mp member
    exact missing (List.any_eq_true.mpr ⟨row, present, beq_iff_eq.mpr same⟩)

theorem insertToken_authority {row : TokenRow} (written : s.insertToken row = .ok s') :
    s'.authority = s.authority.addToken row.grant := by
  unfold insertToken at written
  split at written
  · cases written
    show Authority.mk _ _ _ = Authority.mk _ _ _
    congr 1
    exact List.map_append
  · cases written

theorem setClientDisabled_authority {flag : Bool}
    (written : s.setClientDisabled id flag = .ok s') :
    s'.authority = s.authority.setClientDisabled id flag := by
  unfold setClientDisabled at written
  split at written
  · cases written
    show Authority.mk _ _ _ = Authority.mk _ _ _
    congr 1
    exact Table.map_update_of_commutes (fun _ => rfl) fun _ => rfl
  · cases written

theorem updateClientToken_authority (written : s.updateClientToken id tokenID = .ok s') :
    s'.authority = s.authority.updateClientToken id tokenID := by
  unfold updateClientToken at written
  split at written
  · split at written
    · cases written
      show Authority.mk _ _ _ = Authority.mk _ _ _
      congr 1
      exact Table.map_update_of_commutes (fun _ => rfl) fun _ => rfl
    · cases written
  · cases written

theorem isRevoked_iff : s.isRevoked deviceID = true ↔ deviceID ∈ s.authority.revoked := by
  unfold isRevoked authority
  rw [List.any_eq_true, List.mem_map]
  simp

theorem insertClient_revokedDevices {hello : ClientHello}
    (inserted : s.insertClient id tokenID hello now = .ok s') :
    s'.revokedDevices = s.revokedDevices := by
  unfold insertClient at inserted
  split at inserted
  · cases inserted
  · split at inserted
    · split at inserted <;> cases inserted
      rfl
    · split at inserted
      · split at inserted <;> cases inserted
        rfl
      · cases inserted

/-- `UpsertClient` refreshes a row, which the authority does not show, or enrols a client of an
existing token for a device that is neither in use nor revoked. -/
theorem insertClient_authority {hello : ClientHello}
    (inserted : s.insertClient id tokenID hello now = .ok s') :
    s'.authority = s.authority ∨
      (s.authority.Unused hello.deviceID ∧ hello.deviceID ∉ s.authority.revoked ∧
        ¬ s.authority.Unknown tokenID ∧
        s'.authority = s.authority.enrol ⟨id, hello.deviceID, tokenID, false⟩) := by
  have revoked := insertClient_revokedDevices inserted
  obtain ⟨allowed, tokens, ⟨-, -, -, -, same⟩ | ⟨unused, known, appended⟩⟩ :=
    insertClient_ok inserted
  · exact Or.inl (authority_congr same (congrArg _ tokens) revoked)
  · refine Or.inr ⟨?_, ?_, ?_, ?_⟩
    · intro grant member
      obtain ⟨client, present, rfl⟩ := List.mem_map.mp member
      exact unused client present
    · rw [← isRevoked_iff, allowed]
      exact Bool.false_ne_true
    · obtain ⟨row, present, same⟩ := known
      exact fun unknown => unknown row.grant (List.mem_map_of_mem present) same
    · unfold authority Authority.enrol
      rw [appended, tokens, revoked, List.map_append]
      rfl

/-- `RevokeClientDevice` found the client, and revokes its device. -/
theorem revokeClientDevice_authority (written : s.revokeClientDevice id now = .ok s') :
    ∃ client ∈ s.clients, client.id = id ∧
      s'.authority = s.authority.revoke client.deviceID := by
  unfold revokeClientDevice at written
  cases found : Table.select s.clients Client.id id with
  | none => simp [found] at written
  | some client =>
      obtain ⟨member, same⟩ := (Table.select_eq_some s.clients_primary).mp found
      simp only [found, Except.ok.injEq] at written
      subst written
      refine ⟨client, member, same, ?_⟩
      unfold Authority.revoke
      by_cases known : s.isRevoked client.deviceID = true
      · rw [if_pos (isRevoked_iff.mp known)]
        simp only [authority, if_pos known]
        rw [Table.map_update]
        exact fun _ => rfl
      · rw [if_neg fun member => known (isRevoked_iff.mpr member)]
        simp only [authority, if_neg known, List.map_append]
        rfl

/-- `DeleteClient` found the client, revokes its device and removes the row. -/
theorem deleteClient_authority (written : s.deleteClient id now = .ok s') :
    ∃ client ∈ s.clients, client.id = id ∧
      s'.authority = (s.authority.revoke client.deviceID).deleteClient id := by
  unfold deleteClient at written
  cases found : Table.select s.clients Client.id id with
  | none => simp [found] at written
  | some client =>
      obtain ⟨member, same⟩ := (Table.select_eq_some s.clients_primary).mp found
      simp only [found, Except.ok.injEq] at written
      subst written
      refine ⟨client, member, same, ?_⟩
      unfold Authority.revoke Authority.deleteClient
      have gone : (Table.delete s.clients fun row => row.id == id).map Client.grant =
          Table.delete (s.clients.map Client.grant) fun client => client.id == id :=
        Table.map_delete fun _ => rfl
      by_cases known : s.isRevoked client.deviceID = true
      · rw [if_pos (isRevoked_iff.mp known)]
        simp only [authority, deleteClients, if_pos known, gone]
      · rw [if_neg fun member => known (isRevoked_iff.mpr member)]
        simp only [authority, deleteClients, if_neg known, gone, List.map_append]
        rfl

theorem deleteClient_error {message : String} (failed : s.deleteClient id now = .error message) :
    ∀ client ∈ s.authority.clients, client.id ≠ id := by
  unfold deleteClient at failed
  cases found : Table.select s.clients Client.id id with
  | some client => simp [found] at failed
  | none =>
      intro grant member
      obtain ⟨row, present, rfl⟩ := List.mem_map.mp member
      exact Table.select_eq_none.mp found row present

/-! ## The checks decide the relations -/

/-- A client has a token. -/
theorem exists_token_of_grant {client : ClientGrant} (member : client ∈ s.authority.clients) :
    ∃ token ∈ s.authority.tokens, token.id = client.tokenID := by
  obtain ⟨row, stored, rfl⟩ := List.mem_map.mp member
  obtain ⟨token, present, same⟩ := s.clients_token row stored
  exact ⟨token.grant, List.mem_map_of_mem present, same⟩

/-- A device belongs to at most one client. -/
theorem grant_unique {client other : ClientGrant} (member : client ∈ s.authority.clients)
    (present : other ∈ s.authority.clients) (same : client.deviceID = other.deviceID) :
    client = other := by
  obtain ⟨row, stored, rfl⟩ := List.mem_map.mp member
  obtain ⟨row', stored', rfl⟩ := List.mem_map.mp present
  rw [Table.eq_of_column_eq s.clients_device stored stored' same]

/-- An identifier belongs to at most one client. -/
theorem grant_unique_id {client other : ClientGrant} (member : client ∈ s.authority.clients)
    (present : other ∈ s.authority.clients) (same : client.id = other.id) : client = other := by
  obtain ⟨row, stored, rfl⟩ := List.mem_map.mp member
  obtain ⟨row', stored', rfl⟩ := List.mem_map.mp present
  rw [Table.eq_of_column_eq s.clients_primary stored stored' same]

theorem getClientByDevice_ok {client : Client} (found : s.getClientByDevice deviceID = .ok client) :
    client.grant ∈ s.authority.clients ∧ client.deviceID = deviceID := by
  obtain ⟨member, device⟩ := mem_of_getClientByDevice found
  exact ⟨List.mem_map_of_mem member, device⟩

theorem getClientByDevice_error {message : String}
    (failed : s.getClientByDevice deviceID = .error message) : s.authority.Unused deviceID := by
  unfold getClientByDevice at failed
  cases selected : Table.select s.clients Client.deviceID deviceID with
  | some client => simp [selected] at failed
  | none =>
      intro grant member
      obtain ⟨row, present, rfl⟩ := List.mem_map.mp member
      exact Table.select_eq_none.mp selected row present

theorem getToken_ok {token : Token} (found : s.getToken tokenID = .ok token) :
    ∃ grant ∈ s.authority.tokens, grant.id = tokenID ∧ grant.disabled = token.disabled := by
  unfold getToken at found
  cases selected : Table.select s.tokens (fun row => row.id) tokenID with
  | none => simp [selected] at found
  | some row =>
      simp only [selected, Except.ok.injEq] at found
      obtain ⟨member, same⟩ := (Table.select_eq_some s.tokens_primary).mp selected
      exact ⟨row.grant, List.mem_map_of_mem member, same, by rw [← found]; rfl⟩

theorem getToken_error {message : String} (failed : s.getToken tokenID = .error message) :
    s.authority.Unknown tokenID := by
  unfold getToken at failed
  cases selected : Table.select s.tokens (fun row => row.id) tokenID with
  | some row => simp [selected] at failed
  | none =>
      intro grant member
      obtain ⟨row, present, rfl⟩ := List.mem_map.mp member
      exact Table.select_eq_none.mp selected row present

/-- A token has at most one flag. -/
theorem token_unique {token other : TokenGrant} (member : token ∈ s.authority.tokens)
    (present : other ∈ s.authority.tokens) (same : token.id = other.id) : token = other := by
  obtain ⟨row, stored, rfl⟩ := List.mem_map.mp member
  obtain ⟨row', stored', rfl⟩ := List.mem_map.mp present
  rw [Table.eq_of_column_eq s.tokens_primary stored stored' same]

theorem authenticateAgent_accepts {token : Token}
    (accepted : Auth.authenticateAgent s value now = .ok token) :
    s.authority.Accepts value token.id := by
  obtain ⟨id, secret, row, parts, member, rfl, enabled, hashed, rfl⟩ :=
    Auth.authenticateAgent_ok accepted
  refine ⟨secret, parts, ?_⟩
  have granted : row.grant ∈ s.authority.tokens := List.mem_map_of_mem member
  unfold TokenRow.grant at granted
  rw [enabled, ← hashed] at granted
  exact granted

theorem authenticateAgent_rejects {message : String}
    (rejected : Auth.authenticateAgent s value now = .error message) :
    ¬ s.authority.Accepts value tokenID := by
  rintro ⟨secret, parts, granted⟩
  obtain ⟨row, member, grant⟩ := List.mem_map.mp granted
  simp only [TokenRow.grant, TokenGrant.mk.injEq] at grant
  obtain ⟨same, enabled, hashed⟩ := grant
  rw [Auth.authenticateAgent_eq_ok parts member same enabled hashed.symm] at rejected
  cases rejected

end Store

end NryNet
