import NryNet.Api.Server

/-!
# Does revocation survive the error paths?

A revoking handler writes the revocation first and does the rest afterwards: it lists clients, stops
tunnels, deletes rows, clears the cache.  Each of these calls can fail, and the handler then returns an
error with the revocation already written.  Afterwards no handshake that presents a token whose row is
disabled or gone, or a device that is revoked, should be let in.

Two things go wrong.

* `tokenHandler.update` and `tokenHandler.delete` clear the cache last.  When they break off before, a
  cached token goes on being accepted until its entry expires (`disabled_token_accepted`).
* `clientHandler.delete` clears the cache right after it has revoked the device.  When it breaks off
  later, the client's row is still there, and `authenticateDataClient` does not look at the revoked
  devices: the device goes on being accepted for good.

`revocation_holds` says that these are the only ways.  The invariant is that the cached tokens are
accepted by the database as well, that no revoked device has a client, and that no entry answers for
a revoked device.
-/

namespace NryNet.Api

open Relay

/-- The row of the presented token is disabled or gone. -/
def TokenRevoked (store : Store) (tokenValue : String) : Prop :=
  ∀ id secret, Auth.tokenParts tokenValue = .ok (id, secret) →
    ∀ row ∈ store.tokens, row.id = id → row.disabled = true

/-- Handshakes that present a revoked token or a revoked device are turned away. -/
def Server.Refuses (s : Server) : Prop :=
  ∀ ticks tokenValue deviceID,
    TokenRevoked s.auth.store tokenValue ∨ s.auth.store.isRevoked deviceID = true →
    ∃ auth message,
      authenticateDataClient ticks s.auth tokenValue deviceID = some (auth, .error message)

/-- Every entry for the text of the token has expired. -/
def Forgotten (s : AuthState) (tokenID : String) : Prop :=
  ∀ slot ∈ s.cache.byToken.entries, slot.2.token.id = tokenID → slot.2.expires < s.now

instance (s : AuthState) (tokenID : String) : Decidable (Forgotten s tokenID) :=
  inferInstanceAs (Decidable (∀ _ ∈ _, _ → _))

/-- A token handler that breaks off after it has disabled the token finds no entry of the token that
could still be used, and a client is not left half deleted. -/
def Thorough (s : Server) : Request → Prop
  | .admin env (.tokenUpdate id true) =>
      env.TokenUpdateBreaks s.auth.store id → Forgotten s.auth id
  | .admin env (.tokenDelete id) => env.TokenDeleteBreaks s.auth.store id → Forgotten s.auth id
  | .admin env (.clientDelete id) => ¬ env.ClientDeleteBreaks s.auth.store id
  | _ => True

instance (s : Server) (request : Request) : Decidable (Thorough s request) := by
  unfold Thorough
  split <;> infer_instance

/-! ## The invariant -/

/-- The warrant of the entries: a token's entry is a token that is accepted, and a client's entry
answers for a device that has a client, should the device be revoked. -/
def vigilance : Warrant where
  holds a lookup entry :=
    match lookup with
    | .authenticate value => a.Accepts value entry.token.id
    | .clientByDevice deviceID => deviceID ∈ a.revoked → ¬ a.Unused deviceID
    | .tokenByID _ => True
  answer := by
    intro a lookup entry other same holds
    cases lookup with
    | authenticate value =>
        have token : entry.token = other.token := Sum.inl.inj same
        rw [token] at holds
        exact holds
    | clientByDevice deviceID => exact holds
    | tokenByID tokenID => exact holds
  query := by
    intro lookup s entry read
    have confirmed := AuthLookup.confirmed_of_query read
    cases lookup with
    | authenticate value => exact confirmed
    | clientByDevice deviceID =>
        obtain ⟨member, device⟩ := confirmed
        exact fun _ unused => unused entry.client.grant member device
    | tokenByID tokenID => trivial

/-- The invariant: nothing is announced, no revoked device has a client, and the entries are worth
what they should be. -/
structure Vigilant (s : Server) : Prop where
  idle : s.auth.Idle
  severed : s.authority.Severed
  sound : vigilance.Sound s.auth

theorem Vigilant.refuses {s : Server} (vigilant : Vigilant s) : s.Refuses := by
  intro ticks tokenValue deviceID revoked
  have calm : vigilance.Calm s.authority s.auth.now s.auth :=
    ⟨vigilant.idle, rfl, Nat.le_refl _, vigilant.sound⟩
  obtain ⟨auth, result, ended, -, decided⟩ :=
    authenticateDataClient_spec ticks tokenValue deviceID calm
  rcases decided with ⟨message, rfl, -⟩ | ⟨client, worth, ⟨message, rfl, -⟩ | ⟨token, accepts, -⟩⟩
  · exact ⟨auth, message, ended⟩
  · exact ⟨auth, message, ended⟩
  · rcases revoked with revoked | revoked
    · obtain ⟨secret, parts, granted⟩ := accepts
      obtain ⟨row, member, same⟩ := List.mem_map.mp granted
      simp only [TokenRow.grant, TokenGrant.mk.injEq] at same
      have disabled := revoked _ _ parts row member same.1
      rw [same.2.1] at disabled
      exact absurd disabled Bool.false_ne_true
    · have listed := Store.isRevoked_iff.mp revoked
      exact absurd (vigilant.severed deviceID listed) (worth listed)

theorem Vigilant.start {store : Store} {now : Time} (severed : store.authority.Severed) :
    Vigilant (.start store now) := by
  refine ⟨fun _ => rfl, severed, fun lookup entry hit => ?_⟩
  obtain ⟨present, -⟩ := AuthLookup.cached_hit.mp hit
  cases lookup <;> cases present

/-! ## One request keeps it -/

section Step

variable {s s' : Server} {a : Authority} {lookup : AuthLookup} {entry : RelayTokenEntry}

/-- Switching a token leaves the entries of the other tokens accepted. -/
theorem vigilance_setTokenDisabled {id : String} {flag : Bool}
    (other : ∀ value, lookup = .authenticate value → entry.token.id ≠ id)
    (worth : vigilance.holds a lookup entry) :
    vigilance.holds (a.setTokenDisabled id flag) lookup entry := by
  cases lookup with
  | authenticate value =>
      obtain ⟨secret, parts, member⟩ := worth
      exact ⟨secret, parts, (Authority.mem_setTokenDisabled (other value rfl)).mpr member⟩
  | clientByDevice deviceID => exact worth
  | tokenByID tokenID => trivial

/-- A hit for the text of a token is not one of a forgotten token. -/
theorem Forgotten.other {auth : AuthState} {id : String} (forgotten : Forgotten auth id)
    (hit : (lookup.cached auth.cache auth.now).2 = some entry) :
    ∀ value, lookup = .authenticate value → entry.token.id ≠ id := by
  rintro value rfl same
  obtain ⟨present, alive, -⟩ := AuthLookup.cached_hit.mp hit
  have expired := forgotten _ (GoMap.mem_lookup_iff_mem_entries.mp present) same
  exact Nat.not_le_of_lt expired alive

theorem other_of_hit_invalidateToken {c : RelayAuthCache} {now : Time} {id : String}
    (hit : (lookup.cached (c.invalidateToken id) now).2 = some entry) :
    ∀ value, lookup = .authenticate value → entry.token.id ≠ id := by
  rintro value rfl
  exact (AuthLookup.hit_invalidateToken hit).2

theorem vigilance_addToken {grant : TokenGrant} (worth : vigilance.holds a lookup entry) :
    vigilance.holds (a.addToken grant) lookup entry := by
  cases lookup with
  | authenticate value =>
      obtain ⟨secret, parts, member⟩ := worth
      exact ⟨secret, parts, List.mem_append_left _ member⟩
  | clientByDevice deviceID => exact worth
  | tokenByID tokenID => trivial

/-- Deleting a token takes clients away, but none of a revoked device: those have none. -/
theorem vigilance_deleteToken {id : String} (severed : a.Severed)
    (other : ∀ value, lookup = .authenticate value → entry.token.id ≠ id)
    (worth : vigilance.holds a lookup entry) : vigilance.holds (a.deleteToken id) lookup entry := by
  cases lookup with
  | authenticate value =>
      obtain ⟨secret, parts, member⟩ := worth
      exact ⟨secret, parts, Authority.mem_tokens_deleteToken.mpr ⟨member, other value rfl⟩⟩
  | clientByDevice deviceID => exact fun revoked _ => worth revoked (severed deviceID revoked)
  | tokenByID tokenID => trivial

theorem Vigilant.hello {id tokenID : String} {hello : ClientHello} (vigilant : Vigilant s)
    (served : s.serve (.hello id tokenID hello) = some s') : Vigilant s' := by
  obtain ⟨-, cache, now, same | ⟨-, allowed, -, enrolled⟩⟩ := Server.serve_hello served
  · refine ⟨fun key => by rw [cache]; exact vigilant.idle key, same ▸ vigilant.severed,
      fun lookup entry hit => ?_⟩
    rw [cache, now] at hit
    show vigilance.holds s'.authority lookup entry
    rw [same]
    exact vigilant.sound lookup entry hit
  · refine ⟨fun key => by rw [cache]; exact vigilant.idle key, ?_, fun lookup entry hit => ?_⟩
    · rw [enrolled]
      intro deviceID revoked client member
      -- a device that is revoked is not enrolled
      rcases List.mem_append.mp member with old | new
      · exact vigilant.severed deviceID revoked client old
      · rw [List.mem_singleton.mp new]
        rintro rfl
        exact allowed revoked
    · rw [cache, now] at hit
      have worth := vigilant.sound lookup entry hit
      show vigilance.holds s'.authority lookup entry
      rw [enrolled]
      cases lookup with
      | authenticate value => exact worth
      | clientByDevice deviceID =>
          exact fun revoked unused => worth revoked fun client member =>
            unused client (List.mem_append_left _ member)
      | tokenByID tokenID => trivial

/-- Removing a client severs its device. -/
theorem severed_deleteClient {store : Store} {client : ClientGrant}
    (severed : store.authority.Severed) (member : client ∈ store.authority.clients) :
    (((store.authority.revoke client.deviceID).revoke client.deviceID).deleteClient
      client.id).Severed := by
  intro deviceID revoked other present
  obtain ⟨kept, different⟩ := Table.mem_delete.mp present
  have listed : deviceID ∈ store.authority.revoked ∨ deviceID = client.deviceID := by
    rcases Authority.mem_revoke.mp revoked with again | same
    · exact Authority.mem_revoke.mp again
    · exact Or.inr same
  rcases listed with old | rfl
  · exact severed deviceID old other kept
  · intro same
    rw [Store.grant_unique kept member same] at different
    simp at different

theorem Vigilant.admin {env : Env} {op : Admin} (vigilant : Vigilant s)
    (thorough : Thorough s (.admin env op)) (served : s.serve (.admin env op) = some s') :
    Vigilant s' := by
  obtain ⟨-, -, now, effect⟩ := Server.serve_admin served
  have idle : s'.auth.Idle := by
    intro key
    rw [effect.loading]
    exact vigilant.idle key
  have cleared : s'.auth.cache = s.auth.cache.invalidateAll → vigilance.Sound s'.auth := by
    intro empty lookup entry hit
    rw [empty] at hit
    exact absurd hit AuthLookup.no_hit_invalidateAll
  -- Where the cache is left alone, its hits are those from before.
  have kept : s'.auth.cache = s.auth.cache →
      (∀ lookup entry, (lookup.cached s.auth.cache s.auth.now).2 = some entry →
        vigilance.holds s.authority lookup entry → vigilance.holds s'.authority lookup entry) →
      vigilance.Sound s'.auth := by
    intro same worth lookup entry hit
    rw [same, now] at hit
    exact worth lookup entry hit (vigilant.sound lookup entry hit)
  generalize authority : s'.authority = after at effect kept
  generalize cache : s'.auth.cache = left at effect
  generalize (op.handle env s.auth).2.isOk = succeeded at effect
  cases effect with
  | refused => exact ⟨idle, authority ▸ vigilant.severed, kept cache fun _ _ _ worth => worth⟩
  | created id name secret succeeded grant named =>
      exact ⟨idle, authority ▸ vigilant.severed,
        kept cache fun _ _ _ worth => vigilance_addToken worth⟩
  | switched id disabled =>
      refine ⟨idle, authority ▸ vigilant.severed, fun lookup entry hit => ?_⟩
      rw [cache, now] at hit
      have worth := vigilant.sound lookup entry (AuthLookup.hit_invalidateToken hit).1
      show vigilance.holds s'.authority lookup entry
      rw [authority]
      exact vigilance_setTokenDisabled (other_of_hit_invalidateToken hit) worth
  | halfSwitched id fault =>
      refine ⟨idle, authority ▸ vigilant.severed, kept cache fun lookup entry hit worth => ?_⟩
      exact vigilance_setTokenDisabled ((thorough fault).other hit) worth
  | deleted id =>
      refine ⟨idle, ?_, fun lookup entry hit => ?_⟩
      · rw [authority]
        intro deviceID revoked client member
        exact vigilant.severed deviceID revoked client
          (Authority.mem_clients_deleteToken.mp member).1
      · rw [cache, now] at hit
        have worth := vigilant.sound lookup entry (AuthLookup.hit_invalidateToken hit).1
        have other := other_of_hit_invalidateToken hit
        show vigilance.holds s'.authority lookup entry
        rw [authority]
        exact vigilance_deleteToken vigilant.severed other (vigilance_setTokenDisabled other worth)
  | halfDeleted id fault =>
      refine ⟨idle, authority ▸ vigilant.severed, kept cache fun lookup entry hit worth => ?_⟩
      exact vigilance_setTokenDisabled ((thorough fault).other hit) worth
  | updated id name disabled =>
      refine ⟨idle, ?_, cleared cache⟩
      rw [authority]
      intro deviceID revoked
      rw [Authority.unused_iff, Authority.devices_updateClient, ← Authority.unused_iff]
      cases disabled <;> exact vigilant.severed deviceID revoked
  | reset clientID id secret grant named =>
      refine ⟨idle, ?_, cleared cache⟩
      rw [authority]
      intro deviceID revoked
      rw [Authority.unused_iff, Authority.devices_updateClientToken, ← Authority.unused_iff]
      exact vigilant.severed deviceID revoked
  | halfReset clientID id secret grant named =>
      exact ⟨idle, authority ▸ vigilant.severed,
        kept cache fun _ _ _ worth => vigilance_addToken worth⟩
  | removed id client member named =>
      refine ⟨idle, ?_, cleared cache⟩
      rw [authority, ← named]
      exact severed_deleteClient vigilant.severed member
  | halfRemoved id client member named fault => exact absurd fault thorough

theorem Vigilant.serve {request : Request} (vigilant : Vigilant s) (thorough : Thorough s request)
    (served : s.serve request = some s') : Vigilant s' := by
  have handshake : vigilance.Calm s.authority s.auth.now s'.auth → Vigilant s' := by
    intro calm
    refine ⟨calm.idle, ?_, calm.sound⟩
    show s'.auth.store.authority.Severed
    rw [calm.authority]
    exact vigilant.severed
  cases request with
  | wait elapsed =>
      cases served
      exact ⟨vigilant.idle, vigilant.severed, AuthLookup.Sound.advance vigilant.sound⟩
  | hello id tokenID hello => exact vigilant.hello served
  | data ticks tokenValue deviceID =>
      exact handshake (Server.serve_data vigilant.idle vigilant.sound served).2
  | stream ticks tokenID deviceID requestID =>
      exact handshake (Server.serve_stream vigilant.idle vigilant.sound served).2
  | admin env op => exact vigilant.admin thorough served

end Step

/-! ## Revocation -/

/-- **Revocation holds** along every run, whichever calls of the handlers fail, in which a token
handler that breaks off finds no usable entry of its token and no client is left half deleted. -/
theorem revocation_holds {store : Store} {now : Time} {s : Server}
    (severed : store.authority.Severed) (reached : Server.Runs Thorough (.start store now) s) :
    s.Refuses := by
  have vigilant : Vigilant s := by
    refine reached.invariant Vigilant (.start severed) ?_
    intro s s' request vigilant thorough served
    exact vigilant.serve thorough served
  exact vigilant.refuses

/-- The clients of the token cannot be listed. -/
def listingFails : Env := ⟨fun call => call = .listClientsByToken, fun _ => false⟩

/-- The client of the token opens a data channel; then the token is disabled. -/
def warmThenDisable (env : Env) : List Request :=
  [.data (fun _ _ => 0) Auth.officeToken "device-1", .admin env (.tokenUpdate "token-1" true)]

/-- The handler breaks off before it clears the cache, and the disabled token goes on being
accepted. -/
theorem disabled_token_accepted :
    Auth.office.authority.Severed ∧
      ∃ s, Server.Runs (fun _ _ => True) (.start Auth.office 0) s ∧ ¬ s.Refuses := by
  have found : ∃ s, Server.Runs (fun _ _ => True) (.start Auth.office 0) s ∧
      ((∀ row ∈ s.auth.store.tokens, row.disabled = true) ∧
        ((authenticateDataClient (fun _ _ => 0) s.auth Auth.officeToken "device-1").any
          fun outcome => outcome.2.toOption = some "client-1") = true) := by
    refine Server.exists_runs_of_serveAll (warmThenDisable listingFails) ?_
    decide +kernel
  obtain ⟨s, reached, disabled, accepted⟩ := found
  refine ⟨by decide, s, reached, fun refuses => ?_⟩
  have revoked : TokenRevoked s.auth.store Auth.officeToken :=
    fun id secret _ row member _ => disabled row member
  obtain ⟨auth, message, ended⟩ := refuses (fun _ _ => 0) Auth.officeToken "device-1" (Or.inl revoked)
  rw [ended, Option.any_some, decide_eq_true_iff] at accepted
  cases accepted

/-- When nothing fails, the token is refused once the handler has returned; and so it is when the handler
breaks off six seconds after the handshake, when the entry of the token has expired. -/
theorem revocation_holds_office :
    Auth.office.authority.Severed ∧
      (∃ s, Server.Runs Thorough (.start Auth.office 0) s ∧
        (∀ row ∈ s.auth.store.tokens, row.disabled = true) ∧ s.Refuses) ∧
      ∃ s s', Server.Runs Thorough (.start Auth.office 0) s ∧
        s.auth.cache.byToken.entries.length = 1 ∧
        listingFails.TokenUpdateBreaks s.auth.store "token-1" ∧
        s.serve (.admin listingFails (.tokenUpdate "token-1" true)) = some s' ∧
        (∀ row ∈ s'.auth.store.tokens, row.disabled = true) ∧ s'.Refuses := by
  have severed : Auth.office.authority.Severed := by decide
  have found : ∃ s, Server.Runs Thorough (.start Auth.office 0) s ∧
      ∀ row ∈ s.auth.store.tokens, row.disabled = true := by
    refine Server.exists_runs_of_serveAll (warmThenDisable .smooth) ?_
    decide +kernel
  obtain ⟨s, reached, disabled⟩ := found
  refine ⟨severed, ⟨s, reached, disabled, revocation_holds severed reached⟩, ?_⟩
  have waited : ∃ s, Server.Runs Thorough (.start Auth.office 0) s ∧
      (s.auth.cache.byToken.entries.length = 1 ∧
        listingFails.TokenUpdateBreaks s.auth.store "token-1" ∧
        Thorough s (.admin listingFails (.tokenUpdate "token-1" true)) ∧
        ((s.serve (.admin listingFails (.tokenUpdate "token-1" true))).any
          fun s' => s'.auth.store.tokens.all fun row => row.disabled) = true) := by
    refine Server.exists_runs_of_serveAll
      [.data (fun _ _ => 0) Auth.officeToken "device-1", .wait 6000000000] ?_
    decide +kernel
  obtain ⟨before, reached, cached, breaks, thorough, served⟩ := waited
  obtain ⟨after, served, disabled⟩ := (Option.any_eq_true _ _).mp served
  exact ⟨before, after, reached, cached, breaks, served, List.all_eq_true.mp disabled,
    revocation_holds severed (reached.tail ⟨_, thorough, served⟩)⟩

end NryNet.Api
