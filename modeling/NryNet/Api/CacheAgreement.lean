import NryNet.Api.Server

/-!
# Does the cached authorization agree with the database?

One request after another, the cache and the database should decide alike: a data handshake or a
stream is let in, as some client, exactly when the same check against the database lets it in as that
client.  Disabling and enabling, deleting, resetting, expiry at any moment: all of it is covered.

It holds with one exception.  `tokenHandler.delete` removes the clients of the token together with
the token, but clears the cache by `invalidateToken`, which does not touch the entries by device.
Such an entry is harmless as long as its device stays without a client: it names a token that no
longer exists, and whatever is presented with the device is refused, as the database would.  But when
the device enrols again, with another token, before the entry has expired, the entry shadows the new
client, and the agent is turned away although the database admits it
(`deleted_client_shadows_new_one`).

`Coherent` says what the entries are worth: the row they were read from, or, for a device, nothing
that could be let in.
-/

namespace NryNet.Api

open Relay

/-- The cached checks and the direct ones let in the same handshakes and streams, as the same
clients. -/
def Server.Agrees (s : Server) : Prop :=
  (∀ ticks tokenValue deviceID, ∃ auth result,
    authenticateDataClient ticks s.auth tokenValue deviceID = some (auth, result) ∧
      ∀ clientID, result = .ok clientID ↔
        authenticateDirectly s.auth.store tokenValue deviceID s.auth.now = .ok clientID) ∧
  ∀ ticks tokenID deviceID requestID, ∃ auth result,
    authorizeStream ticks s.auth tokenID deviceID requestID = some (auth, result) ∧
      ∀ clientID, result = .ok clientID ↔
        authorizeStreamDirectly s.auth.store tokenID deviceID requestID = .ok clientID

/-- An administrative request succeeds. -/
def Successful (s : Server) : Request → Prop
  | .admin env op => (op.handle env s.auth).2.isOk = true
  | _ => True

instance (s : Server) (request : Request) : Decidable (Successful s request) := by
  unfold Successful
  split <;> infer_instance

/-- A hello that enrols a client finds no entry that would answer for its device. -/
def Unshadowed (s : Server) : Request → Prop
  | .hello _ tokenID hello =>
      s.authority.Unused hello.deviceID → hello.deviceID ∉ s.authority.revoked →
        ¬ s.authority.Unknown tokenID →
        (s.auth.cache.cachedClient hello.deviceID s.auth.now).2 = none
  | _ => True

instance (s : Server) (request : Request) : Decidable (Unshadowed s request) := by
  unfold Unshadowed
  split <;> infer_instance

/-! ## What the entries are worth -/

/-- The warrant of the entries: a token's entry is a token that is accepted, a client's entry is the
client of its device, or the device has no client and the entry's token is gone for good. -/
def coherence (issued : List String) : Warrant where
  holds a lookup entry :=
    match lookup with
    | .authenticate value => a.Accepts value entry.token.id
    | .clientByDevice deviceID =>
        (entry.client.grant ∈ a.clients ∧ entry.client.deviceID = deviceID) ∨
          (a.Unused deviceID ∧ a.Unknown entry.client.tokenID ∧ entry.client.tokenID ∈ issued)
    | .tokenByID tokenID =>
        ∃ token ∈ a.tokens, token.id = tokenID ∧ token.disabled = entry.token.disabled
  answer := by
    intro a lookup entry other same holds
    cases lookup with
    | authenticate value =>
        have token : entry.token = other.token := Sum.inl.inj same
        rw [token] at holds
        exact holds
    | clientByDevice deviceID =>
        have client : entry.client = other.client := Sum.inr.inj same
        rw [client] at holds
        exact holds
    | tokenByID tokenID =>
        have token : entry.token = other.token := Sum.inl.inj same
        rw [token] at holds
        exact holds
  query := by
    intro lookup s entry read
    have confirmed := AuthLookup.confirmed_of_query read
    cases lookup with
    | authenticate value => exact confirmed
    | clientByDevice deviceID => exact Or.inl confirmed
    | tokenByID tokenID => exact confirmed

/-- The invariant: nothing is announced, every token has been drawn, and every hit is coherent. -/
structure Coherent (s : Server) : Prop where
  idle : s.auth.Idle
  issued : ∀ token ∈ s.authority.tokens, token.id ∈ s.issued
  sound : (coherence s.issued).Sound s.auth

theorem Coherent.calm {s : Server} (coherent : Coherent s) :
    (coherence s.issued).Calm s.authority s.auth.now s.auth :=
  ⟨coherent.idle, rfl, Nat.le_refl _, coherent.sound⟩

/-! ## Coherence is agreement -/

section Agreement

variable {s : Server}

theorem Coherent.data_agrees (coherent : Coherent s) (ticks : Ticks) (tokenValue deviceID : String) :
    ∃ auth result, authenticateDataClient ticks s.auth tokenValue deviceID = some (auth, result) ∧
      ∀ clientID, result = .ok clientID ↔ s.authority.Admits tokenValue deviceID clientID := by
  obtain ⟨auth, result, ended, -, decided⟩ :=
    authenticateDataClient_spec ticks tokenValue deviceID coherent.calm
  refine ⟨auth, result, ended, fun clientID => ?_⟩
  rcases decided with ⟨message, rfl, unused⟩ | ⟨client, worth, ⟨message, rfl, denied⟩ |
    ⟨token, accepts, rfl⟩⟩
  · simp only [reduceCtorEq, false_iff]
    rintro ⟨grant, member, device, -⟩
    exact unused grant member device
  · simp only [reduceCtorEq, false_iff]
    rintro ⟨grant, -, -, -, -, accepted⟩
    exact denied _ accepted
  · rw [checkDataClient_ok]
    rcases worth with ⟨member, device⟩ | ⟨unused, unknown, -⟩
    · constructor
      · rintro ⟨enabled, own, rfl⟩
        refine ⟨client.client.grant, member, device, enabled, rfl, ?_⟩
        show s.authority.Accepts tokenValue client.client.tokenID
        rw [own]
        exact accepts
      · rintro ⟨grant, present, same, enabled, rfl, accepted⟩
        obtain rfl := Store.grant_unique present member (same.trans device.symm)
        exact ⟨enabled, accepted.tokenID_eq accepts, rfl⟩
    · -- The entry is left over from a deleted token: both sides refuse.
      constructor
      · rintro ⟨-, own, -⟩
        rw [own] at unknown
        exact absurd unknown accepts.enabled.not_unknown
      · rintro ⟨grant, present, same, -⟩
        exact absurd same (unused grant present)

theorem Coherent.stream_agrees (coherent : Coherent s) (ticks : Ticks)
    (tokenID deviceID requestID : String) :
    ∃ auth result, authorizeStream ticks s.auth tokenID deviceID requestID = some (auth, result) ∧
      ∀ clientID, result = .ok clientID ↔
        ¬ (tokenID = "" ∨ deviceID = "" ∨ requestID = "") ∧
          s.authority.AdmitsStream tokenID deviceID clientID := by
  obtain ⟨auth, result, ended, -, decided⟩ :=
    authorizeStream_spec ticks tokenID deviceID requestID coherent.calm
  refine ⟨auth, result, ended, fun clientID => ?_⟩
  rcases decided with ⟨missing, rfl⟩ | ⟨complete, ⟨message, rfl, unused⟩ | ⟨client, worth,
    ⟨message, rfl, unknown⟩ | ⟨token, ⟨stored, kept, named, flag⟩, rfl⟩⟩⟩
  · simp [missing]
  · simp only [reduceCtorEq, false_iff]
    rintro ⟨-, grant, member, device, -⟩
    exact unused grant member device
  · simp only [reduceCtorEq, false_iff]
    rintro ⟨-, grant, -, -, -, -, -, enabled⟩
    exact enabled.not_unknown unknown
  · rw [checkStream_ok]
    simp only [complete, not_false_eq_true, true_and]
    rcases worth with ⟨member, device⟩ | ⟨unused, unknown, -⟩
    · constructor
      · rintro ⟨enabled, valid, own, rfl⟩
        exact ⟨client.client.grant, member, device, enabled, rfl, own, stored, kept, named,
          flag.trans valid⟩
      · rintro ⟨grant, present, same, enabled, rfl, own, other, kept', named', valid⟩
        obtain rfl := Store.grant_unique present member (same.trans device.symm)
        obtain rfl := Store.token_unique kept kept' (named.trans named'.symm)
        exact ⟨enabled, flag.symm.trans valid, own, rfl⟩
    · -- The entry is left over from a deleted token, and that token is not found again.
      constructor
      · rintro ⟨-, -, own, -⟩
        rw [own] at unknown
        exact absurd named (unknown stored kept)
      · rintro ⟨grant, present, same, -⟩
        exact absurd same (unused grant present)

theorem Coherent.agrees (coherent : Coherent s) : s.Agrees := by
  constructor
  · intro ticks tokenValue deviceID
    obtain ⟨auth, result, ended, decides⟩ := coherent.data_agrees ticks tokenValue deviceID
    refine ⟨auth, result, ended, fun clientID => ?_⟩
    rw [decides clientID, authenticateDirectly_ok]
  · intro ticks tokenID deviceID requestID
    obtain ⟨auth, result, ended, decides⟩ := coherent.stream_agrees ticks tokenID deviceID requestID
    refine ⟨auth, result, ended, fun clientID => ?_⟩
    rw [decides clientID, authorizeStreamDirectly_ok]

end Agreement

/-! ## One request keeps it -/

section Step

variable {s s' : Server} {a : Authority} {issued : List String} {lookup : AuthLookup}
variable {entry : RelayTokenEntry}

/-- A new token is not one that an entry could be left over from. -/
theorem coherence_addToken {grant : TokenGrant} {id : String} (named : grant.id = id)
    (fresh : id ∉ issued) (worth : (coherence issued).holds a lookup entry) :
    (coherence (id :: issued)).holds (a.addToken grant) lookup entry := by
  cases lookup with
  | authenticate value =>
      obtain ⟨secret, parts, member⟩ := worth
      exact ⟨secret, parts, List.mem_append_left _ member⟩
  | clientByDevice deviceID =>
      rcases worth with row | ⟨unused, unknown, drawn⟩
      · exact Or.inl row
      · refine Or.inr ⟨unused, fun token member => ?_, List.mem_cons_of_mem _ drawn⟩
        rcases List.mem_append.mp member with old | new
        · exact unknown token old
        · rw [List.mem_singleton.mp new, named]
          rintro rfl
          exact fresh drawn
  | tokenByID tokenID =>
      obtain ⟨token, member, rest⟩ := worth
      exact ⟨token, List.mem_append_left _ member, rest⟩

/-- A client that is enrolled changes nothing for the other devices. -/
theorem coherence_enrol {client : ClientGrant}
    (other : ∀ deviceID, lookup = .clientByDevice deviceID → client.deviceID ≠ deviceID)
    (worth : (coherence issued).holds a lookup entry) :
    (coherence issued).holds (a.enrol client) lookup entry := by
  cases lookup with
  | authenticate value => exact worth
  | clientByDevice deviceID =>
      rcases worth with ⟨member, device⟩ | ⟨unused, unknown, drawn⟩
      · exact Or.inl ⟨List.mem_append_left _ member, device⟩
      · refine Or.inr ⟨fun grant member => ?_, unknown, drawn⟩
        rcases List.mem_append.mp member with old | new
        · exact unused grant old
        · rw [List.mem_singleton.mp new]
          exact other deviceID rfl
  | tokenByID tokenID => exact worth

/-- Switching a token changes nothing for what `invalidateToken` leaves in the cache. -/
theorem coherence_setTokenDisabled {c : RelayAuthCache} {now : Time} {id : String} {flag : Bool}
    (hit : (lookup.cached (c.invalidateToken id) now).2 = some entry)
    (worth : (coherence issued).holds a lookup entry) :
    (coherence issued).holds (a.setTokenDisabled id flag) lookup entry := by
  have other := (AuthLookup.hit_invalidateToken hit).2
  cases lookup with
  | authenticate value =>
      obtain ⟨secret, parts, member⟩ := worth
      exact ⟨secret, parts, (Authority.mem_setTokenDisabled other).mpr member⟩
  | clientByDevice deviceID =>
      rcases worth with row | ⟨unused, unknown, drawn⟩
      · exact Or.inl row
      · exact Or.inr ⟨unused, Authority.unknown_setTokenDisabled.mpr unknown, drawn⟩
  | tokenByID tokenID =>
      obtain ⟨token, member, named, flag⟩ := worth
      have different : token.id ≠ id := fun same => other (named.symm.trans same)
      exact ⟨token, (Authority.mem_setTokenDisabled different).mpr member, named, flag⟩

/-- Deleting a token leaves entries of its clients behind; their devices have no client then, and
their token is gone. -/
theorem coherence_deleteToken {c : RelayAuthCache} {now : Time} {id : String}
    (unique : ∀ client ∈ a.clients, ∀ other ∈ a.clients, client.deviceID = other.deviceID →
      client = other)
    (drawn : ∀ client ∈ a.clients, client.tokenID ∈ issued)
    (hit : (lookup.cached (c.invalidateToken id) now).2 = some entry)
    (worth : (coherence issued).holds a lookup entry) :
    (coherence issued).holds (a.deleteToken id) lookup entry := by
  have other := (AuthLookup.hit_invalidateToken hit).2
  cases lookup with
  | authenticate value =>
      obtain ⟨secret, parts, member⟩ := worth
      exact ⟨secret, parts, Authority.mem_tokens_deleteToken.mpr ⟨member, other⟩⟩
  | clientByDevice deviceID =>
      have gone : ∀ tokenID, a.Unknown tokenID ∨ tokenID = id →
          (a.deleteToken id).Unknown tokenID := by
        rintro tokenID cause token member rfl
        obtain ⟨present, different⟩ := Authority.mem_tokens_deleteToken.mp member
        rcases cause with unknown | same
        · exact unknown token present rfl
        · exact different same
      rcases worth with ⟨member, device⟩ | ⟨unused, unknown, known⟩
      · by_cases own : entry.client.tokenID = id
        · -- The client went with its token, and it was the only one of its device.
          refine Or.inr ⟨fun grant present same => ?_, gone _ (Or.inr own), drawn _ member⟩
          obtain ⟨kept, different⟩ := Authority.mem_clients_deleteToken.mp present
          have equal := unique grant kept _ member (same.trans device.symm)
          rw [equal] at different
          exact different own
        · exact Or.inl ⟨Authority.mem_clients_deleteToken.mpr ⟨member, own⟩, device⟩
      · refine Or.inr ⟨fun grant present => ?_, gone _ (Or.inl unknown), known⟩
        exact unused grant (Authority.mem_clients_deleteToken.mp present).1
  | tokenByID tokenID =>
      obtain ⟨token, member, named, flag⟩ := worth
      have different : token.id ≠ id := fun same => other (named.symm.trans same)
      exact ⟨token, Authority.mem_tokens_deleteToken.mpr ⟨member, different⟩, named, flag⟩

theorem Coherent.hello {id tokenID : String} {hello : ClientHello} (coherent : Coherent s)
    (clear : Unshadowed s (.hello id tokenID hello))
    (served : s.serve (.hello id tokenID hello) = some s') : Coherent s' := by
  obtain ⟨issued, cache, now, same | ⟨unused, allowed, known, enrolled⟩⟩ :=
    Server.serve_hello served
  · refine ⟨fun key => by rw [cache]; exact coherent.idle key, ?_, fun lookup entry hit => ?_⟩
    · rw [same, issued]
      exact coherent.issued
    · rw [cache, now] at hit
      have worth := coherent.sound lookup entry hit
      show (coherence s'.issued).holds s'.authority lookup entry
      rw [issued, same]
      exact worth
  · -- A new client is enrolled.  Its device has no entry, so no entry speaks of it.
    have miss := clear unused allowed known
    refine ⟨fun key => by rw [cache]; exact coherent.idle key, ?_, fun lookup entry hit => ?_⟩
    · rw [enrolled, issued]
      exact coherent.issued
    · rw [cache, now] at hit
      have worth := coherent.sound lookup entry hit
      have other : ∀ deviceID, lookup = .clientByDevice deviceID → hello.deviceID ≠ deviceID := by
        rintro deviceID rfl rfl
        rw [show (s.auth.cache.cachedClient hello.deviceID s.auth.now).2 = some entry from hit] at miss
        cases miss
      show (coherence s'.issued).holds s'.authority lookup entry
      rw [issued, enrolled]
      exact coherence_enrol other worth

theorem Coherent.admin {env : Env} {op : Admin} (coherent : Coherent s)
    (succeeded : Successful s (.admin env op)) (served : s.serve (.admin env op) = some s') :
    Coherent s' := by
  obtain ⟨fresh, issued, now, effect⟩ := Server.serve_admin served
  have idle : s'.auth.Idle := by
    intro key
    rw [effect.loading]
    exact coherent.idle key
  rw [show (op.handle env s.auth).2.isOk = true from succeeded] at effect
  -- Where the cache is cleared there are no hits left to speak about.
  have cleared : s'.auth.cache = s.auth.cache.invalidateAll →
      (coherence s'.issued).Sound s'.auth := by
    intro empty lookup entry hit
    rw [empty] at hit
    exact absurd hit AuthLookup.no_hit_invalidateAll
  generalize authority : s'.authority = after at effect
  generalize cache : s'.auth.cache = left at effect
  cases effect with
  | created id name secret _ grant named =>
      have drawn : s'.issued = id :: s.issued := issued
      refine ⟨idle, ?_, fun lookup entry hit => ?_⟩
      · intro token member
        rw [authority] at member
        rw [drawn]
        rcases List.mem_append.mp member with old | new
        · exact List.mem_cons_of_mem _ (coherent.issued token old)
        · rw [List.mem_singleton.mp new, named]
          exact List.mem_cons_self
      · rw [cache, now] at hit
        show (coherence s'.issued).holds s'.authority lookup entry
        rw [drawn, authority]
        exact coherence_addToken named (fresh id rfl) (coherent.sound lookup entry hit)
  | switched id disabled =>
      have drawn : s'.issued = s.issued := issued
      refine ⟨idle, ?_, fun lookup entry hit => ?_⟩
      · intro token member
        rw [authority] at member
        obtain ⟨old, present, rfl⟩ := Table.mem_update.mp member
        rw [drawn]
        split <;> exact coherent.issued old present
      · rw [cache, now] at hit
        have worth := coherent.sound lookup entry (AuthLookup.hit_invalidateToken hit).1
        show (coherence s'.issued).holds s'.authority lookup entry
        rw [drawn, authority]
        exact coherence_setTokenDisabled hit worth
  | deleted id =>
      have drawn : s'.issued = s.issued := issued
      refine ⟨idle, ?_, fun lookup entry hit => ?_⟩
      · intro token member
        rw [authority] at member
        obtain ⟨old, present, rfl⟩ :=
          Table.mem_update.mp (Authority.mem_tokens_deleteToken.mp member).1
        rw [drawn]
        split <;> exact coherent.issued old present
      · rw [cache, now] at hit
        have worth := coherent.sound lookup entry (AuthLookup.hit_invalidateToken hit).1
        show (coherence s'.issued).holds s'.authority lookup entry
        rw [drawn, authority]
        refine coherence_deleteToken (fun client member other present same => ?_)
          (fun client member => ?_) hit (coherence_setTokenDisabled hit worth)
        · exact Store.grant_unique member present same
        · obtain ⟨token, present, named⟩ := Store.exists_token_of_grant member
          exact named ▸ coherent.issued token present
  | updated id name disabled =>
      have drawn : s'.issued = s.issued := issued
      refine ⟨idle, ?_, cleared cache⟩
      rw [authority, drawn]
      cases disabled <;> exact coherent.issued
  | reset clientID id secret grant named =>
      have drawn : s'.issued = id :: s.issued := issued
      refine ⟨idle, ?_, cleared cache⟩
      intro token member
      rw [authority] at member
      rw [drawn]
      rcases List.mem_append.mp member with old | new
      · exact List.mem_cons_of_mem _ (coherent.issued token old)
      · rw [List.mem_singleton.mp new, named]
        exact List.mem_cons_self
  | removed id client member named =>
      have drawn : s'.issued = s.issued := issued
      refine ⟨idle, ?_, cleared cache⟩
      rw [authority, drawn]
      exact coherent.issued

theorem Coherent.serve {request : Request} (coherent : Coherent s)
    (permitted : Successful s request ∧ Unshadowed s request)
    (served : s.serve request = some s') : Coherent s' := by
  have handshake : s'.issued = s.issued ∧
      (coherence s.issued).Calm s.authority s.auth.now s'.auth → Coherent s' := by
    rintro ⟨issued, calm⟩
    refine ⟨calm.idle, ?_, ?_⟩
    · show ∀ token ∈ s'.auth.store.authority.tokens, token.id ∈ s'.issued
      rw [issued, calm.authority]
      exact coherent.issued
    · rw [issued]
      exact calm.sound
  cases request with
  | wait elapsed =>
      cases served
      exact ⟨coherent.idle, coherent.issued, AuthLookup.Sound.advance coherent.sound⟩
  | hello id tokenID hello => exact coherent.hello permitted.2 served
  | data ticks tokenValue deviceID =>
      exact handshake (Server.serve_data coherent.idle coherent.sound served)
  | stream ticks tokenID deviceID requestID =>
      exact handshake (Server.serve_stream coherent.idle coherent.sound served)
  | admin env op => exact coherent.admin permitted.1 served

end Step

theorem Coherent.start (store : Store) (now : Time) : Coherent (.start store now) := by
  refine ⟨fun _ => rfl, fun token member => List.mem_map_of_mem member, fun lookup entry hit => ?_⟩
  obtain ⟨present, -⟩ := AuthLookup.cached_hit.mp hit
  cases lookup <;> cases present

/-! ## The agreement -/

/-- **The cached authorization agrees with the direct one** along every run of hellos, handshakes,
streams and successful administrative requests in which no hello enrols a client for a device that the
cache still answers for. -/
theorem cached_authorization_agrees {store : Store} {now : Time} {s : Server}
    (reached : Server.Runs (fun s request => Successful s request ∧ Unshadowed s request)
      (.start store now) s) : s.Agrees := by
  have coherent : Coherent s := by
    refine reached.invariant Coherent (.start store now) ?_
    intro s s' request coherent permitted served
    exact coherent.serve permitted served
  exact coherent.agrees

/-- The clock stands still during a handshake. -/
def still : Ticks := fun _ _ => 0

/-- A second token is created; the client of the first one opens a data channel; the first token is
deleted, and the agent says hello with the second one, for the device it always had. -/
def reEnrolment (pause : ℕ) : List Request :=
  [.admin .smooth (.tokenCreate "token-2" "spare" "spare-secret"),
    .data still Auth.officeToken "device-1",
    .admin .smooth (.tokenDelete "token-1"),
    .wait pause,
    .hello "client-2" "token-2" ⟨"gateway", "device-1", "192.0.2.1", "linux", "1.0"⟩]

/-- The deleted client's entry still answers for the device: the new client, which the database
admits, is turned away. -/
theorem deleted_client_shadows_new_one :
    ∃ s, Server.Runs Successful (.start Auth.office 0) s ∧ ¬ s.Agrees := by
  have found : ∃ s, Server.Runs Successful (.start Auth.office 0) s ∧
      (((authenticateDataClient still s.auth "token-2.spare-secret" "device-1").any
        fun outcome => outcome.2.toOption = none) = true ∧
      (authenticateDirectly s.auth.store "token-2.spare-secret" "device-1" s.auth.now).toOption =
        some "client-2") := by
    refine Server.exists_runs_of_serveAll (reEnrolment 0) ?_
    decide +kernel
  obtain ⟨s, reached, refused, admitted⟩ := found
  refine ⟨s, reached, fun agrees => ?_⟩
  obtain ⟨auth, result, ended, same⟩ := agrees.1 still "token-2.spare-secret" "device-1"
  rw [ended, Option.any_some, decide_eq_true_iff] at refused
  have admitted' : authenticateDirectly s.auth.store "token-2.spare-secret" "device-1" s.auth.now =
      .ok "client-2" := by
    cases direct : authenticateDirectly s.auth.store "token-2.spare-secret" "device-1" s.auth.now with
    | error message => simp [direct, Except.toOption] at admitted
    | ok clientID => simpa [direct, Except.toOption] using admitted
  rw [(same "client-2").mpr admitted'] at refused
  cases refused

/-- The agent waits until the entry has expired before it says hello, and is let in as the new
client. -/
theorem cached_authorization_agrees_after_expiry :
    ∃ s, Server.Runs (fun s request => Successful s request ∧ Unshadowed s request)
        (.start Auth.office 0) s ∧
      (authenticateDirectly s.auth.store "token-2.spare-secret" "device-1" s.auth.now).toOption =
        some "client-2" ∧ s.Agrees := by
  have found : ∃ s, Server.Runs (fun s request => Successful s request ∧ Unshadowed s request)
        (.start Auth.office 0) s ∧
      (authenticateDirectly s.auth.store "token-2.spare-secret" "device-1" s.auth.now).toOption =
        some "client-2" := by
    refine Server.exists_runs_of_serveAll (reEnrolment (relayAuthCacheTTL + 1)) ?_
    decide +kernel
  obtain ⟨s, reached, admitted⟩ := found
  exact ⟨s, reached, admitted, cached_authorization_agrees reached⟩

end NryNet.Api
