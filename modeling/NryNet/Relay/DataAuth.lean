import NryNet.Authority
import NryNet.Relay.AuthCache

/-!
# Authorization of the data path (`server/relay/data_auth.go`, `broker.go`)

`authenticateDataClient` and the head of `claimAuthenticatedPending` decide whether a data channel
may serve a client.  Both ask the cache for two records and compare them.  Here they run with
nothing else in flight: each lookup is taken from its first step to its last by the step function of
`AuthLookup`, and before every step the clock may move, so that an entry may expire anywhere.

A lookup on its own never waits: no load is announced when it begins (`Idle`), so it becomes the
owner, and six steps bring it to its end.  What its answer is worth depends on what the entries of
the cache are worth.  `Warrant` is that, as a relation between an answer and the authority of the
database; it has to hold of whatever a query answers, and then a lookup in a cache whose hits are all
warranted leaves such a cache behind and returns a warranted answer (`AuthLookup.call_spec`).

`authenticateDirectly` and `authorizeStreamDirectly` are the same checks against the database alone.
-/

namespace NryNet.Relay

/-- The clock moves. -/
def AuthState.advance (s : AuthState) (elapsed : ℕ) : AuthState :=
  { s with now := s.now + elapsed }

/-- No load is announced. -/
def AuthState.Idle (s : AuthState) : Prop := ∀ key, s.cache.loading.lookup key = none

/-- How far the clock moves before the steps of a lookup; the number is that of the steps that may
still follow. -/
abbrev Ticks := AuthLookup → ℕ → ℕ

/-- The failure a lookup ends with. -/
def LookupPC.failed : LookupPC → Option String
  | .finish _ (.error message) => some message
  | .done (.error message) => some message
  | _ => none

/-- An upper bound of the steps to the end, for a lookup that does not wait. -/
def LookupPC.remaining : LookupPC → ℕ
  | .probe => 6
  | .begin => 5
  | .query _ => 4
  | .touch _ _ => 3
  | .save _ _ => 2
  | .finish _ _ => 1
  | _ => 0

namespace AuthLookup

/-- A lookup from one of its program points to its end, with nothing else in flight. -/
def callFrom (lookup : AuthLookup) (ticks : Ticks) :
    ℕ → AuthState → LookupPC → Option (AuthState × Except String RelayTokenEntry)
  | _, s, .done result => some (s, result)
  | 0, _, _ => none
  | fuel + 1, s, pc =>
      (lookup.step (s.advance (ticks lookup fuel)) pc .proceed).bind fun outcome =>
        lookup.callFrom ticks fuel outcome.1 outcome.2

/-- `authenticate`, `clientByDevice` or `tokenByID`, called with nothing else in flight. -/
def call (lookup : AuthLookup) (ticks : Ticks) (s : AuthState) :
    Option (AuthState × Except String RelayTokenEntry) :=
  lookup.callFrom ticks LookupPC.probe.remaining s .probe

end AuthLookup

/-! ## The two checks -/

/-- The error of a handshake whose records do not fit together. -/
def errNotAuthorized : String := "client is not authorized"

/-- The error of a stream that leaves out what it is for. -/
def errStreamFields : String := "token_id, device_id and request_id are required"

/-- The last check of `authenticateDataClient`. -/
def checkDataClient (client : Client) (token : Token) : Except String String :=
  if client.disabled ∨ client.tokenID ≠ token.id then .error errNotAuthorized else .ok client.id

/-- The last check of `claimAuthenticatedPending` before the claim. -/
def checkStream (tokenID : String) (client : Client) (token : Token) : Except String String :=
  if client.disabled ∨ token.disabled ∨ client.tokenID ≠ tokenID then .error errNotAuthorized
  else .ok client.id

/-- Two lookups in a row and a check of what they found; the first failure ends the chain. -/
def lookUpBoth (ticks : Ticks) (s : AuthState) (first second : AuthLookup)
    (check : RelayTokenEntry → RelayTokenEntry → Except String String) :
    Option (AuthState × Except String String) :=
  (first.call ticks s).bind fun outcome =>
    match outcome.2 with
    | .error message => some (outcome.1, .error message)
    | .ok found =>
        (second.call ticks outcome.1).map fun outcome' =>
          (outcome'.1, match outcome'.2 with
            | .error message => .error message
            | .ok found' => check found found')

/-- `authenticateDataClient`, up to the generation it captures: the client that is let in. -/
def authenticateDataClient (ticks : Ticks) (s : AuthState) (tokenValue deviceID : String) :
    Option (AuthState × Except String String) :=
  lookUpBoth ticks s (.clientByDevice deviceID) (.authenticate tokenValue) fun client token =>
    checkDataClient client.client token.token

/-- `claimAuthenticatedPending`, up to the claim: the client that is let in. -/
def authorizeStream (ticks : Ticks) (s : AuthState) (tokenID deviceID requestID : String) :
    Option (AuthState × Except String String) :=
  if tokenID = "" ∨ deviceID = "" ∨ requestID = "" then some (s, .error errStreamFields)
  else
    lookUpBoth ticks s (.clientByDevice deviceID) (.tokenByID tokenID) fun client token =>
      checkStream tokenID client.client token.token

/-- The check of `authenticateDataClient` with `GetClientByDevice` and `AuthenticateAgent`. -/
def authenticateDirectly (s : Store) (tokenValue deviceID : String) (now : Time) :
    Except String String :=
  match s.getClientByDevice deviceID with
  | .error message => .error message
  | .ok client =>
      match Auth.authenticateAgent s tokenValue now with
      | .error message => .error message
      | .ok token => checkDataClient client token

/-- The check of `claimAuthenticatedPending` with `GetClientByDevice` and `GetToken`. -/
def authorizeStreamDirectly (s : Store) (tokenID deviceID requestID : String) :
    Except String String :=
  if tokenID = "" ∨ deviceID = "" ∨ requestID = "" then .error errStreamFields
  else
    match s.getClientByDevice deviceID with
    | .error message => .error message
    | .ok client =>
        match s.getToken tokenID with
        | .error message => .error message
        | .ok token => checkStream tokenID client token

/-! ## The direct checks decide the authority's relations -/

section Direct

variable {s : Store} {tokenValue tokenID deviceID requestID clientID : String} {now : Time}

theorem checkDataClient_ok {client : Client} {token : Token} :
    checkDataClient client token = .ok clientID ↔
      client.disabled = false ∧ client.tokenID = token.id ∧ client.id = clientID := by
  unfold checkDataClient
  split
  · rename_i refused
    simp only [reduceCtorEq, false_iff, not_and]
    intro enabled own
    rcases refused with disabled | foreign
    · rw [enabled] at disabled
      exact absurd disabled Bool.false_ne_true
    · exact absurd own foreign
  · rename_i admitted
    simp only [not_or, not_not, Bool.not_eq_true] at admitted
    simp [admitted]

theorem checkStream_ok {client : Client} {token : Token} :
    checkStream tokenID client token = .ok clientID ↔
      client.disabled = false ∧ token.disabled = false ∧ client.tokenID = tokenID ∧
        client.id = clientID := by
  unfold checkStream
  split
  · rename_i refused
    simp only [reduceCtorEq, false_iff, not_and]
    intro enabled valid own
    rcases refused with disabled | disabled | foreign
    · rw [enabled] at disabled
      exact absurd disabled Bool.false_ne_true
    · rw [valid] at disabled
      exact absurd disabled Bool.false_ne_true
    · exact absurd own foreign
  · rename_i admitted
    simp only [not_or, not_not, Bool.not_eq_true] at admitted
    simp [admitted]

/-- The check against the database decides `Admits`. -/
theorem authenticateDirectly_ok : authenticateDirectly s tokenValue deviceID now = .ok clientID ↔
    s.authority.Admits tokenValue deviceID clientID := by
  unfold authenticateDirectly
  cases found : s.getClientByDevice deviceID with
  | error message =>
      have unused := Store.getClientByDevice_error found
      simp only [reduceCtorEq, false_iff]
      rintro ⟨grant, member, device, -⟩
      exact unused grant member device
  | ok client =>
      obtain ⟨member, device⟩ := Store.getClientByDevice_ok found
      -- The device has one row, so the row that was read is the one an admission speaks about.
      have only : ∀ grant ∈ s.authority.clients, grant.deviceID = deviceID → grant = client.grant :=
        fun grant present same => Store.grant_unique present member (same.trans device.symm)
      cases accepted : Auth.authenticateAgent s tokenValue now with
      | error message =>
          simp only [reduceCtorEq, false_iff]
          rintro ⟨grant, -, -, -, -, accepts⟩
          exact Store.authenticateAgent_rejects accepted accepts
      | ok token =>
          have accepts := Store.authenticateAgent_accepts accepted
          simp only [checkDataClient_ok]
          constructor
          · rintro ⟨enabled, own, rfl⟩
            exact ⟨client.grant, member, device, enabled, rfl, by rw [← own] at accepts; exact accepts⟩
          · rintro ⟨grant, present, same, enabled, rfl, accepts'⟩
            obtain rfl := only grant present same
            exact ⟨enabled, accepts'.tokenID_eq accepts, rfl⟩

/-- The check against the database decides `AdmitsStream`. -/
theorem authorizeStreamDirectly_ok :
    authorizeStreamDirectly s tokenID deviceID requestID = .ok clientID ↔
      ¬ (tokenID = "" ∨ deviceID = "" ∨ requestID = "") ∧
        s.authority.AdmitsStream tokenID deviceID clientID := by
  unfold authorizeStreamDirectly
  split
  · rename_i missing
    simp [missing]
  · rename_i complete
    simp only [complete, not_false_eq_true, true_and]
    cases found : s.getClientByDevice deviceID with
    | error message =>
        have unused := Store.getClientByDevice_error found
        simp only [reduceCtorEq, false_iff]
        rintro ⟨grant, member, device, -⟩
        exact unused grant member device
    | ok client =>
        obtain ⟨member, device⟩ := Store.getClientByDevice_ok found
        have only : ∀ grant ∈ s.authority.clients, grant.deviceID = deviceID →
            grant = client.grant :=
          fun grant present same => Store.grant_unique present member (same.trans device.symm)
        cases read : s.getToken tokenID with
        | error message =>
            have unknown := Store.getToken_error read
            simp only [reduceCtorEq, false_iff]
            rintro ⟨grant, -, -, -, -, -, enabled⟩
            exact enabled.not_unknown unknown
        | ok token =>
            obtain ⟨stored, kept, same, flag⟩ := Store.getToken_ok read
            simp only [checkStream_ok]
            constructor
            · rintro ⟨enabled, valid, own, rfl⟩
              exact ⟨client.grant, member, device, enabled, rfl, own, stored, kept, same,
                flag.trans valid⟩
            · rintro ⟨grant, present, same', enabled, rfl, own, other, kept', named, valid⟩
              obtain rfl := only grant present same'
              obtain rfl := Store.token_unique kept kept' (same.trans named.symm)
              exact ⟨enabled, flag.symm.trans valid, own, rfl⟩

end Direct

/-! ## A lookup on its own comes to its end -/

namespace AuthLookup

variable {lookup : AuthLookup} {s s' : AuthState} {pc pc' : LookupPC} {ticks : Ticks}
variable {c : RelayAuthCache} {now : Time} {held : RelayTokenEntry}

@[simp] theorem loading_cached : (lookup.cached c now).1.loading = c.loading := by
  cases lookup <;> rfl

@[simp] theorem loading_save : (lookup.save c held now).loading = c.loading := by
  cases lookup <;> rfl

/-- The lookup's load, and no other, is announced. -/
def Announced (lookup : AuthLookup) (s : AuthState) (load : ℕ) : Prop :=
  ∀ key, s.cache.loading.lookup key = if key = lookup.key then some load else none

/-- The only load that is announced is the lookup's own, from `beginLoad` to `finishLoad`. -/
def Alone (lookup : AuthLookup) (s : AuthState) : LookupPC → Prop
  | .probe => s.Idle
  | .begin => s.Idle
  | .done _ => s.Idle
  | .await _ => False
  | .reprobe _ => False
  | .query load => lookup.Announced s load
  | .touch load _ => lookup.Announced s load
  | .save load _ => lookup.Announced s load
  | .finish load _ => lookup.Announced s load

/-- With nothing announced, `beginLoad` makes the caller the owner. -/
theorem beginLoad_idle (idle : s.Idle) :
    s.cache.beginLoad lookup.key =
      ({ s.cache with
          loading := s.cache.loading.insert lookup.key s.cache.loads.length
          loads := s.cache.loads ++ [⟨0⟩] },
        s.cache.loads.length, true) := by
  unfold RelayAuthCache.beginLoad
  rw [idle lookup.key]

/-- A lookup on its own can always take its next step, and gets closer to its end. -/
theorem step_alone (alone : lookup.Alone s pc) (unfinished : pc.remaining ≠ 0) :
    ∃ s' pc', lookup.step s pc .proceed = some (s', pc') ∧ lookup.Alone s' pc' ∧
      pc'.remaining < pc.remaining := by
  cases pc with
  | probe =>
      refine ⟨_, _, rfl, ?_⟩
      cases (lookup.cached s.cache s.now).2 with
      | none => exact ⟨fun key => by rw [loading_cached]; exact alone key, by simp [LookupPC.remaining]⟩
      | some entry => exact ⟨fun key => by rw [loading_cached]; exact alone key, by simp [LookupPC.remaining]⟩
  | begin =>
      refine ⟨_, _, rfl, ?_⟩
      simp only [beginLoad_idle alone, if_true]
      refine ⟨fun key => ?_, by simp [LookupPC.remaining]⟩
      rw [GoMap.lookup_insert_if, alone key]
  | query load =>
      unfold step
      cases lookup.query s with
      | error message => exact ⟨_, _, rfl, alone, by simp [LookupPC.remaining]⟩
      | ok entry =>
          cases lookup with
          | authenticate value => exact ⟨_, _, rfl, alone, by simp [LookupPC.remaining]⟩
          | clientByDevice deviceID => exact ⟨_, _, rfl, alone, by simp [LookupPC.remaining]⟩
          | tokenByID tokenID => exact ⟨_, _, rfl, alone, by simp [LookupPC.remaining]⟩
  | touch load entry => exact ⟨_, _, rfl, alone, by simp [LookupPC.remaining]⟩
  | save load entry =>
      exact ⟨_, _, rfl, fun key => by rw [loading_save]; exact alone key, by simp [LookupPC.remaining]⟩
  | finish load result =>
      refine ⟨_, _, rfl, fun key => ?_, by simp [LookupPC.remaining]⟩
      have own : s.cache.loading.lookup lookup.key = some load := by
        rw [alone lookup.key, if_pos rfl]
      unfold RelayAuthCache.finishLoad
      rw [if_pos own, GoMap.lookup_erase_if, alone key]
      split <;> rfl
  | await load => exact absurd rfl unfinished
  | reprobe load => exact absurd rfl unfinished
  | done result => exact absurd rfl unfinished

/-- **The rule for a lookup on its own.**  What survives the clock and every step holds when the
lookup returns, and it does return. -/
theorem callFrom_rule (property : AuthState → LookupPC → Prop)
    (advances : ∀ s pc elapsed, property s pc → property (s.advance elapsed) pc)
    (steps : ∀ s pc s' pc', property s pc → lookup.step s pc .proceed = some (s', pc') →
      property s' pc') :
    ∀ fuel s pc, pc.remaining ≤ fuel → lookup.Alone s pc → property s pc →
      ∃ s' result, lookup.callFrom ticks fuel s pc = some (s', result) ∧ s'.Idle ∧
        property s' (.done result) := by
  intro fuel
  induction fuel with
  | zero =>
      intro s pc bound alone holds
      cases pc with
      | done result => exact ⟨s, result, rfl, alone, holds⟩
      | await load => exact absurd alone id
      | reprobe load => exact absurd alone id
      | probe => exact absurd bound (by decide)
      | begin => exact absurd bound (by decide)
      | query load => exact absurd bound (Nat.not_succ_le_zero 3)
      | touch load entry => exact absurd bound (Nat.not_succ_le_zero 2)
      | save load entry => exact absurd bound (Nat.not_succ_le_zero 1)
      | finish load result => exact absurd bound (Nat.not_succ_le_zero 0)
  | succ fuel hypothesis =>
      intro s pc bound alone holds
      by_cases finished : ∃ result, pc = .done result
      · obtain ⟨result, rfl⟩ := finished
        exact ⟨s, result, rfl, alone, holds⟩
      · have unfinished : pc.remaining ≠ 0 := by
          cases pc with
          | await load => exact absurd alone id
          | reprobe load => exact absurd alone id
          | done result => exact absurd ⟨result, rfl⟩ finished
          | _ => exact Nat.succ_ne_zero _
        have waited : lookup.Alone (s.advance (ticks lookup fuel)) pc := by
          cases pc <;> exact alone
        obtain ⟨s', pc', stepped, alone', closer⟩ := step_alone waited unfinished
        have holds' := steps _ _ _ _ (advances s pc _ holds) stepped
        obtain ⟨s'', result, ended, idle, final⟩ :=
          hypothesis s' pc' (Nat.le_of_lt_succ (Nat.lt_of_lt_of_le closer bound)) alone' holds'
        refine ⟨s'', result, ?_, idle, final⟩
        rw [← ended]
        cases pc with
        | done result => exact absurd ⟨result, rfl⟩ finished
        | _ => simp only [callFrom, stepped, Option.bind_some]

end AuthLookup

/-! ## What its answer is worth -/

/-- What an answer is worth, given the authority of the database.  It speaks about the answer alone,
and whatever a query answers has it. -/
structure Warrant where
  holds : Authority → AuthLookup → RelayTokenEntry → Prop
  answer : ∀ {a : Authority} {lookup : AuthLookup} {entry other : RelayTokenEntry},
    lookup.answer entry = lookup.answer other → holds a lookup entry → holds a lookup other
  query : ∀ {lookup : AuthLookup} {s : AuthState} {entry : RelayTokenEntry},
    lookup.query s = .ok entry → holds s.store.authority lookup entry

/-- Every hit of the cache is warranted. -/
def Warrant.Sound (warrant : Warrant) (s : AuthState) : Prop :=
  ∀ (lookup : AuthLookup) (entry : RelayTokenEntry),
    (lookup.cached s.cache s.now).2 = some entry → warrant.holds s.store.authority lookup entry

/-- The database answers the lookup with this. -/
def AuthLookup.Confirmed (a : Authority) (entry : RelayTokenEntry) : AuthLookup → Prop
  | .authenticate value => a.Accepts value entry.token.id
  | .clientByDevice deviceID =>
      entry.client.grant ∈ a.clients ∧ entry.client.deviceID = deviceID
  | .tokenByID tokenID =>
      ∃ token ∈ a.tokens, token.id = tokenID ∧ token.disabled = entry.token.disabled

/-- The database has nothing to answer the lookup with. -/
def AuthLookup.Denied (a : Authority) : AuthLookup → Prop
  | .authenticate value => ∀ tokenID, ¬ a.Accepts value tokenID
  | .clientByDevice deviceID => a.Unused deviceID
  | .tokenByID tokenID => a.Unknown tokenID

namespace AuthLookup

variable {lookup : AuthLookup} {s s' : AuthState} {pc pc' : LookupPC} {message : String}

theorem denied_of_query (failed : lookup.query s = .error message) :
    lookup.Denied s.store.authority := by
  cases lookup with
  | authenticate value =>
      intro tokenID
      unfold query at failed
      cases read : Auth.authenticateAgent s.store value s.now with
      | error message => exact Store.authenticateAgent_rejects read
      | ok token => simp [read, Except.map] at failed
  | clientByDevice deviceID =>
      unfold query at failed
      cases read : s.store.getClientByDevice deviceID with
      | error message => exact Store.getClientByDevice_error read
      | ok client => simp [read, Except.map] at failed
  | tokenByID tokenID =>
      unfold query at failed
      cases read : s.store.getToken tokenID with
      | error message => exact Store.getToken_error read
      | ok token => simp [read, Except.map] at failed

theorem confirmed_of_query {entry : RelayTokenEntry} (read : lookup.query s = .ok entry) :
    lookup.Confirmed s.store.authority entry := by
  cases lookup with
  | authenticate value =>
      unfold query at read
      cases accepted : Auth.authenticateAgent s.store value s.now with
      | error message => simp [accepted, Except.map] at read
      | ok token =>
          simp only [accepted, Except.map, Except.ok.injEq] at read
          subst read
          exact Store.authenticateAgent_accepts accepted
  | clientByDevice deviceID =>
      unfold query at read
      cases found : s.store.getClientByDevice deviceID with
      | error message => simp [found, Except.map] at read
      | ok client =>
          simp only [found, Except.map, Except.ok.injEq] at read
          subst read
          exact Store.getClientByDevice_ok found
  | tokenByID tokenID =>
      unfold query at read
      cases found : s.store.getToken tokenID with
      | error message => simp [found, Except.map] at read
      | ok token =>
          simp only [found, Except.map, Except.ok.injEq] at read
          subst read
          exact Store.getToken_ok found

/-- A lookup that meets no failure of the environment fails because its query does. -/
theorem step_failed (stepped : lookup.step s pc .proceed = some (s', pc'))
    (failed : pc'.failed = some message) :
    pc.failed = some message ∨ ∃ message', lookup.query s = .error message' := by
  cases pc with
  | probe =>
      simp only [step, Option.some.injEq, Prod.mk.injEq] at stepped
      obtain ⟨-, rfl⟩ := stepped
      split at failed <;> simp [LookupPC.failed] at failed
  | begin =>
      simp only [step, Option.some.injEq, Prod.mk.injEq] at stepped
      obtain ⟨-, rfl⟩ := stepped
      split at failed <;> simp [LookupPC.failed] at failed
  | await load =>
      simp only [step] at stepped
      split at stepped
      · obtain ⟨-, rfl⟩ := Prod.mk.inj (Option.some.inj stepped)
        simp [LookupPC.failed] at failed
      · cases stepped
  | reprobe load =>
      simp only [step, Option.some.injEq, Prod.mk.injEq] at stepped
      obtain ⟨-, rfl⟩ := stepped
      split at failed <;> simp [LookupPC.failed] at failed
  | query load =>
      cases read : lookup.query s with
      | error message' => exact Or.inr ⟨message', rfl⟩
      | ok entry =>
          simp only [step, read] at stepped
          split at stepped <;> obtain ⟨-, rfl⟩ := Prod.mk.inj (Option.some.inj stepped) <;>
            simp [LookupPC.failed] at failed
  | touch load entry =>
      obtain ⟨-, rfl⟩ := Prod.mk.inj (Option.some.inj stepped)
      simp [LookupPC.failed] at failed
  | save load entry =>
      obtain ⟨-, rfl⟩ := Prod.mk.inj (Option.some.inj stepped)
      simp [LookupPC.failed] at failed
  | finish load result =>
      obtain ⟨-, rfl⟩ := Prod.mk.inj (Option.some.inj stepped)
      cases result with
      | error message' => exact Or.inl failed
      | ok entry => simp [LookupPC.failed] at failed
  | done result => simp [step] at stepped

/-- What holds at every point of a lookup that runs on its own over a database with authority
`a`. -/
structure Warranted (warrant : Warrant) (a : Authority) (since : Time) (lookup : AuthLookup)
    (s : AuthState) (pc : LookupPC) : Prop where
  authority : s.store.authority = a
  elapsed : since ≤ s.now
  sound : warrant.Sound s
  held : ∀ entry, pc.held = some entry → warrant.holds a lookup entry
  failed : ∀ message, pc.failed = some message → lookup.Denied a

variable {warrant : Warrant} {a : Authority} {since : Time}

/-- Time only takes hits away. -/
theorem Sound.advance {elapsed : ℕ} (sound : warrant.Sound s) :
    warrant.Sound (s.advance elapsed) := by
  intro lookup entry hit
  obtain ⟨present, alive, verified, enabled⟩ := cached_hit.mp hit
  refine sound lookup entry (cached_hit.mpr ⟨present, ?_, verified, enabled⟩)
  exact Nat.le_trans (Nat.le_add_right s.now elapsed) alive

theorem Warranted.step (before : Warranted warrant a since lookup s pc)
    (stepped : lookup.step s pc .proceed = some (s', pc')) :
    Warranted warrant a since lookup s' pc' := by
  obtain ⟨clock, -, written⟩ := step_store stepped
  have authority : s'.store.authority = a := by
    rcases written with same | ⟨id, time, same⟩
    · rw [same, before.authority]
    · rw [same, Store.touchToken_authority, before.authority]
  refine ⟨authority, clock ▸ before.elapsed, ?_, ?_, ?_⟩
  · -- A hit afterwards is a hit from before, or the answer in hand that has just been saved.
    intro other entry hit
    rw [authority]
    obtain ⟨present, alive, verified, enabled⟩ := cached_hit.mp hit
    rcases step_entry stepped present with old | ⟨load, answer, rfl, rfl, rfl⟩
    · have hit' := cached_hit.mpr ⟨old, clock ▸ alive, verified, enabled⟩
      exact before.authority ▸ before.sound other entry hit'
    · exact warrant.answer answer_saved.symm (before.held answer rfl)
  · intro entry held
    rcases step_held stepped held with same | ⟨-, hit⟩ | ⟨-, read⟩
    · exact before.held entry same
    · exact before.authority ▸ before.sound lookup entry hit
    · exact before.authority ▸ warrant.query read
  · intro message failed
    rcases step_failed stepped failed with same | ⟨message', read⟩
    · exact before.failed message same
    · exact before.authority ▸ denied_of_query read

end AuthLookup

/-- A state of the cache and the database between two calls: nothing is announced, and every hit is
warranted. -/
structure Warrant.Calm (warrant : Warrant) (a : Authority) (since : Time) (s : AuthState) :
    Prop where
  idle : s.Idle
  authority : s.store.authority = a
  elapsed : since ≤ s.now
  sound : warrant.Sound s

namespace AuthLookup

variable {s : AuthState} {warrant : Warrant} {a : Authority} {since : Time}

/-- **What a lookup on its own returns.**  It returns; the authority is what it was; and the answer
is warranted, or the database has none. -/
theorem call_spec (lookup : AuthLookup) (ticks : Ticks) (calm : warrant.Calm a since s) :
    ∃ s' result, lookup.call ticks s = some (s', result) ∧ warrant.Calm a since s' ∧
      (∀ entry, result = .ok entry → warrant.holds a lookup entry) ∧
      ∀ message, result = .error message → lookup.Denied a := by
  have start : Warranted warrant a since lookup s .probe :=
    ⟨calm.authority, calm.elapsed, calm.sound, nofun, nofun⟩
  obtain ⟨s', result, ended, idle, final⟩ :=
    callFrom_rule (Warranted warrant a since lookup)
      (fun s pc elapsed before =>
        ⟨before.authority, Nat.le_trans before.elapsed (Nat.le_add_right _ _),
          Sound.advance before.sound, before.held, before.failed⟩)
      (fun s pc s' pc' before stepped => before.step stepped)
      LookupPC.probe.remaining s .probe (Nat.le_refl _) calm.idle start
  refine ⟨s', result, ended, ⟨idle, final.authority, final.elapsed, final.sound⟩, ?_, ?_⟩
  · rintro entry rfl
    exact final.held entry rfl
  · rintro message rfl
    exact final.failed message rfl

end AuthLookup

/-- What two lookups in a row end with: one of them finds nothing, or the check decides. -/
theorem lookUpBoth_spec {warrant : Warrant} {a : Authority} {since : Time} {s : AuthState}
    {first second : AuthLookup} {check : RelayTokenEntry → RelayTokenEntry → Except String String}
    (ticks : Ticks) (calm : warrant.Calm a since s) :
    ∃ s' result, lookUpBoth ticks s first second check = some (s', result) ∧
      warrant.Calm a since s' ∧
      ((∃ message, result = .error message ∧ first.Denied a) ∨
        ∃ found, warrant.holds a first found ∧
          ((∃ message, result = .error message ∧ second.Denied a) ∨
            ∃ found', warrant.holds a second found' ∧ result = check found found')) := by
  unfold lookUpBoth
  obtain ⟨s₁, outcome, called, calm₁, found, denied⟩ :=
    first.call_spec ticks calm
  rw [called, Option.bind_some]
  cases outcome with
  | error message => exact ⟨s₁, _, rfl, calm₁, Or.inl ⟨message, rfl, denied message rfl⟩⟩
  | ok entry =>
      obtain ⟨s₂, outcome', called', calm₂, found', denied'⟩ :=
        second.call_spec ticks calm₁
      refine ⟨s₂, _, by simp only [called', Option.map_some]; rfl, calm₂, Or.inr ?_⟩
      refine ⟨entry, found entry rfl, ?_⟩
      cases outcome' with
      | error message => exact Or.inl ⟨message, rfl, denied' message rfl⟩
      | ok entry' => exact Or.inr ⟨entry', found' entry' rfl, rfl⟩

section Checks

variable {warrant : Warrant} {a : Authority} {since : Time} {s : AuthState}

/-- What `authenticateDataClient` ends with. -/
theorem authenticateDataClient_spec (ticks : Ticks) (tokenValue deviceID : String)
    (calm : warrant.Calm a since s) :
    ∃ s' result, authenticateDataClient ticks s tokenValue deviceID = some (s', result) ∧
      warrant.Calm a since s' ∧
      ((∃ message, result = .error message ∧ a.Unused deviceID) ∨
        ∃ client, warrant.holds a (.clientByDevice deviceID) client ∧
          ((∃ message, result = .error message ∧ ∀ tokenID, ¬ a.Accepts tokenValue tokenID) ∨
            ∃ token, warrant.holds a (.authenticate tokenValue) token ∧
              result = checkDataClient client.client token.token)) :=
  lookUpBoth_spec ticks calm

/-- What the head of `claimAuthenticatedPending` ends with. -/
theorem authorizeStream_spec (ticks : Ticks) (tokenID deviceID requestID : String)
    (calm : warrant.Calm a since s) :
    ∃ s' result, authorizeStream ticks s tokenID deviceID requestID = some (s', result) ∧
      warrant.Calm a since s' ∧
      (((tokenID = "" ∨ deviceID = "" ∨ requestID = "") ∧ result = .error errStreamFields) ∨
        (¬ (tokenID = "" ∨ deviceID = "" ∨ requestID = "") ∧
          ((∃ message, result = .error message ∧ a.Unused deviceID) ∨
            ∃ client, warrant.holds a (.clientByDevice deviceID) client ∧
              ((∃ message, result = .error message ∧ a.Unknown tokenID) ∨
                ∃ token, warrant.holds a (.tokenByID tokenID) token ∧
                  result = checkStream tokenID client.client token.token)))) := by
  unfold authorizeStream
  by_cases missing : tokenID = "" ∨ deviceID = "" ∨ requestID = ""
  · rw [if_pos missing]
    exact ⟨s, _, rfl, calm, Or.inl ⟨missing, rfl⟩⟩
  · rw [if_neg missing]
    obtain ⟨s', result, ended, calm', decided⟩ := lookUpBoth_spec ticks calm
    exact ⟨s', result, ended, calm', Or.inr ⟨missing, decided⟩⟩

end Checks

/-! ## Hits after an invalidation -/

namespace AuthLookup

variable {lookup : AuthLookup} {c : RelayAuthCache} {now : Time} {found : RelayTokenEntry}

theorem no_hit_invalidateAll : (lookup.cached c.invalidateAll now).2 ≠ some found := by
  intro hit
  obtain ⟨present, -⟩ := cached_hit.mp hit
  rw [entry_invalidateAll] at present
  cases present

/-- What `invalidateToken` leaves was there before, and is not the token's. -/
theorem hit_invalidateToken {tokenID : String} :
    (lookup.cached (c.invalidateToken tokenID) now).2 = some found →
    (lookup.cached c now).2 = some found ∧
      match lookup with
      | .authenticate _ => found.token.id ≠ tokenID
      | .clientByDevice _ => True
      | .tokenByID id => id ≠ tokenID := by
  intro hit
  obtain ⟨present, rest⟩ := cached_hit.mp hit
  obtain ⟨old, other⟩ := entry_invalidateToken.mp present
  exact ⟨cached_hit.mpr ⟨old, rest⟩, other⟩

end AuthLookup

end NryNet.Relay
