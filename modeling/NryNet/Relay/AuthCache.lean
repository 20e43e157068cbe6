import NryNet.Auth
import NryNet.Lib.GoMap

/-!
# The relay's authorization cache (`server/relay/auth_cache.go`)

Data handshakes repeat for every visitor, so `relayAuthCache` remembers, for five seconds, what
`AuthenticateAgent`, `GetClientByDevice` and `GetToken` answered.  The three lookups have one
shape: probe the map; become the owner of a load or wait for the load that is under way and probe
again; read the store without holding the lock; save the answer; finish the load.  They differ in
their map, in the query and in the key under which loads are announced, so the shape is written
once, over `AuthLookup`.

A lookup is a program counter, `LookupPC`, and `AuthLookup.step` runs one critical section or one
statement of it.  Between two steps anything may happen to the store and to the maps.

Two ghosts support statements about staleness: `AuthState.version` counts the store's mutations
and `RelayTokenEntry.readAt` is the version at which the entry's data was read.
-/

namespace NryNet.Relay

/-- `relayTokenEntry`, with the store version its data was read at. -/
structure RelayTokenEntry where
  token : Token
  client : Client
  expires : Time
  verified : Bool
  readAt : ℕ
  deriving DecidableEq, Repr

/-- `relayTokenEntry{}`, what reading a missing key of a Go map yields. -/
def RelayTokenEntry.zero : RelayTokenEntry := ⟨Token.zero, Client.zero, 0, false, 0⟩

/-- `relayAuthLoad`: how often its `done` channel has been closed. -/
structure RelayAuthLoad where
  closings : ℕ
  deriving DecidableEq, Repr

/-- `relayAuthCacheTTL`, five seconds. -/
def relayAuthCacheTTL : Time := 5000000000

/-- `relayAuthCache`, with the heap that the pointers in `loading` point into. -/
structure RelayAuthCache where
  ttl : Time
  byToken : GoMap String RelayTokenEntry
  byDevice : GoMap String RelayTokenEntry
  byTokenID : GoMap String RelayTokenEntry
  loading : GoMap String ℕ
  loads : List RelayAuthLoad

namespace RelayAuthCache

/-- `newRelayAuthCache`. -/
def newRelayAuthCache : RelayAuthCache where
  ttl := relayAuthCacheTTL
  byToken := ∅
  byDevice := ∅
  byTokenID := ∅
  loading := ∅
  loads := []

/-- The body of the three `cached…` methods.  An expired entry is dropped; a disabled one stays
but does not count as a hit. -/
def cachedEntry (map : GoMap String RelayTokenEntry) (key : String) (now : Time)
    (disabled : RelayTokenEntry → Bool) : GoMap String RelayTokenEntry × Option RelayTokenEntry :=
  match map.lookup key with
  | none => (map.erase key, none)
  | some entry =>
      if entry.expires < now then (map.erase key, none)
      else (map, if entry.verified && !disabled entry then some entry else none)

/-- `cachedToken`. -/
def cachedToken (c : RelayAuthCache) (value : String) (now : Time) :
    RelayAuthCache × Option RelayTokenEntry :=
  let result := cachedEntry c.byToken value now fun entry => entry.token.disabled
  ({ c with byToken := result.1 }, result.2)

/-- `cachedClient`. -/
def cachedClient (c : RelayAuthCache) (deviceID : String) (now : Time) :
    RelayAuthCache × Option RelayTokenEntry :=
  let result := cachedEntry c.byDevice deviceID now fun entry => entry.client.disabled
  ({ c with byDevice := result.1 }, result.2)

/-- `cachedTokenID`. -/
def cachedTokenID (c : RelayAuthCache) (tokenID : String) (now : Time) :
    RelayAuthCache × Option RelayTokenEntry :=
  let result := cachedEntry c.byTokenID tokenID now fun entry => entry.token.disabled
  ({ c with byTokenID := result.1 }, result.2)

/-- `beginLoad`: the load to wait for or to own, and whether the caller owns it. -/
def beginLoad (c : RelayAuthCache) (key : String) : RelayAuthCache × ℕ × Bool :=
  match c.loading.lookup key with
  | some load => (c, load, false)
  | none =>
      ({ c with
          loading := c.loading.insert key c.loads.length
          loads := c.loads ++ [⟨0⟩] },
        c.loads.length, true)

/-- `finishLoad`: only the load that is still announced under the key is closed. -/
def finishLoad (c : RelayAuthCache) (key : String) (load : ℕ) : RelayAuthCache :=
  if c.loading.lookup key = some load then
    { c with
      loading := c.loading.erase key
      loads := c.loads.modify load fun record => ⟨record.closings + 1⟩ }
  else c

/-- The `done` channel of a load has been closed. -/
def loadDone (c : RelayAuthCache) (load : ℕ) : Bool :=
  (c.loads[load]?).any fun record => 0 < record.closings

/-- The assignment that ends `authenticate`. -/
def saveToken (c : RelayAuthCache) (value : String) (entry : RelayTokenEntry) (now : Time) :
    RelayAuthCache :=
  { c with
    byToken := c.byToken.insert value
      { RelayTokenEntry.zero with
        token := entry.token, expires := now + c.ttl, verified := true, readAt := entry.readAt } }

/-- The assignment that ends `clientByDevice`: the other fields of an old entry are kept. -/
def saveClient (c : RelayAuthCache) (deviceID : String) (entry : RelayTokenEntry) (now : Time) :
    RelayAuthCache :=
  { c with
    byDevice := c.byDevice.insert deviceID
      { (c.byDevice.lookup deviceID).getD .zero with
        client := entry.client, expires := now + c.ttl, verified := true,
        readAt := entry.readAt } }

/-- The assignment that ends `tokenByID`: the other fields of an old entry are kept. -/
def saveTokenID (c : RelayAuthCache) (tokenID : String) (entry : RelayTokenEntry) (now : Time) :
    RelayAuthCache :=
  { c with
    byTokenID := c.byTokenID.insert tokenID
      { (c.byTokenID.lookup tokenID).getD .zero with
        token := entry.token, expires := now + c.ttl, verified := true,
        readAt := entry.readAt } }

/-- `invalidateAll`.  Loads under way are not touched. -/
def invalidateAll (c : RelayAuthCache) : RelayAuthCache :=
  { c with byToken := ∅, byDevice := ∅, byTokenID := ∅ }

/-- `invalidateClient`. -/
def invalidateClient (c : RelayAuthCache) (_clientID : String) : RelayAuthCache :=
  c.invalidateAll

/-- `invalidateToken`: the entries of one token, in the two maps that hold tokens. -/
def invalidateToken (c : RelayAuthCache) (tokenID : String) : RelayAuthCache :=
  { c with
    byToken := c.byToken.deleteWhere fun _ entry => entry.token.id == tokenID
    byTokenID := c.byTokenID.erase tokenID }

/-- `invalidateDevice`. -/
def invalidateDevice (c : RelayAuthCache) (_deviceID : String) : RelayAuthCache :=
  c.invalidateAll

end RelayAuthCache

/-- What a lookup works on: the database, the cache, the clock, and the number of mutations the
database has seen. -/
structure AuthState where
  store : Store
  cache : RelayAuthCache
  now : Time
  version : ℕ

namespace AuthState

/-- A committed mutation of the database. -/
def mutate (s : AuthState) (store : Store) : AuthState :=
  { s with store := store, version := s.version + 1 }

/-- One critical section of the cache. -/
def invalidate (s : AuthState) (clear : RelayAuthCache → RelayAuthCache) : AuthState :=
  { s with cache := clear s.cache }

end AuthState

/-- The three lookups of the cache, with what they are asked for. -/
inductive AuthLookup where
  | authenticate (value : String)
  | clientByDevice (deviceID : String)
  | tokenByID (tokenID : String)
  deriving DecidableEq, Repr

/-- Where a lookup stands.  `load` is the pointer `beginLoad` returned, owned or not. -/
inductive LookupPC where
  /-- before the first `cached…` -/
  | probe
  /-- before `beginLoad` -/
  | begin
  /-- in the `select` on another lookup's load -/
  | await (load : ℕ)
  /-- before the `cached…` after that load -/
  | reprobe (load : ℕ)
  /-- before the query -/
  | query (load : ℕ)
  /-- before the statement that records the use of a token -/
  | touch (load : ℕ) (entry : RelayTokenEntry)
  /-- holding an answer that is not saved yet -/
  | save (load : ℕ) (entry : RelayTokenEntry)
  /-- before the deferred `finishLoad` -/
  | finish (load : ℕ) (result : Except String RelayTokenEntry)
  | done (result : Except String RelayTokenEntry)

/-- What the environment decides in a lookup: whether the query fails, and whether the context is
cancelled while the lookup waits. -/
inductive LookupChoice where
  | proceed
  | fail
  | cancel
  deriving DecidableEq, Repr

/-- Every entry of the three maps has the property, under the lookup that it answers. -/
def RelayAuthCache.All (c : RelayAuthCache) (property : AuthLookup → RelayTokenEntry → Prop) : Prop :=
  (∀ slot ∈ c.byToken.entries, property (.authenticate slot.1) slot.2) ∧
  (∀ slot ∈ c.byDevice.entries, property (.clientByDevice slot.1) slot.2) ∧
  ∀ slot ∈ c.byTokenID.entries, property (.tokenByID slot.1) slot.2

instance (c : RelayAuthCache) (property : AuthLookup → RelayTokenEntry → Prop)
    [∀ lookup entry, Decidable (property lookup entry)] : Decidable (c.All property) :=
  inferInstanceAs (Decidable (_ ∧ _ ∧ _))

namespace AuthLookup

/-- The key under which the loads of a lookup are announced. -/
def key : AuthLookup → String
  | .authenticate value => "token:" ++ value
  | .clientByDevice deviceID => "device:" ++ deviceID
  | .tokenByID tokenID => "token-id:" ++ tokenID

/-- The `cached…` method of the lookup. -/
def cached : AuthLookup → RelayAuthCache → Time → RelayAuthCache × Option RelayTokenEntry
  | .authenticate value, c, now => c.cachedToken value now
  | .clientByDevice deviceID, c, now => c.cachedClient deviceID now
  | .tokenByID tokenID, c, now => c.cachedTokenID tokenID now

/-- The query of the lookup; its answer is marked with the version it was read at. -/
def query : AuthLookup → AuthState → Except String RelayTokenEntry
  | .authenticate value, s =>
      (Auth.authenticateAgent s.store value s.now).map fun token =>
        { RelayTokenEntry.zero with token := token, readAt := s.version }
  | .clientByDevice deviceID, s =>
      (s.store.getClientByDevice deviceID).map fun client =>
        { RelayTokenEntry.zero with client := client, readAt := s.version }
  | .tokenByID tokenID, s =>
      (s.store.getToken tokenID).map fun token =>
        { RelayTokenEntry.zero with token := token, readAt := s.version }

/-- The assignment that ends the lookup. -/
def save : AuthLookup → RelayAuthCache → RelayTokenEntry → Time → RelayAuthCache
  | .authenticate value, c, entry, now => c.saveToken value entry now
  | .clientByDevice deviceID, c, entry, now => c.saveClient deviceID entry now
  | .tokenByID tokenID, c, entry, now => c.saveTokenID tokenID entry now

/-- The error of a query that failed for a reason outside the data. -/
def errQuery : String := "database is unavailable"

/-- The error of a cancelled context. -/
def errCanceled : String := "context canceled"

/-- One step of a lookup.  A waiting lookup is blocked until the load it waits for is done. -/
def step (lookup : AuthLookup) (s : AuthState) : LookupPC → LookupChoice →
    Option (AuthState × LookupPC)
  | .probe, .proceed =>
      let result := lookup.cached s.cache s.now
      some ({ s with cache := result.1 },
        match result.2 with
        | some entry => .done (.ok entry)
        | none => .begin)
  | .begin, .proceed =>
      let result := s.cache.beginLoad lookup.key
      some ({ s with cache := result.1 },
        if result.2.2 then .query result.2.1 else .await result.2.1)
  | .await load, .proceed => if s.cache.loadDone load then some (s, .reprobe load) else none
  | .await _, .cancel => some (s, .done (.error errCanceled))
  | .reprobe load, .proceed =>
      let result := lookup.cached s.cache s.now
      some ({ s with cache := result.1 },
        match result.2 with
        | some entry => .done (.ok entry)
        | none => .query load)
  | .query load, .proceed =>
      match lookup.query s with
      | .error message => some (s, .finish load (.error message))
      | .ok entry =>
          match lookup with
          | .authenticate _ => some (s, .touch load entry)
          | _ => some (s, .save load entry)
  | .query load, .fail => some (s, .finish load (.error errQuery))
  | .touch load entry, .proceed =>
      some ({ s with store := s.store.touchToken entry.token.id (entry.token.lastUsed.getD s.now) },
        .save load entry)
  | .touch load entry, .fail => some (s, .save load entry)
  | .save load entry, .proceed =>
      some ({ s with cache := lookup.save s.cache entry s.now }, .finish load (.ok entry))
  | .finish load result, .proceed =>
      some ({ s with cache := s.cache.finishLoad lookup.key load }, .done result)
  | _, _ => none

/-! ## Specification of the critical sections

`lookup.entry c` is the slot of the cache that belongs to a lookup.  A lookup is determined by its
slot, so what a critical section does to the cache is said by what it does to `other.entry` for
every `other`. -/

/-- The slot of the lookup. -/
def entry : AuthLookup → RelayAuthCache → Option RelayTokenEntry
  | .authenticate value, c => c.byToken.lookup value
  | .clientByDevice deviceID, c => c.byDevice.lookup deviceID
  | .tokenByID tokenID, c => c.byTokenID.lookup tokenID

/-- What makes an unexpired entry a miss. -/
def refuses : AuthLookup → RelayTokenEntry → Bool
  | .clientByDevice _, entry => entry.client.disabled
  | _, entry => entry.token.disabled

/-- What the caller gets out of an entry. -/
def answer : AuthLookup → RelayTokenEntry → Token ⊕ Client
  | .clientByDevice _, entry => .inr entry.client
  | _, entry => .inl entry.token

variable {lookup other : AuthLookup} {c : RelayAuthCache} {now : Time}
variable {found held : RelayTokenEntry}

theorem cachedEntry_snd {map : GoMap String RelayTokenEntry} {key : String}
    {disabled : RelayTokenEntry → Bool} :
    (RelayAuthCache.cachedEntry map key now disabled).2 = some found ↔
      map.lookup key = some found ∧ now ≤ found.expires ∧ found.verified = true ∧
        disabled found = false := by
  unfold RelayAuthCache.cachedEntry
  cases present : map.lookup key with
  | none => simp
  | some entry =>
      by_cases expired : entry.expires < now
      · simp only [if_pos expired, Option.some.injEq, reduceCtorEq, false_iff]
        rintro ⟨rfl, alive, -⟩
        exact Nat.not_le_of_lt expired alive
      · by_cases usable : (entry.verified && !disabled entry) = true
        · simp only [if_neg expired, if_pos usable, Option.some.injEq]
          simp only [Bool.and_eq_true, Bool.not_eq_true'] at usable
          constructor
          · rintro rfl
            exact ⟨rfl, Nat.le_of_not_lt expired, usable⟩
          · rintro ⟨same, -⟩
            exact same
        · simp only [if_neg expired, if_neg usable, Option.some.injEq, reduceCtorEq, false_iff]
          rintro ⟨rfl, -, verified, enabled⟩
          simp [verified, enabled] at usable

theorem cachedEntry_fst {map : GoMap String RelayTokenEntry} {key other : String}
    {disabled : RelayTokenEntry → Bool} :
    (RelayAuthCache.cachedEntry map key now disabled).1.lookup other = some found ↔
      map.lookup other = some found ∧ (other = key → now ≤ found.expires) := by
  unfold RelayAuthCache.cachedEntry
  cases present : map.lookup key with
  | none =>
      simp only [GoMap.lookup_erase_if]
      by_cases same : other = key
      · subst same
        simp [present]
      · simp [same]
  | some entry =>
      by_cases expired : entry.expires < now
      · simp only [if_pos expired, GoMap.lookup_erase_if]
        by_cases same : other = key
        · subst same
          rw [if_pos rfl, present]
          simp only [Option.some.injEq, reduceCtorEq, false_iff]
          rintro ⟨rfl, alive⟩
          exact Nat.not_le_of_lt expired (alive trivial)
        · simp [same]
      · simp only [if_neg expired, iff_self_and]
        rintro kept rfl
        rw [present, Option.some.injEq] at kept
        exact kept ▸ Nat.le_of_not_lt expired

/-- A hit is an unexpired, verified and enabled entry in the lookup's own slot. -/
theorem cached_hit : (lookup.cached c now).2 = some found ↔
    lookup.entry c = some found ∧ now ≤ found.expires ∧ found.verified = true ∧
      lookup.refuses found = false := by
  cases lookup <;> exact cachedEntry_snd

/-- Probing only ever drops an expired entry, and only from its own slot. -/
theorem entry_cached : other.entry (lookup.cached c now).1 = some found ↔
    other.entry c = some found ∧ (other = lookup → now ≤ found.expires) := by
  cases lookup <;> cases other <;>
    simp only [entry, cached, RelayAuthCache.cachedToken, RelayAuthCache.cachedClient,
      RelayAuthCache.cachedTokenID, cachedEntry_fst, authenticate.injEq, clientByDevice.injEq,
      tokenByID.injEq, reduceCtorEq, false_implies, and_true]

/-- The entry that the assignment at the end of a lookup leaves in its slot. -/
def saved (lookup : AuthLookup) (c : RelayAuthCache) (held : RelayTokenEntry) (now : Time) :
    RelayTokenEntry :=
  let base := match lookup with
    | .authenticate _ => RelayTokenEntry.zero
    | _ => (lookup.entry c).getD .zero
  match lookup with
  | .clientByDevice _ =>
      { base with
        client := held.client, expires := now + c.ttl, verified := true, readAt := held.readAt }
  | _ =>
      { base with
        token := held.token, expires := now + c.ttl, verified := true, readAt := held.readAt }

theorem entry_save (other : AuthLookup) : other.entry (lookup.save c held now) =
    if other = lookup then some (lookup.saved c held now) else other.entry c := by
  cases lookup <;> cases other <;>
    simp only [entry, save, RelayAuthCache.saveToken, RelayAuthCache.saveClient,
      RelayAuthCache.saveTokenID, GoMap.lookup_insert_if, saved, authenticate.injEq,
      clientByDevice.injEq, tokenByID.injEq, reduceCtorEq, if_false]

@[simp] theorem answer_saved : lookup.answer (lookup.saved c held now) = lookup.answer held := by
  cases lookup <;> rfl

@[simp] theorem readAt_saved : (lookup.saved c held now).readAt = held.readAt := by
  cases lookup <;> rfl

@[simp] theorem expires_saved : (lookup.saved c held now).expires = now + c.ttl := by
  cases lookup <;> rfl

@[simp] theorem verified_saved : (lookup.saved c held now).verified = true := by
  cases lookup <;> rfl

@[simp] theorem entry_beginLoad (key : String) :
    lookup.entry (c.beginLoad key).1 = lookup.entry c := by
  unfold RelayAuthCache.beginLoad
  cases c.loading.lookup key <;> cases lookup <;> rfl

@[simp] theorem entry_finishLoad (key : String) (load : ℕ) :
    lookup.entry (c.finishLoad key load) = lookup.entry c := by
  unfold RelayAuthCache.finishLoad
  split <;> cases lookup <;> rfl

@[simp] theorem entry_invalidateAll : lookup.entry c.invalidateAll = none := by
  cases lookup <;> rfl

/-- `invalidateToken` clears the slots of the token and leaves the others as they were. -/
theorem entry_invalidateToken {tokenID : String} :
    lookup.entry (c.invalidateToken tokenID) = some found ↔
      lookup.entry c = some found ∧
        match lookup with
        | .authenticate _ => found.token.id ≠ tokenID
        | .clientByDevice _ => True
        | .tokenByID id => id ≠ tokenID := by
  cases lookup with
  | authenticate value =>
      simp only [entry, RelayAuthCache.invalidateToken, GoMap.lookup_deleteWhere_eq_some]
      simp
  | clientByDevice deviceID => simp [entry, RelayAuthCache.invalidateToken]
  | tokenByID id =>
      simp only [entry, RelayAuthCache.invalidateToken, GoMap.lookup_erase_if]
      by_cases same : id = tokenID <;> simp [same]

theorem all_entry {property : AuthLookup → RelayTokenEntry → Prop} (all : c.All property)
    (present : lookup.entry c = some found) : property lookup found := by
  cases lookup with
  | authenticate value => exact all.1 ⟨value, found⟩ (GoMap.mem_lookup_iff_mem_entries.mp present)
  | clientByDevice deviceID =>
      exact all.2.1 ⟨deviceID, found⟩ (GoMap.mem_lookup_iff_mem_entries.mp present)
  | tokenByID tokenID =>
      exact all.2.2 ⟨tokenID, found⟩ (GoMap.mem_lookup_iff_mem_entries.mp present)

/-! ## What one step of a lookup does -/

end AuthLookup

/-- The answer a lookup has in hand, saved or not. -/
def LookupPC.held : LookupPC → Option RelayTokenEntry
  | .touch _ entry => some entry
  | .save _ entry => some entry
  | .finish _ (.ok entry) => some entry
  | .done (.ok entry) => some entry
  | _ => none

/-- The answer a lookup has read and not saved yet. -/
def LookupPC.unsaved : LookupPC → Option RelayTokenEntry
  | .touch _ entry => some entry
  | .save _ entry => some entry
  | _ => none

namespace AuthLookup

variable {lookup other : AuthLookup} {s s' : AuthState} {pc pc' : LookupPC}
variable {choice : LookupChoice} {found : RelayTokenEntry}

/-- A lookup writes to the store only to record the use of a token, and never moves the clock. -/
theorem step_store (stepped : lookup.step s pc choice = some (s', pc')) :
    s'.now = s.now ∧ s'.version = s.version ∧
      (s'.store = s.store ∨ ∃ id time, s'.store = s.store.touchToken id time) := by
  cases pc <;> cases choice <;> simp only [step, reduceCtorEq, Option.some.injEq,
    Prod.mk.injEq] at stepped
  all_goals try (obtain ⟨rfl, -⟩ := stepped; exact ⟨rfl, rfl, Or.inl rfl⟩)
  case await.proceed load =>
    split at stepped
    · obtain ⟨rfl, -⟩ := Prod.mk.inj (Option.some.inj stepped)
      exact ⟨rfl, rfl, Or.inl rfl⟩
    · cases stepped
  case query.proceed load =>
    have same : s' = s := by
      split at stepped
      · exact (Prod.mk.inj (Option.some.inj stepped)).1.symm
      · split at stepped <;> exact (Prod.mk.inj (Option.some.inj stepped)).1.symm
    subst same
    exact ⟨rfl, rfl, Or.inl rfl⟩
  case touch.proceed load entry =>
    obtain ⟨rfl, -⟩ := stepped
    exact ⟨rfl, rfl, Or.inr ⟨_, _, rfl⟩⟩

/-- An answer in hand was in hand before, is a hit, or was just read from the store. -/
theorem step_held (stepped : lookup.step s pc choice = some (s', pc'))
    (held : pc'.held = some found) :
    pc.held = some found ∨
      (pc' = .done (.ok found) ∧ (lookup.cached s.cache s.now).2 = some found) ∨
      (pc'.unsaved = some found ∧ lookup.query s = .ok found) := by
  cases pc <;> cases choice <;> simp only [step, reduceCtorEq, Option.some.injEq,
    Prod.mk.injEq] at stepped
  case probe.proceed =>
    obtain ⟨-, rfl⟩ := stepped
    cases hit : (lookup.cached s.cache s.now).2 with
    | none => simp [hit, LookupPC.held] at held
    | some entry =>
        simp only [hit, LookupPC.held, Option.some.injEq] at held
        subst held
        exact Or.inr (Or.inl ⟨rfl, rfl⟩)
  case begin.proceed =>
    obtain ⟨-, rfl⟩ := stepped
    split at held <;> simp [LookupPC.held] at held
  case await.proceed load =>
    split at stepped
    · obtain ⟨-, rfl⟩ := Prod.mk.inj (Option.some.inj stepped)
      simp [LookupPC.held] at held
    · cases stepped
  case await.cancel load =>
    obtain ⟨-, rfl⟩ := stepped
    simp [LookupPC.held] at held
  case reprobe.proceed load =>
    obtain ⟨-, rfl⟩ := stepped
    cases hit : (lookup.cached s.cache s.now).2 with
    | none => simp [hit, LookupPC.held] at held
    | some entry =>
        simp only [hit, LookupPC.held, Option.some.injEq] at held
        subst held
        exact Or.inr (Or.inl ⟨rfl, rfl⟩)
  case query.proceed load =>
    cases read : lookup.query s with
    | error message =>
        simp only [read, Option.some.injEq, Prod.mk.injEq] at stepped
        obtain ⟨-, rfl⟩ := stepped
        simp [LookupPC.held] at held
    | ok entry =>
        refine Or.inr (Or.inr ?_)
        rw [read] at stepped
        cases lookup <;> simp only [Option.some.injEq, Prod.mk.injEq] at stepped <;>
          obtain ⟨-, rfl⟩ := stepped <;>
          simp only [LookupPC.held, Option.some.injEq] at held <;>
          exact ⟨by rw [LookupPC.unsaved, held], by rw [held]⟩
  case query.fail load =>
    obtain ⟨-, rfl⟩ := stepped
    simp [LookupPC.held] at held
  all_goals
    obtain ⟨-, rfl⟩ := stepped
    first
    | exact Or.inl held
    | (rename_i result
       cases result with
       | error message => simp [LookupPC.held] at held
       | ok entry => exact Or.inl held)

/-- A slot after a step held its entry before, or the stepping lookup has just saved it there. -/
theorem step_entry (stepped : lookup.step s pc choice = some (s', pc'))
    (present : other.entry s'.cache = some found) :
    other.entry s.cache = some found ∨
      ∃ load held, pc = .save load held ∧ other = lookup ∧
        found = lookup.saved s.cache held s.now := by
  cases pc <;> cases choice <;> simp only [step, reduceCtorEq, Option.some.injEq,
    Prod.mk.injEq] at stepped
  case await.proceed load =>
    split at stepped
    · obtain ⟨rfl, -⟩ := Prod.mk.inj (Option.some.inj stepped)
      exact Or.inl present
    · cases stepped
  case query.proceed load =>
    have same : s' = s := by
      split at stepped
      · exact (Prod.mk.inj (Option.some.inj stepped)).1.symm
      · split at stepped <;> exact (Prod.mk.inj (Option.some.inj stepped)).1.symm
    exact Or.inl (same ▸ present)
  case save.proceed load held =>
    obtain ⟨rfl, -⟩ := stepped
    simp only [entry_save] at present
    split at present
    · rename_i same
      exact Or.inr ⟨load, held, rfl, same, (Option.some.inj present).symm⟩
    · exact Or.inl present
  all_goals
    obtain ⟨rfl, -⟩ := stepped
    first
    | exact Or.inl present
    | exact Or.inl (entry_cached.mp present).1
    | exact Or.inl (by simpa using present)

end AuthLookup

end NryNet.Relay
