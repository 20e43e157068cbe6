import NryNet.Lib.ThreadPool
import NryNet.Relay.AuthCache

/-!
# Invalidation of the authorization cache under concurrency

Lookups run against mutations of the store, each followed by `invalidateAll` or `invalidateToken`.
The question is whether a lookup that starts after an invalidation has returned can still answer
with data that was read before the mutation the invalidation was for.

It can.  A load reads the store outside the cache's lock and saves later; if both the mutation and
the invalidation fall in between, the saved entry is older than the mutation and serves every
lookup until it expires (`stale_entry_survives_invalidation`).  `invalidateAll` and
`invalidateToken` clear the maps but neither mark nor wait for the loads that are under way.

Two positive results say how far the design carries.  The ghost `Floors` records up to which
version data has been invalidated, and an answer is fresh when it lies above the floors of the
moment its lookup started.

* `covered_of_quiet`: if no invalidation finds an unsaved answer *that it is for* from before its
  mutation, every lookup is fresh with respect to the invalidations that are for its answer.
  `invalidateToken` is only for the answers that are its token.
* `literal_of_thorough`: if besides nothing an invalidation is *not* for, unsaved or in the maps, is
  from before its mutation, every lookup is fresh with respect to all invalidations.

Both are instances of one induction, over a `Criterion` of what an invalidation is held to, and both
conditions are about the lookups and the maps as the invalidation finds them.
-/

namespace NryNet.Relay

open ThreadPool

/-- Which of the two invalidations follows a mutation. -/
inductive Scope where
  | all
  | token (tokenID : String)
  deriving DecidableEq, Repr

namespace Scope

/-- The invalidation itself. -/
def clear : Scope → RelayAuthCache → RelayAuthCache
  | .all, c => c.invalidateAll
  | .token tokenID, c => c.invalidateToken tokenID

/-- The answers an invalidation is meant for: all of them, or those that are the token. -/
def Covers : Scope → AuthLookup → RelayTokenEntry → Prop
  | .all, _, _ => True
  | .token _, .clientByDevice _, _ => False
  | .token tokenID, _, entry => entry.token.id = tokenID

instance (scope : Scope) (lookup : AuthLookup) (entry : RelayTokenEntry) :
    Decidable (scope.Covers lookup entry) := by
  unfold Covers
  split <;> infer_instance

end Scope

/-- Up to which version data has been invalidated: by any invalidation at all, by `invalidateAll`,
and by `invalidateToken` for each token. -/
structure Floors where
  any : ℕ
  all : ℕ
  token : String → ℕ

namespace Floors

def zero : Floors := ⟨0, 0, fun _ => 0⟩

/-- The floors after an invalidation for the mutation that produced `version`. -/
def raise (floors : Floors) (scope : Scope) (version : ℕ) : Floors where
  any := max floors.any version
  all := match scope with
    | .all => max floors.all version
    | .token _ => floors.all
  token other := match scope with
    | .all => floors.token other
    | .token tokenID =>
        if other = tokenID then max (floors.token other) version else floors.token other

/-- Every floor of `lower` is at most the corresponding floor of `floors`. -/
def Le (lower floors : Floors) : Prop :=
  lower.any ≤ floors.any ∧ lower.all ≤ floors.all ∧
    ∀ tokenID, lower.token tokenID ≤ floors.token tokenID

/-- Nothing has been invalidated beyond `version`. -/
def BoundedBy (floors : Floors) (version : ℕ) : Prop :=
  floors.any ≤ version ∧ floors.all ≤ version ∧ ∀ tokenID, floors.token tokenID ≤ version

end Floors

/-- The version an answer must not be older than, given the floors.  Saving an answer does not
change it, and it never exceeds what has been invalidated. -/
structure Criterion where
  bound : Floors → AuthLookup → RelayTokenEntry → ℕ
  mono : ∀ {lower floors : Floors} (lookup : AuthLookup) (entry : RelayTokenEntry),
    lower.Le floors → bound lower lookup entry ≤ bound floors lookup entry
  bounded : ∀ {floors : Floors} {version : ℕ} (lookup : AuthLookup) (entry : RelayTokenEntry),
    floors.BoundedBy version → bound floors lookup entry ≤ version
  saved : ∀ (floors : Floors) (lookup : AuthLookup) (c : RelayAuthCache)
    (entry : RelayTokenEntry) (now : Time),
    bound floors lookup (lookup.saved c entry now) = bound floors lookup entry

/-- Every invalidation is held to every answer. -/
def Criterion.literal : Criterion where
  bound floors _ _ := floors.any
  mono _ _ le := le.1
  bounded _ _ bounded := bounded.1
  saved _ _ _ _ _ := rfl

/-- An invalidation is held to the answers it is for. -/
def Criterion.covered : Criterion where
  bound floors lookup entry := match lookup with
    | .clientByDevice _ => floors.all
    | _ => max floors.all (floors.token entry.token.id)
  mono lookup entry le := by
    cases lookup with
    | clientByDevice deviceID => exact le.2.1
    | authenticate value => exact max_le_max le.2.1 (le.2.2 _)
    | tokenByID tokenID => exact max_le_max le.2.1 (le.2.2 _)
  bounded lookup entry bounded := by
    cases lookup with
    | clientByDevice deviceID => exact bounded.2.1
    | authenticate value => exact max_le bounded.2.1 (bounded.2.2 _)
    | tokenByID tokenID => exact max_le bounded.2.1 (bounded.2.2 _)
  saved _ lookup _ _ _ := by cases lookup <;> rfl

/-- The answer has not been invalidated. -/
def Criterion.Above (criterion : Criterion) (floors : Floors) (lookup : AuthLookup)
    (entry : RelayTokenEntry) : Prop :=
  criterion.bound floors lookup entry ≤ entry.readAt

instance (criterion : Criterion) (floors : Floors) (lookup : AuthLookup)
    (entry : RelayTokenEntry) : Decidable (criterion.Above floors lookup entry) :=
  inferInstanceAs (Decidable (_ ≤ _))

/-- The cache and the database, with the floors. -/
structure CacheState where
  auth : AuthState
  floors : Floors

/-- A goroutine: the clock, a lookup, or a mutation with the invalidation that follows it. -/
inductive CacheThread where
  | clock
  /-- a lookup that has not started -/
  | call (lookup : AuthLookup)
  /-- a lookup that started when the floors were `floors` -/
  | looking (lookup : AuthLookup) (floors : Floors) (pc : LookupPC)
  /-- before the mutation -/
  | mutating (write : Store → Store) (scope : Scope)
  /-- after the mutation, which produced `version` -/
  | invalidating (scope : Scope) (version : ℕ)
  | returned

/-- The decisions of the environment: time passes, a lookup proceeds or is disturbed. -/
inductive CacheChoice where
  | tick (elapsed : ℕ)
  | lookup (choice : LookupChoice)
  | go

/-- One step. -/
def cacheStep (s : CacheState) : CacheThread → CacheChoice →
    Option (CacheState × CacheThread × List CacheThread)
  | .clock, .tick elapsed =>
      some ({ s with auth := { s.auth with now := s.auth.now + elapsed } }, .clock, [])
  | .call lookup, .lookup choice =>
      (lookup.step s.auth .probe choice).map fun result =>
        ({ s with auth := result.1 }, .looking lookup s.floors result.2, [])
  | .looking lookup floors pc, .lookup choice =>
      (lookup.step s.auth pc choice).map fun result =>
        ({ s with auth := result.1 }, .looking lookup floors result.2, [])
  | .mutating write scope, .go =>
      some ({ s with auth := s.auth.mutate (write s.auth.store) },
        .invalidating scope (s.auth.version + 1), [])
  | .invalidating scope version, .go =>
      some ({ auth := s.auth.invalidate scope.clear, floors := s.floors.raise scope version },
        .returned, [])
  | _, _ => none

/-- Lookups, mutations and the clock, in any number. -/
def cacheMachine : Machine CacheState CacheThread CacheChoice where
  entry
    | .clock | .call _ | .mutating _ _ => true
    | _ => false
  step := cacheStep

/-- A server that has just started on some database. -/
def cacheStart (store : Store) (now : Time) : Config CacheState CacheThread where
  shared :=
    { auth := { store := store, cache := .newRelayAuthCache, now := now, version := 0 }
      floors := .zero }
  threads := []

namespace CacheThread

/-- A lookup that has answered did so with data that was not invalidated when it started. -/
def Fresh (criterion : Criterion) : CacheThread → Prop
  | .looking lookup floors (.done (.ok entry)) => criterion.Above floors lookup entry
  | _ => True

instance (criterion : Criterion) : DecidablePred (Fresh criterion) := fun thread => by
  unfold Fresh
  split <;> infer_instance

/-- What a lookup has answered: up to which version data had been invalidated when it started, the token,
whether it is disabled, and the version it was read at. -/
def answered : CacheThread → Option (ℕ × String × Bool × ℕ)
  | .looking _ floors (.done (.ok entry)) =>
      some (floors.any, entry.token.id, entry.token.disabled, entry.readAt)
  | _ => none

/-- Whatever the thread, a lookup, has read and not saved yet. -/
def Unsaved (property : AuthLookup → RelayTokenEntry → Prop) : CacheThread → Prop
  | .looking lookup _ (.touch _ entry) => property lookup entry
  | .looking lookup _ (.save _ entry) => property lookup entry
  | _ => True

instance (property : AuthLookup → RelayTokenEntry → Prop)
    [∀ lookup entry, Decidable (property lookup entry)] :
    DecidablePred (Unsaved property) := fun thread => by
  unfold Unsaved
  split <;> infer_instance

theorem Unsaved.apply {property : AuthLookup → RelayTokenEntry → Prop} {lookup : AuthLookup}
    {floors : Floors} {pc : LookupPC} {entry : RelayTokenEntry}
    (all : (CacheThread.looking lookup floors pc).Unsaved property)
    (waiting : pc.unsaved = some entry) : property lookup entry := by
  cases pc <;> simp only [LookupPC.unsaved, Option.some.injEq, reduceCtorEq] at waiting
  all_goals
    subst waiting
    exact all

theorem Unsaved.mono {property weaker : AuthLookup → RelayTokenEntry → Prop}
    {thread : CacheThread} (all : thread.Unsaved property)
    (implies : ∀ lookup entry, property lookup entry → weaker lookup entry) :
    thread.Unsaved weaker := by
  unfold Unsaved at *
  split at all
  · exact implies _ _ all
  · exact implies _ _ all
  · trivial

end CacheThread

/-- A condition on the invalidations of a run, given the configuration, the scope and the version
of the mutation. -/
def AtInvalidation (condition : Config CacheState CacheThread → Scope → ℕ → Prop)
    (config : Config CacheState CacheThread) : Move CacheThread CacheChoice → Prop
  | .arrive _ => True
  | .run index _ =>
      match config.threads[index]? with
      | some (.invalidating scope version) => condition config scope version
      | _ => True

instance (condition : Config CacheState CacheThread → Scope → ℕ → Prop)
    [∀ config scope version, Decidable (condition config scope version)]
    (config : Config CacheState CacheThread) (move : Move CacheThread CacheChoice) :
    Decidable (AtInvalidation condition config move) := by
  unfold AtInvalidation
  split
  · infer_instance
  · split <;> infer_instance

/-- No lookup holds an unsaved answer from before the mutation that the invalidation is for. -/
def Quiet (config : Config CacheState CacheThread) (scope : Scope) (version : ℕ) : Prop :=
  ∀ thread ∈ config.threads, thread.Unsaved fun lookup entry =>
    scope.Covers lookup entry → version ≤ entry.readAt

instance (config : Config CacheState CacheThread) (scope : Scope) (version : ℕ) :
    Decidable (Quiet config scope version) :=
  inferInstanceAs (Decidable (∀ _ ∈ _, _))

/-- Nor is anything from before the mutation that the invalidation is not for: no unsaved answer, and
no entry in the maps that the invalidation finds. -/
def Thorough (config : Config CacheState CacheThread) (scope : Scope) (version : ℕ) : Prop :=
  Quiet config scope version ∧
  (∀ thread ∈ config.threads, thread.Unsaved fun lookup entry =>
    ¬ scope.Covers lookup entry → version ≤ entry.readAt) ∧
  config.shared.auth.cache.All fun lookup entry =>
    ¬ scope.Covers lookup entry → version ≤ entry.readAt

instance (config : Config CacheState CacheThread) (scope : Scope) (version : ℕ) :
    Decidable (Thorough config scope version) :=
  inferInstanceAs (Decidable (_ ∧ _ ∧ _))

/-! ## The invariant -/

namespace Floors

variable {floors lower : Floors} {scope : Scope} {version : ℕ}

theorem le_refl : floors.Le floors :=
  ⟨Nat.le_refl _, Nat.le_refl _, fun _ => Nat.le_refl _⟩

theorem Le.trans {middle : Floors} (first : lower.Le middle) (second : middle.Le floors) :
    lower.Le floors :=
  ⟨first.1.trans second.1, first.2.1.trans second.2.1,
    fun tokenID => (first.2.2 tokenID).trans (second.2.2 tokenID)⟩

theorem le_raise : floors.Le (floors.raise scope version) := by
  refine ⟨Nat.le_max_left _ _, ?_, fun other => ?_⟩
  · cases scope with
    | all => exact Nat.le_max_left _ _
    | token tokenID => exact Nat.le_refl _
  · cases scope with
    | all => exact Nat.le_refl _
    | token tokenID =>
        simp only [raise]
        split
        · exact Nat.le_max_left _ _
        · exact Nat.le_refl _

theorem BoundedBy.mono {later : ℕ} (bounded : floors.BoundedBy version)
    (le : version ≤ later) : floors.BoundedBy later :=
  ⟨bounded.1.trans le, bounded.2.1.trans le, fun tokenID => (bounded.2.2 tokenID).trans le⟩

theorem BoundedBy.raise {current : ℕ} (bounded : floors.BoundedBy current)
    (le : version ≤ current) : (floors.raise scope version).BoundedBy current := by
  refine ⟨max_le bounded.1 le, ?_, fun other => ?_⟩
  · cases scope with
    | all => exact max_le bounded.2.1 le
    | token tokenID => exact bounded.2.1
  · cases scope with
    | all => exact bounded.2.2 other
    | token tokenID =>
        simp only [Floors.raise]
        split
        · exact max_le (bounded.2.2 other) le
        · exact bounded.2.2 other

end Floors

variable {criterion : Criterion}

theorem Criterion.Above.of_le {floors lower : Floors} {lookup : AuthLookup}
    {entry : RelayTokenEntry} (above : criterion.Above floors lookup entry)
    (le : lower.Le floors) : criterion.Above lower lookup entry :=
  Nat.le_trans (criterion.mono lookup entry le) above

/-- What `GetToken` answers is the token that was asked for. -/
def Named (lookup : AuthLookup) (entry : RelayTokenEntry) : Prop :=
  match lookup with
  | .tokenByID tokenID => entry.token.id = tokenID
  | _ => True

theorem named_saved {lookup : AuthLookup} {c : RelayAuthCache} {entry : RelayTokenEntry}
    {now : Time} : Named lookup (lookup.saved c entry now) ↔ Named lookup entry := by
  cases lookup <;> exact Iff.rfl

/-- An answer that is read now is named rightly and carries the current version. -/
theorem query_ok {lookup : AuthLookup} {s : AuthState} {entry : RelayTokenEntry}
    (read : lookup.query s = .ok entry) : entry.readAt = s.version ∧ Named lookup entry := by
  cases lookup with
  | authenticate value =>
      simp only [AuthLookup.query] at read
      cases authenticated : Auth.authenticateAgent s.store value s.now with
      | error message =>
          rw [authenticated] at read
          cases read
      | ok token =>
          rw [authenticated] at read
          cases read
          exact ⟨rfl, trivial⟩
  | clientByDevice deviceID =>
      simp only [AuthLookup.query] at read
      cases selected : s.store.getClientByDevice deviceID with
      | error message =>
          rw [selected] at read
          cases read
      | ok client =>
          rw [selected] at read
          cases read
          exact ⟨rfl, trivial⟩
  | tokenByID tokenID =>
      simp only [AuthLookup.query] at read
      cases selected : s.store.getToken tokenID with
      | error message =>
          rw [selected] at read
          cases read
      | ok token =>
          rw [selected] at read
          cases read
          exact ⟨rfl, Store.getToken_id selected⟩

/-- The invariant of the shared state: nothing in the maps has been invalidated. -/
structure CacheState.Sound (criterion : Criterion) (s : CacheState) : Prop where
  bounded : s.floors.BoundedBy s.auth.version
  above : ∀ lookup entry, AuthLookup.entry lookup s.auth.cache = some entry →
    criterion.Above s.floors lookup entry ∧ Named lookup entry

/-- The invariant of one thread. -/
def CacheThread.Sound (criterion : Criterion) (s : CacheState) : CacheThread → Prop
  | .looking lookup floors pc =>
      floors.Le s.floors ∧
      (∀ entry, pc.unsaved = some entry → criterion.Above s.floors lookup entry) ∧
      (∀ entry, pc.held = some entry → criterion.Above floors lookup entry ∧ Named lookup entry)
  | .invalidating _ version => version ≤ s.auth.version
  | _ => True

/-- An answer that is not saved yet is in hand. -/
theorem LookupPC.held_of_unsaved {pc : LookupPC} {entry : RelayTokenEntry}
    (unsaved : pc.unsaved = some entry) : pc.held = some entry := by
  cases pc <;> first | exact unsaved | cases unsaved

/-- A step never makes a saved answer unsaved again. -/
theorem unsaved_of_held {lookup : AuthLookup} {s s' : AuthState} {pc pc' : LookupPC}
    {choice : LookupChoice} {entry : RelayTokenEntry}
    (stepped : lookup.step s pc choice = some (s', pc')) (held : pc.held = some entry)
    (waiting : pc'.unsaved = some entry) : pc.unsaved = some entry := by
  cases pc <;> cases choice <;> simp only [AuthLookup.step, reduceCtorEq] at stepped
  all_goals first
    | exact held
    | (simp only [Option.some.injEq, Prod.mk.injEq] at stepped
       obtain ⟨-, rfl⟩ := stepped
       cases waiting)

/-- A lookup step keeps the shared invariant, and leaves the stepping lookup sound. -/
theorem lookup_step_sound {s : CacheState} {lookup : AuthLookup} {floors : Floors}
    {pc pc' : LookupPC} {choice : LookupChoice} {auth' : AuthState}
    (sound : s.Sound criterion) (own : (CacheThread.looking lookup floors pc).Sound criterion s)
    (stepped : lookup.step s.auth pc choice = some (auth', pc')) :
    ({ s with auth := auth' } : CacheState).Sound criterion ∧
      (CacheThread.looking lookup floors pc').Sound criterion { s with auth := auth' } := by
  obtain ⟨le, unsaved, held⟩ := own
  obtain ⟨-, version, -⟩ := AuthLookup.step_store stepped
  have current : ∀ entry, lookup.query s.auth = .ok entry →
      criterion.Above s.floors lookup entry ∧ Named lookup entry := by
    intro entry read
    obtain ⟨readNow, named⟩ := query_ok read
    refine ⟨?_, named⟩
    show criterion.bound s.floors lookup entry ≤ entry.readAt
    rw [readNow]
    exact criterion.bounded lookup entry sound.bounded
  refine ⟨⟨?_, ?_⟩, le, ?_, ?_⟩
  · show s.floors.BoundedBy auth'.version
    rw [version]
    exact sound.bounded
  · intro other entry present
    rcases AuthLookup.step_entry stepped present with old | ⟨load, answer, rfl, rfl, rfl⟩
    · exact sound.above other entry old
    · refine ⟨?_, named_saved.mpr (held answer rfl).2⟩
      show criterion.bound _ _ _ ≤ _
      rw [criterion.saved, AuthLookup.readAt_saved]
      exact unsaved answer rfl
  · intro entry waiting
    rcases AuthLookup.step_held stepped (LookupPC.held_of_unsaved waiting) with
      before | ⟨rfl, -⟩ | ⟨-, read⟩
    · exact unsaved entry (unsaved_of_held stepped before waiting)
    · cases waiting
    · exact (current entry read).1
  · intro entry inHand
    rcases AuthLookup.step_held stepped inHand with before | ⟨-, hit⟩ | ⟨-, read⟩
    · exact held entry before
    · obtain ⟨present, -⟩ := AuthLookup.cached_hit.mp hit
      obtain ⟨above, named⟩ := sound.above lookup entry present
      exact ⟨above.of_le le, named⟩
    · obtain ⟨above, named⟩ := current entry read
      exact ⟨above.of_le le, named⟩

/-- What the other threads tolerate: the version grows, and the floors rise only past answers that
no load has left unsaved. -/
theorem CacheThread.Sound.tolerates {s s' : CacheState} {thread : CacheThread}
    (own : thread.Sound criterion s) (version : s.auth.version ≤ s'.auth.version)
    (floors : s.floors.Le s'.floors)
    (spared : thread.Unsaved fun lookup entry =>
      criterion.Above s.floors lookup entry → criterion.Above s'.floors lookup entry) :
    thread.Sound criterion s' := by
  cases thread with
  | looking lookup start pc =>
      obtain ⟨le, unsaved, held⟩ := own
      exact ⟨le.trans floors,
        fun entry waiting => spared.apply waiting (unsaved entry waiting), held⟩
  | invalidating scope made => exact Nat.le_trans own version
  | _ => trivial

/-- What an invalidation has to respect: an answer that is unsaved, and an entry that survives, are
not pushed below the floors. -/
def Spares (criterion : Criterion) (config : Config CacheState CacheThread) (scope : Scope)
    (version : ℕ) : Prop :=
  let floors := config.shared.floors
  (∀ thread ∈ config.threads, thread.Unsaved fun lookup entry =>
    criterion.Above floors lookup entry →
      criterion.Above (floors.raise scope version) lookup entry) ∧
  ∀ lookup entry, AuthLookup.entry lookup (scope.clear config.shared.auth.cache) = some entry →
    AuthLookup.entry lookup config.shared.auth.cache = some entry ∧
    (criterion.Above floors lookup entry → Named lookup entry →
      criterion.Above (floors.raise scope version) lookup entry)

/-- Along runs whose invalidations spare what they have to, everything is sound. -/
theorem sound_of_spares {store : Store} {now : Time} {config : Config CacheState CacheThread}
    (reached : cacheMachine.Run (AtInvalidation (Spares criterion)) (cacheStart store now) config) :
    config.shared.Sound criterion ∧
      ∀ thread ∈ config.threads, thread.Sound criterion config.shared := by
  refine reached.pool_invariant (CacheState.Sound criterion) (CacheThread.Sound criterion) ?_ ?_ ?_
  · refine ⟨⟨⟨Nat.le_refl _, Nat.le_refl _, fun _ => Nat.le_refl _⟩, ?_⟩, by simp [cacheStart]⟩
    intro lookup entry present
    cases lookup <;> cases present
  · intro shared thread _ admitted
    cases thread <;> trivial
  · intro config index choice thread shared' thread' spawned sound threads present spares stepped
    have own : thread.Sound criterion config.shared :=
      threads thread (List.mem_of_getElem? present)
    -- Steps that leave the floors alone are tolerated for one reason.
    have calm : ∀ auth' : AuthState, config.shared.auth.version ≤ auth'.version →
        ∀ other ∈ config.threads, other.Sound criterion config.shared →
          other.Sound criterion { config.shared with auth := auth' } := by
      intro auth' later other _ otherSound
      refine otherSound.tolerates later Floors.le_refl ?_
      unfold CacheThread.Unsaved
      split <;> first | exact fun above => above | trivial
    change cacheStep config.shared thread choice = _ at stepped
    cases thread with
    | clock =>
        cases choice with
        | tick elapsed =>
            cases stepped
            exact ⟨⟨sound.bounded, sound.above⟩, trivial, by simp, calm _ (Nat.le_refl _)⟩
        | _ => cases stepped
    | call lookup =>
        cases choice with
        | lookup choice =>
            obtain ⟨⟨auth', pc'⟩, looked, equal⟩ := Option.map_eq_some_iff.mp stepped
            cases equal
            have started : (CacheThread.looking lookup config.shared.floors .probe).Sound criterion
                config.shared :=
              ⟨Floors.le_refl, by simp [LookupPC.unsaved], by simp [LookupPC.held]⟩
            obtain ⟨sound', own'⟩ := lookup_step_sound sound started looked
            exact ⟨sound', own', by simp, calm _ (AuthLookup.step_store looked).2.1.ge⟩
        | _ => cases stepped
    | looking lookup floors pc =>
        cases choice with
        | lookup choice =>
            obtain ⟨⟨auth', pc'⟩, looked, equal⟩ := Option.map_eq_some_iff.mp stepped
            cases equal
            obtain ⟨sound', own'⟩ := lookup_step_sound sound own looked
            exact ⟨sound', own', by simp, calm _ (AuthLookup.step_store looked).2.1.ge⟩
        | _ => cases stepped
    | mutating write scope =>
        cases choice with
        | go =>
            cases stepped
            exact ⟨⟨sound.bounded.mono (Nat.le_succ _), sound.above⟩, Nat.le_refl _, by simp,
              calm _ (Nat.le_succ _)⟩
        | _ => cases stepped
    | invalidating scope version =>
        cases choice with
        | go =>
            cases stepped
            simp only [AtInvalidation, present] at spares
            obtain ⟨unsaved, survives⟩ := spares
            refine ⟨⟨sound.bounded.raise own, ?_⟩, trivial, by simp, ?_⟩
            · intro lookup entry left
              obtain ⟨old, spared⟩ := survives lookup entry left
              obtain ⟨above, named⟩ := sound.above lookup entry old
              exact ⟨spared above named, named⟩
            · intro other member otherSound
              exact otherSound.tolerates (Nat.le_refl _) Floors.le_raise (unsaved other member)
        | _ => cases stepped
    | returned => cases stepped

/-- Soundness of a thread contains its freshness. -/
theorem CacheThread.Sound.fresh {s : CacheState} {thread : CacheThread}
    (own : thread.Sound criterion s) : thread.Fresh criterion := by
  cases thread with
  | looking lookup floors pc =>
      cases pc with
      | done result =>
          cases result with
          | ok entry => exact (own.2.2 entry rfl).1
          | error message => trivial
      | _ => trivial
  | _ => trivial

/-- An invalidation removes entries and adds none; what it is for does not survive. -/
theorem entry_clear {scope : Scope} {c : RelayAuthCache} {lookup : AuthLookup}
    {entry : RelayTokenEntry} (left : AuthLookup.entry lookup (scope.clear c) = some entry) :
    AuthLookup.entry lookup c = some entry ∧
      (Named lookup entry → ¬ scope.Covers lookup entry) := by
  cases scope with
  | all => simp [Scope.clear] at left
  | token tokenID =>
      obtain ⟨old, other⟩ := AuthLookup.entry_invalidateToken.mp left
      refine ⟨old, fun named covered => ?_⟩
      cases lookup with
      | authenticate value => exact other covered
      | clientByDevice deviceID => exact covered
      | tokenByID id => exact other (named.symm.trans covered)

/-! ## The two results -/

/-- An answer the invalidation is not for, or that is not older than the mutation, stays above the
floors. -/
theorem Criterion.Above.raise_covered {floors : Floors} {scope : Scope} {version : ℕ}
    {lookup : AuthLookup} {entry : RelayTokenEntry}
    (above : Criterion.covered.Above floors lookup entry)
    (spared : scope.Covers lookup entry → version ≤ entry.readAt) :
    Criterion.covered.Above (floors.raise scope version) lookup entry := by
  unfold Criterion.Above Criterion.covered at *
  cases scope with
  | all =>
      have newer : version ≤ entry.readAt := spared trivial
      cases lookup <;> simp only [Floors.raise] at above ⊢ <;> omega
  | token tokenID =>
      cases lookup with
      | clientByDevice deviceID => exact above
      | authenticate value =>
          simp only [Floors.raise] at above ⊢
          split
          · rename_i same
            have newer : version ≤ entry.readAt := spared same
            omega
          · exact above
      | tokenByID id =>
          simp only [Floors.raise] at above ⊢
          split
          · rename_i same
            have newer : version ≤ entry.readAt := spared same
            omega
          · exact above

/-- Along every run whose invalidations find no unsaved answer that they are for, a lookup answers
with data that no invalidation for it had invalidated when the lookup started. -/
theorem covered_of_quiet {store : Store} {now : Time} {config : Config CacheState CacheThread}
    (reached : cacheMachine.Run (AtInvalidation Quiet) (cacheStart store now) config) :
    ∀ thread ∈ config.threads, thread.Fresh .covered := by
  have spared : cacheMachine.Run (AtInvalidation (Spares .covered)) (cacheStart store now)
      config := by
    refine reached.mono fun config move quiet => ?_
    unfold AtInvalidation at *
    split at quiet
    · trivial
    · split at quiet
      · refine ⟨fun thread member => ?_, fun lookup entry left => ?_⟩
        · exact (quiet thread member).mono fun lookup entry newer above => above.raise_covered newer
        · obtain ⟨old, missed⟩ := entry_clear left
          exact ⟨old, fun above named =>
            above.raise_covered fun covered => absurd covered (missed named)⟩
      · trivial
  exact fun thread member => ((sound_of_spares spared).2 thread member).fresh

/-- What the threads have unsaved, whether the invalidation is for it or not. -/
theorem Thorough.unsaved {config : Config CacheState CacheThread} {scope : Scope} {version : ℕ}
    (thorough : Thorough config scope version) :
    ∀ thread ∈ config.threads, thread.Unsaved fun _ entry => version ≤ entry.readAt := by
  intro thread member
  have quiet := thorough.1 thread member
  have rest := thorough.2.1 thread member
  unfold CacheThread.Unsaved at *
  split at quiet
  · exact (em _).elim quiet rest
  · exact (em _).elim quiet rest
  · trivial

theorem AtInvalidation.quiet {config : Config CacheState CacheThread}
    {move : Move CacheThread CacheChoice} (thorough : AtInvalidation Thorough config move) :
    AtInvalidation Quiet config move := by
  unfold AtInvalidation at *
  split at thorough
  · trivial
  · split at thorough
    · exact thorough.1
    · trivial

/-- Along every run whose invalidations besides find nothing from before their mutation that they are not
for, a lookup answers with data that no invalidation at all had invalidated when the lookup started. -/
theorem literal_of_thorough {store : Store} {now : Time} {config : Config CacheState CacheThread}
    (reached : cacheMachine.Run (AtInvalidation Thorough) (cacheStart store now) config) :
    ∀ thread ∈ config.threads, thread.Fresh .literal := by
  have spared : cacheMachine.Run (AtInvalidation (Spares .literal)) (cacheStart store now)
      config := by
    refine reached.mono fun config move thorough => ?_
    unfold AtInvalidation at *
    split at thorough
    · trivial
    · split at thorough
      · refine ⟨fun thread member => ?_, fun lookup entry left => ?_⟩
        · exact (thorough.unsaved thread member).mono fun lookup entry newer above =>
            max_le above newer
        · obtain ⟨old, missed⟩ := entry_clear left
          exact ⟨old, fun above named =>
            max_le above (AuthLookup.all_entry thorough.2.2 old (missed named))⟩
      · trivial
  exact fun thread member => ((sound_of_spares spared).2 thread member).fresh

/-- **Freshness.**  If no invalidation finds an unsaved answer from before its mutation that it is for,
every lookup answers with data that the invalidations which are for it had not invalidated when it
started.  If besides they find nothing else from before their mutations, the data was read after every
mutation whose invalidation had returned by then. -/
theorem fresh_of_thorough {store : Store} {now : Time} {config : Config CacheState CacheThread}
    (reached : cacheMachine.Run (AtInvalidation Quiet) (cacheStart store now) config) :
    (∀ thread ∈ config.threads, thread.Fresh .covered) ∧
      (cacheMachine.Run (AtInvalidation Thorough) (cacheStart store now) config →
        ∀ thread ∈ config.threads, thread.Fresh .literal) :=
  ⟨covered_of_quiet reached, literal_of_thorough⟩

/-! ## A load in flight across an invalidation -/

/-- The mutation of the run below: the token is disabled. -/
def disableToken (tokenID : String) (store : Store) : Store :=
  match store.setTokenDisabled tokenID true with
  | .ok store' => store'
  | .error _ => store

/-- A lookup reads the token and stops before saving it; the token is disabled and the whole cache
invalidated; the first lookup saves; a second one starts. -/
def staleRun : List (Move CacheThread CacheChoice) :=
  [.arrive (.call (.tokenByID "token-1")), .run 0 (.lookup .proceed), .run 0 (.lookup .proceed),
    .run 0 (.lookup .proceed),
    .arrive (.mutating (disableToken "token-1") .all), .run 1 .go, .run 1 .go,
    .run 0 (.lookup .proceed), .run 0 (.lookup .proceed),
    .arrive (.call (.tokenByID "token-1")), .run 2 (.lookup .proceed)]

/-- A lookup that starts after `invalidateAll` has returned answers with the enabled token that was
read before the mutation which disabled it. -/
theorem stale_entry_survives_invalidation :
    ∃ config, cacheMachine.Reachable (cacheStart Auth.office 0) config ∧
      ¬ (∀ thread ∈ config.threads, thread.Fresh .literal) := by
  refine Machine.exists_run_of_replay staleRun ?_
  decide +kernel

/-- A lookup saves the token; the token is disabled and `invalidateToken` returns; another lookup starts,
misses and answers. -/
theorem fresh_of_thorough_disable :
    ∃ config, cacheMachine.Run (AtInvalidation Thorough) (cacheStart Auth.office 0) config ∧
      config.threads.filterMap CacheThread.answered =
        [(0, "token-1", false, 0), (1, "token-1", true, 1)] ∧
      (∀ thread ∈ config.threads, thread.Fresh .covered) ∧
      ∀ thread ∈ config.threads, thread.Fresh .literal := by
  obtain ⟨config, reached, answers⟩ :
      ∃ config, cacheMachine.Run (AtInvalidation Thorough) (cacheStart Auth.office 0) config ∧
        config.threads.filterMap CacheThread.answered =
          [(0, "token-1", false, 0), (1, "token-1", true, 1)] := by
    refine Machine.exists_run_of_replay
      [.arrive (.call (.tokenByID "token-1")), .run 0 (.lookup .proceed),
        .run 0 (.lookup .proceed), .run 0 (.lookup .proceed), .run 0 (.lookup .proceed),
        .run 0 (.lookup .proceed),
        .arrive (.mutating (disableToken "token-1") (.token "token-1")), .run 1 .go, .run 1 .go,
        .arrive (.call (.tokenByID "token-1")), .run 2 (.lookup .proceed),
        .run 2 (.lookup .proceed), .run 2 (.lookup .proceed), .run 2 (.lookup .proceed),
        .run 2 (.lookup .proceed)] ?_
    decide +kernel
  obtain ⟨covered, literal⟩ :=
    fresh_of_thorough (reached.mono fun _ _ thorough => AtInvalidation.quiet thorough)
  exact ⟨config, reached, answers, covered, literal reached⟩

end NryNet.Relay
