import NryNet.Relay.AuthInvalidation

/-!
# One load at a time (`server/relay/auth_cache.go`, `beginLoad` and `finishLoad`)

The first lookup that misses becomes the owner of a load, and the others wait until its `done` channel is
closed.  A waiter that then finds nothing goes on to the store by itself, with the load of the owner in
its hands, and its deferred `finishLoad` runs with a load that is not its own, while the next owner may
have announced another one under the same key.

`finishLoad` closes a load only while the table still announces it.  So a load is closed by its owner and
by nobody else: a waiter has seen it closed, and a load that is closed is not in the table
(`RelayAuthCache.Flying`).

The machine is that of the invalidations, in which lookups run against each other, against mutations and
invalidations, and against the clock.  A `Role` is the note of a lookup: whether it has waited, and which
load it owns, which can be told from the program counter only as long as the lookup is under way.
-/

namespace NryNet.Relay

open ThreadPool

/-- What a lookup has to do with the load in its hands. -/
inductive Role where
  | none
  | waiter
  | owner (load : ℕ)
  deriving DecidableEq, Repr

/-- A lookup that steps out of `select` has waited, and one that goes to the store without is an owner. -/
def Role.renew : CacheThread → Role → Role
  | .looking _ _ (.await _), _ => .waiter
  | .looking _ _ (.query load), .none => .owner load
  | .looking _ _ _, role => role
  | _, _ => .none

/-- The lookups with their roles, the mutations and the clock. -/
def flights : Machine CacheState (CacheThread × Role) CacheChoice :=
  cacheMachine.annotate Role.renew .none

/-- A server that has just started on some database. -/
def flightsStart (store : Store) (now : Time) : Config CacheState (CacheThread × Role) :=
  ⟨(cacheStart store now).shared, []⟩

/-- The load that a lookup owns, or owned until it returned. -/
def owned : CacheThread × Role → Option ℕ
  | (.looking _ _ (.query load), .none) => some load
  | (.looking _ _ _, .owner load) => some load
  | _ => none

/-- One for the owner of the load, and nothing for everybody else. -/
def ownsLoad (load : ℕ) (thread : CacheThread × Role) : ℕ :=
  if owned thread = some load then 1 else 0

/-- The key and the load of an owner that is under way. -/
def flight (thread : CacheThread × Role) : Option (String × ℕ) :=
  match thread.1 with
  | .looking _ _ (.done _) => none
  | .looking lookup _ _ => (owned thread).map fun load => (lookup.key, load)
  | _ => none

/-- A lookup that has returned. -/
def CacheThread.Returned : CacheThread → Prop
  | .looking _ _ (.done _) => True
  | _ => False

/-- The load that a lookup waits for. -/
def CacheThread.awaits : CacheThread → Option ℕ
  | .looking _ _ (.await load) => some load
  | _ => none

/-! ## The table -/

namespace RelayAuthCache

variable {c : RelayAuthCache} {key : String} {load : ℕ}

/-- What is announced is not closed, and is announced once. -/
structure Flying (c : RelayAuthCache) : Prop where
  running : ∀ key load, c.loading.lookup key = some load → c.loads[load]? = some ⟨0⟩
  apart : ∀ key other load, c.loading.lookup key = some load → c.loading.lookup other = some load →
    key = other
  once : ∀ record ∈ c.loads, record.closings ≤ 1

theorem flying_newRelayAuthCache : newRelayAuthCache.Flying where
  running := fun _ _ impossible => nomatch impossible
  apart := fun _ _ _ impossible => nomatch impossible
  once := fun _ impossible => nomatch impossible

theorem Flying.lt_length (flying : c.Flying) (announced : c.loading.lookup key = some load) :
    load < c.loads.length :=
  (List.getElem?_eq_some_iff.mp (flying.running key load announced)).1

/-- The table holds no load that is finished. -/
theorem Flying.not_loadDone (flying : c.Flying) (announced : c.loading.lookup key = some load) :
    c.loadDone load = false := by
  unfold loadDone
  rw [flying.running key load announced]
  rfl

/-- What `beginLoad` can do. -/
theorem beginLoad_cases (c : RelayAuthCache) (key : String) :
    (∃ load, c.loading.lookup key = some load ∧ c.beginLoad key = (c, load, false)) ∨
      c.loading.lookup key = none ∧
        c.beginLoad key =
          ({ c with
              loading := c.loading.insert key c.loads.length
              loads := c.loads ++ [⟨0⟩] }, c.loads.length, true) := by
  unfold beginLoad
  cases c.loading.lookup key with
  | some load => exact Or.inl ⟨load, rfl, rfl⟩
  | none => exact Or.inr ⟨rfl, rfl⟩

/-- How the table and the loads may change: a load stays announced unless it is the one that is being
closed. -/
structure Later (closed : Option ℕ) (c c' : RelayAuthCache) : Prop where
  longer : c.loads.length ≤ c'.loads.length
  done : ∀ load, c.loadDone load = true → c'.loadDone load = true
  announced : ∀ key load, closed ≠ some load → c.loading.lookup key = some load →
    c'.loading.lookup key = some load

theorem Later.of_same {c c' : RelayAuthCache} (loading : c'.loading = c.loading)
    (loads : c'.loads = c.loads) : Later none c c' where
  longer := by rw [loads]
  done := by
    intro load done
    unfold loadDone at *
    rwa [loads]
  announced := by
    intro key load _ announced
    rwa [loading]

theorem Flying.of_same {c c' : RelayAuthCache} (flying : c.Flying) (loading : c'.loading = c.loading)
    (loads : c'.loads = c.loads) : c'.Flying where
  running := by
    rw [loading, loads]
    exact flying.running
  apart := by
    rw [loading]
    exact flying.apart
  once := by
    rw [loads]
    exact flying.once

section Begin

variable {c' : RelayAuthCache} (missing : c.loading.lookup key = none)
  (loading : c'.loading = c.loading.insert key c.loads.length) (loads : c'.loads = c.loads ++ [⟨0⟩])

include loading loads

include missing in
theorem later_begin : Later none c c' where
  longer := by
    rw [loads, List.length_append]
    exact Nat.le_add_right _ _
  done := by
    intro load done
    unfold loadDone at *
    obtain ⟨record, found, closed⟩ := (Option.any_eq_true _ _).mp done
    rw [loads, List.getElem?_append_left (List.getElem?_eq_some_iff.mp found).1, found]
    exact closed
  announced := by
    intro other load _ announced
    rw [loading]
    exact GoMap.lookup_insert_of_absent missing announced

/-- The new load is announced under its key, and nowhere else. -/
theorem Flying.begin (flying : c.Flying) : c'.Flying where
  running := by
    intro other load announced
    rw [loading, GoMap.lookup_insert_if] at announced
    rw [loads]
    split at announced
    · rw [← Option.some.inj announced, List.getElem?_append_right (Nat.le_refl _), Nat.sub_self]
      rfl
    · rw [List.getElem?_append_left (flying.lt_length announced)]
      exact flying.running other load announced
  apart := by
    intro first second load announced also
    rw [loading, GoMap.lookup_insert_if] at announced also
    split at announced
    · rename_i same
      rw [same]
      split at also
      · rename_i equal
        exact equal.symm
      · rw [← Option.some.inj announced] at also
        exact absurd (flying.lt_length also) (Nat.lt_irrefl _)
    · split at also
      · rw [← Option.some.inj also] at announced
        exact absurd (flying.lt_length announced) (Nat.lt_irrefl _)
      · exact flying.apart first second load announced also
  once := by
    intro record member
    rw [loads] at member
    rcases List.mem_append.mp member with old | new
    · exact flying.once record old
    · rw [List.mem_singleton.mp new]
      exact Nat.zero_le _

end Begin

/-- A load that is not announced is not closed by `finishLoad`. -/
theorem finishLoad_of_done (flying : c.Flying) (done : c.loadDone load = true) :
    c.finishLoad key load = c := by
  unfold finishLoad
  rw [if_neg]
  intro announced
  rw [flying.not_loadDone announced] at done
  cases done

section Finish

variable (announced : c.loading.lookup key = some load)

include announced

theorem loading_finishLoad : (c.finishLoad key load).loading = c.loading.erase key := by
  unfold finishLoad
  rw [if_pos announced]

theorem loads_finishLoad : (c.finishLoad key load).loads =
    c.loads.modify load fun record => ⟨record.closings + 1⟩ := by
  unfold finishLoad
  rw [if_pos announced]

theorem loadDone_finishLoad (flying : c.Flying) : (c.finishLoad key load).loadDone load = true := by
  unfold loadDone
  rw [loads_finishLoad announced, List.getElem?_modify_eq, flying.running key load announced]
  rfl

theorem later_finishLoad (flying : c.Flying) : Later (some load) c (c.finishLoad key load) where
  longer := by
    rw [loads_finishLoad announced, List.length_modify]
  done := by
    intro other done
    by_cases same : load = other
    · exact same ▸ loadDone_finishLoad announced flying
    · unfold loadDone at *
      rw [loads_finishLoad announced, List.getElem?_modify_ne _ _ same]
      exact done
  announced := by
    intro other before different found
    rw [loading_finishLoad announced, GoMap.lookup_erase_if, if_neg, found]
    rintro rfl
    exact different (announced.symm.trans found)

/-- The load that is closed was announced under one key, and had not been closed before. -/
theorem Flying.finishLoad (flying : c.Flying) : (c.finishLoad key load).Flying where
  running := by
    intro other before found
    rw [loading_finishLoad announced, GoMap.lookup_erase_if] at found
    rw [loads_finishLoad announced]
    split at found
    · cases found
    · rename_i different
      rw [List.getElem?_modify_ne]
      · exact flying.running other before found
      · rintro rfl
        exact different (flying.apart other key load found announced)
  apart := by
    intro first second before found also
    rw [loading_finishLoad announced, GoMap.lookup_erase_if] at found also
    split at found
    · cases found
    · split at also
      · cases also
      · exact flying.apart first second before found also
  once := by
    intro record member
    rw [loads_finishLoad announced] at member
    obtain ⟨position, located⟩ := List.mem_iff_getElem?.mp member
    by_cases same : load = position
    · subst same
      rw [List.getElem?_modify_eq, flying.running key load announced] at located
      rw [← Option.some.inj located]
    · rw [List.getElem?_modify_ne _ _ same] at located
      exact flying.once record (List.mem_of_getElem? located)

end Finish

end RelayAuthCache

/-! ## What a lookup does to the table -/

/-- The statements of a lookup that leave the table alone. -/
inductive LookupPC.Passes (c : RelayAuthCache) : LookupPC → LookupPC → Prop
  | hit (result : Except String RelayTokenEntry) : Passes c .probe (.done result)
  | miss : Passes c .probe .begin
  | wake {load : ℕ} (closed : c.loadDone load = true) : Passes c (.await load) (.reprobe load)
  | cancel (load : ℕ) (result : Except String RelayTokenEntry) : Passes c (.await load) (.done result)
  | found (load : ℕ) (result : Except String RelayTokenEntry) : Passes c (.reprobe load) (.done result)
  | again (load : ℕ) : Passes c (.reprobe load) (.query load)
  | read (load : ℕ) (entry : RelayTokenEntry) : Passes c (.query load) (.touch load entry)
  | answered (load : ℕ) (entry : RelayTokenEntry) : Passes c (.query load) (.save load entry)
  | failed (load : ℕ) (result : Except String RelayTokenEntry) : Passes c (.query load) (.finish load result)
  | touched (load : ℕ) (entry : RelayTokenEntry) : Passes c (.touch load entry) (.save load entry)
  | saved (load : ℕ) (entry : RelayTokenEntry) (result : Except String RelayTokenEntry) :
      Passes c (.save load entry) (.finish load result)

/-- What one step of a lookup can do to the table. -/
inductive LoadStep (lookup : AuthLookup) (c c' : RelayAuthCache) : LookupPC → LookupPC → Prop
  | pass {pc pc' : LookupPC} (loading : c'.loading = c.loading) (loads : c'.loads = c.loads)
      (passes : pc.Passes c pc') : LoadStep lookup c c' pc pc'
  | wait {load : ℕ} (announced : c.loading.lookup lookup.key = some load)
      (loading : c'.loading = c.loading) (loads : c'.loads = c.loads) :
      LoadStep lookup c c' .begin (.await load)
  | own (missing : c.loading.lookup lookup.key = none)
      (loading : c'.loading = c.loading.insert lookup.key c.loads.length)
      (loads : c'.loads = c.loads ++ [⟨0⟩]) : LoadStep lookup c c' .begin (.query c.loads.length)
  | finish (load : ℕ) (result : Except String RelayTokenEntry) (ended : c' = c.finishLoad lookup.key load) :
      LoadStep lookup c c' (.finish load result) (.done result)

namespace AuthLookup

variable {lookup : AuthLookup} {c : RelayAuthCache}

theorem table_cached (lookup : AuthLookup) (c : RelayAuthCache) (now : Time) :
    (lookup.cached c now).1.loading = c.loading ∧ (lookup.cached c now).1.loads = c.loads := by
  cases lookup <;> exact ⟨rfl, rfl⟩

theorem table_save (lookup : AuthLookup) (c : RelayAuthCache) (entry : RelayTokenEntry) (now : Time) :
    (lookup.save c entry now).loading = c.loading ∧ (lookup.save c entry now).loads = c.loads := by
  cases lookup <;> exact ⟨rfl, rfl⟩

theorem loadStep_of_step {s s' : AuthState} {pc pc' : LookupPC} {choice : LookupChoice}
    (stepped : lookup.step s pc choice = some (s', pc')) : LoadStep lookup s.cache s'.cache pc pc' := by
  cases pc <;> cases choice <;> simp only [step, reduceCtorEq, Option.some.injEq, Prod.mk.injEq] at stepped
  case probe.proceed =>
    obtain ⟨rfl, rfl⟩ := stepped
    obtain ⟨loading, loads⟩ := lookup.table_cached s.cache s.now
    cases (lookup.cached s.cache s.now).2 with
    | some entry => exact .pass loading loads (.hit _)
    | none => exact .pass loading loads .miss
  case begin.proceed =>
    obtain ⟨rfl, rfl⟩ := stepped
    rcases s.cache.beginLoad_cases lookup.key with ⟨load, announced, begun⟩ | ⟨missing, begun⟩
    · rw [begun]
      exact .wait announced rfl rfl
    · rw [begun]
      exact .own missing rfl rfl
  case await.proceed load =>
    split at stepped
    · rename_i closed
      cases stepped
      exact .pass rfl rfl (.wake closed)
    · cases stepped
  case await.cancel load =>
    obtain ⟨rfl, rfl⟩ := stepped
    exact .pass rfl rfl (.cancel load _)
  case reprobe.proceed load =>
    obtain ⟨rfl, rfl⟩ := stepped
    obtain ⟨loading, loads⟩ := lookup.table_cached s.cache s.now
    cases (lookup.cached s.cache s.now).2 with
    | some entry => exact .pass loading loads (.found load _)
    | none => exact .pass loading loads (.again load)
  case query.proceed load =>
    cases read : lookup.query s with
    | error message =>
        rw [read] at stepped
        cases stepped
        exact .pass rfl rfl (.failed load _)
    | ok entry =>
        rw [read] at stepped
        cases lookup <;> cases stepped
        · exact .pass rfl rfl (.read load entry)
        · exact .pass rfl rfl (.answered load entry)
        · exact .pass rfl rfl (.answered load entry)
  case query.fail load =>
    obtain ⟨rfl, rfl⟩ := stepped
    exact .pass rfl rfl (.failed load _)
  case touch.proceed load entry =>
    obtain ⟨rfl, rfl⟩ := stepped
    exact .pass rfl rfl (.touched load entry)
  case touch.fail load entry =>
    obtain ⟨rfl, rfl⟩ := stepped
    exact .pass rfl rfl (.touched load entry)
  case save.proceed load entry =>
    obtain ⟨rfl, rfl⟩ := stepped
    obtain ⟨loading, loads⟩ := lookup.table_save s.cache entry s.now
    exact .pass loading loads (.saved load entry _)
  case finish.proceed load result =>
    obtain ⟨rfl, rfl⟩ := stepped
    exact .finish load result rfl

end AuthLookup

/-! ## What a lookup knows -/

/-- An owner's load is announced until it is closed, and a waiter's load has been closed. -/
def Stands (c : RelayAuthCache) : CacheThread × Role → Prop
  | (.looking lookup _ pc, .none) =>
      match pc with
      | .probe | .begin | .done _ => True
      | .await load => load < c.loads.length
      | .query load => c.loading.lookup lookup.key = some load
      | _ => False
  | (.looking _ _ pc, .waiter) =>
      match pc with
      | .reprobe load | .query load | .touch load _ | .save load _ | .finish load _ =>
          c.loadDone load = true
      | .done _ => True
      | _ => False
  | (.looking lookup _ pc, .owner own) =>
      match pc with
      | .touch load _ | .save load _ | .finish load _ =>
          load = own ∧ c.loading.lookup lookup.key = some own
      | .done _ => c.loadDone own = true
      | _ => False
  | _ => True

section Steps

variable {c c' : RelayAuthCache} {lookup : AuthLookup} {floors : Floors} {pc pc' : LookupPC} {role : Role}

/-- A lookup tolerates every change of the table except that its own load is closed. -/
theorem Stands.later {closed : Option ℕ} {thread : CacheThread × Role} (stands : Stands c thread)
    (later : RelayAuthCache.Later closed c c') (other : ∀ load, owned thread = some load → closed ≠ some load) :
    Stands c' thread := by
  obtain ⟨thread, role⟩ := thread
  cases thread with
  | looking lookup floors pc =>
      cases role with
      | none =>
          cases pc with
          | await load => exact Nat.lt_of_lt_of_le stands later.longer
          | query load => exact later.announced _ _ (other load rfl) stands
          | probe | begin | done result => trivial
          | reprobe load | touch load entry | save load entry | finish load result => exact stands.elim
      | waiter =>
          cases pc with
          | reprobe load | query load | touch load entry | save load entry | finish load result =>
              exact later.done load stands
          | done result => trivial
          | probe | begin | await load => exact stands.elim
      | owner own =>
          cases pc with
          | touch load entry | save load entry | finish load result =>
              exact ⟨stands.1, later.announced _ _ (other own rfl) stands.2⟩
          | done result => exact later.done own stands
          | probe | begin | await load | reprobe load | query load => exact stands.elim
  | clock | call lookup | mutating write scope | invalidating scope version | returned => trivial

/-- What a lookup leaves behind after one step. -/
structure Flown (c c' : RelayAuthCache) (thread thread' : CacheThread × Role) : Prop where
  flying : c'.Flying
  stands : Stands c' thread'
  later : ∃ closed, RelayAuthCache.Later closed c c' ∧ ∀ load, closed = some load → owned thread = some load
  owners : ∀ load, ownsLoad load thread' + (if load < c.loads.length then 1 else 0) =
    ownsLoad load thread + if load < c'.loads.length then 1 else 0

/-- A step that leaves the table alone, and the load that is owned. -/
theorem Flown.of_same {thread thread' : CacheThread × Role} (flying : c.Flying)
    (loading : c'.loading = c.loading) (loads : c'.loads = c.loads) (stands : Stands c thread')
    (same : owned thread' = owned thread) : Flown c c' thread thread' where
  flying := flying.of_same loading loads
  stands := stands.later (.of_same loading loads) fun _ _ impossible => nomatch impossible
  later := ⟨none, .of_same loading loads, fun _ impossible => nomatch impossible⟩
  owners := by
    intro load
    unfold ownsLoad
    rw [same, loads]

/-- **One step of a lookup keeps what is known of the table.** -/
theorem flown_of_loadStep (flying : c.Flying) (stands : Stands c (.looking lookup floors pc, role))
    (step : LoadStep lookup c c' pc pc') :
    Flown c c' (.looking lookup floors pc, role)
      (.looking lookup floors pc', Role.renew (.looking lookup floors pc) role) := by
  cases step with
  | pass loading loads passes =>
      refine .of_same flying loading loads ?_ ?_
      · cases passes with
        | hit result | miss | cancel load result => cases role <;> trivial
        | wake closed => exact closed
        | found load result | again load => cases role <;> trivial
        | read load entry | answered load entry | failed load result =>
            cases role with
            | none => exact ⟨rfl, stands⟩
            | waiter => exact stands
            | owner own => exact stands.elim
        | touched load entry | saved load entry result =>
            cases role with
            | none => exact stands.elim
            | waiter => exact stands
            | owner own => exact stands
      · cases passes <;> cases role <;> first | rfl | exact stands.elim
  | wait announced loading loads =>
      cases role with
      | none => exact .of_same flying loading loads (flying.lt_length announced) rfl
      | waiter => exact stands.elim
      | owner own => exact stands.elim
  | own missing loading loads =>
      cases role with
      | none =>
          refine ⟨flying.begin loading loads, ?_, ⟨none, RelayAuthCache.later_begin missing loading loads,
            fun _ impossible => nomatch impossible⟩, fun load => ?_⟩
          · show c'.loading.lookup lookup.key = some c.loads.length
            rw [loading, GoMap.lookup_insert_if, if_pos rfl]
          · show (if some c.loads.length = some load then 1 else 0) + _ = 0 + _
            rw [loads, List.length_append, List.length_singleton]
            simp only [Option.some.injEq]
            split <;> split <;> split <;> omega
      | waiter => exact stands.elim
      | owner own => exact stands.elim
  | finish load result ended =>
      cases role with
      | none => exact stands.elim
      | waiter =>
          -- somebody else's load, which has been closed
          rw [RelayAuthCache.finishLoad_of_done flying stands] at ended
          subst ended
          exact .of_same flying rfl rfl trivial rfl
      | owner own =>
          obtain ⟨rfl, announced⟩ := stands
          subst ended
          refine ⟨flying.finishLoad announced, RelayAuthCache.loadDone_finishLoad announced flying,
            ⟨some load, RelayAuthCache.later_finishLoad announced flying, fun other same => same⟩,
            fun other => ?_⟩
          rw [RelayAuthCache.loads_finishLoad announced, List.length_modify]
          rfl

end Steps

/-! ## Runs -/

/-- What is known of the cache and of all lookups. -/
structure Flights (config : Config CacheState (CacheThread × Role)) : Prop where
  flying : config.shared.auth.cache.Flying
  owners : ∀ load, config.total (ownsLoad load) =
    if load < config.shared.auth.cache.loads.length then 1 else 0
  stands : ∀ thread ∈ config.threads, Stands config.shared.auth.cache thread

section Runs

variable {config : Config CacheState (CacheThread × Role)} {store : Store} {now : Time}

/-- A step of one thread, from what it leaves behind. -/
theorem Flights.step {index : ℕ} {s' : CacheState} {thread thread' : CacheThread × Role}
    (flights : Flights config) (present : config.threads[index]? = some thread)
    (flown : Flown config.shared.auth.cache s'.auth.cache thread thread') :
    Flights ⟨s', config.threads.set index thread' ++ []⟩ := by
  obtain ⟨closed, later, owns⟩ := flown.later
  refine ⟨flown.flying, fun load => ?_, fun other member => ?_⟩
  · have traded := Machine.total_run (ownsLoad load) s' thread' [] present
    have counted := flown.owners load
    rw [flights.owners, List.map_nil, List.sum_nil] at traded
    simp only at traded ⊢
    omega
  · cases closed with
    | none =>
        rcases Machine.mem_threads_of_step member with rfl | impossible | old
        · exact flown.stands
        · cases impossible
        · exact (flights.stands other old).later later fun _ _ impossible => nomatch impossible
    | some load =>
        rcases Machine.mem_threads_beside (ownsLoad load) present member with
          rfl | impossible | ⟨old, counted⟩
        · exact flown.stands
        · cases impossible
        · refine (flights.stands other old).later later fun own owner same => ?_
          -- the load that is closed has one owner, the thread that stepped
          cases same
          unfold ownsLoad at counted
          rw [if_pos owner, if_pos (owns load rfl)] at counted
          have single := flights.owners load
          unfold ownsLoad at single
          rw [single] at counted
          split at counted <;> omega

/-- What arrives owns nothing. -/
theorem owned_of_entry {thread : CacheThread × Role} (arrives : flights.entry thread = true) :
    owned thread = none ∧ ∀ c, Stands c thread := by
  obtain ⟨thread, role⟩ := thread
  cases thread <;> first | exact ⟨rfl, fun _ => trivial⟩ | cases arrives

/-- One step of the machine. -/
theorem flown_of_step {c : CacheState} {thread thread' : CacheThread × Role} {s' : CacheState}
    {choice : CacheChoice} {spawned : List (CacheThread × Role)} (flying : c.auth.cache.Flying)
    (stands : Stands c.auth.cache thread)
    (stepped : flights.step c thread choice = some (s', thread', spawned)) :
    Flown c.auth.cache s'.auth.cache thread thread' ∧ spawned = [] := by
  obtain ⟨spawned', below, role, rfl⟩ := Machine.of_annotate_step stepped
  obtain ⟨thread, before⟩ := thread
  obtain ⟨thread', after⟩ := thread'
  simp only at below role
  subst role
  cases thread with
  | clock =>
      cases choice <;> cases below
      exact ⟨.of_same flying rfl rfl trivial rfl, rfl⟩
  | call lookup =>
      cases choice with
      | lookup choice =>
          obtain ⟨⟨s', pc'⟩, looked, built⟩ := Option.map_eq_some_iff.mp below
          cases built
          have begins : Stands c.auth.cache (.looking lookup c.floors .probe, .none) := trivial
          have flown := flown_of_loadStep flying begins (AuthLookup.loadStep_of_step looked)
          exact ⟨⟨flown.flying, flown.stands, flown.later, flown.owners⟩, rfl⟩
      | tick elapsed => cases below
      | go => cases below
  | looking lookup floors pc =>
      cases choice with
      | lookup choice =>
          obtain ⟨⟨s', pc'⟩, looked, built⟩ := Option.map_eq_some_iff.mp below
          cases built
          exact ⟨flown_of_loadStep flying stands (AuthLookup.loadStep_of_step looked), rfl⟩
      | tick elapsed => cases below
      | go => cases below
  | mutating write scope =>
      cases choice <;> cases below
      exact ⟨.of_same flying rfl rfl trivial rfl, rfl⟩
  | invalidating scope version =>
      cases choice <;> cases below
      cases scope <;> exact ⟨.of_same flying rfl rfl trivial rfl, rfl⟩
  | returned => cases choice <;> cases below

theorem flights_of_reachable (reached : flights.Reachable (flightsStart store now) config) :
    Flights config := by
  refine reached.reachable_invariant Flights ⟨RelayAuthCache.flying_newRelayAuthCache, fun _ => rfl,
    fun _ impossible => (List.not_mem_nil impossible).elim⟩ ?_ ?_
  · intro config thread known arrives
    obtain ⟨idle, stands⟩ := owned_of_entry arrives
    refine ⟨known.flying, fun load => ?_, fun other member => ?_⟩
    · rw [Config.total_arrive, known.owners]
      unfold ownsLoad
      rw [idle]
      rfl
    · rcases List.mem_append.mp member with old | new
      · exact known.stands other old
      · rw [List.mem_singleton.mp new]
        exact stands _
  · intro config index choice thread s' thread' spawned known present stepped
    obtain ⟨flown, rfl⟩ := flown_of_step known.flying
      (known.stands thread (List.mem_of_getElem? present)) stepped
    exact known.step present flown

/-- What single flight comes to. -/
structure SingleFlight (config : Config CacheState (CacheThread × Role)) : Prop where
  /-- the channel of a load is closed at most once -/
  once : ∀ record ∈ config.shared.auth.cache.loads, record.closings ≤ 1
  /-- a load has one owner -/
  owner : ∀ load < config.shared.auth.cache.loads.length, config.total (ownsLoad load) = 1
  /-- and is closed exactly when its owner has returned -/
  closed : ∀ thread ∈ config.threads, ∀ load, owned thread = some load →
    (config.shared.auth.cache.loadDone load = true ↔ thread.1.Returned)
  /-- the table holds the loads whose owners are under way, under their keys -/
  table : ∀ key load, config.shared.auth.cache.loading.lookup key = some load ↔
    ∃ thread ∈ config.threads, flight thread = some (key, load)
  /-- and none that is finished -/
  running : ∀ key load, config.shared.auth.cache.loading.lookup key = some load →
    config.shared.auth.cache.loadDone load = false
  /-- what a waiter waits for has an owner, and when it has returned the waiter can go on -/
  woken : ∀ waiter ∈ config.threads, ∀ load, waiter.1.awaits = some load →
    (∃ thread ∈ config.threads, owned thread = some load) ∧
      ∀ thread ∈ config.threads, owned thread = some load → thread.1.Returned →
        (flights.step config.shared waiter (.lookup .proceed)).isSome

/-- A load that has been begun has an owner. -/
theorem Flights.exists_owner (known : Flights config) {load : ℕ}
    (begun : load < config.shared.auth.cache.loads.length) :
    ∃ thread ∈ config.threads, owned thread = some load := by
  have counted := known.owners load
  rw [if_pos begun] at counted
  by_contra none
  have zero : config.total (ownsLoad load) = 0 := by
    unfold Config.total
    rw [List.sum_eq_zero_iff]
    intro weight listed
    obtain ⟨thread, member, rfl⟩ := List.mem_map.mp listed
    exact if_neg fun own => none ⟨thread, member, own⟩
  rw [zero] at counted
  cases counted

/-- An owner has returned and its load is closed, or it is under way and its load is announced. -/
theorem Stands.of_owned {c : RelayAuthCache} {thread : CacheThread × Role} {load : ℕ}
    (stands : Stands c thread) (own : owned thread = some load) :
    (thread.1.Returned ∧ c.loadDone load = true ∧ flight thread = none) ∨
      ∃ key, ¬ thread.1.Returned ∧ c.loading.lookup key = some load ∧
        flight thread = some (key, load) := by
  obtain ⟨thread, role⟩ := thread
  cases thread with
  | looking lookup floors pc =>
      cases role with
      | none =>
          cases pc with
          | query before =>
              cases own
              exact Or.inr ⟨lookup.key, id, stands, rfl⟩
          | _ => cases own
      | waiter => cases pc <;> cases own
      | owner before =>
          cases pc with
          | touch held entry | save held entry | finish held result =>
              cases own
              exact Or.inr ⟨lookup.key, id, stands.2, rfl⟩
          | done result =>
              cases own
              exact Or.inl ⟨trivial, stands, rfl⟩
          | _ => exact stands.elim
  | _ => cases own

theorem owned_of_flight {thread : CacheThread × Role} {key : String} {load : ℕ}
    (flies : flight thread = some (key, load)) : owned thread = some load := by
  unfold flight at flies
  split at flies
  · cases flies
  · obtain ⟨own, held, built⟩ := Option.map_eq_some_iff.mp flies
    cases built
    exact held
  · cases flies

theorem Stands.lt_of_awaits {c : RelayAuthCache} {thread : CacheThread × Role} {load : ℕ}
    (stands : Stands c thread) (waits : thread.1.awaits = some load) : load < c.loads.length := by
  obtain ⟨thread, role⟩ := thread
  unfold CacheThread.awaits at waits
  simp only at waits
  split at waits
  · cases waits
    cases role with
    | none => exact stands
    | waiter | owner own => exact stands.elim
  · cases waits

/-- A lookup that waits for a load can go on when the load is closed. -/
theorem step_of_done {s : CacheState} {thread : CacheThread × Role} {load : ℕ}
    (waits : thread.1.awaits = some load) (done : s.auth.cache.loadDone load = true) :
    (flights.step s thread (.lookup .proceed)).isSome := by
  obtain ⟨thread, role⟩ := thread
  unfold CacheThread.awaits at waits
  simp only at waits
  split at waits
  · rename_i lookup floors before
    cases waits
    have woken : lookup.step s.auth (.await load) .proceed = some (s.auth, .reprobe load) := if_pos done
    show (Option.map _ (Option.map _ (lookup.step s.auth (.await load) .proceed))).isSome
    rw [woken]
    rfl
  · cases waits

/-- **Single flight.**  However lookups, mutations, invalidations and the clock interleave, a load is
closed once and by its owner, the table holds exactly the loads that are under way, one for each key at
most, and nobody is left waiting for a load whose owner has returned. -/
theorem singleFlight_of_reachable (reached : flights.Reachable (flightsStart store now) config) :
    SingleFlight config := by
  have known := flights_of_reachable reached
  refine ⟨known.flying.once, fun load begun => ?_, fun thread member load own => ?_,
    fun key load => ⟨fun announced => ?_, ?_⟩, fun key load => known.flying.not_loadDone, ?_⟩
  · rw [known.owners, if_pos begun]
  · rcases (known.stands thread member).of_owned own with ⟨returned, done, -⟩ | ⟨key, away, announced, -⟩
    · exact iff_of_true done returned
    · refine iff_of_false (fun done => ?_) away
      rw [known.flying.not_loadDone announced] at done
      cases done
  · obtain ⟨thread, member, own⟩ := known.exists_owner (known.flying.lt_length announced)
    rcases (known.stands thread member).of_owned own with ⟨-, done, -⟩ | ⟨other, -, also, flies⟩
    · rw [known.flying.not_loadDone announced] at done
      cases done
    · rw [known.flying.apart key other load announced also]
      exact ⟨thread, member, flies⟩
  · rintro ⟨thread, member, flies⟩
    rcases (known.stands thread member).of_owned (owned_of_flight flies) with ⟨-, -, landed⟩ |
      ⟨other, -, announced, also⟩
    · rw [landed] at flies
      cases flies
    · rw [also] at flies
      cases flies
      exact announced
  · intro waiter member load waits
    have begun : load < config.shared.auth.cache.loads.length :=
      (known.stands waiter member).lt_of_awaits waits
    refine ⟨known.exists_owner begun, fun thread there own returned => ?_⟩
    rcases (known.stands thread there).of_owned own with ⟨-, done, -⟩ | ⟨key, away, -⟩
    · exact step_of_done waits done
    · exact absurd returned away

end Runs

/-- The owner's query fails while another lookup waits.  The waiter goes to the store with the load of the
first one, and meanwhile a third lookup has announced the next. -/
theorem singleFlight_of_reachable_failed :
    ∃ config, flights.Reachable (flightsStart .empty 0) config ∧
      config.shared.auth.cache.loads = [⟨1⟩, ⟨0⟩] ∧
      config.shared.auth.cache.loading.lookup "token:secret" = some 1 ∧
      config.threads.map owned = [some 0, none, some 1] ∧ SingleFlight config := by
  let call : CacheThread × Role := (.call (.authenticate "secret"), .none)
  let steps (index count : ℕ) : List (Move (CacheThread × Role) CacheChoice) :=
    List.replicate count (.run index (.lookup .proceed))
  obtain ⟨config, reached, loads, announced, owners⟩ :
      ∃ config, flights.Reachable (flightsStart .empty 0) config ∧
        config.shared.auth.cache.loads = [⟨1⟩, ⟨0⟩] ∧
        config.shared.auth.cache.loading.lookup "token:secret" = some 1 ∧
        config.threads.map owned = [some 0, none, some 1] := by
    refine Machine.exists_run_of_replay
      (.arrive call :: .arrive call :: .arrive call :: steps 0 2 ++ steps 1 2 ++
        .run 0 (.lookup .fail) :: steps 0 1 ++ steps 2 2 ++ steps 1 2 ++
        .run 1 (.lookup .fail) :: steps 1 1) ?_
    decide +kernel
  exact ⟨config, reached, loads, announced, owners, singleFlight_of_reachable reached⟩

end NryNet.Relay
