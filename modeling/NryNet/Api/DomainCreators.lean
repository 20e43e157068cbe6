import Mathlib.Logic.Relation
import NryNet.Lib.ThreadPool
import NryNet.Api.AutoDomains

/-!
# Creators at the same time (`server/api/auto_domains.go`)

Requests are served concurrently.  Between the statement that fails because a domain is in use and the
look at the database, and before the next attempt, others may store their tunnels.  A `Creator` is a
request on its way; its statements are those of the loop of `createTunnel`, one at a time, and
`uuid.NewString` returns identifiers that no tunnel has.

The rows only become more, so what a creator has met with in use stays in use.  Since no two of its
candidates are the same, it has made no more attempts than there are tunnels.
-/

namespace NryNet.TunnelApi

open GoText Tunnels ThreadPool

/-- Where the loop stands. -/
inductive Phase where
  /-- in front of `CreateTunnel` -/
  | writing (attempt : ℕ)
  /-- in front of `DomainInUse`, with the error of `CreateTunnel` -/
  | looking (attempt : ℕ) (domain err : String)
  | returned (result : Except String Tunnel)
  deriving DecidableEq

/-- A request for a tunnel without a domain. -/
structure Creator where
  tunnel : Tunnel
  slug : String
  baseDomain : String
  phase : Phase
  deriving DecidableEq

/-- What a statement meets with. -/
structure Answer where
  id : String
  uuid : String
  now : Time

section Program

variable [CaseTable]

/-- The loop, behind `CreateTunnel`. -/
def Creator.wrote (creator : Creator) (attempt : ℕ) (domain : String) (result : Except String Tunnel) :
    Creator :=
  { creator with
    phase :=
      match result with
      | .ok created => .returned (.ok created)
      | .error err =>
          if isDomainConflict err then .looking attempt domain err else .returned (.error err) }

/-- The loop, behind `DomainInUse`. -/
def Creator.looked (creator : Creator) (attempt : ℕ) (err : String) (taken : Bool) : Creator :=
  { creator with phase := if taken then .writing (attempt + 1) else .returned (.error err) }

/-- The loop of `createTunnel`, statement by statement. -/
def Creator.step (trafficLogs : List TrafficRow) (m : Manager) (creator : Creator) (answer : Answer) :
    Option (Manager × Creator) :=
  match creator.phase with
  | .writing attempt =>
      match candidateDomain creator.slug creator.baseDomain attempt with
      | .error err => some (m, { creator with phase := .returned (.error err) })
      | .ok domain =>
          if answer.id ∈ m.store.tunnels.map Tunnel.id then none
          else
            (write (Database.createTunnel { creator.tunnel with domain := domain } answer.id answer.uuid
              answer.now) trafficLogs none m).map fun (m', _, result) =>
                (m', creator.wrote attempt domain result)
  | .looking attempt domain err =>
      (domainInUse (toLower creator.tunnel.protocol) domain m).map fun (m', _, taken) =>
        (m', creator.looked attempt err taken)
  | .returned _ => none

/-- A creator that has read the settings. -/
def Creator.begins (creator : Creator) : Prop :=
  needsAutoDomain creator.tunnel ∧ creator.slug = slugText creator.tunnel.name ∧
    validateDomain creator.baseDomain = .ok () ∧ creator.phase = .writing 0

instance (creator : Creator) : Decidable creator.begins :=
  inferInstanceAs (Decidable (_ ∧ _))

/-- The server. -/
def creators (trafficLogs : List TrafficRow) : Machine Manager Creator Answer where
  entry creator := decide creator.begins
  step m creator answer :=
    (creator.step trafficLogs m answer).map fun (m', creator') => (m', creator', [])

end Program

/-! ## One statement -/

section Statements

variable [CaseTable] {trafficLogs : List TrafficRow} {m m' : Manager} {creator creator' : Creator}
variable {answer : Answer}

/-- `CreateTunnel` changes nothing, or adds a row. -/
theorem write_inserts {tunnel : Tunnel} {id uuid : String} {now : Time} {log : List Snapshot}
    {result : Except String Tunnel}
    (wrote : write (Database.createTunnel tunnel id uuid now) trafficLogs none m =
      some (m', log, result)) :
    (m' = m ∧ ∃ err, result = .error err) ∨
      ∃ created, result = .ok created ∧ m'.store.tunnels = m.store.tunnels ++ [created] ∧
        m'.store.clients = m.store.clients ∧ (tables m'.store trafficLogs).Valid := by
  unfold write at wrote
  rcases Database.createTunnel_cases tunnel id uuid now (tables m.store trafficLogs) with
    ⟨message, failed⟩ | ⟨-, fine, inserted⟩
  · rw [failed] at wrote
    cases wrote
    exact Or.inl ⟨rfl, message, rfl⟩
  · rw [inserted] at wrote
    simp only at wrote
    rw [dif_pos fine] at wrote
    cases wrote
    exact Or.inr ⟨_, rfl, rfl, rfl, Database.violation_eq_none.mp fine⟩

theorem manager_of_domainInUse {protocol domain : String} {log : List Snapshot} {taken : Bool}
    (looked : domainInUse protocol domain m = some (m', log, taken)) : m' = m := by
  unfold domainInUse at looked
  split at looked <;> cases looked <;> rfl

/-- The request of a creator. -/
def Creator.request (creator : Creator) : Tunnel × String × String :=
  (creator.tunnel, creator.slug, creator.baseDomain)

theorem request_wrote (creator : Creator) (attempt : ℕ) (domain : String)
    (result : Except String Tunnel) :
    (creator.wrote attempt domain result).request = creator.request := rfl

/-- What a statement does to the tables: nothing, or it adds the row that the creator returns. -/
theorem step_tables (intact : (tables m.store trafficLogs).Valid)
    (stepped : creator.step trafficLogs m answer = some (m', creator')) :
    creator'.request = creator.request ∧ m'.store.clients = m.store.clients ∧
      (tables m'.store trafficLogs).Valid ∧
      (m' = m ∨ ∃ created, creator'.phase = .returned (.ok created) ∧
        m'.store.tunnels = m.store.tunnels ++ [created]) := by
  unfold Creator.step at stepped
  split at stepped
  · split at stepped
    · cases stepped
      exact ⟨rfl, rfl, intact, Or.inl rfl⟩
    · rename_i attempt _ domain _
      split at stepped
      · cases stepped
      · obtain ⟨⟨_, log, result⟩, wrote, built⟩ := Option.map_eq_some_iff.mp stepped
        cases built
        rcases write_inserts wrote with ⟨rfl, -⟩ | ⟨created, rfl, rows, clients, valid⟩
        · exact ⟨rfl, rfl, intact, Or.inl rfl⟩
        · exact ⟨rfl, clients, valid, Or.inr ⟨created, rfl, rows⟩⟩
  · obtain ⟨⟨_, log, taken⟩, looked, built⟩ := Option.map_eq_some_iff.mp stepped
    cases built
    obtain rfl := manager_of_domainInUse looked
    exact ⟨rfl, rfl, intact, Or.inl rfl⟩
  · cases stepped

/-! ## Where a creator stands -/

/-- What a creator has come to with the candidate of this number. -/
def Creator.GotAt (creator : Creator) (m : Manager) (result : Except String Tunnel) (n : ℕ) : Prop :=
  match candidateDomain creator.slug creator.baseDomain n with
  | .ok domain => ∃ created ∈ m.store.tunnels, result = .ok created ∧ created.domain = domain ∧
      created.protocol = toLower creator.tunnel.protocol
  | .error err => result = .error err ∧ (n < 2 ^ 63 → err = "generated domain is too long")

/-- The candidates in front of this one are in use. -/
def Creator.Tried (creator : Creator) (m : Manager) (n : ℕ) : Prop :=
  Candidates.Used (candidate creator.slug creator.baseDomain)
    (domainsOf (toLower creator.tunnel.protocol) m.store.tunnels) n

/-- What a creator knows about the tables. -/
def Creator.Stands (creator : Creator) (m : Manager) : Prop :=
  match creator.phase with
  | .writing n => creator.Tried m n
  | .looking n domain _ =>
      creator.Tried m n ∧ candidateDomain creator.slug creator.baseDomain n = .ok domain ∧
        domain ∈ domainsOf (toLower creator.tunnel.protocol) m.store.tunnels
  | .returned result => ∃ n, creator.Tried m n ∧ creator.GotAt m result n

/-- A creator whose request lacks nothing but a domain, and whose slug does not make an address of the
base domain. -/
structure Creator.Eligible (creator : Creator) (clients : List Client) : Prop where
  lacking : Lacking clients creator.tunnel creator.baseDomain
  slug : creator.slug = slugText creator.tunnel.name
  base : validateDomain creator.baseDomain = .ok ()
  apart : isAddress creator.slug creator.baseDomain = false

theorem Creator.Eligible.isSlug {clients : List Client} (eligible : creator.Eligible clients) :
    IsSlug creator.slug.toList :=
  eligible.slug ▸ isSlug_slugText creator.tunnel.name

theorem Creator.Eligible.of_request {clients : List Client} (eligible : creator.Eligible clients)
    (same : creator'.request = creator.request) : creator'.Eligible clients := by
  obtain ⟨tunnel, rest⟩ := Prod.mk.inj same
  obtain ⟨slug, base⟩ := Prod.mk.inj rest
  obtain ⟨lacking, named, valid, apart⟩ := eligible
  exact ⟨tunnel ▸ base ▸ lacking, tunnel ▸ slug ▸ named, base ▸ valid, slug ▸ base ▸ apart⟩

/-- What a creator knows stays true while tunnels are added. -/
theorem Creator.Stands.mono (stands : creator.Stands m) (subset : m.store.tunnels ⊆ m'.store.tunnels) :
    creator.Stands m' := by
  have more : domainsOf (toLower creator.tunnel.protocol) m.store.tunnels ⊆
      domainsOf (toLower creator.tunnel.protocol) m'.store.tunnels := domainsOf_subset subset
  have tried {n : ℕ} (before : creator.Tried m n) : creator.Tried m' n := before.mono more
  unfold Creator.Stands at stands ⊢
  split at stands
  · exact tried stands
  · exact ⟨tried stands.1, stands.2.1, more stands.2.2⟩
  · obtain ⟨n, before, got⟩ := stands
    refine ⟨n, tried before, ?_⟩
    unfold Creator.GotAt at got ⊢
    split at got
    · obtain ⟨created, member, same⟩ := got
      exact ⟨created, subset member, same⟩
    · exact got

theorem stands_of_looking {n : ℕ} {domain err : String} (same : creator'.request = creator.request)
    (phase : creator'.phase = .looking n domain err) (tried : creator.Tried m n)
    (found : candidateDomain creator.slug creator.baseDomain n = .ok domain)
    (held : domain ∈ domainsOf (toLower creator.tunnel.protocol) m.store.tunnels) :
    creator'.Stands m := by
  obtain ⟨tunnel, slug, base, before⟩ := creator
  obtain ⟨tunnel', slug', base', after⟩ := creator'
  cases same
  cases phase
  exact ⟨tried, found, held⟩

theorem stands_of_returned {result : Except String Tunnel} {n : ℕ}
    (same : creator'.request = creator.request) (phase : creator'.phase = .returned result)
    (tried : creator.Tried m n) (got : creator.GotAt m result n) : creator'.Stands m := by
  obtain ⟨tunnel, slug, base, before⟩ := creator
  obtain ⟨tunnel', slug', base', after⟩ := creator'
  cases same
  cases phase
  exact ⟨n, tried, got⟩

/-- `CreateTunnel`, with this candidate. -/
theorem Creator.Tried.wrote {attempt : ℕ} {domain : String} {log : List Snapshot}
    {result : Except String Tunnel} (tried : creator.Tried m attempt)
    (eligible : creator.Eligible m.store.clients) (intact : (tables m.store trafficLogs).Valid)
    (found : candidateDomain creator.slug creator.baseDomain attempt = .ok domain)
    (fresh : answer.id ∉ m.store.tunnels.map Tunnel.id)
    (wrote : write (Database.createTunnel { creator.tunnel with domain := domain } answer.id answer.uuid
      answer.now) trafficLogs none m = some (m', log, result)) :
    (creator.wrote attempt domain result).Stands m' := by
  have valid := validateDomain_candidate eligible.base eligible.apart found
  rcases write_attempt eligible.lacking eligible.base valid intact fresh answer.uuid answer.now
    with ⟨held, failed⟩ | ⟨-, store, inserted, rows, -⟩
  · obtain ⟨rfl, rest⟩ := Prod.mk.inj (Option.some.inj (failed.symm.trans wrote))
    obtain ⟨-, rfl⟩ := Prod.mk.inj rest
    have looking : (creator.wrote attempt domain (.error domainConflict)).phase =
        .looking attempt domain domainConflict := by
      simp only [Creator.wrote, isDomainConflict_domainConflict, if_true]
    have same := request_wrote creator attempt domain (.error domainConflict)
    generalize creator.wrote attempt domain (.error domainConflict) = next at same looking ⊢
    exact stands_of_looking same looking tried found held
  · obtain ⟨rfl, rest⟩ := Prod.mk.inj (Option.some.inj (inserted.symm.trans wrote))
    obtain ⟨-, rfl⟩ := Prod.mk.inj rest
    have before : creator.Tried { m with store := store } attempt := by
      refine tried.mono (domainsOf_subset ?_)
      rw [rows]
      exact List.subset_append_left _ _
    refine stands_of_returned (request_wrote creator attempt domain _) rfl before ?_
    unfold Creator.GotAt
    rw [found]
    refine ⟨_, ?_, rfl, attempted_domain valid _ _ _, rfl⟩
    rw [rows]
    exact List.mem_append_right _ (List.mem_singleton_self _)

/-- **A statement of a creator keeps what it knows.** -/
theorem Creator.Stands.step (stands : creator.Stands m) (eligible : creator.Eligible m.store.clients)
    (intact : (tables m.store trafficLogs).Valid)
    (stepped : creator.step trafficLogs m answer = some (m', creator')) : creator'.Stands m' := by
  unfold Creator.Stands at stands
  unfold Creator.step at stepped
  cases phase : creator.phase with
  | writing attempt =>
      rw [phase] at stands stepped
      simp only at stands stepped
      cases found : candidateDomain creator.slug creator.baseDomain attempt with
      | error err =>
          rw [found] at stepped
          obtain ⟨rfl, rfl⟩ := Prod.mk.inj (Option.some.inj stepped)
          have same : ({ creator with phase := .returned (.error err) } : Creator).request =
            creator.request := rfl
          refine stands_of_returned same rfl stands ?_
          unfold Creator.GotAt
          rw [found]
          exact ⟨rfl, fun small =>
            (candidateDomain_error eligible.isSlug eligible.base small found).1⟩
      | ok domain =>
          rw [found] at stepped
          simp only at stepped
          split at stepped
          · cases stepped
          · rename_i fresh
            obtain ⟨⟨_, log, result⟩, wrote, built⟩ := Option.map_eq_some_iff.mp stepped
            obtain ⟨rfl, rfl⟩ := Prod.mk.inj built
            exact Creator.Tried.wrote stands eligible intact found fresh wrote
  | looking attempt domain err =>
      rw [phase] at stands stepped
      obtain ⟨tried, found, held⟩ := stands
      have valid := validateDomain_candidate eligible.base eligible.apart found
      simp only [domainInUse_of_mem eligible.lacking.auto valid held] at stepped
      obtain ⟨rfl, rfl⟩ := Prod.mk.inj (Option.some.inj stepped)
      exact Candidates.Used.succ tried (candidate_eq_some.mpr found) held
  | returned result =>
      rw [phase] at stepped
      cases stepped

/-- A creator that has not returned can go on. -/
theorem step_enabled (eligible : creator.Eligible m.store.clients) (stands : creator.Stands m)
    (intact : (tables m.store trafficLogs).Valid) (fresh : answer.id ∉ m.store.tunnels.map Tunnel.id) :
    (∃ result, creator.phase = .returned result) ∨
      (creator.step trafficLogs m answer).isSome = true := by
  unfold Creator.Stands at stands
  unfold Creator.step
  cases phase : creator.phase with
  | returned result => exact Or.inl ⟨result, rfl⟩
  | looking attempt domain err =>
      rw [phase] at stands
      obtain ⟨-, found, held⟩ := stands
      have valid := validateDomain_candidate eligible.base eligible.apart found
      simp only [domainInUse_of_mem eligible.lacking.auto valid held]
      exact Or.inr rfl
  | writing attempt =>
      refine Or.inr ?_
      simp only
      cases found : candidateDomain creator.slug creator.baseDomain attempt with
      | error err => rfl
      | ok domain =>
          have valid := validateDomain_candidate eligible.base eligible.apart found
          simp only [if_neg fresh]
          rcases write_attempt eligible.lacking eligible.base valid intact fresh answer.uuid answer.now
            with ⟨-, wrote⟩ | ⟨-, store, wrote, -⟩
          · rw [wrote]
            rfl
          · rw [wrote]
            rfl

/-- The attempts are no more than the tunnels. -/
theorem Creator.Tried.le {n : ℕ} (tried : creator.Tried m n) (is : IsSlug creator.slug.toList) :
    n ≤ m.store.tunnels.length :=
  (Candidates.length_le_of_used (distinct_candidate is creator.baseDomain) tried).trans
    (length_domainsOf _ _)

/-! ## How many statements are left -/

/-- How many statements a creator has before it, if there are never more than `bound` tunnels. -/
def Creator.left (bound : ℕ) (creator : Creator) : ℕ :=
  match creator.phase with
  | .writing n => 2 * (bound - n) + 2
  | .looking n _ _ => 2 * (bound - n) + 1
  | .returned _ => 0

/-- A statement is one less. -/
theorem left_step {bound : ℕ} (stepped : creator.step trafficLogs m answer = some (m', creator'))
    (stands : creator'.Stands m') (is : IsSlug creator'.slug.toList)
    (rows : m'.store.tunnels.length ≤ bound) : creator'.left bound + 1 ≤ creator.left bound := by
  unfold Creator.step at stepped
  split at stepped
  · rename_i attempt phase
    have before : creator.left bound = 2 * (bound - attempt) + 2 := by
      unfold Creator.left
      rw [phase]
    split at stepped
    · cases stepped
      rw [before]
      exact Nat.succ_le_succ (Nat.zero_le _)
    · rename_i domain _
      split at stepped
      · cases stepped
      · obtain ⟨⟨_, log, result⟩, wrote, built⟩ := Option.map_eq_some_iff.mp stepped
        cases built
        rw [before]
        cases result with
        | ok created => exact Nat.succ_le_succ (Nat.zero_le _)
        | error err =>
            by_cases conflict : isDomainConflict err = true
            · have looking : (creator.wrote attempt domain (.error err)).phase =
                  .looking attempt domain err := by
                simp only [Creator.wrote, conflict, if_true]
              unfold Creator.left
              rw [looking]
            · have returned : (creator.wrote attempt domain (.error err)).phase =
                  .returned (.error err) := by
                simp only [Creator.wrote, conflict, Bool.false_eq_true, if_false]
              unfold Creator.left
              rw [returned]
              exact Nat.succ_le_succ (Nat.zero_le _)
  · rename_i attempt domain err phase
    have before : creator.left bound = 2 * (bound - attempt) + 1 := by
      unfold Creator.left
      rw [phase]
    obtain ⟨⟨_, log, taken⟩, looked, built⟩ := Option.map_eq_some_iff.mp stepped
    cases built
    rw [before]
    cases taken with
    | false => exact Nat.succ_le_succ (Nat.zero_le _)
    | true =>
        have tried : (creator.looked attempt err true).Tried m' (attempt + 1) := stands
        have most := tried.le is
        change 2 * (bound - (attempt + 1)) + 2 + 1 ≤ _
        omega
  · cases stepped

end Statements

/-! ## Runs -/

section Runs

variable [CaseTable] {trafficLogs : List TrafficRow} {m : Manager}
variable {config config' : Config Manager Creator}

/-- Every creator that has returned has stored one tunnel at most. -/
def returned (creator : Creator) : ℕ :=
  match creator.phase with
  | .returned _ => 1
  | _ => 0

omit [CaseTable] in
theorem returned_le (creator : Creator) : returned creator ≤ 1 := by
  unfold returned
  split
  · exact Nat.le_refl _
  · exact Nat.zero_le _

theorem returned_of_step {shared shared' : Manager} {creator creator' : Creator} {answer : Answer}
    (stepped : creator.step trafficLogs shared answer = some (shared', creator')) :
    returned creator = 0 := by
  unfold Creator.step at stepped
  unfold returned
  split at stepped
  · rename_i phase
    rw [phase]
  · rename_i phase
    rw [phase]
  · cases stepped

/-- What holds of the server, whatever has happened since it began with the tables of `m`. -/
structure Serves (trafficLogs : List TrafficRow) (m : Manager) (config : Config Manager Creator) :
    Prop where
  clients : config.shared.store.clients = m.store.clients
  intact : (tables config.shared.store trafficLogs).Valid
  rows : config.shared.store.tunnels.length ≤ m.store.tunnels.length + config.total returned
  stands : ∀ creator ∈ config.threads, creator.Eligible m.store.clients → creator.Stands config.shared

/-- A move of the server: somebody arrives, or one creator makes one statement. -/
theorem exec_cases {move : Move Creator Answer}
    (moved : (creators trafficLogs).exec config move = some config') :
    (∃ creator, move = .arrive creator ∧ creator.begins ∧
      config' = { config with threads := config.threads ++ [creator] }) ∨
    ∃ index answer creator shared' creator', move = .run index answer ∧
      config.threads[index]? = some creator ∧
      creator.step trafficLogs config.shared answer = some (shared', creator') ∧
      config' = { shared := shared', threads := config.threads.set index creator' } := by
  cases move with
  | arrive creator =>
      obtain ⟨admitted, rfl⟩ := Machine.exec_arrive moved
      exact Or.inl ⟨creator, rfl, of_decide_eq_true admitted, rfl⟩
  | run index answer =>
      obtain ⟨creator, shared', creator', spawned, present, stepped, rfl⟩ := Machine.exec_run moved
      obtain ⟨⟨_, _⟩, taken, built⟩ := Option.map_eq_some_iff.mp stepped
      cases built
      exact Or.inr ⟨index, answer, creator, shared', creator', rfl, present, taken,
        congrArg (Config.mk shared') (List.append_nil _)⟩

theorem serves_of_exec {move : Move Creator Answer} (serves : Serves trafficLogs m config)
    (moved : (creators trafficLogs).exec config move = some config') : Serves trafficLogs m config' := by
  obtain ⟨clients, intact, rows, stands⟩ := serves
  rcases exec_cases moved with ⟨creator, -, begins, rfl⟩ |
    ⟨index, answer, creator, shared', creator', -, present, taken, rfl⟩
  · refine ⟨clients, intact, ?_, fun other member eligible => ?_⟩
    · rw [Config.total_arrive]
      exact rows.trans (Nat.add_le_add_left (Nat.le_add_right _ _) _)
    · rcases List.mem_append.mp member with old | new
      · exact stands other old eligible
      · rw [List.mem_singleton.mp new]
        unfold Creator.Stands
        rw [begins.2.2.2]
        exact fun attempt below => absurd below (Nat.not_lt_zero attempt)
  · obtain ⟨same, kept, valid, added⟩ := step_tables intact taken
    have traded := Machine.total_set returned creator' present
    have running := returned_of_step taken
    have subset : config.shared.store.tunnels ⊆ shared'.store.tunnels := by
      rcases added with rfl | ⟨created, -, more⟩
      · exact List.Subset.refl _
      · rw [more]
        exact List.subset_append_left _ _
    refine ⟨kept.trans clients, valid, ?_, fun other among eligible => ?_⟩
    · unfold Config.total at rows ⊢
      rcases added with rfl | ⟨created, phase, more⟩
      · simp only
        omega
      · have stored : returned creator' = 1 := by
          unfold returned
          rw [phase]
        simp only [more, List.length_append, List.length_singleton]
        omega
    · rcases List.mem_or_eq_of_mem_set among with old | rfl
      · exact (stands other old eligible).mono subset
      · have before := eligible.of_request same.symm
        exact (stands creator (List.mem_of_getElem? present) before).step (clients ▸ before) intact taken

omit [CaseTable] in
theorem total_le (config : Config Manager Creator) : config.total returned ≤ config.threads.length := by
  unfold Config.total
  refine (List.sum_le_card_nsmul _ 1 fun count listed => ?_).trans ?_
  · obtain ⟨creator, -, rfl⟩ := List.mem_map.mp listed
    exact returned_le creator
  · rw [List.length_map, nsmul_one]
    rfl

/-- Nobody leaves. -/
theorem threads_le {moves : List (Move Creator Answer)}
    (replayed : (creators trafficLogs).replay (fun _ _ => True) config moves = some config') :
    config.threads.length ≤ config'.threads.length := by
  induction moves generalizing config with
  | nil =>
      cases replayed
      exact Nat.le_refl _
  | cons move rest ih =>
      rw [Machine.replay, if_pos trivial, Option.bind_eq_some_iff] at replayed
      obtain ⟨next, moved, later⟩ := replayed
      refine le_trans ?_ (ih later)
      cases move with
      | arrive creator =>
          obtain ⟨-, rfl⟩ := Machine.exec_arrive moved
          rw [List.length_append]
          exact Nat.le_add_right _ _
      | run index answer =>
          obtain ⟨_, _, _, _, _, _, rfl⟩ := Machine.exec_run moved
          rw [List.length_append, List.length_set]
          exact Nat.le_add_right _ _

/-- The move is a statement of this creator. -/
def isOf (index : ℕ) : Move Creator Answer → Bool
  | .arrive _ => false
  | .run other _ => index = other

/-- How many statements the creator of this number can make, if it has arrived already. -/
def leftOf (bound index : ℕ) (config : Config Manager Creator) : ℕ :=
  match config.threads[index]? with
  | some creator => creator.left bound
  | none => 2 * bound + 2

/-- The request of a creator stays what it is. -/
theorem request_of_replay {moves : List (Move Creator Answer)} (serves : Serves trafficLogs m config)
    (replayed : (creators trafficLogs).replay (fun _ _ => True) config moves = some config')
    {index : ℕ} {creator last : Creator} (present : config.threads[index]? = some creator)
    (later : config'.threads[index]? = some last) : last.request = creator.request := by
  induction moves generalizing config creator with
  | nil =>
      cases replayed
      rw [present] at later
      rw [Option.some.inj later]
  | cons move rest ih =>
      rw [Machine.replay, if_pos trivial, Option.bind_eq_some_iff] at replayed
      obtain ⟨next, moved, replayed⟩ := replayed
      have serves' := serves_of_exec serves moved
      rcases exec_cases moved with ⟨fresh, -, -, rfl⟩ |
        ⟨other, answer, stepping, shared', stepped, -, there, taken, rfl⟩
      · refine ih serves' replayed ?_
        exact (List.getElem?_append_left (List.getElem?_eq_some_iff.mp present).1).trans present
      · by_cases same : other = index
        · subst same
          rw [present] at there
          obtain rfl := Option.some.inj there
          have bound := (List.getElem?_eq_some_iff.mp present).1
          rw [ih serves' replayed (List.getElem?_set_self bound)]
          exact (step_tables serves.intact taken).1
        · exact ih serves' replayed ((List.getElem?_set_ne same).trans present)

/-- **A creator makes no more statements than it has left.** -/
theorem countP_le {moves : List (Move Creator Answer)} (serves : Serves trafficLogs m config)
    (replayed : (creators trafficLogs).replay (fun _ _ => True) config moves = some config')
    {bound index : ℕ} (enough : m.store.tunnels.length + config'.threads.length ≤ bound)
    {last : Creator} (later : config'.threads[index]? = some last)
    (eligible : last.Eligible m.store.clients) :
    moves.countP (isOf index) ≤ leftOf bound index config := by
  induction moves generalizing config with
  | nil => exact Nat.zero_le _
  | cons move rest ih =>
      rw [Machine.replay, if_pos trivial, Option.bind_eq_some_iff] at replayed
      obtain ⟨next, moved, replayed⟩ := replayed
      have serves' := serves_of_exec serves moved
      have after := ih serves' replayed
      rw [List.countP_cons]
      rcases exec_cases moved with ⟨fresh, rfl, begins, rfl⟩ |
        ⟨other, answer, creator, shared', creator', rfl, present, taken, rfl⟩
      · -- the newcomer has all its statements before it
        refine (Nat.le_of_eq (if_neg Bool.false_ne_true ▸ Nat.add_zero _)).trans (after.trans ?_)
        unfold leftOf
        simp only
        rcases Nat.lt_trichotomy index config.threads.length with old | rfl | none
        · rw [List.getElem?_append_left old]
        · rw [List.getElem?_concat_length, List.getElem?_eq_none (Nat.le_refl _)]
          simp only
          unfold Creator.left
          rw [begins.2.2.2]
          exact Nat.le_refl _
        · rw [List.getElem?_eq_none (by rw [List.length_append, List.length_singleton]; omega),
            List.getElem?_eq_none none.le]
      · by_cases same : other = index
        · subst same
          have inside := (List.getElem?_eq_some_iff.mp present).1
          have found : (config.threads.set other creator')[other]? = some creator' :=
            List.getElem?_set_self inside
          have request := request_of_replay serves' replayed found later
          have ready := eligible.of_request request.symm
          have rows := serves'.rows.trans (Nat.add_le_add_left (total_le _) _)
          have fewer := left_step taken
            (serves'.stands creator' (List.mem_of_getElem? found) ready) ready.isSlug
            (rows.trans ((Nat.add_le_add_left (threads_le replayed) _).trans enough))
          unfold leftOf at after ⊢
          rw [found] at after
          have own : isOf other (Move.run other answer) = true := decide_eq_true rfl
          rw [present, if_pos own]
          simp only at after ⊢
          omega
        · have found : (config.threads.set other creator')[index]? = config.threads[index]? :=
            List.getElem?_set_ne same
          unfold leftOf at after ⊢
          rw [found] at after
          have foreign : ¬ isOf index (Move.run other answer) = true := fun own =>
            same (of_decide_eq_true own).symm
          rw [if_neg foreign, Nat.add_zero]
          exact after

/-- Everybody who has to wait for others still gets there: in every run the pairs of protocol and domain
are distinct, and every eligible creator makes few statements, can go on until it has returned, and has
then got a domain, unless its next candidate is too long. -/
theorem creators_served (intact : (tables m.store trafficLogs).Valid) {moves : List (Move Creator Answer)}
    (replayed : (creators trafficLogs).replay (fun _ _ => True) ⟨m, []⟩ moves = some config) :
    (tables config.shared.store trafficLogs).domains.Nodup ∧
      ∀ index creator, config.threads[index]? = some creator → creator.Eligible m.store.clients →
        moves.countP (isOf index) ≤
          2 * (m.store.tunnels.length + config.threads.length) + 2 ∧
        (∀ answer : Answer, answer.id ∉ config.shared.store.tunnels.map Tunnel.id →
          (∃ result, creator.phase = .returned result) ∨
            (creator.step trafficLogs config.shared answer).isSome = true) ∧
        ∀ result, creator.phase = .returned result →
          ∃ n, creator.Tried config.shared n ∧ creator.GotAt config.shared result n := by
  have start : Serves trafficLogs m ⟨m, []⟩ :=
    ⟨rfl, intact, Nat.le_refl _, fun _ member => absurd member List.not_mem_nil⟩
  have serves : Serves trafficLogs m config := by
    refine (Machine.Run.of_replay .refl replayed).invariant _ start ?_
    exact fun _ _ _ holds _ moved => serves_of_exec holds moved
  refine ⟨serves.intact.domains, fun index creator present eligible => ?_⟩
  have stands := serves.stands creator (List.mem_of_getElem? present) eligible
  have here : creator.Eligible config.shared.store.clients := serves.clients ▸ eligible
  refine ⟨countP_le start replayed (Nat.le_refl _) present eligible, fun answer fresh => ?_,
    fun result phase => ?_⟩
  · exact step_enabled here stands serves.intact fresh
  · unfold Creator.Stands at stands
    rw [phase] at stands
    exact stands

end Runs

/-! ## The loop of the handler -/

section Handler

variable [CaseTable]

/-- A creator that is alone. -/
def Steps (trafficLogs : List TrafficRow) : Manager × Creator → Manager × Creator → Prop :=
  Relation.ReflTransGen fun before after =>
    ∃ answer, before.2.step trafficLogs before.1 answer = some after

/-- The handler's loop is a creator that is alone. -/
theorem steps_of_tryDomains {tunnel : Tunnel} {slug base : String} {w : World} {left attempt : ℕ}
    {m m' : Manager} {log : List Snapshot} {result : Except String Tunnel}
    (failure : ∀ n, w.failure n = none) (fresh : ∀ n, w.newID n ∉ m.store.tunnels.map Tunnel.id)
    (tried : tryDomains tunnel slug base w left attempt m = some (m', log, result)) :
    Steps w.trafficLogs (m, ⟨tunnel, slug, base, .writing attempt⟩)
      (m', ⟨tunnel, slug, base, .returned result⟩) := by
  induction left generalizing attempt log with
  | zero => cases tried
  | succ left ih =>
      rw [tryDomains] at tried
      cases found : candidateDomain slug base attempt with
      | error err =>
          rw [found] at tried
          obtain ⟨rfl, -, rfl⟩ := Logged.pure_eq_some.mp tried
          refine .single ⟨⟨w.newID attempt, w.uuid, w.now⟩, ?_⟩
          unfold Creator.step
          simp only [found]
      | ok domain =>
          rw [found, failure] at tried
          obtain ⟨written, writeLog, outcome, later, wrote, rest, -⟩ := Logged.bind_eq_some.mp tried
          have first : Steps w.trafficLogs (m, ⟨tunnel, slug, base, .writing attempt⟩)
              (written, (⟨tunnel, slug, base, .writing attempt⟩ : Creator).wrote attempt domain outcome) := by
            refine .single ⟨⟨w.newID attempt, w.uuid, w.now⟩, ?_⟩
            unfold Creator.step
            simp only [found, if_neg (fresh attempt), wrote, Option.map_some]
          refine first.trans ?_
          rcases write_inserts wrote with ⟨rfl, err, rfl⟩ | ⟨created, rfl, -⟩
          · simp only at rest
            unfold Creator.wrote
            simp only
            split at rest
            · rename_i conflict
              rw [if_pos conflict]
              obtain ⟨read, lookLog, taken, final, looks, again, -⟩ := Logged.bind_eq_some.mp rest
              obtain rfl := manager_of_domainInUse looks
              have second : Steps w.trafficLogs
                  (read, ⟨tunnel, slug, base, .looking attempt domain err⟩)
                  (read, (⟨tunnel, slug, base, .looking attempt domain err⟩ : Creator).looked attempt
                    err taken) := by
                refine .single ⟨⟨w.newID attempt, w.uuid, w.now⟩, ?_⟩
                unfold Creator.step
                simp only [looks, Option.map_some]
              refine second.trans ?_
              cases taken with
              | true => exact ih again
              | false =>
                  obtain ⟨rfl, -, rfl⟩ := Logged.pure_eq_some.mp again
                  exact .refl
            · rename_i other
              rw [if_neg other]
              obtain ⟨rfl, -, rfl⟩ := Logged.pure_eq_some.mp rest
              exact .refl
          · obtain ⟨rfl, -, rfl⟩ := Logged.pure_eq_some.mp rest
            exact .refl

/-- **Automatic domains**: no two attempts try the same one; a creator that is alone ends with the first
that is not in use, unless its slug and the base domain are an address; and of creators at the same time
each eligible one is served. -/
theorem auto_domains {tunnel : Tunnel} {baseDomain base slug : String}
    (normal : normalizeDomain baseDomain = .ok base) (named : slugFromName tunnel.name = .ok slug) :
    Candidates.Distinct (candidate slug base) ∧
    (∀ (m : Manager) (w : World), w.auto = .ok { enabled := true, baseDomain := baseDomain } →
      Calm m w → Lacking m.store.clients tunnel base → m.store.tunnels.length < w.attempts →
      (Allocates tunnel slug base m (createTunnel tunnel w m) ↔ isAddress slug base = false)) ∧
    ∀ (trafficLogs : List TrafficRow) (m : Manager) (moves : List (Move Creator Answer))
      (config : Config Manager Creator), (tables m.store trafficLogs).Valid →
      (creators trafficLogs).replay (fun _ _ => True) ⟨m, []⟩ moves = some config →
      (tables config.shared.store trafficLogs).domains.Nodup ∧
      ∀ index creator, config.threads[index]? = some creator → creator.Eligible m.store.clients →
        moves.countP (isOf index) ≤
          2 * (m.store.tunnels.length + config.threads.length) + 2 ∧
        (∀ answer : Answer, answer.id ∉ config.shared.store.tunnels.map Tunnel.id →
          (∃ result, creator.phase = .returned result) ∨
            (creator.step trafficLogs config.shared answer).isSome = true) ∧
        ∀ result, creator.phase = .returned result →
          ∃ n, creator.Tried config.shared n ∧ creator.GotAt config.shared result n := by
  have is := isSlug_of_slugFromName named
  have baseValid := validateDomain_of_normalizeDomain normal
  refine ⟨distinct_candidate is base, fun m w settings calm lacking enough => ?_,
    fun trafficLogs m moves config intact replayed => creators_served intact replayed⟩
  have same : slugText tunnel.name = slug := by
    have found := slugFromName_of_valid (isSlug_slugText tunnel.name).valid.2
    rw [named] at found
    exact (Except.ok.inj found).symm
  rw [createTunnel_eq_tryDomains lacking.auto settings normal, same]
  exact tryDomains_allocates_iff calm lacking is baseValid enough

end Handler

/-! ## Concrete requests -/

/-- A request for a tunnel, without a domain. -/
def webRequest (name : String) : Tunnel :=
  { Auth.officeTunnel with name := name, protocol := "http", remotePort := 0 }

/-- The store of the office, with a tunnel that has the domain `web.example.com`. -/
def takenStore : Store :=
  { tunnelStore with
    tunnels := [{ webRequest "Web" with domain := "web.example.com" }]
    tunnels_client := by
      intro tunnel member
      rw [List.mem_singleton.mp member]
      exact ⟨Auth.officeClient, List.mem_singleton.mpr rfl, rfl⟩ }

/-- A world in which nothing fails. -/
def calmWorld (baseDomain : String) : World where
  newID _ := "tunnel-2"
  uuid := "visitor-2"
  auto := .ok { enabled := true, baseDomain := baseDomain }
  attempts := 2

theorem calm_calmWorld (baseDomain : String) :
    Calm (newManager takenStore none false) (calmWorld baseDomain) where
  failure _ := rfl
  fresh _ := by
    change "tunnel-2" ∉ takenStore.tunnels.map Tunnel.id
    decide +kernel
  intact := by
    have fine : (tables takenStore []).violation = none := by decide +kernel
    exact Database.violation_eq_none.mp fine

theorem lacking_webRequest :
    let _ := CaseTable.ascii
    Lacking takenStore.clients (webRequest "Web") "example.com" ∧
      Lacking takenStore.clients (webRequest "1") "2.3.4" := by
  intro _
  have client : ∃ client ∈ takenStore.clients, client.id = "client-1" :=
    ⟨Auth.officeClient, List.mem_singleton.mpr rfl, rfl⟩
  exact ⟨⟨by decide +kernel, by decide +kernel, client⟩, ⟨by decide +kernel, by decide +kernel, client⟩⟩

/-- The second tunnel of this name. -/
theorem auto_domains_taken :
    let _ := CaseTable.ascii
    normalizeDomain "Example.com" = .ok "example.com" ∧ slugFromName "Web" = .ok "web" ∧
      Allocates (webRequest "Web") "web" "example.com" (newManager takenStore none false)
        (createTunnel (webRequest "Web") (calmWorld "Example.com") (newManager takenStore none false)) := by
  intro _
  have normal : normalizeDomain "Example.com" = .ok "example.com" := by decide +kernel
  have named : slugFromName (webRequest "Web").name = .ok "web" := by decide +kernel
  obtain ⟨-, alone, -⟩ := auto_domains normal named
  have allocates := alone (newManager takenStore none false) (calmWorld "Example.com") rfl
    (calm_calmWorld "Example.com") lacking_webRequest.1 (by decide +kernel)
  exact ⟨normal, named, allocates.mpr (by decide +kernel)⟩

/-- A tunnel with the name `1`, and the base domain `2.3.4`: the first candidate fits and is not in use,
and the creator gets no domain. -/
theorem auto_domains_address :
    let _ := CaseTable.ascii
    ¬ ∀ (tunnel : Tunnel) (baseDomain base slug : String) (m : Manager) (w : World),
      normalizeDomain baseDomain = .ok base → slugFromName tunnel.name = .ok slug →
      w.auto = .ok { enabled := true, baseDomain := baseDomain } → Calm m w →
      Lacking m.store.clients tunnel base → m.store.tunnels.length < w.attempts →
      Allocates tunnel slug base m (createTunnel tunnel w m) := by
  intro _ claim
  have normal : normalizeDomain "2.3.4" = .ok "2.3.4" := by decide +kernel
  have lacking := lacking_webRequest.2
  have allocates := claim (webRequest "1") "2.3.4" "2.3.4" "1" (newManager takenStore none false)
    (calmWorld "2.3.4") normal (by decide +kernel) rfl (calm_calmWorld "2.3.4") lacking (by decide +kernel)
  have slug : slugText (webRequest "1").name = "1" := by decide +kernel
  have is : IsSlug "1".toList := by
    rw [← slug]
    exact isSlug_slugText _
  have loop : createTunnel (webRequest "1") (calmWorld "2.3.4") (newManager takenStore none false) =
      tryDomains (webRequest "1") (slugText (webRequest "1").name) "2.3.4" (calmWorld "2.3.4") 2 0
        (newManager takenStore none false) :=
    createTunnel_eq_tryDomains lacking.auto rfl normal
  rw [loop, slug] at allocates
  have apart := (tryDomains_allocates_iff (calm_calmWorld "2.3.4") lacking is
    (validateDomain_of_normalizeDomain normal) (by decide +kernel)).mp allocates
  revert apart
  decide +kernel

end NryNet.TunnelApi
