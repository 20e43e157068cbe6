import NryNet.Tunnels.UDPRuntime

/-!
# The sessions of a UDP tunnel are accounted for (`udpRuntime.session`, `removeSession`, `clearSessions`)

The two tables of a runtime change together, in one critical section, and never hold more than
`udpMaxSessions` sessions.  `Manager.active` follows them: `session` and `removeIdle` count in the same
critical section, `removeSession` and `clearSessions` after it, so that what a runtime has added is its
sessions and what calls in progress still owe.

`close` clears the sessions once and for all, but `session` does not ask whether the runtime is closed.
A worker that has a datagram in its hands when the tunnel is stopped makes a session that nobody will
ever remove.

The first part is about every run.  The second is about the runs in which no datagram that the allowlist
lets through reaches `session` after the `clearSessions` of `close`, and in which `close` does not return
before the calls that removed sessions have counted them.
-/

namespace NryNet.Tunnels.UDP

open ThreadPool

/-! ## The tables -/

/-- What is at some place of a list after an assignment. -/
theorem getElem?_set_cases {α : Type*} {items : List α} {index other : ℕ} {item found : α}
    (located : (items.set index item)[other]? = some found) :
    (other = index ∧ found = item) ∨ (other ≠ index ∧ items[other]? = some found) := by
  by_cases same : other = index
  · subst same
    have bound := (List.getElem?_eq_some_iff.mp located).1
    rw [List.length_set] at bound
    rw [List.getElem?_set_self bound] at located
    exact .inl ⟨rfl, (Option.some.inj located).symm⟩
  · rw [List.getElem?_set_ne (Ne.symm same)] at located
    exact .inr ⟨same, located⟩

/-- What is at some place of a list that has grown by one. -/
theorem getElem?_concat_cases {α : Type*} {items : List α} {other : ℕ} {item found : α}
    (located : (items ++ [item])[other]? = some found) :
    (other = items.length ∧ found = item) ∨ items[other]? = some found := by
  rw [List.getElem?_append] at located
  split at located
  · exact .inr located
  · rename_i beyond
    have bound := (List.getElem?_eq_some_iff.mp located).1
    rw [List.length_singleton] at bound
    have same : other = items.length := by omega
    rw [same, Nat.sub_self] at located
    exact .inl ⟨same, (Option.some.inj located).symm⟩

/-- The identifiers and addresses of all sessions. -/
def State.identities (s : State) : List (String × UDPAddr) :=
  s.visitors.map VisitorSession.identity

/-- The two tables of a runtime hold the same sessions, by the text of the address and by the
identifier. -/
structure Keyed (identities : List (String × UDPAddr)) (value : UDPRuntime) : Prop where
  byAddr : ∀ key session, value.sessions.lookup key = some session →
    ∃ who, identities[session]? = some who ∧ who.2.text = key ∧
      value.byID.lookup who.1 = some session
  byID : ∀ id session, value.byID.lookup id = some session →
    ∃ who, identities[session]? = some who ∧ who.1 = id ∧
      value.sessions.lookup who.2.text = some session

namespace Keyed

variable {identities more : List (String × UDPAddr)} {value : UDPRuntime}

/-- Only the two tables matter. -/
theorem of_tables {value' : UDPRuntime} (keyed : Keyed identities value)
    (sessions : value'.sessions = value.sessions) (byID : value'.byID = value.byID) :
    Keyed identities value' := by
  constructor
  · rw [sessions, byID]
    exact keyed.byAddr
  · rw [sessions, byID]
    exact keyed.byID

theorem same_sessions (keyed : Keyed identities value) (session : ℕ) :
    (∃ key, value.sessions.lookup key = some session) ↔
      ∃ id, value.byID.lookup id = some session := by
  constructor
  · rintro ⟨key, found⟩
    obtain ⟨who, -, -, listed⟩ := keyed.byAddr key session found
    exact ⟨who.1, listed⟩
  · rintro ⟨id, found⟩
    obtain ⟨who, -, -, listed⟩ := keyed.byID id session found
    exact ⟨who.2.text, listed⟩

/-- Without sessions there are no identifiers. -/
theorem byID_eq_none (keyed : Keyed identities value) (empty : value.sessions = ∅) (id : String) :
    value.byID.lookup id = none := by
  cases found : value.byID.lookup id with
  | none => rfl
  | some session =>
      obtain ⟨who, -, -, listed⟩ := keyed.byID id session found
      rw [empty] at listed
      cases listed

theorem mono (keyed : Keyed identities value) : Keyed (identities ++ more) value := by
  have kept {session : ℕ} {who : String × UDPAddr} (known : identities[session]? = some who) :
      (identities ++ more)[session]? = some who := by
    rw [List.getElem?_append_left (List.getElem?_eq_some_iff.mp known).1]
    exact known
  refine ⟨fun key session found => ?_, fun id session found => ?_⟩
  · obtain ⟨who, known, facts⟩ := keyed.byAddr key session found
    exact ⟨who, kept known, facts⟩
  · obtain ⟨who, known, facts⟩ := keyed.byID id session found
    exact ⟨who, kept known, facts⟩

theorem newUDPRuntime (tunnel : Tunnel) : Keyed identities (.newUDPRuntime tunnel) :=
  ⟨fun _ _ impossible => (nomatch impossible), fun _ _ impossible => (nomatch impossible)⟩

theorem clear (closing : Bool) : Keyed identities (value.clear closing) :=
  ⟨fun _ _ impossible => (nomatch impossible), fun _ _ impossible => (nomatch impossible)⟩

/-- A new session, with an identifier that was not in use. -/
theorem create (keyed : Keyed identities value) {addr : UDPAddr} {id : String}
    (absent : value.sessions.lookup addr.text = none) (fresh : ∀ who ∈ identities, who.1 ≠ id) :
    Keyed (identities ++ [(id, addr)]) (value.create addr id identities.length) := by
  have last : (identities ++ [(id, addr)])[identities.length]? = some (id, addr) := by
    rw [List.getElem?_append_right (Nat.le_refl _), Nat.sub_self]
    rfl
  refine ⟨fun key session found => ?_, fun other session found => ?_⟩
  · simp only [UDPRuntime.create, GoMap.lookup_insert_if] at found ⊢
    split at found
    · rename_i same
      cases found
      exact ⟨(id, addr), last, same.symm, if_pos rfl⟩
    · obtain ⟨who, known, text, listed⟩ := keyed.mono.byAddr key session found
      refine ⟨who, known, text, ?_⟩
      obtain ⟨old, found, -⟩ := keyed.byAddr key session found
      have same : old = who := by
        rw [List.getElem?_append_left (List.getElem?_eq_some_iff.mp found).1, found] at known
        exact Option.some.inj known
      rw [if_neg (same ▸ fresh old (List.mem_of_getElem? found)), listed]
  · simp only [UDPRuntime.create, GoMap.lookup_insert_if] at found ⊢
    split at found
    · rename_i same
      cases found
      exact ⟨(id, addr), last, same.symm, if_pos rfl⟩
    · obtain ⟨who, known, named, listed⟩ := keyed.mono.byID other session found
      refine ⟨who, known, named, ?_⟩
      rw [if_neg, listed]
      intro same
      rw [same, absent] at listed
      cases listed

/-- A session is taken out of both tables. -/
theorem remove (keyed : Keyed identities value) {id : String} {session : ℕ}
    {visitor : VisitorSession} (found : value.byID.lookup id = some session)
    (known : identities[session]? = some visitor.identity) :
    value.sessions.lookup visitor.addr.text = some session ∧
      Keyed identities (value.remove visitor id) := by
  obtain ⟨who, same, named, listed⟩ := keyed.byID id session found
  rw [known] at same
  cases same
  change value.sessions.lookup visitor.addr.text = some session at listed
  refine ⟨listed, fun key other found' => ?_, fun other session' found' => ?_⟩
  · simp only [UDPRuntime.remove, GoMap.lookup_erase_if] at found' ⊢
    split at found'
    · cases found'
    · rename_i different
      obtain ⟨who, known', text, listed'⟩ := keyed.byAddr key other found'
      refine ⟨who, known', text, ?_⟩
      rw [if_neg, listed']
      -- the same identifier would be the same session, and so the same address
      intro same
      rw [same, found] at listed'
      cases listed'
      rw [known] at known'
      cases known'
      exact different text.symm
  · simp only [UDPRuntime.remove, GoMap.lookup_erase_if] at found' ⊢
    split at found'
    · cases found'
    · rename_i different
      obtain ⟨who, known', named', listed'⟩ := keyed.byID other session' found'
      refine ⟨who, known', named', ?_⟩
      rw [if_neg, listed']
      intro same
      rw [same, listed] at listed'
      cases listed'
      rw [known] at known'
      cases known'
      exact different (named'.symm.trans named)

end Keyed

theorem mem_removed {s : State} {value : UDPRuntime} {cutoff : Time} {id : String} :
    id ∈ (value.sessions.valuesWhere fun _ session => s.idle cutoff session).filterMap
        (fun session => (s.visitors[session]?).map VisitorSession.id) ↔
      ∃ key session who, value.sessions.lookup key = some session ∧ s.idle cutoff session = true ∧
        s.identities[session]? = some who ∧ who.1 = id := by
  simp only [List.mem_filterMap, GoMap.mem_valuesWhere, Option.map_eq_some_iff, State.identities,
    List.getElem?_map]
  constructor
  · rintro ⟨session, ⟨key, found, picked⟩, visitor, known, rfl⟩
    exact ⟨key, session, visitor.identity, found, picked, ⟨visitor, known, rfl⟩, rfl⟩
  · rintro ⟨key, session, who, found, picked, ⟨visitor, known, rfl⟩, rfl⟩
    exact ⟨session, ⟨key, found, picked⟩, visitor, known, rfl⟩

/-- The idle sessions are taken out of both tables. -/
theorem Keyed.removeIdle {s : State} {value : UDPRuntime} (keyed : Keyed s.identities value)
    (cutoff : Time) : Keyed s.identities (s.removeIdle value cutoff) := by
  refine ⟨fun key session found => ?_, fun id session found => ?_⟩
  · obtain ⟨found, busy⟩ := GoMap.lookup_deleteWhere_eq_some.mp found
    obtain ⟨who, known, text, listed⟩ := keyed.byAddr key session found
    refine ⟨who, known, text, ?_⟩
    simp only [State.removeIdle, GoMap.lookup_eraseAll]
    rw [if_neg, listed]
    intro removed
    obtain ⟨key', session', who', found', picked, known', same⟩ := mem_removed.mp removed
    obtain ⟨_, known'', -, listed'⟩ := keyed.byAddr key' session' found'
    rw [known'] at known''
    cases known''
    rw [same, listed] at listed'
    cases listed'
    rw [picked] at busy
    cases busy
  · simp only [State.removeIdle, GoMap.lookup_eraseAll] at found
    split at found
    · cases found
    · rename_i kept
      obtain ⟨who, known, named, listed⟩ := keyed.byID id session found
      refine ⟨who, known, named, GoMap.lookup_deleteWhere_eq_some.mpr ⟨listed, ?_⟩⟩
      by_contra picked
      exact kept (mem_removed.mpr
        ⟨_, session, who, listed, Bool.not_eq_false _ ▸ picked, known, named⟩)

/-! ## The counter -/

/-- What every run keeps: the tables of each runtime fit, and what it has added to `Manager.active` is
its sessions and what is still owed for it. -/
structure Accounted (config : Config State Task) : Prop where
  keyed : ∀ (runtime : ℕ) value, config.shared.runtimes[runtime]? = some value →
    Keyed config.shared.identities value
  bounded : ∀ (runtime : ℕ) value, config.shared.runtimes[runtime]? = some value →
    value.sessions.size ≤ udpMaxSessions
  balance : ∀ (runtime : ℕ) value, config.shared.runtimes[runtime]? = some value →
    value.contribution = value.sessions.size + (config.total (Task.owed runtime) : ℤ)
  issued : ∀ who ∈ config.shared.identities, who.1 ∈ config.shared.issued
  fresh : ∀ runtime, config.shared.runtimes.length ≤ runtime → config.total (Task.owed runtime) = 0

section Accounted

variable {s' : State} {task task' : Task} {choice : Choice} {config : Config State Task} {index : ℕ}

/-- What is owed changes as what the task owes. -/
theorem total_owed (present : config.threads[index]? = some task) (s' : State) (task' : Task)
    (runtime : ℕ) :
    ({ shared := s', threads := config.threads.set index task' ++ [] } : Config State Task).total
        (Task.owed runtime) + task.owed runtime =
      config.total (Task.owed runtime) + task'.owed runtime := by
  have traded := Machine.total_run (Task.owed runtime) s' task' [] present
  simpa using traded

theorem total_owed_of_eq (present : config.threads[index]? = some task) (s' : State) {runtime : ℕ}
    (owed : task'.owed runtime = task.owed runtime) :
    ({ shared := s', threads := config.threads.set index task' ++ [] } : Config State Task).total
        (Task.owed runtime) = config.total (Task.owed runtime) := by
  have traded := total_owed present s' task' runtime
  omega

/-- A step that touches no runtime. -/
theorem Accounted.frame (accounted : Accounted config)
    (present : config.threads[index]? = some task)
    (runtimes : s'.runtimes = config.shared.runtimes)
    (identities : s'.identities = config.shared.identities)
    (issued : s'.issued = config.shared.issued)
    (owed : ∀ runtime, task'.owed runtime = task.owed runtime) :
    Accounted { shared := s', threads := config.threads.set index task' ++ [] } := by
  refine ⟨?_, ?_, fun runtime value found => ?_, ?_, fun runtime new => ?_⟩
  · simpa only [runtimes, identities] using accounted.keyed
  · simpa only [runtimes] using accounted.bounded
  · simp only [runtimes] at found
    rw [total_owed_of_eq present s' (owed runtime)]
    exact accounted.balance runtime value found
  · simpa only [identities, issued] using accounted.issued
  · simp only [runtimes] at new
    rw [total_owed_of_eq present s' (owed runtime)]
    exact accounted.fresh runtime new

/-- A step that works on one runtime. -/
theorem Accounted.operate (accounted : Accounted config)
    (present : config.threads[index]? = some task) {runtime : ℕ} {value value' : UDPRuntime}
    (found : config.shared.runtimes[runtime]? = some value)
    (runtimes : s'.runtimes = config.shared.runtimes.set runtime value')
    {more : List (String × UDPAddr)} (identities : s'.identities = config.shared.identities ++ more)
    (issued : ∀ who ∈ s'.identities, who.1 ∈ s'.issued)
    (keyed : Keyed s'.identities value') (bounded : value'.sessions.size ≤ udpMaxSessions)
    (balance : value'.contribution + (value.sessions.size + task.owed runtime) =
      value.contribution + (value'.sessions.size + task'.owed runtime))
    (others : ∀ other, other ≠ runtime → task'.owed other = task.owed other) :
    Accounted { shared := s', threads := config.threads.set index task' ++ [] } := by
  have bound := (List.getElem?_eq_some_iff.mp found).1
  -- a runtime is the one worked on, or it is as it was
  have which {other : ℕ} {value'' : UDPRuntime} (found' : s'.runtimes[other]? = some value'') :
      (other = runtime ∧ value'' = value') ∨
        (other ≠ runtime ∧ config.shared.runtimes[other]? = some value'') := by
    rw [runtimes] at found'
    exact getElem?_set_cases found'
  refine ⟨fun other value'' found' => ?_, fun other value'' found' => ?_,
    fun other value'' found' => ?_, issued, fun other new => ?_⟩
  · rcases which found' with ⟨rfl, rfl⟩ | ⟨-, old⟩
    · exact keyed
    · simp only [identities]
      exact (accounted.keyed other value'' old).mono
  · rcases which found' with ⟨rfl, rfl⟩ | ⟨-, old⟩
    · exact bounded
    · exact accounted.bounded other value'' old
  · rcases which found' with ⟨rfl, rfl⟩ | ⟨different, old⟩
    · have before := accounted.balance other value found
      have traded := total_owed present s' task' other
      omega
    · rw [total_owed_of_eq present s' (others other different)]
      exact accounted.balance other value'' old
  · simp only [runtimes, List.length_set] at new
    have different : other ≠ runtime := by omega
    rw [total_owed_of_eq present s' (others other different)]
    exact accounted.fresh other new

/-- A step that makes a runtime. -/
theorem Accounted.start (accounted : Accounted config)
    (present : config.threads[index]? = some task) {tunnel : Tunnel}
    (runtimes : s'.runtimes = config.shared.runtimes ++ [.newUDPRuntime tunnel])
    (identities : s'.identities = config.shared.identities)
    (issued : s'.issued = config.shared.issued)
    (owed : ∀ runtime, task'.owed runtime = task.owed runtime) :
    Accounted { shared := s', threads := config.threads.set index task' ++ [] } := by
  have which {other : ℕ} {value : UDPRuntime} (found : s'.runtimes[other]? = some value) :
      (other = config.shared.runtimes.length ∧ value = .newUDPRuntime tunnel) ∨
        config.shared.runtimes[other]? = some value := by
    rw [runtimes] at found
    exact getElem?_concat_cases found
  refine ⟨fun other value found => ?_, fun other value found => ?_, fun other value found => ?_, ?_,
    fun other new => ?_⟩
  · simp only [identities]
    rcases which found with ⟨-, rfl⟩ | old
    · exact .newUDPRuntime tunnel
    · exact accounted.keyed other value old
  · rcases which found with ⟨-, rfl⟩ | old
    · exact Nat.zero_le _
    · exact accounted.bounded other value old
  · rw [total_owed_of_eq present s' (owed other)]
    rcases which found with ⟨rfl, rfl⟩ | old
    · rw [accounted.fresh _ (Nat.le_refl _)]
      rfl
    · exact accounted.balance other value old
  · simpa only [identities, issued] using accounted.issued
  · simp only [runtimes, List.length_append] at new
    rw [total_owed_of_eq present s' (owed other)]
    exact accounted.fresh other (by omega)

theorem identities_setVisitor (s : State) (session : ℕ) {set : VisitorSession → VisitorSession}
    (keeps : ∀ visitor, (set visitor).identity = visitor.identity) :
    (s.setVisitor session set).identities = s.identities := by
  apply List.ext_getElem?
  intro other
  simp only [State.identities, State.setVisitor, List.getElem?_map, List.getElem?_modify]
  cases s.visitors[other]? with
  | none => rfl
  | some visitor =>
      simp only [Option.map_some, Option.map_eq_map]
      split
      · rw [keeps]
      · rfl

/-- When the count is settled, nothing is owed any more. -/
theorem Task.owed_settled (closing : Bool) (runtime other : ℕ) :
    (if closing then Task.returning runtime else .finished).owed other = 0 := by
  split <;> rfl

/-- **One step keeps the account.** -/
theorem Accounted.step (accounted : Accounted config)
    (present : config.threads[index]? = some task)
    (action : Action config.shared choice task s' task') :
    Accounted { shared := s', threads := config.threads.set index task' ++ [] } := by
  have nothing : config.shared.identities = config.shared.identities ++ [] :=
    (List.append_nil _).symm
  cases action with
  | start => exact accounted.start present rfl rfl rfl fun _ => rfl
  | @create runtime value addr _ found absent room fresh =>
      -- the new session is in both tables, and the count goes up with it
      let visitor : VisitorSession := ⟨choice.uuid, addr, choice.now, false, false, false⟩
      have identities : config.shared.identities ++ [(choice.uuid, addr)] =
          (config.shared.visitors ++ [visitor]).map VisitorSession.identity := by
        rw [List.map_append]
        rfl
      have unused : ∀ who ∈ config.shared.identities, who.1 ≠ choice.uuid := by
        rintro who member same
        exact fresh (same ▸ accounted.issued who member)
      refine accounted.operate present found rfl identities.symm ?_ ?_ ?_ ?_ fun _ _ => rfl
      · rintro who member
        change who ∈ List.map _ _ at member
        rw [← identities] at member
        rcases List.mem_append.mp member with old | new
        · exact List.mem_append_left _ (accounted.issued who old)
        · rw [List.mem_singleton.mp new]
          exact List.mem_append_right _ (List.mem_singleton.mpr rfl)
      · have keyed := (accounted.keyed runtime value found).create absent unused
        rw [identities, State.identities, List.length_map] at keyed
        exact keyed
      · simp only [UDPRuntime.create]
        rw [GoMap.size_insert_of_absent absent]
        exact room
      · simp only [UDPRuntime.create]
        rw [GoMap.size_insert_of_absent absent]
        simp only [Task.owed]
        omega
  | found keeps number =>
      exact accounted.frame present rfl (identities_setVisitor _ _ keeps) rfl fun _ => rfl
  | @idle runtime value cutoff sessions found =>
      -- the count goes down in the same critical section
      have size := value.sessions.size_deleteWhere_add fun _ session =>
        config.shared.idle cutoff session
      refine accounted.operate present found rfl nothing accounted.issued
        ((accounted.keyed runtime value found).removeIdle cutoff) ?_ ?_ fun _ _ => rfl
      · have bounded := accounted.bounded runtime value found
        simp only [State.removeIdle]
        omega
      · simp only [State.removeIdle, Task.owed]
        omega
  | @clear runtime value closing sessions found =>
      -- the tables are empty, and what was in them is owed until `settle`
      refine accounted.operate present found rfl nothing accounted.issued (.clear closing)
        (Nat.zero_le _) ?_ fun other different => ?_
      · simp only [UDPRuntime.clear, Task.owed, if_true]
        change value.contribution + ((value.sessions.size : ℤ) + (0 : ℕ)) =
          value.contribution + ((0 : ℕ) + (value.sessions.size : ℤ))
        omega
      · exact if_neg (Ne.symm different)
  | @remove runtime value sessionID session visitor found taken known =>
      have identity : config.shared.identities[session]? = some visitor.identity := by
        rw [State.identities, List.getElem?_map, known]
        rfl
      obtain ⟨listed, keyed⟩ := (accounted.keyed runtime value found).remove taken identity
      have size := GoMap.size_erase_of_present listed
      refine accounted.operate present found rfl nothing accounted.issued keyed ?_ ?_
        fun other different => ?_
      · have bounded := accounted.bounded runtime value found
        simp only [UDPRuntime.remove]
        omega
      · simp only [UDPRuntime.remove, Task.owed, if_true]
        omega
      · exact if_neg (Ne.symm different)
  | @settle runtime value count closing found =>
      refine accounted.operate present found rfl nothing accounted.issued
        ((accounted.keyed runtime value found).of_tables rfl rfl)
        (accounted.bounded runtime value found) ?_ fun other different => ?_
      · rw [Task.owed_settled]
        simp only [Task.owed, if_true]
        omega
      · rw [Task.owed_settled]
        exact (if_neg (Ne.symm different)).symm
  | @begin runtime value found running =>
      refine accounted.operate present found rfl nothing accounted.issued
        ((accounted.keyed runtime value found).of_tables rfl rfl)
        (accounted.bounded runtime value found) rfl fun _ _ => rfl
  | @returned runtime value found =>
      refine accounted.operate present found rfl nothing accounted.issued
        ((accounted.keyed runtime value found).of_tables rfl rfl)
        (accounted.bounded runtime value found) rfl fun _ _ => rfl
  | joined found returned => exact accounted.frame present rfl rfl rfl fun _ => rfl
  | direct datagram => exact accounted.frame present rfl rfl rfl fun _ => rfl
  | relay datagram owed pending outside => exact accounted.frame present rfl rfl rfl owed
  | resend lost owed =>
      exact accounted.frame present rfl (identities_setVisitor _ _ fun _ => rfl) rfl
        fun runtime => (owed runtime).symm
  | move keeps owed pending inClose =>
      exact accounted.frame present rfl (identities_setVisitor _ _ keeps) rfl owed

theorem Task.owed_of_arrives (arrives : task.arrives = true) (runtime : ℕ) :
    task.owed runtime = 0 := by
  cases task <;> first | rfl | cases arrives

theorem total_owed_arrive (arrives : task.arrives = true) (runtime : ℕ) :
    ({ config with threads := config.threads ++ [task] } : Config State Task).total
        (Task.owed runtime) = config.total (Task.owed runtime) := by
  simp [Config.total, Task.owed_of_arrives arrives]

theorem Accounted.arrive (accounted : Accounted config) (arrives : task.arrives = true) :
    Accounted { config with threads := config.threads ++ [task] } := by
  refine ⟨accounted.keyed, accounted.bounded, fun runtime value found => ?_, accounted.issued,
    fun runtime new => ?_⟩
  · rw [total_owed_arrive arrives]
    exact accounted.balance runtime value found
  · rw [total_owed_arrive arrives]
    exact accounted.fresh runtime new

theorem accounted_idleManager : Accounted idleManager :=
  ⟨fun _ _ impossible => (nomatch impossible), fun _ _ impossible => (nomatch impossible),
    fun _ _ impossible => (nomatch impossible), fun _ impossible => (nomatch impossible),
    fun _ _ => rfl⟩

end Accounted

/-! ## Closing -/

/-- What must not happen in a step: that a datagram, which the allowlist has let through, reaches `session`
after the `clearSessions` of `close`, or that `close` returns while another call has removed sessions and
has not counted them. -/
def Task.Careful (config : Config State Task) (choice : Choice) : Task → Prop
  | .handleVisitorPacket runtime _ =>
      choice.ok = true → ∀ value ∈ config.shared.runtimes[runtime]?, value.closing.isCleared = false
  | .returning runtime => ∀ task ∈ config.threads, task.owed runtime = 0
  | _ => True

instance (config : Config State Task) (choice : Choice) (task : Task) :
    Decidable (task.Careful config choice) := by
  unfold Task.Careful
  split <;> infer_instance

/-- The moves in question: every arrival, and every careful step. -/
def Careful (config : Config State Task) : Move Task Choice → Prop
  | .arrive _ => True
  | .run index choice => ∀ task ∈ config.threads[index]?, task.Careful config choice

instance (config : Config State Task) (move : Move Task Choice) : Decidable (Careful config move) :=
  match move with
  | .arrive _ => inferInstanceAs (Decidable True)
  | .run index choice =>
      inferInstanceAs (Decidable (∀ task ∈ config.threads[index]?, task.Careful config choice))

/-- The runtime of a call in `close` has come as far as the call. -/
def Task.Fits (runtimes : List UDPRuntime) (task : Task) : Prop :=
  ∀ runtime returned, task.inClose = some (runtime, returned) →
    ∃ value, runtimes[runtime]? = some value ∧ value.closing.isCleared = true ∧
      (returned = true → value.closing = .returned)

/-- A closed runtime has no session, and when `close` has returned nothing is owed for it. -/
structure Closed (config : Config State Task) : Prop where
  empty : ∀ (runtime : ℕ) value, config.shared.runtimes[runtime]? = some value →
    value.closing.isCleared = true → value.sessions = ∅
  settled : ∀ (runtime : ℕ) value, config.shared.runtimes[runtime]? = some value →
    value.closing = .returned → config.total (Task.owed runtime) = 0
  fits : ∀ task ∈ config.threads, task.Fits config.shared.runtimes

/-- Runtimes are not opened again. -/
def Advances (runtimes runtimes' : List UDPRuntime) : Prop :=
  ∀ (runtime : ℕ) value, runtimes[runtime]? = some value →
    ∃ value', runtimes'[runtime]? = some value' ∧
      (value.closing.isCleared = true → value'.closing.isCleared = true) ∧
      (value.closing = .returned → value'.closing = .returned)

section Closed

variable {s' : State} {task task' : Task} {choice : Choice} {config : Config State Task} {index : ℕ}

theorem Task.Fits.advance {runtimes runtimes' : List UDPRuntime} (fits : task.Fits runtimes)
    (advances : Advances runtimes runtimes') : task.Fits runtimes' := by
  intro runtime done inClose
  obtain ⟨value, found, cleared, returned⟩ := fits runtime done inClose
  obtain ⟨value', found', keeps, keeps'⟩ := advances runtime value found
  exact ⟨value', found', keeps cleared, fun finished => keeps' (returned finished)⟩

theorem Task.fits_of_outside {runtimes : List UDPRuntime} (outside : task.inClose = none) :
    task.Fits runtimes := by
  intro runtime done inClose
  rw [outside] at inClose
  cases inClose

theorem Closing.isCleared_clear (closing : Closing) : closing.clear.isCleared = true := by
  cases closing <;> rfl

theorem Closing.eq_returned_of_clear {closing : Closing} (cleared : closing.clear = .returned) :
    closing = .returned := by
  cases closing <;> first | rfl | cases cleared

theorem total_owed_eq_zero {runtime : ℕ}
    (nobody : ∀ task ∈ config.threads, task.owed runtime = 0) :
    config.total (Task.owed runtime) = 0 := by
  refine List.sum_eq_zero fun owed member => ?_
  obtain ⟨task, present, rfl⟩ := List.mem_map.mp member
  exact nobody task present

theorem fits_step {runtimes' : List UDPRuntime} (closed : Closed config)
    (advances : Advances config.shared.runtimes runtimes') (own : task'.Fits runtimes') :
    ∀ other ∈ config.threads.set index task' ++ [], other.Fits runtimes' := by
  intro other member
  rcases Machine.mem_threads_of_step member with rfl | impossible | old
  · exact own
  · cases impossible
  · exact (closed.fits other old).advance advances

/-- A step that touches no runtime. -/
theorem Closed.frame (closed : Closed config) (present : config.threads[index]? = some task)
    (runtimes : s'.runtimes = config.shared.runtimes)
    (owed : ∀ runtime, task'.owed runtime = task.owed runtime)
    (own : task'.Fits config.shared.runtimes) :
    Closed { shared := s', threads := config.threads.set index task' ++ [] } := by
  refine ⟨?_, fun runtime value found returned => ?_, ?_⟩
  · simpa only [runtimes] using closed.empty
  · simp only [runtimes] at found
    rw [total_owed_of_eq present s' (owed runtime)]
    exact closed.settled runtime value found returned
  · simp only [runtimes]
    exact fits_step closed (fun _ value found => ⟨value, found, id, id⟩) own

/-- A step that works on one runtime. -/
theorem Closed.operate (closed : Closed config) (present : config.threads[index]? = some task)
    {runtime : ℕ} {value value' : UDPRuntime}
    (found : config.shared.runtimes[runtime]? = some value)
    (runtimes : s'.runtimes = config.shared.runtimes.set runtime value')
    (cleared : value.closing.isCleared = true → value'.closing.isCleared = true)
    (returned : value.closing = .returned → value'.closing = .returned)
    (empty : value'.closing.isCleared = true → value'.sessions = ∅)
    (settled : value'.closing = .returned →
      config.total (Task.owed runtime) + task'.owed runtime ≤ task.owed runtime)
    (others : ∀ other, other ≠ runtime → task'.owed other = task.owed other)
    (own : task'.Fits (config.shared.runtimes.set runtime value')) :
    Closed { shared := s', threads := config.threads.set index task' ++ [] } := by
  refine ⟨fun other value'' found' closing => ?_, fun other value'' found' closing => ?_, ?_⟩
  · simp only [runtimes] at found'
    rcases getElem?_set_cases found' with ⟨rfl, rfl⟩ | ⟨-, old⟩
    · exact empty closing
    · exact closed.empty other value'' old closing
  · simp only [runtimes] at found'
    rcases getElem?_set_cases found' with ⟨rfl, rfl⟩ | ⟨different, old⟩
    · have traded := total_owed present s' task' other
      have none := settled closing
      omega
    · rw [total_owed_of_eq present s' (others other different)]
      exact closed.settled other value'' old closing
  · simp only [runtimes]
    refine fits_step closed (fun other value'' old => ?_) own
    by_cases same : other = runtime
    · subst same
      rw [found] at old
      cases old
      exact ⟨value', List.getElem?_set_self (List.getElem?_eq_some_iff.mp found).1, cleared,
        returned⟩
    · rw [List.getElem?_set_ne (Ne.symm same)]
      exact ⟨value'', old, id, id⟩

/-- **One step keeps a closed runtime closed.** -/
theorem Closed.step (closed : Closed config) (accounted : Accounted config)
    (present : config.threads[index]? = some task) (careful : task.Careful config choice)
    (action : Action config.shared choice task s' task') :
    Closed { shared := s', threads := config.threads.set index task' ++ [] } := by
  have own := closed.fits task (List.mem_of_getElem? present)
  cases action with
  | @start tunnel udpRuntimes =>
      refine ⟨fun other value found cleared => ?_, fun other value found returned => ?_, ?_⟩
      · rcases getElem?_concat_cases found with ⟨-, rfl⟩ | old
        · cases cleared
        · exact closed.empty other value old cleared
      · rcases getElem?_concat_cases found with ⟨-, rfl⟩ | old
        · cases returned
        · refine (total_owed_of_eq present _ ?_).trans (closed.settled other value old returned)
          rfl
      · refine fits_step closed (fun other value old => ⟨value, ?_, id, id⟩)
          (Task.fits_of_outside rfl)
        rw [List.getElem?_append_left (List.getElem?_eq_some_iff.mp old).1]
        exact old
  | @create runtime value addr admitted found absent room fresh =>
      -- this is where the condition is needed
      have uncleared : value.closing.isCleared = false := careful admitted value found
      refine closed.operate present found rfl id id (fun cleared => ?_) (fun returned => ?_)
        (fun _ _ => rfl) (Task.fits_of_outside rfl)
      · rw [UDPRuntime.create, uncleared] at cleared
        cases cleared
      · change value.closing = .returned at returned
        rw [returned] at uncleared
        cases uncleared
  | found keeps number =>
      exact closed.frame present rfl (fun _ => rfl) (Task.fits_of_outside rfl)
  | @idle runtime value cutoff sessions found =>
      refine closed.operate present found rfl id id (fun cleared => ?_) (fun returned => ?_)
        (fun _ _ => rfl) (Task.fits_of_outside rfl)
      · rw [State.removeIdle, closed.empty runtime value found cleared]
        rfl
      · exact Nat.le_of_eq (closed.settled runtime value found returned)
  | @clear runtime value closing sessions found =>
      have bound := (List.getElem?_eq_some_iff.mp found).1
      refine closed.operate present found rfl (fun cleared => ?_) (fun returned => ?_)
        (fun _ => rfl) (fun returned => ?_) (fun other different => if_neg (Ne.symm different)) ?_
      · simp only [UDPRuntime.clear]
        split
        · exact Closing.isCleared_clear _
        · exact cleared
      · simp only [UDPRuntime.clear, returned]
        split <;> rfl
      · have before : value.closing = .returned := by
          simp only [UDPRuntime.clear] at returned
          split at returned
          · exact Closing.eq_returned_of_clear returned
          · exact returned
        have none := closed.settled runtime value found before
        have empty := closed.empty runtime value found (by rw [before]; rfl)
        simp only [Task.owed, if_true, empty, none]
        exact Nat.le_refl _
      · intro other done inClose
        simp only [Task.inClose] at inClose
        split at inClose <;> cases inClose
        rename_i closes
        refine ⟨_, List.getElem?_set_self bound, ?_, fun impossible => (nomatch impossible)⟩
        rw [UDPRuntime.clear, if_pos closes]
        exact Closing.isCleared_clear _
  | @remove runtime value sessionID session visitor found taken known =>
      -- in a closed runtime there is nothing to remove
      have uncleared : value.closing.isCleared = true → False := by
        intro cleared
        have empty := closed.empty runtime value found cleared
        rw [(accounted.keyed runtime value found).byID_eq_none empty] at taken
        cases taken
      refine closed.operate present found rfl id id (fun cleared => (uncleared cleared).elim)
        (fun returned => ?_) (fun other different => if_neg (Ne.symm different))
        (Task.fits_of_outside rfl)
      change value.closing = .returned at returned
      exact (uncleared (by rw [returned]; rfl)).elim
  | @settle runtime value count closing found =>
      have bound := (List.getElem?_eq_some_iff.mp found).1
      refine closed.operate present found rfl id id (closed.empty runtime value found)
        (fun returned => ?_) (fun other different => ?_) ?_
      · rw [closed.settled runtime value found returned, Task.owed_settled]
        exact Nat.zero_le _
      · rw [Task.owed_settled]
        exact (if_neg (Ne.symm different)).symm
      · split
        · rename_i closes
          rintro other done ⟨⟩
          obtain ⟨known, same, cleared, -⟩ := own runtime false (if_pos closes)
          rw [found] at same
          cases same
          exact ⟨_, List.getElem?_set_self bound, cleared, fun impossible => (nomatch impossible)⟩
        · exact Task.fits_of_outside rfl
  | @begin runtime value found running =>
      refine closed.operate present found rfl (fun cleared => ?_) (fun returned => ?_)
        (fun cleared => (nomatch cleared)) (fun returned => (nomatch returned)) (fun _ _ => rfl)
        (Task.fits_of_outside rfl)
      · rw [running] at cleared
        cases cleared
      · rw [running] at returned
        cases returned
  | @returned runtime value found =>
      have bound := (List.getElem?_eq_some_iff.mp found).1
      refine closed.operate present found rfl (fun _ => rfl) (fun _ => rfl) (fun _ => ?_)
        (fun _ => ?_) (fun _ _ => rfl) ?_
      · obtain ⟨known, same, cleared, -⟩ := own runtime false rfl
        rw [found] at same
        cases same
        exact closed.empty runtime value found cleared
      · -- the counts of all the removals have been settled when `Close` returns
        have none : config.total (Task.owed runtime) = 0 := total_owed_eq_zero careful
        rw [none]
        exact Nat.le_refl _
      · rintro other done ⟨⟩
        exact ⟨_, List.getElem?_set_self bound, rfl, fun _ => rfl⟩
  | @joined runtime value found returned =>
      refine closed.frame present rfl (fun _ => rfl) ?_
      rintro other done ⟨⟩
      exact ⟨value, found, by rw [returned]; rfl, fun _ => returned⟩
  | direct datagram => exact closed.frame present rfl (fun _ => rfl) (Task.fits_of_outside rfl)
  | relay datagram owed pending outside =>
      exact closed.frame present rfl owed (Task.fits_of_outside outside)
  | resend lost owed =>
      exact closed.frame present rfl (fun runtime => (owed runtime).symm) (Task.fits_of_outside rfl)
  | move keeps owed pending inClose =>
      refine closed.frame present rfl owed ?_
      rcases inClose with outside | same
      · exact Task.fits_of_outside outside
      · intro runtime done inside
        exact own runtime done (same ▸ inside)

theorem Closed.arrive (closed : Closed config) (arrives : task.arrives = true) :
    Closed { config with threads := config.threads ++ [task] } := by
  have outside : task.inClose = none := by
    cases task <;> first | rfl | cases arrives
  refine ⟨closed.empty, fun runtime value found returned => ?_, fun other member => ?_⟩
  · rw [total_owed_arrive arrives]
    exact closed.settled runtime value found returned
  · rcases List.mem_append.mp member with old | new
    · exact closed.fits other old
    · rw [List.mem_singleton.mp new]
      exact Task.fits_of_outside outside

end Closed

/-- Both accounts are kept along a run. -/
theorem closed_of_careful {config : Config State Task}
    (reached : udpTunnels.Run Careful idleManager config) : Accounted config ∧ Closed config := by
  refine reached.invariant (fun config => Accounted config ∧ Closed config)
    ⟨accounted_idleManager, fun _ _ impossible => (nomatch impossible),
      fun _ _ impossible => (nomatch impossible), fun _ impossible => (nomatch impossible)⟩ ?_
  rintro config next (task | ⟨index, choice⟩) ⟨accounted, closed⟩ careful moved
  · obtain ⟨arrives, rfl⟩ := Machine.exec_arrive moved
    exact ⟨accounted.arrive arrives, closed.arrive arrives⟩
  · obtain ⟨task, s', task', spawned, present, stepped, rfl⟩ := Machine.exec_run moved
    obtain ⟨_, taken, same⟩ := Option.map_eq_some_iff.mp stepped
    cases same
    exact ⟨accounted.step present (action_of_step taken),
      closed.step accounted present (careful task present) (action_of_step taken)⟩

/-- **The sessions of a UDP tunnel are accounted for.**  In every run in which no datagram that the allowlist
lets through reaches `session` after the `clearSessions` of `close`, and in which `close` does not return
while another call has removed sessions that it has not counted: the two tables of a runtime hold the same
sessions, by the text of the address and by the identifier, and never too many of them; when no call is
between removing sessions and counting them, the runtime has added its sessions to `Manager.active`; and
once `close` has returned, it has none and has added nothing. -/
theorem udp_sessions_accounted {config : Config State Task}
    (reached : udpTunnels.Run Careful idleManager config) {runtime : ℕ}
    {value : UDPRuntime} (found : config.shared.runtimes[runtime]? = some value) :
    (Keyed config.shared.identities value ∧ ∀ session,
      (∃ key, value.sessions.lookup key = some session) ↔
        ∃ id, value.byID.lookup id = some session) ∧
    value.sessions.size ≤ udpMaxSessions ∧
    ((∀ task ∈ config.threads, task.owed runtime = 0) →
      value.contribution = value.sessions.size) ∧
    (.closed runtime ∈ config.threads →
      value.sessions = ∅ ∧ (∀ id, value.byID.lookup id = none) ∧ value.contribution = 0) := by
  obtain ⟨accounted, closed⟩ := closed_of_careful reached
  have keyed := accounted.keyed runtime value found
  have balance := accounted.balance runtime value found
  refine ⟨⟨keyed, keyed.same_sessions⟩, accounted.bounded runtime value found, fun nobody => ?_,
    fun member => ?_⟩
  · rw [balance, total_owed_eq_zero nobody]
    exact add_zero _
  · obtain ⟨known, same, cleared, returned⟩ := closed.fits _ member runtime true rfl
    rw [found] at same
    cases same
    have empty := closed.empty runtime value found cleared
    refine ⟨empty, keyed.byID_eq_none empty, ?_⟩
    rw [balance, closed.settled runtime value found (returned rfl), empty]
    rfl

/-! ## Two runs -/

/-- The tunnel is started, and a worker takes a datagram from the queue. -/
def visitorMoves : List (Move Task Choice) :=
  .arrive (.startUDP dnsTunnel) :: succeed 0 1 ++
    [.arrive (.handleVisitorPacket 0 ⟨"203.0.113.7", 40000, ""⟩)]

/-- The tunnel is stopped before the worker comes to `session`. -/
theorem session_made_after_close :
    ∃ config, udpTunnels.Run (fun _ _ => True) idleManager config ∧
      .closed 0 ∈ config.threads ∧
      ∃ value, config.shared.runtimes[0]? = some value ∧ value.sessions.size = 1 ∧
        value.contribution = 1 := by
  obtain ⟨config, reached, closed, leaked⟩ :
      ∃ config, udpTunnels.Run (fun _ _ => True) idleManager config ∧
        .closed 0 ∈ config.threads ∧
        (config.shared.runtimes[0]?).any
          (fun value => value.sessions.size = 1 ∧ value.contribution = 1) = true := by
    refine Machine.exists_run_of_replay
      (visitorMoves ++ .arrive (.stop "tunnel-1") :: succeed 2 5 ++ succeed 1 1) ?_
    decide +kernel
  obtain ⟨value, found, facts⟩ := (Option.any_eq_true _ _).mp leaked
  obtain ⟨size, contribution⟩ := of_decide_eq_true facts
  exact ⟨config, reached, closed, value, found, size, contribution⟩

/-- The worker comes to `session` before the tunnel is stopped. -/
theorem udp_sessions_accounted_stopped :
    ∃ config, udpTunnels.Run Careful idleManager config ∧
      .closed 0 ∈ config.threads ∧
      ∃ value, config.shared.runtimes[0]? = some value ∧ value.sessions = ∅ ∧
        value.contribution = 0 := by
  obtain ⟨config, reached, closed, present⟩ :
      ∃ config, udpTunnels.Run Careful idleManager config ∧
        .closed 0 ∈ config.threads ∧ (config.shared.runtimes[0]?).isSome = true := by
    refine Machine.exists_run_of_replay
      (visitorMoves ++ succeed 1 1 ++ .arrive (.stop "tunnel-1") :: succeed 2 6) ?_
    decide +kernel
  obtain ⟨value, found⟩ := Option.isSome_iff_exists.mp present
  obtain ⟨empty, -, contribution⟩ := (udp_sessions_accounted reached found).2.2.2 closed
  exact ⟨config, reached, closed, value, found, empty, contribution⟩

end NryNet.Tunnels.UDP
