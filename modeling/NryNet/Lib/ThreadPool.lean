import Mathlib.Algebra.Order.BigOperators.Group.List
import Mathlib.Algebra.Order.Group.Nat
import Mathlib.Algebra.Order.Group.Multiset
import Mathlib.Tactic.Abel

/-!
# Thread pools over a shared state

A concurrent program is presented by one step function: a thread in local state `t`, looking at
the shared state `s`, moves to a new local state, updates the shared state and may spawn further
threads.  The argument `χ` of the step function resolves whatever the environment decides (which
branch of a `select` fires, whether an external call fails).  A step that is undefined at every
choice is a blocked thread.

A `Config` is the shared state together with the list of all threads that ever arrived; the
position of a thread in that list never changes, so it serves as its identity.  Interleavings are
not quantified over separately: a `Run` takes moves in any order, and a theorem about every `Run`
is a theorem about every interleaving.

`Run` carries a predicate `allowed` on the configuration before a move and the move itself.  With
the trivial predicate it is plain reachability; with another one it is "every run whose moves all
meet the condition".

* `Machine.Run.invariant` is the induction rule for one predicate on configurations;
  `Machine.Run.step_invariant` is the form for runs whose steps all meet a condition `AtStep`.
* `Machine.Run.pool_invariant` splits that predicate into one for the shared state and one for
  every thread, so that a proof states what one step does and what the other threads tolerate.
* `Machine.annotate` gives every thread a note that only the specification reads; `Run.erase` says
  that the pool does not notice.
* `Config.total` sums a weight over all threads; `Machine.total_run` says how a step moves it,
  which is all that a conservation argument needs, and `Machine.mutex_run` is the conservation of
  the one place inside a critical section.  `Config.gather` and `Machine.gather_run` are the same for
  what the threads hold in their hands.
-/

namespace ThreadPool

universe u v w

/-- A program for a pool of threads `τ` over a shared state `σ`, with the environment's decisions
in `χ`.  `entry` says which threads may arrive from outside; `step` runs one atomic action. -/
structure Machine (σ : Type u) (τ : Type v) (χ : Type w) where
  entry : τ → Bool
  step : σ → τ → χ → Option (σ × τ × List τ)

/-- The shared state and every thread that has arrived, in order of arrival. -/
structure Config (σ : Type u) (τ : Type v) where
  shared : σ
  threads : List τ

/-- A scheduling decision: a new thread arrives, or thread number `index` takes one step. -/
inductive Move (τ : Type v) (χ : Type w) where
  | arrive (thread : τ)
  | run (index : ℕ) (choice : χ)

namespace Machine

variable {σ : Type u} {τ : Type v} {χ : Type w}

/-- One move of a configuration; `none` when the move is not possible there. -/
def exec (machine : Machine σ τ χ) (config : Config σ τ) : Move τ χ → Option (Config σ τ)
  | .arrive thread =>
      if machine.entry thread then
        some { config with threads := config.threads ++ [thread] }
      else none
  | .run index choice =>
      (config.threads[index]?).bind fun thread =>
        (machine.step config.shared thread choice).map fun outcome =>
          { shared := outcome.1
            threads := config.threads.set index outcome.2.1 ++ outcome.2.2 }

/-- A list of moves, executed from the left as long as each one is allowed and possible. -/
def replay (machine : Machine σ τ χ) (allowed : Config σ τ → Move τ χ → Prop)
    [∀ config move, Decidable (allowed config move)] :
    Config σ τ → List (Move τ χ) → Option (Config σ τ)
  | config, [] => some config
  | config, move :: rest =>
      if allowed config move then
        (machine.exec config move).bind fun next => machine.replay allowed next rest
      else none

/-- The configurations reached from `start` by moves that all meet `allowed`. -/
inductive Run (machine : Machine σ τ χ) (allowed : Config σ τ → Move τ χ → Prop)
    (start : Config σ τ) : Config σ τ → Prop
  | refl : Run machine allowed start start
  | step {config next : Config σ τ} {move : Move τ χ} :
      Run machine allowed start config → allowed config move →
      machine.exec config move = some next → Run machine allowed start next

/-- The configurations reached from `start` by any moves at all. -/
abbrev Reachable (machine : Machine σ τ χ) (start config : Config σ τ) : Prop :=
  machine.Run (fun _ _ => True) start config

/-- A condition on the threads that take a step, in the configuration before it.  Arrivals are
free. -/
def AtStep (condition : Config σ τ → τ → Prop) (config : Config σ τ) : Move τ χ → Prop
  | .arrive _ => True
  | .run index _ => ∀ thread ∈ config.threads[index]?, condition config thread

instance (condition : Config σ τ → τ → Prop)
    [∀ config thread, Decidable (condition config thread)] (config : Config σ τ)
    (move : Move τ χ) : Decidable (AtStep condition config move) := by
  unfold AtStep
  split <;> infer_instance

variable {machine : Machine σ τ χ} {allowed : Config σ τ → Move τ χ → Prop}
variable {start config next : Config σ τ}

/-! ## What a move does -/

theorem exec_arrive {thread : τ} (moved : machine.exec config (.arrive thread) = some next) :
    machine.entry thread = true ∧
      next = { config with threads := config.threads ++ [thread] } := by
  rw [exec] at moved
  by_cases admitted : machine.entry thread = true
  · rw [if_pos admitted, Option.some.injEq] at moved
    exact ⟨admitted, moved.symm⟩
  · rw [if_neg admitted] at moved
    cases moved

/-- A step replaces exactly the thread that took it and appends what it spawned. -/
theorem exec_run {index : ℕ} {choice : χ}
    (moved : machine.exec config (.run index choice) = some next) :
    ∃ thread shared' thread' spawned,
      config.threads[index]? = some thread ∧
      machine.step config.shared thread choice = some (shared', thread', spawned) ∧
      next = { shared := shared', threads := config.threads.set index thread' ++ spawned } := by
  simp only [exec, Option.bind_eq_some_iff, Option.map_eq_some_iff] at moved
  obtain ⟨thread, present, ⟨shared', thread', spawned⟩, stepped, rfl⟩ := moved
  exact ⟨thread, shared', thread', spawned, present, stepped, rfl⟩

/-- Every thread of the pool after a step is the one that stepped, a spawned one, or an old one. -/
theorem mem_threads_of_step {index : ℕ} {thread' other : τ} {spawned : List τ}
    (member : other ∈ config.threads.set index thread' ++ spawned) :
    other = thread' ∨ other ∈ spawned ∨ other ∈ config.threads := by
  rcases List.mem_append.mp member with kept | fresh
  · rcases List.mem_or_eq_of_mem_set kept with old | rfl
    · exact Or.inr (Or.inr old)
    · exact Or.inl rfl
  · exact Or.inr (Or.inl fresh)

/-- An old thread survives a step unless it is the one that took it. -/
theorem mem_threads_after_step {index : ℕ} {thread thread' other : τ} {spawned : List τ}
    (present : config.threads[index]? = some thread) (member : other ∈ config.threads) :
    other = thread ∨ other ∈ config.threads.set index thread' ++ spawned := by
  obtain ⟨position, located⟩ := List.mem_iff_getElem?.mp member
  by_cases same : position = index
  · subst same
    rw [located] at present
    exact Or.inl (Option.some.inj present)
  · refine Or.inr (List.mem_append_left _ (List.mem_iff_getElem?.mpr ⟨position, ?_⟩))
    rw [List.getElem?_set_ne (Ne.symm same)]
    exact located

/-- The thread that stepped is in the pool afterwards, in its new local state. -/
theorem stepped_mem_threads {index : ℕ} {thread thread' : τ} {spawned : List τ}
    (present : config.threads[index]? = some thread) :
    thread' ∈ config.threads.set index thread' ++ spawned := by
  refine List.mem_append_left _ (List.mem_iff_getElem?.mpr ⟨index, ?_⟩)
  have bound : index < config.threads.length := (List.getElem?_eq_some_iff.mp present).1
  rw [List.getElem?_set_self bound]

/-! ## Induction over runs -/

namespace Run

/-- A predicate that holds at the start and survives every allowed move holds along every run. -/
theorem invariant (reached : machine.Run allowed start config) (property : Config σ τ → Prop)
    (initially : property start)
    (preserved : ∀ config next move, property config → allowed config move →
      machine.exec config move = some next → property next) :
    property config := by
  induction reached with
  | refl => exact initially
  | step _ permitted moved hypothesis => exact preserved _ _ _ hypothesis permitted moved

/-- The induction rule for runs whose steps all meet a condition: arrivals and steps apart. -/
theorem step_invariant {condition : Config σ τ → τ → Prop}
    (reached : machine.Run (AtStep condition) start config) (property : Config σ τ → Prop)
    (initially : property start)
    (arrives : ∀ config thread, property config → machine.entry thread = true →
      property { config with threads := config.threads ++ [thread] })
    (steps : ∀ (config : Config σ τ) index choice thread shared' thread' spawned,
      property config → config.threads[index]? = some thread → condition config thread →
      machine.step config.shared thread choice = some (shared', thread', spawned) →
      property { shared := shared', threads := config.threads.set index thread' ++ spawned }) :
    property config := by
  refine reached.invariant property initially ?_
  rintro config next (thread | ⟨index, choice⟩) holds permitted moved
  · obtain ⟨admitted, rfl⟩ := exec_arrive moved
    exact arrives config thread holds admitted
  · obtain ⟨thread, shared', thread', spawned, present, stepped, rfl⟩ := exec_run moved
    exact steps _ _ _ _ _ _ _ holds present (permitted thread present) stepped

/-- Weakening the condition on moves keeps a run a run. -/
theorem mono {weaker : Config σ τ → Move τ χ → Prop}
    (reached : machine.Run allowed start config)
    (implies : ∀ config move, allowed config move → weaker config move) :
    machine.Run weaker start config := by
  induction reached with
  | refl => exact .refl
  | step _ permitted moved hypothesis => exact .step hypothesis (implies _ _ permitted) moved

/-- The induction rule for runs without a condition. -/
theorem reachable_invariant (reached : machine.Reachable start config)
    (property : Config σ τ → Prop) (initially : property start)
    (arrives : ∀ config thread, property config → machine.entry thread = true →
      property { config with threads := config.threads ++ [thread] })
    (steps : ∀ (config : Config σ τ) index choice thread shared' thread' spawned,
      property config → config.threads[index]? = some thread →
      machine.step config.shared thread choice = some (shared', thread', spawned) →
      property { shared := shared', threads := config.threads.set index thread' ++ spawned }) :
    property config := by
  have free : machine.Run (AtStep fun _ _ => True) start config := by
    refine reached.mono fun config move _ => ?_
    cases move with
    | arrive thread => trivial
    | run index choice => exact fun _ _ => trivial
  refine free.step_invariant property initially arrives ?_
  intro config index choice thread shared' thread' spawned holds present _ stepped
  exact steps config index choice thread shared' thread' spawned holds present stepped

/-- **The pool rule.**  `global` speaks about the shared state, `local'` about one thread in it.
A step has to re-establish both for the thread that takes it and for the threads it spawns, and
has to be tolerated by every other thread. -/
theorem pool_invariant (reached : machine.Run allowed start config)
    (global : σ → Prop) (local' : σ → τ → Prop)
    (initially : global start.shared ∧ ∀ thread ∈ start.threads, local' start.shared thread)
    (arrives : ∀ shared thread, global shared → machine.entry thread = true →
      local' shared thread)
    (steps : ∀ (config : Config σ τ) index choice thread shared' thread' spawned,
      global config.shared → (∀ other ∈ config.threads, local' config.shared other) →
      config.threads[index]? = some thread → allowed config (.run index choice) →
      machine.step config.shared thread choice = some (shared', thread', spawned) →
      global shared' ∧ local' shared' thread' ∧ (∀ fresh ∈ spawned, local' shared' fresh) ∧
        ∀ other ∈ config.threads, local' config.shared other → local' shared' other) :
    global config.shared ∧ ∀ thread ∈ config.threads, local' config.shared thread := by
  refine reached.invariant (fun config => global config.shared ∧
    ∀ thread ∈ config.threads, local' config.shared thread) initially ?_
  rintro config next (thread | ⟨index, choice⟩) ⟨holds, threads⟩ permitted moved
  · obtain ⟨admitted, rfl⟩ := exec_arrive moved
    refine ⟨holds, fun other member => ?_⟩
    rcases List.mem_append.mp member with old | fresh
    · exact threads other old
    · rw [List.mem_singleton] at fresh
      subst fresh
      exact arrives _ _ holds admitted
  · obtain ⟨thread, shared', thread', spawned, present, stepped, rfl⟩ := exec_run moved
    obtain ⟨holds', own, born, tolerated⟩ :=
      steps _ _ _ _ _ _ _ holds threads present permitted stepped
    refine ⟨holds', fun other member => ?_⟩
    rcases mem_threads_of_step member with rfl | fresh | old
    · exact own
    · exact born other fresh
    · exact tolerated other old (threads other old)

end Run

/-- A replayed list of moves is a run. -/
theorem Run.of_replay [∀ config move, Decidable (allowed config move)]
    {moves : List (Move τ χ)} :
    ∀ {config : Config σ τ}, machine.Run allowed start config →
      machine.replay allowed config moves = some next → machine.Run allowed start next := by
  induction moves with
  | nil =>
      intro config reached replayed
      rw [replay, Option.some.injEq] at replayed
      exact replayed ▸ reached
  | cons move rest hypothesis =>
      intro config reached replayed
      rw [replay] at replayed
      by_cases permitted : allowed config move
      · rw [if_pos permitted, Option.bind_eq_some_iff] at replayed
        obtain ⟨middle, moved, replayed⟩ := replayed
        exact hypothesis (.step reached permitted moved) replayed
      · rw [if_neg permitted] at replayed
        cases replayed

/-- A list of moves that replays to the end and there satisfies a decidable property reaches a
configuration with that property. -/
theorem exists_run_of_replay [∀ config move, Decidable (allowed config move)]
    (moves : List (Move τ χ)) {property : Config σ τ → Prop} [DecidablePred property]
    (replayed : (machine.replay allowed start moves).any (fun config => property config) = true) :
    ∃ config, machine.Run allowed start config ∧ property config := by
  obtain ⟨config, replayed, holds⟩ := (Option.any_eq_true _ _).mp replayed
  exact ⟨config, Run.of_replay .refl replayed, of_decide_eq_true holds⟩

end Machine

/-! ## Weights summed over the pool -/

namespace Config

variable {σ : Type u} {τ : Type v} {β : Type*}

/-- The sum of a weight over all threads of the pool. -/
def total (config : Config σ τ) (weight : τ → ℕ) : ℕ :=
  (config.threads.map weight).sum

/-- Everything the threads of the pool hold. -/
def gather (config : Config σ τ) (holds : τ → Multiset β) : Multiset β :=
  (config.threads.map holds).sum

theorem total_arrive (config : Config σ τ) (weight : τ → ℕ) (thread : τ) :
    ({ config with threads := config.threads ++ [thread] } : Config σ τ).total weight =
      config.total weight + weight thread := by
  unfold total
  rw [List.map_append, List.sum_append, List.map_singleton, List.sum_singleton]

/-- A thread's own weight is a lower bound of the total. -/
theorem le_total {config : Config σ τ} {weight : τ → ℕ} {thread : τ}
    (member : thread ∈ config.threads) : weight thread ≤ config.total weight :=
  List.le_sum_of_mem (List.mem_map_of_mem member)

/-- What nobody holds is not gathered. -/
theorem gather_eq_zero {config : Config σ τ} {holds : τ → Multiset β}
    (idle : ∀ thread ∈ config.threads, holds thread = 0) : config.gather holds = 0 := by
  unfold gather
  rw [List.map_congr_left idle, List.map_const', List.sum_replicate, nsmul_zero]

/-- What a thread holds is part of what is gathered. -/
theorem le_gather {config : Config σ τ} {holds : τ → Multiset β} {thread : τ}
    (member : thread ∈ config.threads) : holds thread ≤ config.gather holds := by
  obtain ⟨before, after, split⟩ := List.append_of_mem member
  unfold gather
  rw [split, List.map_append, List.sum_append, List.map_cons, List.sum_cons]
  exact (Multiset.le_add_right _ _).trans (Multiset.le_add_left _ _)

theorem gather_arrive (config : Config σ τ) (holds : τ → Multiset β) (thread : τ) :
    ({ config with threads := config.threads ++ [thread] } : Config σ τ).gather holds =
      config.gather holds + holds thread := by
  unfold gather
  rw [List.map_append, List.sum_append, List.map_singleton, List.sum_singleton]

end Config

namespace Machine

variable {σ : Type u} {τ : Type v} {χ : Type w} {config : Config σ τ}

theorem total_set {M : Type*} [AddCommMonoid M] (weight : τ → M) {thread : τ} (thread' : τ) :
    ∀ {threads : List τ} {index : ℕ}, threads[index]? = some thread →
      ((threads.set index thread').map weight).sum + weight thread =
        (threads.map weight).sum + weight thread' := by
  intro threads
  induction threads with
  | nil => intro index present; simp at present
  | cons head tail hypothesis =>
      intro index present
      cases index with
      | zero =>
          simp only [List.getElem?_cons_zero, Option.some.injEq] at present
          subst present
          simp only [List.set_cons_zero, List.map_cons, List.sum_cons]
          abel
      | succ index =>
          rw [List.getElem?_cons_succ] at present
          have moved := hypothesis present
          simp only [List.set_cons_succ, List.map_cons, List.sum_cons]
          rw [add_assoc, moved, add_assoc]

/-- A step trades the weight of the thread that took it for the weight of its new state and of
the threads it spawned. -/
theorem total_run (weight : τ → ℕ) {index : ℕ} {thread : τ} (shared' : σ) (thread' : τ)
    (spawned : List τ) (present : config.threads[index]? = some thread) :
    ({ shared := shared', threads := config.threads.set index thread' ++ spawned } :
        Config σ τ).total weight + weight thread =
      config.total weight + weight thread' + (spawned.map weight).sum := by
  have moved := total_set weight thread' present
  simp only [Config.total, List.map_append, List.sum_append]
  omega

/-- An old thread that is still there after a step is another one than the one that took it: the total
counts both. -/
theorem mem_threads_beside (weight : τ → ℕ) {index : ℕ} {thread thread' other : τ}
    {spawned : List τ} (present : config.threads[index]? = some thread)
    (member : other ∈ config.threads.set index thread' ++ spawned) :
    other = thread' ∨ other ∈ spawned ∨
      other ∈ config.threads ∧ weight other + weight thread ≤ config.total weight := by
  obtain ⟨bound, located⟩ := List.getElem?_eq_some_iff.mp present
  have split : config.threads =
      config.threads.take index ++ thread :: config.threads.drop (index + 1) := by
    rw [← located, ← List.drop_eq_getElem_cons bound, List.take_append_drop]
  have counted : config.total weight = ((config.threads.take index).map weight).sum +
      (weight thread + ((config.threads.drop (index + 1)).map weight).sum) := by
    have summed := congrArg (fun threads => (threads.map weight).sum) split
    simp only [List.map_append, List.sum_append, List.map_cons, List.sum_cons] at summed
    exact summed
  rcases List.mem_append.mp member with kept | fresh
  · rw [List.set_eq_take_append_cons_drop, if_pos bound] at kept
    rcases List.mem_append.mp kept with before | rest
    · have own := List.le_sum_of_mem (List.mem_map_of_mem (f := weight) before)
      exact .inr (.inr ⟨List.mem_of_mem_take before, by omega⟩)
    · rcases List.mem_cons.mp rest with rfl | after
      · exact .inl rfl
      · have own := List.le_sum_of_mem (List.mem_map_of_mem (f := weight) after)
        exact .inr (.inr ⟨List.mem_of_mem_drop after, by omega⟩)
  · exact .inr (.inl fresh)

/-- **The mutex rule.**  `weight` is 1 on the threads inside the critical section and 0 elsewhere, and
`locked` is the mutex.  A step that leaves both alone, enters through a free mutex or leaves through
it keeps the count of those inside equal to the state of the mutex. -/
theorem mutex_run (weight : τ → ℕ) (locked : σ → Bool) {index : ℕ} {thread : τ} (shared' : σ)
    (thread' : τ) (spawned : List τ) (present : config.threads[index]? = some thread)
    (exclusive : config.total weight = if locked config.shared then 1 else 0)
    (born : ∀ fresh ∈ spawned, weight fresh = 0)
    (change : (weight thread' = weight thread ∧ locked shared' = locked config.shared) ∨
      (weight thread = 0 ∧ weight thread' = 1 ∧ locked config.shared = false ∧
        locked shared' = true) ∨
      (weight thread = 1 ∧ weight thread' = 0 ∧ locked shared' = false)) :
    ({ shared := shared', threads := config.threads.set index thread' ++ spawned } :
        Config σ τ).total weight = if locked shared' then 1 else 0 := by
  have traded := total_run weight shared' thread' spawned present
  have none : (spawned.map weight).sum = 0 := by
    rw [List.sum_eq_zero_iff]
    simpa using born
  rcases change with ⟨same, kept⟩ | ⟨outside, inside, free, taken⟩ | ⟨inside, outside, freed⟩
  · rw [kept, ← exclusive]
    omega
  · rw [free, if_neg Bool.false_ne_true] at exclusive
    rw [taken, if_pos rfl]
    omega
  · have single : config.total weight ≤ 1 := by
      rw [exclusive]
      split <;> omega
    rw [freed, if_neg Bool.false_ne_true]
    omega

/-- A step trades what the thread that took it held for what it holds now and for what the threads
it spawned hold. -/
theorem gather_run {β : Type*} (holds : τ → Multiset β) {index : ℕ} {thread : τ} (shared' : σ)
    (thread' : τ) (spawned : List τ) (present : config.threads[index]? = some thread) :
    ({ shared := shared', threads := config.threads.set index thread' ++ spawned } :
        Config σ τ).gather holds + holds thread =
      config.gather holds + holds thread' + (spawned.map holds).sum := by
  have moved := total_set holds thread' present
  simp only [Config.gather, List.map_append, List.sum_append]
  rw [add_right_comm, moved]

/-- What the other threads hold is the same before and after a step, if the threads it spawned hold
nothing. -/
theorem gather_step {β : Type*} (holds : τ → Multiset β) {index : ℕ} {thread : τ}
    (present : config.threads[index]? = some thread) :
    ∃ others, config.gather holds = holds thread + others ∧
      ∀ (shared' : σ) (thread' : τ) (spawned : List τ), (∀ fresh ∈ spawned, holds fresh = 0) →
        ({ shared := shared', threads := config.threads.set index thread' ++ spawned } :
          Config σ τ).gather holds = holds thread' + others := by
  obtain ⟨others, split⟩ : ∃ others, config.gather holds = holds thread + others :=
    Multiset.le_iff_exists_add.mp (Config.le_gather (List.mem_of_getElem? present))
  refine ⟨others, split, fun shared' thread' spawned idle => ?_⟩
  have born : (spawned.map holds).sum = 0 := by
    rw [List.map_congr_left idle, List.map_const', List.sum_replicate, nsmul_zero]
  have traded := gather_run holds shared' thread' spawned present
  rw [split, born, add_zero] at traded
  have moved : holds thread + others + holds thread' = holds thread' + others + holds thread := by
    abel
  rw [moved] at traded
  exact add_right_cancel traded

end Machine

/-! ## Threads with a note

A specification may have to tell threads apart that the program does not: on whose behalf a thread
runs, for example.  A note travels with its thread, and no step reads it. -/

/-- The pool in which every thread carries a note, which `renew` brings up to date when the thread
takes a step.  A spawned thread begins with `blank`. -/
def Machine.annotate {σ : Type u} {τ : Type v} {χ : Type w} {α : Type*} (machine : Machine σ τ χ)
    (renew : τ → α → α) (blank : α) : Machine σ (τ × α) χ where
  entry thread := machine.entry thread.1
  step shared thread choice :=
    (machine.step shared thread.1 choice).map fun outcome =>
      (outcome.1, (outcome.2.1, renew thread.1 thread.2),
        outcome.2.2.map fun spawned => (spawned, blank))

/-- The pool without the notes. -/
def Config.erase {σ : Type u} {τ : Type v} {α : Type*} (config : Config σ (τ × α)) : Config σ τ where
  shared := config.shared
  threads := config.threads.map Prod.fst

namespace Machine

variable {σ : Type u} {τ : Type v} {χ : Type w} {α : Type*} {machine : Machine σ τ χ}
variable {renew : τ → α → α} {blank : α}

/-- A step with notes is a step without. -/
theorem of_annotate_step {shared shared' : σ} {thread thread' : τ × α} {spawned : List (τ × α)}
    {choice : χ}
    (stepped : (machine.annotate renew blank).step shared thread choice =
      some (shared', thread', spawned)) :
    ∃ spawned', machine.step shared thread.1 choice = some (shared', thread'.1, spawned') ∧
      thread'.2 = renew thread.1 thread.2 ∧ spawned = spawned'.map fun spawned => (spawned, blank) := by
  obtain ⟨⟨shared'', next, spawned'⟩, below, built⟩ := Option.map_eq_some_iff.mp stepped
  cases built
  exact ⟨spawned', below, rfl, rfl⟩

/-- A run with notes is a run without. -/
theorem Run.erase {allowed : Config σ (τ × α) → Move (τ × α) χ → Prop}
    {start config : Config σ (τ × α)}
    (reached : (machine.annotate renew blank).Run allowed start config) :
    machine.Reachable start.erase config.erase := by
  induction reached with
  | refl => exact .refl
  | @step config next move _ _ moved hypothesis =>
      cases move with
      | arrive thread =>
          obtain ⟨admitted, rfl⟩ := exec_arrive moved
          have arrives : machine.exec config.erase (.arrive thread.1) =
              some { config.erase with threads := config.erase.threads ++ [thread.1] } :=
            if_pos admitted
          have same : ({ config with threads := config.threads ++ [thread] } :
              Config σ (τ × α)).erase =
              { config.erase with threads := config.erase.threads ++ [thread.1] } := by
            unfold Config.erase
            rw [List.map_append, List.map_singleton]
          rw [same]
          exact .step hypothesis trivial arrives
      | run index choice =>
          obtain ⟨thread, shared', thread', spawned, present, stepped, rfl⟩ := exec_run moved
          obtain ⟨spawned', stepped', -, rfl⟩ := of_annotate_step stepped
          have present' : config.erase.threads[index]? = some thread.1 := by
            unfold Config.erase
            rw [List.getElem?_map, present]
            rfl
          have steps : machine.exec config.erase (.run index choice) =
              some
                { shared := shared'
                  threads := config.erase.threads.set index thread'.1 ++ spawned' } := by
            show (config.erase.threads[index]?).bind _ = _
            rw [present', Option.bind_some]
            show (machine.step config.shared thread.1 choice).map _ = _
            rw [stepped']
            rfl
          have same : ({ shared := shared'
                         threads := config.threads.set index thread' ++
                           spawned'.map fun spawned => (spawned, blank) } :
              Config σ (τ × α)).erase =
              { shared := shared'
                threads := config.erase.threads.set index thread'.1 ++ spawned' } := by
            unfold Config.erase
            rw [List.map_append, List.map_set, List.map_map]
            congr
            exact List.map_id _
          rw [same]
          exact .step hypothesis trivial steps

end Machine

end ThreadPool
