import NryNet.Relay.WorkerSlices

/-!
# What becomes of a worker (`server/relay/work_connection_pool.go`)

A worker that `add` has accepted waits in the pool until a visitor takes it or its connection is closed,
and exactly one of these things happens to it.  Over the history of the pool: whatever was added was taken,
or was closed, or is still idle, as often as it was added.

The idle workers of a client are a stack that is laid down in its history (`Laid`): below the worker on top
lies the history up to its `add`, and of what was added for the client after it, everything has gone again.
That is what makes it the most recent one.
-/

namespace NryNet.Relay

/-- The workers that were accepted. -/
def accepted (events : List PoolEvent) : List IdleWorkConnection :=
  events.filterMap fun
    | .added worker => some worker
    | _ => none

/-- The workers that were taken. -/
def takes (events : List PoolEvent) : List IdleWorkConnection :=
  events.filterMap fun
    | .taken _ worker => some worker
    | _ => none

/-- The workers whose connections were closed. -/
def closings (events : List PoolEvent) : List IdleWorkConnection :=
  events.flatMap fun
    | .closed _ workers => workers
    | _ => []

/-- Every worker of the client that was added in this part of the history has gone in it again, and no other
worker has. -/
def Balanced (clientID : String) (events : List PoolEvent) : Prop :=
  ∀ worker : IdleWorkConnection, worker.clientID = clientID →
    (accepted events).count worker = (takes events).count worker + (closings events).count worker

/-- The worker is the one that was added last among those of the client that are idle. -/
def Newest (clientID : String) (worker : IdleWorkConnection) (events : List PoolEvent) : Prop :=
  worker.clientID = clientID ∧
    ∃ before after, events = before ++ .added worker :: after ∧ Balanced clientID after

/-- The idle workers of a client, from the one that was added first to the one that was added last. -/
inductive Laid (clientID : String) : List PoolEvent → List IdleWorkConnection → Prop
  | empty {events : List PoolEvent} (balanced : Balanced clientID events) : Laid clientID events []
  | push {before after : List PoolEvent} {workers : List IdleWorkConnection} {worker : IdleWorkConnection}
      (below : Laid clientID before workers) (own : worker.clientID = clientID)
      (balanced : Balanced clientID after) :
      Laid clientID (before ++ .added worker :: after) (workers ++ [worker])

section Events

variable {clientID : String} {events more : List PoolEvent} {worker : IdleWorkConnection}
variable {workers : List IdleWorkConnection}

theorem accepted_append (events more : List PoolEvent) :
    accepted (events ++ more) = accepted events ++ accepted more := List.filterMap_append

theorem takes_append (events more : List PoolEvent) :
    takes (events ++ more) = takes events ++ takes more := List.filterMap_append

theorem closings_append (events more : List PoolEvent) :
    closings (events ++ more) = closings events ++ closings more := List.flatMap_append

theorem Balanced.append (first : Balanced clientID events) (second : Balanced clientID more) :
    Balanced clientID (events ++ more) := by
  intro worker own
  have one := first worker own
  have two := second worker own
  rw [accepted_append, takes_append, closings_append, List.count_append, List.count_append,
    List.count_append]
  omega

theorem balanced_nil : Balanced clientID [] := fun _ _ => rfl

/-- A part of the history without an `add` for the client leaves the stack where it is. -/
theorem Laid.append (laid : Laid clientID events workers) (balanced : Balanced clientID more) :
    Laid clientID (events ++ more) workers := by
  cases laid with
  | empty first => exact .empty (first.append balanced)
  | push below own first =>
      rw [List.append_assoc, List.cons_append]
      exact .push below own (first.append balanced)

/-- What was added was taken, or closed, or lies on the stack. -/
theorem Laid.conserved (laid : Laid clientID events workers) (own : worker.clientID = clientID) :
    (accepted events).count worker =
      (takes events).count worker + (closings events).count worker + workers.count worker := by
  induction laid with
  | empty balanced => exact balanced worker own
  | @push before after workers top below _ balanced ih =>
      have rest := balanced worker own
      have added (after : List PoolEvent) : accepted (.added top :: after) = top :: accepted after := rfl
      have taken (after : List PoolEvent) : takes (.added top :: after) = takes after := rfl
      have closed (after : List PoolEvent) : closings (.added top :: after) = closings after := rfl
      rw [accepted_append, takes_append, closings_append, added, taken, closed]
      simp only [List.count_append, List.count_cons, List.count_nil]
      omega

/-- Nothing lies on the stack: whatever was added has gone. -/
theorem Laid.balanced (laid : Laid clientID events []) : Balanced clientID events := fun _ own =>
  laid.conserved own

/-- The worker on top of the stack is the newest. -/
theorem Laid.top (laid : Laid clientID events (workers ++ [worker])) :
    ∃ before after, events = before ++ .added worker :: after ∧ Laid clientID before workers ∧
      worker.clientID = clientID ∧ Balanced clientID after := by
  generalize whole : workers ++ [worker] = stack at laid
  cases laid with
  | empty balanced => exact absurd whole (List.append_ne_nil_of_right_ne_nil _ (List.cons_ne_nil _ _))
  | @push before after rest top below own balanced =>
      obtain ⟨rfl, same⟩ := List.append_inj' whole rfl
      cases same
      exact ⟨before, after, rfl, below, own, balanced⟩

theorem Laid.newest (laid : Laid clientID events (workers ++ [worker])) : Newest clientID worker events := by
  obtain ⟨before, after, split, -, own, balanced⟩ := laid.top
  exact ⟨own, before, after, split, balanced⟩

/-! ## What an event does to a stack -/

theorem Laid.added (laid : Laid clientID events workers) (own : worker.clientID = clientID) :
    Laid clientID (events ++ [.added worker]) (workers ++ [worker]) :=
  .push laid own balanced_nil

/-- Taking the top uncovers the stack below, and its history goes on. -/
theorem Laid.taken (laid : Laid clientID events (workers ++ [worker])) :
    Laid clientID (events ++ [.taken clientID worker]) workers := by
  obtain ⟨before, after, rfl, below, own, balanced⟩ := laid.top
  rw [List.append_assoc, List.cons_append]
  refine below.append fun other mine => ?_
  have rest := balanced other mine
  have added : accepted (.added worker :: (after ++ [.taken clientID worker])) =
      worker :: accepted after := by
    show worker :: accepted (after ++ [.taken clientID worker]) = _
    rw [accepted_append]
    exact congrArg _ (List.append_nil _)
  have taken : takes (.added worker :: (after ++ [.taken clientID worker])) = takes after ++ [worker] := by
    show takes (after ++ [.taken clientID worker]) = _
    rw [takes_append]
    rfl
  have closed : closings (.added worker :: (after ++ [.taken clientID worker])) = closings after := by
    show closings (after ++ [.taken clientID worker]) = _
    rw [closings_append]
    exact List.append_nil _
  rw [added, taken, closed, List.count_cons, List.count_append, List.count_cons, List.count_nil]
  omega

/-- Closing what lies on the stack empties it. -/
theorem Laid.closed {name : Option String} {gone : List IdleWorkConnection}
    (laid : Laid clientID events workers)
    (all : ∀ worker : IdleWorkConnection, worker.clientID = clientID →
      gone.count worker = workers.count worker) :
    Laid clientID (events ++ [.closed name gone]) [] := by
  refine .empty fun worker own => ?_
  have kept := laid.conserved own
  have same := all worker own
  have closed : closings [.closed name gone] = gone := List.append_nil _
  rw [accepted_append, takes_append, closings_append, closed, List.count_append, List.count_append,
    List.count_append]
  show _ + (List.count worker []) = _ + (List.count worker []) + _
  rw [List.count_nil]
  omega

/-- Neither an `add` for another client nor a `take` nor a close of another client is seen on the stack. -/
theorem balanced_added (other : worker.clientID ≠ clientID) : Balanced clientID [.added worker] := by
  intro mine own
  show List.count mine [worker] = 0
  rw [List.count_singleton, if_neg]
  rintro same
  exact other (beq_iff_eq.mp same ▸ own)

theorem balanced_taken {name : String} (other : worker.clientID ≠ clientID) :
    Balanced clientID [.taken name worker] := by
  intro mine own
  show 0 = List.count mine [worker] + 0
  rw [List.count_singleton, if_neg]
  rintro same
  exact other (beq_iff_eq.mp same ▸ own)

theorem balanced_closed {name : Option String} {gone : List IdleWorkConnection}
    (others : ∀ worker ∈ gone, worker.clientID ≠ clientID) : Balanced clientID [.closed name gone] := by
  intro mine own
  have closed : closings [.closed name gone] = gone := List.append_nil _
  show 0 = 0 + (closings [.closed name gone]).count mine
  rw [closed, List.count_eq_zero.mpr fun member => others mine member own]

end Events

/-! ## The pool and its history -/

/-- What a call may answer after a history: a `take` finds the newest worker, or there is none, and
`closeClient` closes workers of its client. -/
def Answer (before : List PoolEvent) : PoolEvent → Prop
  | .taken clientID worker => Newest clientID worker before
  | .missed clientID => Balanced clientID before
  | .closed (some clientID) workers => ∀ worker ∈ workers, worker.clientID = clientID
  | _ => True

/-- Every answer in the history was one that the history before it allows. -/
def Answered (events : List PoolEvent) : Prop :=
  ∀ before event after, events = before ++ event :: after → Answer before event

theorem answered_nil : Answered [] := fun before _ _ split => by cases before <;> cases split

theorem Answered.append {events : List PoolEvent} {event : PoolEvent} (answered : Answered events)
    (last : Answer events event) : Answered (events ++ [event]) := by
  intro before earlier after split
  rcases List.eq_nil_or_concat after with rfl | ⟨rest, end', rfl⟩
  · obtain ⟨rfl, same⟩ := List.append_inj' split rfl
    rw [← (List.cons.inj same).1]
    exact last
  · rw [List.concat_eq_append, ← List.cons_append, ← List.append_assoc] at split
    exact answered before earlier rest (List.append_inj' split rfl).1

/-- The state of the pool, as its history has it. -/
structure PoolAccount (p : WorkConnectionPool) (events : List PoolEvent) : Prop where
  keyed : p.Keyed
  filled : ∀ clientID workers, p.idle.lookup clientID = some workers → workers ≠ []
  bounded : ∀ clientID, (p.workersOf clientID).length ≤ p.maxIdle
  laid : ∀ clientID, Laid clientID events (p.workersOf clientID)
  answered : Answered events

namespace WorkConnectionPool

variable {p : WorkConnectionPool} {events : List PoolEvent}

/-- All lists together have a worker as often as the list of its client. -/
theorem count_closeAll (keyed : p.Keyed) (worker : IdleWorkConnection) :
    p.closeAll.2.count worker = (p.workersOf worker.clientID).count worker := by
  refine GoMap.count_flatten_valuesWhere fun clientID workers found member => ?_
  refine (keyed clientID worker ?_).symm
  unfold workersOf
  rw [found]
  exact member

theorem account_newWorkConnectionPool (maxIdle : ℕ) : PoolAccount (newWorkConnectionPool maxIdle) [] where
  keyed := fun _ _ impossible => (List.not_mem_nil impossible).elim
  filled := fun _ _ impossible => nomatch impossible
  bounded := fun _ => Nat.zero_le _
  laid := fun _ => .empty balanced_nil
  answered := answered_nil

/-- What an operation leaves in the table is not empty. -/
theorem filled_insert {clientID : String} {workers : List IdleWorkConnection}
    (filled : ∀ clientID workers, p.idle.lookup clientID = some workers → workers ≠ [])
    (some' : workers ≠ []) (other : String) (others : List IdleWorkConnection)
    (found : (p.idle.insert clientID workers).lookup other = some others) : others ≠ [] := by
  rw [GoMap.lookup_insert_if] at found
  split at found
  · cases found
    exact some'
  · exact filled other others found

theorem filled_erase {clientID : String}
    (filled : ∀ clientID workers, p.idle.lookup clientID = some workers → workers ≠ [])
    (other : String) (others : List IdleWorkConnection)
    (found : (p.idle.erase clientID).lookup other = some others) : others ≠ [] := by
  rw [GoMap.lookup_erase_if] at found
  split at found
  · cases found
  · exact filled other others found

/-- What `take` leaves behind is an entry that is not empty, or none. -/
theorem filled_setWorkers {clientID : String} {workers : List IdleWorkConnection}
    (filled : ∀ clientID workers, p.idle.lookup clientID = some workers → workers ≠ [])
    (other : String) (others : List IdleWorkConnection)
    (found : (p.setWorkers clientID workers).idle.lookup other = some others) : others ≠ [] := by
  unfold setWorkers at found
  by_cases gone : workers.isEmpty = true
  · rw [if_pos gone] at found
    exact filled_erase filled other others found
  · rw [if_neg gone] at found
    refine filled_insert filled (fun emptied => gone ?_) other others found
    rw [emptied]
    rfl

theorem account_add (account : PoolAccount p events) (worker : IdleWorkConnection) (spare : ℕ) :
    PoolAccount (p.perform (.add worker spare)).1 (events ++ [(p.perform (.add worker spare)).2]) := by
  by_cases full : (p.workersOf worker.clientID).length ≥ p.maxIdle
  · have refused : p.perform (.add worker spare) = (p, .refused worker) := by
      unfold perform add
      simp only [if_pos full]
      rfl
    rw [refused]
    exact
      { account with
        laid := fun clientID => (account.laid clientID).append fun _ _ => rfl
        answered := account.answered.append trivial }
  · have added : p.add worker =
        ({ p with idle := p.idle.insert worker.clientID (p.workersOf worker.clientID ++ [worker]) }, true) :=
      if_neg full
    have performed : p.perform (.add worker spare) = ((p.add worker).1, .added worker) := by
      show ((p.add worker).1, if (p.add worker).2 then PoolEvent.added worker else .refused worker) = _
      rw [added]
      rfl
    have workers (other : String) : (p.add worker).1.workersOf other =
        if other = worker.clientID then p.workersOf other ++ [worker] else p.workersOf other := by
      rw [workersOf_add, added]
      simp only [true_and]
    rw [performed]
    refine
      { keyed := account.keyed.add
        filled := ?_
        bounded := fun clientID => ?_
        laid := fun clientID => ?_
        answered := account.answered.append trivial }
    · rw [added]
      exact filled_insert account.filled (List.append_ne_nil_of_right_ne_nil _ (List.cons_ne_nil _ _))
    · rw [workers]
      have same : (p.add worker).1.maxIdle = p.maxIdle := by rw [added]
      rw [same]
      split
      · rename_i own
        rw [List.length_append, own, List.length_singleton]
        exact Nat.lt_of_not_le full
      · exact account.bounded clientID
    · rw [workers]
      split
      · rename_i own
        exact (account.laid clientID).added own.symm
      · rename_i other
        exact (account.laid clientID).append (balanced_added (Ne.symm other))

theorem take_leaves {clientID : String} {worker : IdleWorkConnection} {p' : WorkConnectionPool}
    (taken : p.take clientID = (p', some worker)) : ∃ rest, p' = p.setWorkers clientID rest := by
  unfold take at taken
  split at taken
  · cases taken
  · cases taken
    exact ⟨_, rfl⟩

theorem account_take (account : PoolAccount p events) (clientID : String) :
    PoolAccount (p.perform (.take clientID)).1 (events ++ [(p.perform (.take clientID)).2]) := by
  rcases taken : p.take clientID with ⟨p', _ | worker⟩
  · have performed : p.perform (.take clientID) = (p', .missed clientID) := by
      unfold perform
      simp only [taken]
    obtain ⟨rfl, none'⟩ := take_none taken
    rw [performed]
    exact
      { account with
        laid := fun clientID => (account.laid clientID).append fun _ _ => rfl
        answered := account.answered.append (none' ▸ account.laid clientID).balanced }
  · have performed : p.perform (.take clientID) = (p', .taken clientID worker) := by
      unfold perform
      simp only [taken]
    obtain ⟨whole, others⟩ := take_some taken
    obtain ⟨rest, left⟩ := take_leaves taken
    have laid := account.laid clientID
    rw [whole] at laid
    have own : worker.clientID = clientID := by
      refine account.keyed clientID worker ?_
      rw [whole]
      exact List.mem_append_right _ (List.mem_singleton_self _)
    rw [performed]
    refine
      { keyed := ?_
        filled := ?_
        bounded := fun other => ?_
        laid := fun other => ?_
        answered := account.answered.append laid.newest }
    · have keyed : (p.take clientID).1.Keyed := account.keyed.take
      rwa [taken] at keyed
    · rw [left]
      exact filled_setWorkers account.filled
    · have same : p'.maxIdle = p.maxIdle := by rw [left]; rfl
      rw [same]
      refine Nat.le_trans ?_ (account.bounded other)
      by_cases mine : other = clientID
      · rw [mine, whole, List.length_append]
        exact Nat.le_add_right _ _
      · rw [others other mine]
    · by_cases mine : other = clientID
      · subst mine
        exact laid.taken
      · rw [others other mine]
        refine (account.laid other).append (balanced_taken fun same => mine ?_)
        exact same.symm.trans own

theorem account_closeClient (account : PoolAccount p events) (clientID : String) :
    PoolAccount (p.perform (.closeClient clientID)).1 (events ++ [(p.perform (.closeClient clientID)).2]) := by
  refine
    { keyed := account.keyed.closeClient
      filled := filled_erase account.filled
      bounded := fun other => ?_
      laid := fun other => ?_
      answered := account.answered.append (account.keyed clientID) }
  · show ((p.closeClient clientID).1.workersOf other).length ≤ p.maxIdle
    rw [workersOf_closeClient]
    split
    · exact Nat.zero_le _
    · exact account.bounded other
  · show Laid other (events ++ [.closed (some clientID) (p.workersOf clientID)])
      ((p.closeClient clientID).1.workersOf other)
    rw [workersOf_closeClient]
    split
    · rename_i mine
      subst mine
      exact (account.laid other).closed fun _ _ => rfl
    · rename_i different
      refine (account.laid other).append (balanced_closed fun worker member same => different ?_)
      exact same.symm.trans (account.keyed clientID worker member)

theorem account_closeAll (account : PoolAccount p events) :
    PoolAccount (p.perform .closeAll).1 (events ++ [(p.perform .closeAll).2]) where
  keyed := fun _ _ impossible => (List.not_mem_nil impossible).elim
  filled := fun _ _ impossible => nomatch impossible
  bounded := fun _ => Nat.zero_le _
  laid := by
    intro clientID
    refine (account.laid clientID).closed fun worker own => ?_
    rw [count_closeAll account.keyed, own]
  answered := account.answered.append trivial

theorem maxIdle_perform (p : WorkConnectionPool) (call : PoolCall) :
    (p.perform call).1.maxIdle = p.maxIdle := by
  cases call with
  | add worker spare =>
      show (p.add worker).1.maxIdle = p.maxIdle
      unfold add
      simp only
      split <;> rfl
  | take clientID =>
      show (p.take clientID).1.maxIdle = p.maxIdle
      unfold take
      split <;> rfl
  | closeClient clientID => rfl
  | closeAll => rfl

/-- **Every call keeps the account.** -/
theorem account_perform (account : PoolAccount p events) (call : PoolCall) :
    PoolAccount (p.perform call).1 (events ++ [(p.perform call).2]) := by
  cases call with
  | add worker spare => exact account_add account worker spare
  | take clientID => exact account_take account clientID
  | closeClient clientID => exact account_closeClient account clientID
  | closeAll => exact account_closeAll account

end WorkConnectionPool

/-! ## The pool of slices -/

/-- What holds of the pool of slices after any calls. -/
structure Accounts (maxIdle : ℕ) (pool : WorkConnectionSlices) (events : List PoolEvent) : Prop where
  /-- at most `maxIdle` workers are kept for a client -/
  bounded : ∀ clientID, (pool.sliceOf clientID).len ≤ maxIdle
  /-- what is kept for a client are workers of it -/
  own : ∀ clientID, ∀ place ∈ (pool.sliceOf clientID).values pool.heap,
    ∃ worker, place = some worker ∧ worker.clientID = clientID
  /-- what was accepted was taken, or closed, or is idle, and only one of these -/
  conserved : ∀ worker, (accepted events).count worker = (takes events).count worker +
    (closings events).count worker +
      ((pool.sliceOf worker.clientID).values pool.heap).count (some worker)
  answered : Answered events
  /-- no empty slice is kept -/
  filled : ∀ clientID workers, pool.idle.lookup clientID = some workers → workers.len ≠ 0

namespace WorkConnectionSlices

/-- What the calls of the pool keep. -/
structure Accounted (maxIdle : ℕ) (p : WorkConnectionSlices) (events : List PoolEvent) : Prop where
  sound : p.Sound
  limit : p.maxIdle = maxIdle
  account : PoolAccount p.toPool events

variable {maxIdle : ℕ} {p : WorkConnectionSlices} {events : List PoolEvent}

theorem accounted_newWorkConnectionPool (maxIdle : ℕ) :
    Accounted maxIdle (newWorkConnectionPool maxIdle) [] where
  sound := sound_newWorkConnectionPool maxIdle
  limit := rfl
  account := WorkConnectionPool.account_newWorkConnectionPool maxIdle

/-- **One call**: it does not panic, and the account is kept. -/
theorem Accounted.perform (accounted : Accounted maxIdle p events) (call : PoolCall) :
    ∃ p' event, p.perform call = some (p', event) ∧ Accounted maxIdle p' (events ++ [event]) := by
  obtain ⟨p', performed, sound, same⟩ := perform_toPool accounted.sound call
  refine ⟨p', _, performed, sound, ?_, ?_⟩
  · rw [← maxIdle_toPool, same, WorkConnectionPool.maxIdle_perform]
    exact accounted.limit
  · rw [same]
    exact WorkConnectionPool.account_perform accounted.account call

/-- **Any calls.** -/
theorem Accounted.runAll (accounted : Accounted maxIdle p events) (calls : List PoolCall) :
    ∃ p' later, calls.foldl runCall (some (p, events)) = some (p', later) ∧ Accounted maxIdle p' later := by
  induction calls generalizing p events with
  | nil => exact ⟨p, events, rfl, accounted⟩
  | cons call calls ih =>
      obtain ⟨p', event, performed, kept⟩ := accounted.perform call
      rw [List.foldl_cons]
      have first : runCall (some (p, events)) call = some (p', events ++ [event]) := by
        show (p.perform call).map _ = _
        rw [performed]
        rfl
      rw [first]
      exact ih kept

/-- The account of the lists, read off the slices. -/
theorem Accounted.accounts (accounted : Accounted maxIdle p events) : Accounts maxIdle p events where
  bounded := by
    intro clientID
    rw [accounted.sound.len_sliceOf, ← accounted.limit]
    exact accounted.account.bounded clientID
  own := by
    intro clientID place member
    rw [accounted.sound.values_sliceOf] at member
    obtain ⟨worker, idle, rfl⟩ := List.mem_map.mp member
    exact ⟨worker, rfl, accounted.account.keyed clientID worker idle⟩
  conserved := by
    intro worker
    rw [accounted.sound.values_sliceOf, List.count_map_of_injective _ _ (Option.some_injective _)]
    exact (accounted.account.laid worker.clientID).conserved rfl
  answered := accounted.account.answered
  filled := by
    intro clientID workers found emptied
    refine accounted.account.filled clientID ((workers.values p.heap).reduceOption) ?_ ?_
    · show (GoMap.view p.idle _).lookup clientID = _
      rw [GoMap.lookup_view, found]
      rfl
    · have none' := GoSlice.length_values (accounted.sound.valid clientID workers found)
      rw [emptied, List.length_eq_zero_iff] at none'
      rw [none']
      rfl

end WorkConnectionSlices

/-- **Every worker that the pool accepted was taken for its client, or was closed, or is idle.** -/
theorem workConnectionPool_accounts (maxIdle : ℕ) (calls : List PoolCall) :
    ∃ pool events, WorkConnectionSlices.runAll calls (WorkConnectionSlices.newWorkConnectionPool maxIdle) =
      some (pool, events) ∧ Accounts maxIdle pool events := by
  obtain ⟨pool, events, run, accounted⟩ :=
    (WorkConnectionSlices.accounted_newWorkConnectionPool maxIdle).runAll calls
  exact ⟨pool, events, run, accounted.accounts⟩

end NryNet.Relay
