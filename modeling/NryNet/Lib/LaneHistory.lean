import NryNet.Lib.Lanes
import NryNet.Lib.ThreadPool

/-!
# Lanes in a pool of threads

Some threads push items into `Lanes`, some thread pops them, and some thread may close them for
good.  All that a run has to say about the program is that every move is one of the four things that
can happen to the queues (`Event`); then

* as long as a critical item waits, the next item taken is critical (`next_critical`);
* while a normal item waits, at most `limit` urgent items are taken before the first normal one and
  between two of them (`bounded_bypass`).
-/

namespace Lanes

open ThreadPool

variable {α : Type*}

/-- The queues, whether they are closed, and the items taken from them so far. -/
structure History (α : Type*) where
  lanes : Lanes α
  closed : Bool
  taken : List α

/-- What can happen to the queues. -/
inductive Event (kindOf : α → Lane) (limit : ℤ) (before : History α) : History α → Prop
  | same : Event kindOf limit before before
  | pushed (item : α) (isOpen : before.closed = false) :
      Event kindOf limit before
        { before with lanes := before.lanes.push item (kindOf item) }
  | popped {item : α} {lanes : Lanes α} {kind : Lane} (isOpen : before.closed = false)
      (took : Taken limit before.lanes kind item lanes) :
      Event kindOf limit before { before with lanes := lanes, taken := before.taken ++ [item] }
  | closed : Event kindOf limit before { before with lanes := before.lanes.clear, closed := true }

/-- Every item waits in the queue of its class, and the budget is not negative. -/
structure Sorted (kindOf : α → Lane) (lanes : Lanes α) : Prop where
  kinds : ∀ kind, ∀ item ∈ lanes.lane kind, kindOf item = kind
  budget : 0 ≤ lanes.urgentBudget

variable {kindOf : α → Lane} {limit : ℤ} {before after : History α}

theorem Sorted.kind_of_taken {lanes lanes' : Lanes α} (sorted : Sorted kindOf lanes) {kind : Lane}
    {item : α} (took : Taken limit lanes kind item lanes') : kindOf item = kind := by
  refine sorted.kinds kind item ?_
  rw [took.front]
  exact List.mem_cons_self

theorem Sorted.event (sorted : Sorted kindOf before.lanes)
    (event : Event kindOf limit before after) : Sorted kindOf after.lanes := by
  cases event with
  | same => exact sorted
  | pushed item isOpen =>
      refine ⟨fun kind other member => ?_, by rw [urgentBudget_push]; exact sorted.budget⟩
      rw [lane_push] at member
      by_cases own : kind = kindOf item
      · rw [if_pos own, List.mem_append, List.mem_singleton] at member
        rcases member with earlier | rfl
        · exact sorted.kinds kind other earlier
        · exact own.symm
      · rw [if_neg own] at member
        exact sorted.kinds kind other member
  | @popped item lanes kind isOpen took =>
      refine ⟨fun other item member => ?_, ?_⟩
      · refine sorted.kinds other item ?_
        by_cases own : other = kind
        · subst own
          rw [took.front]
          exact List.mem_cons_of_mem _ member
        · rw [← took.others other own]
          exact member
      · rw [took.budget]
        exact spend_nonneg sorted.budget
  | closed =>
      refine ⟨fun kind item member => ?_, sorted.budget⟩
      cases kind <;> cases member

section Runs

variable {σ τ χ : Type*} {machine : Machine σ τ χ} {allowed : Config σ τ → Move τ χ → Prop}
variable {start config later : Config σ τ} {history : σ → History α}

/-- Every move of the program is one of the four events. -/
def Follows (kindOf : α → Lane) (limit : ℤ) (machine : Machine σ τ χ) (history : σ → History α) :
    Prop :=
  ∀ config next move, machine.exec config move = some next →
    Event kindOf limit (history config.shared) (history next.shared)

/-- In every configuration that is reached the items are in the queues of their classes. -/
theorem Follows.sorted (follows : Follows kindOf limit machine history)
    (reached : machine.Run allowed start config)
    (initially : Sorted kindOf (history start.shared).lanes) :
    Sorted kindOf (history config.shared).lanes := by
  refine reached.invariant (fun config => Sorted kindOf (history config.shared).lanes) initially ?_
  intro config next move sorted _ moved
  exact sorted.event (follows config next move moved)

/-- The budget counts items that were taken. -/
theorem Follows.budget_le (follows : Follows kindOf limit machine history)
    (reached : machine.Run allowed start config)
    (initially : (history start.shared).lanes.urgentBudget ≤ (history start.shared).taken.length) :
    (history config.shared).lanes.urgentBudget ≤ (history config.shared).taken.length := by
  refine reached.invariant (fun config =>
    (history config.shared).lanes.urgentBudget ≤ (history config.shared).taken.length) initially ?_
  intro config next move bounded _ moved
  have event := follows config next move moved
  generalize history next.shared = after at event ⊢
  generalize history config.shared = before at event bounded
  cases event with
  | same => exact bounded
  | pushed item isOpen =>
      rw [urgentBudget_push]
      exact bounded
  | @popped item lanes kind isOpen took =>
      show lanes.urgentBudget ≤ ((before.taken ++ [item]).length : ℤ)
      rw [took.budget, List.length_append, List.length_singleton, Nat.cast_add, Nat.cast_one]
      cases kind with
      | critical => exact bounded.trans (by omega)
      | urgent =>
          show before.lanes.urgentBudget + 1 ≤ _
          omega
      | normal =>
          show 0 ≤ _
          omega
  | closed => exact bounded

/-- **Critical items go first.**  As long as a critical item waits, the next item taken is
critical. -/
theorem Follows.next_critical (follows : Follows kindOf limit machine history)
    (sorted : Sorted kindOf (history config.shared).lanes)
    (waiting : (history config.shared).lanes.critical ≠ [])
    (onwards : machine.Run allowed config later) {item : α} {rest : List α}
    (taken : (history later.shared).taken = (history config.shared).taken ++ item :: rest) :
    kindOf item = .critical := by
  -- either nothing was taken yet and a critical item still waits, unless the queues are closed
  have nextIs : ((history later.shared).taken = (history config.shared).taken ∧
        ((history later.shared).closed = true ∨ (history later.shared).lanes.critical ≠ [])) ∨
      ∃ item rest, (history later.shared).taken = (history config.shared).taken ++ item :: rest ∧
        kindOf item = .critical := by
    clear taken
    induction onwards with
    | refl => exact Or.inl ⟨rfl, Or.inr waiting⟩
    | @step middle next move run _ moved hypothesis =>
        have sorted' := follows.sorted run sorted
        have event := follows middle next move moved
        generalize history next.shared = after at event ⊢
        generalize history middle.shared = before at event hypothesis sorted'
        cases event with
        | same => exact hypothesis
        | pushed item isOpen =>
            rcases hypothesis with ⟨none, closed | critical⟩ | ⟨first, rest, taken, kind⟩
            · rw [isOpen] at closed
              cases closed
            · refine Or.inl ⟨none, Or.inr ?_⟩
              show (before.lanes.push item (kindOf item)).lane .critical ≠ []
              rw [lane_push]
              by_cases own : Lane.critical = kindOf item
              · rw [if_pos own]
                simp
              · rw [if_neg own]
                exact critical
            · exact Or.inr ⟨first, rest, taken, kind⟩
        | @popped item lanes kind isOpen took =>
            refine Or.inr ?_
            rcases hypothesis with ⟨none, closed | critical⟩ | ⟨first, rest, taken, first'⟩
            · rw [isOpen] at closed
              cases closed
            · refine ⟨item, [], by rw [none], ?_⟩
              rw [sorted'.kind_of_taken took]
              exact took.precedence critical
            · refine ⟨first, rest ++ [item], ?_, first'⟩
              rw [taken, List.append_assoc, List.cons_append]
        | closed =>
            rcases hypothesis with ⟨none, -⟩ | found
            · exact Or.inl ⟨none, Or.inl rfl⟩
            · exact Or.inr found
  rcases nextIs with ⟨none, -⟩ | ⟨first, rest', found, critical⟩
  · rw [none] at taken
    exact absurd taken (by simp)
  · rw [found, List.append_cancel_left_eq, List.cons.injEq] at taken
    rw [← taken.1]
    exact critical

/-- **Bounded bypass.**  Of the items taken during a period in which a normal item waits all the
time, a stretch without a normal one has at most `limit` urgent ones. -/
theorem Follows.bounded_bypass (follows : Follows kindOf limit machine history)
    (limit_nonneg : 0 ≤ limit) (sorted : Sorted kindOf (history config.shared).lanes)
    (period : machine.Run (fun config _ => (history config.shared).lanes.normal ≠ []) config
      later) :
    ∃ taken, (history later.shared).taken = (history config.shared).taken ++ taken ∧
      ∀ stretch, stretch <:+: taken → NoNormal kindOf stretch → urgents kindOf stretch ≤ limit := by
  have spaced : ∃ taken, (history later.shared).taken = (history config.shared).taken ++ taken ∧
      Spaced kindOf limit (history later.shared).lanes.urgentBudget taken := by
    induction period with
    | refl => exact ⟨[], (List.append_nil _).symm, Spaced.nil limit_nonneg sorted.budget⟩
    | @step middle next move run waiting moved hypothesis =>
        have sorted' := follows.sorted run sorted
        have event := follows middle next move moved
        obtain ⟨taken, extends', spaced⟩ := hypothesis
        generalize history next.shared = after at event ⊢
        generalize history middle.shared = before at event extends' spaced sorted' waiting
        cases event with
        | same => exact ⟨taken, extends', spaced⟩
        | pushed item isOpen =>
            refine ⟨taken, extends', ?_⟩
            rw [urgentBudget_push]
            exact spaced
        | @popped item lanes kind isOpen took =>
            refine ⟨taken ++ [item], ?_, ?_⟩
            · show before.taken ++ [item] = _
              rw [extends', List.append_assoc]
            · have own := sorted'.kind_of_taken took
              subst own
              exact spaced.concat limit_nonneg sorted'.budget took waiting
        | closed => exact ⟨taken, extends', spaced⟩
  obtain ⟨taken, extends', spaced⟩ := spaced
  exact ⟨taken, extends', spaced.within⟩

/-- What a program with such queues owes to its items, in every run of any length from `start`.

`first` is about the next item taken, however much later.  In `bypass` the run from `config` to
`later` is the period: a normal item waits before each of its moves. -/
structure Fair (kindOf : α → Lane) (limit : ℤ) (machine : Machine σ τ χ) (start : Config σ τ)
    (history : σ → History α) : Prop where
  first : ∀ config later item rest, machine.Reachable start config →
    machine.Reachable config later → (history config.shared).lanes.critical ≠ [] →
    (history later.shared).taken = (history config.shared).taken ++ item :: rest →
    kindOf item = .critical
  bypass : ∀ config later, machine.Reachable start config →
    machine.Run (fun config _ => (history config.shared).lanes.normal ≠ []) config later →
    ∃ taken, (history later.shared).taken = (history config.shared).taken ++ taken ∧
      ∀ stretch, stretch <:+: taken → NoNormal kindOf stretch → urgents kindOf stretch ≤ limit
  /-- the counter fits a machine integer as long as the number of items taken does -/
  counter : ∀ config, machine.Reachable start config →
    0 ≤ (history config.shared).lanes.urgentBudget ∧
      (history config.shared).lanes.urgentBudget ≤ (history config.shared).taken.length

theorem Follows.fair (follows : Follows kindOf limit machine history) (limit_nonneg : 0 ≤ limit)
    (sorted : Sorted kindOf (history start.shared).lanes)
    (counted : (history start.shared).lanes.urgentBudget ≤ (history start.shared).taken.length) :
    Fair kindOf limit machine start history where
  first _ _ _ _ reached onwards waiting taken :=
    follows.next_critical (follows.sorted reached sorted) waiting onwards taken
  bypass _ _ reached period :=
    follows.bounded_bypass limit_nonneg (follows.sorted reached sorted) period
  counter _ reached :=
    ⟨(follows.sorted reached sorted).budget, follows.budget_le reached counted⟩

end Runs

end Lanes
