import Mathlib.Tactic.Basic
import Mathlib.Tactic.TypeStar

/-!
# Programs that may give up halfway

A request handler is a chain of calls, each of which may fail; the first failure ends the handler
with an error.  What the earlier calls did stays done.  So a handler is a function from the state to
the state it leaves behind together with a value or an error: the state monad outside, the error
inside.

`Triple pre program post fail` is the rule of reasoning for such programs.  `post` speaks about the
states in which the program returns, `fail` about those in which it gives up; a program that cannot
fail from `pre` is one with `fail` empty.  Sequencing keeps one and the same `fail`, which is exactly
"every prefix of the chain already meets it".
-/

/-- A program over a state: it returns a value or gives up with an error, and in both cases leaves a
state behind. -/
def Fallible (σ ε α : Type) := σ → σ × Except ε α

namespace Fallible

variable {σ ε ε' α β : Type}

instance : Monad (Fallible σ ε) where
  pure value := fun s => (s, .ok value)
  bind program next := fun s =>
    match program s with
    | (s', .error error) => (s', .error error)
    | (s', .ok value) => next value s'

theorem bind_apply (program : Fallible σ ε α) (next : α → Fallible σ ε β) (s : σ) :
    (program >>= next) s = match program s with
      | (s', .error error) => (s', .error error)
      | (s', .ok value) => next value s' := rfl

/-- `for _, x := range xs { if err := f(x); err != nil { return err } }`. -/
def each (body : α → Fallible σ ε Unit) : List α → Fallible σ ε Unit
  | [] => pure ()
  | head :: tail => do
      body head
      each body tail

/-- Giving up. -/
def abort (error : ε) : Fallible σ ε α := fun s => (s, .error error)

/-- The program, with its errors reported in other terms. -/
def reporting (report : ε → ε') (program : Fallible σ ε α) : Fallible σ ε' α := fun s =>
  match program s with
  | (s', .error error) => (s', .error (report error))
  | (s', .ok value) => (s', .ok value)

/-- A transaction: when the program gives up, what it did is undone. -/
def transaction (program : Fallible σ ε α) : Fallible σ ε α := fun s =>
  match program s with
  | (_, .error error) => (s, .error error)
  | (s', .ok value) => (s', .ok value)

theorem bind_ok {program : Fallible σ ε α} {next : α → Fallible σ ε β} {s s' : σ} {value : α}
    (returned : program s = (s', .ok value)) : (program >>= next) s = next value s' := by
  rw [bind_apply, returned]

theorem bind_error {program : Fallible σ ε α} {next : α → Fallible σ ε β} {s s' : σ} {error : ε}
    (failed : program s = (s', .error error)) : (program >>= next) s = (s', .error error) := by
  rw [bind_apply, failed]

theorem transaction_ok {program : Fallible σ ε α} {s s' : σ} {value : α}
    (returned : program s = (s', .ok value)) : program.transaction s = (s', .ok value) := by
  rw [transaction, returned]

/-- A transaction that fails leaves no trace. -/
theorem transaction_error {program : Fallible σ ε α} {s s' : σ} {error : ε}
    (failed : program.transaction s = (s', .error error)) : s' = s := by
  unfold transaction at failed
  split at failed <;> cases failed
  rfl

/-- From a state with `pre` the program returns in one with `post`, or gives up in one with
`fail`. -/
def Triple (pre : σ → Prop) (program : Fallible σ ε α) (post : α → σ → Prop) (fail : σ → Prop) :
    Prop :=
  ∀ s, pre s →
    match program s with
    | (s', .error _) => fail s'
    | (s', .ok value) => post value s'

namespace Triple

variable {pre pre' : σ → Prop} {program : Fallible σ ε α} {next : α → Fallible σ ε β}
variable {post post' : α → σ → Prop} {final : β → σ → Prop} {fail fail' : σ → Prop}

theorem pure {value : α} (holds : ∀ s, pre s → post value s) :
    Triple pre (Pure.pure value : Fallible σ ε α) post fail :=
  fun s given => holds s given

theorem abort {error : ε} (holds : ∀ s, pre s → fail s) :
    Triple pre (Fallible.abort error : Fallible σ ε α) post fail :=
  fun s given => holds s given

theorem bind (first : Triple pre program post fail)
    (second : ∀ value, Triple (post value) (next value) final fail) :
    Triple pre (program >>= next) final fail := by
  intro s given
  have ended := first s given
  rw [bind_apply]
  cases outcome : program s with
  | mk s' result =>
      rw [outcome] at ended
      cases result with
      | error error => exact ended
      | ok value => exact second value s' ended

/-- The rule of consequence. -/
theorem weaken (given : Triple pre program post fail) (stronger : ∀ s, pre' s → pre s)
    (returns : ∀ value s, post value s → post' value s) (fails : ∀ s, fail s → fail' s) :
    Triple pre' program post' fail' := by
  intro s holds
  have ended := given s (stronger s holds)
  cases outcome : program s with
  | mk s' result =>
      rw [outcome] at ended
      cases result with
      | error error => exact fails s' ended
      | ok value => exact returns value s' ended

theorem before (given : Triple pre program post fail) (stronger : ∀ s, pre' s → pre s) :
    Triple pre' program post fail :=
  given.weaken stronger (fun _ _ holds => holds) fun _ holds => holds

/-- A fact about the values alone may be assumed. -/
theorem assuming {fact : Prop} (given : fact → Triple pre program post fail) :
    Triple (fun s => pre s ∧ fact) program post fail :=
  fun s holds => given holds.2 s holds.1

/-- A loop keeps what its body keeps. -/
theorem each {body : α → Fallible σ ε Unit} {invariant : σ → Prop} :
    ∀ {items : List α}, (∀ item ∈ items, Triple invariant (body item) (fun _ => invariant) fail) →
      Triple invariant (Fallible.each body items) (fun _ => invariant) fail := by
  intro items
  induction items with
  | nil => exact fun _ => pure fun _ holds => holds
  | cons head tail hypothesis =>
      intro keeps
      refine bind (keeps head (List.mem_cons_self ..)) fun _ => ?_
      exact hypothesis fun item member => keeps item (List.mem_cons_of_mem _ member)

theorem reporting {report : ε → ε'} (given : Triple pre program post fail) :
    Triple pre (program.reporting report) post fail := by
  intro s holds
  have ended := given s holds
  unfold Fallible.reporting
  cases outcome : program s with
  | mk s' result =>
      rw [outcome] at ended
      cases result with
      | error error => exact ended
      | ok value => exact ended

/-- A transaction keeps what its program keeps when it returns. -/
theorem transaction {invariant : σ → Prop}
    (given : Triple invariant program (fun _ => invariant) fail) :
    Triple invariant program.transaction (fun _ => invariant) invariant := by
  intro s holds
  have ended := given s holds
  unfold Fallible.transaction
  cases outcome : program s with
  | mk s' result =>
      rw [outcome] at ended
      cases result with
      | error error => exact holds
      | ok value => exact ended

/-- What a triple says about one run: the program returned, or gave up. -/
theorem cases (given : Triple pre program post fail) {s s' : σ} {result : Except ε α}
    (holds : pre s) (ran : program s = (s', result)) :
    (∃ value, result = .ok value ∧ post value s') ∨ ((∀ value, result ≠ .ok value) ∧ fail s') := by
  have ended := given s holds
  rw [ran] at ended
  cases result with
  | error error => exact Or.inr ⟨nofun, ended⟩
  | ok value => exact Or.inl ⟨value, rfl, ended⟩

end Triple

end Fallible

/-! ## Checks

A validation changes nothing: it is a chain of checks, the first of which that fails decides the error. -/

namespace Checks

variable {ε ε' α β : Type}

/-- `if bad { return error }`. -/
def reject (bad : Prop) [Decidable bad] (error : ε) : Except ε Unit :=
  if bad then .error error else .ok ()

@[simp] theorem reject_eq_ok {bad : Prop} [Decidable bad] {error : ε} :
    reject bad error = .ok () ↔ ¬ bad := by
  unfold reject
  split
  · rename_i holds
    exact ⟨nofun, fun fails => absurd holds fails⟩
  · rename_i fails
    exact ⟨fun _ => fails, fun _ => rfl⟩

/-- A chain succeeds exactly when its links do. -/
theorem bind_eq_ok {check : Except ε α} {next : α → Except ε β} {result : β} :
    (check >>= next) = .ok result ↔ ∃ value, check = .ok value ∧ next value = .ok result := by
  cases check with
  | error error => exact ⟨nofun, fun ⟨_, returned, _⟩ => nomatch returned⟩
  | ok value =>
      refine ⟨fun returned => ⟨value, rfl, returned⟩, fun ⟨_, same, returned⟩ => ?_⟩
      rw [Except.ok.inj same]
      exact returned

/-- Errors reported in other terms are errors still. -/
theorem mapError_eq_ok {check : Except ε α} {report : ε → ε'} {value : α} :
    check.mapError report = .ok value ↔ check = .ok value := by
  cases check with
  | error error => exact ⟨nofun, nofun⟩
  | ok found =>
      have mapped : (Except.ok found : Except ε α).mapError report = .ok found := rfl
      rw [mapped]
      exact ⟨fun same => congrArg _ (Except.ok.inj same), fun same => congrArg _ (Except.ok.inj same)⟩

/-- A chain of checks succeeds exactly when all of them do. -/
@[simp] theorem seq_eq_ok {check next : Except ε Unit} :
    (check >>= fun _ => next) = .ok () ↔ check = .ok () ∧ next = .ok () :=
  bind_eq_ok.trans ⟨fun ⟨_, first, second⟩ => ⟨first, second⟩, fun both => ⟨(), both⟩⟩

end Checks
