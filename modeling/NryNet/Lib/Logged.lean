import Mathlib.Tactic.TypeStar
import Mathlib.Data.Option.Basic

/-!
# Programs with a log

A program that changes a state and meanwhile sends messages, which it never reads itself: a function
from the state to the state it leaves behind, the messages it has sent, and a value.  What the program
meets with on its way is part of the program, and `none` stands for a way that cannot be gone, or that
does not lead to the end.

`bind_eq_some` takes a run apart; the messages of the parts come one after the other.
-/

/-- A program over the state `σ` that sends messages `ω`. -/
def Logged (σ ω α : Type) := σ → Option (σ × List ω × α)

namespace Logged

variable {σ ω α β : Type}

instance : Monad (Logged σ ω) where
  pure value := fun s => some (s, [], value)
  bind program next := fun s =>
    (program s).bind fun (s', log, value) =>
      (next value s').map fun (s'', later, result) => (s'', log ++ later, result)

/-- A way that cannot be gone. -/
def stuck : Logged σ ω α := fun _ => none

theorem pure_eq_some {value result : α} {s s' : σ} {log : List ω} :
    (pure value : Logged σ ω α) s = some (s', log, result) ↔ s' = s ∧ log = [] ∧ result = value := by
  constructor
  · intro ran
    cases ran
    exact ⟨rfl, rfl, rfl⟩
  · rintro ⟨rfl, rfl, rfl⟩
    rfl

/-- A run of two programs is a run of the first and one of the second. -/
theorem bind_eq_some {program : Logged σ ω α} {next : α → Logged σ ω β} {s s'' : σ} {log : List ω}
    {result : β} :
    (program >>= next) s = some (s'', log, result) ↔
      ∃ s' earlier value later, program s = some (s', earlier, value) ∧
        next value s' = some (s'', later, result) ∧ log = earlier ++ later := by
  constructor
  · intro ran
    obtain ⟨⟨s', earlier, value⟩, first, rest⟩ := Option.bind_eq_some_iff.mp ran
    obtain ⟨⟨t, later, found⟩, second, built⟩ := Option.map_eq_some_iff.mp rest
    cases built
    exact ⟨s', earlier, value, later, first, second, rfl⟩
  · rintro ⟨s', earlier, value, later, first, second, rfl⟩
    exact Option.bind_eq_some_iff.mpr ⟨_, first, Option.map_eq_some_iff.mpr ⟨_, second, rfl⟩⟩

/-- A program that sends nothing. -/
theorem bind_of_silent {program : Logged σ ω α} {next : α → Logged σ ω β} {s s' : σ} {value : α}
    (silent : program s = some (s', [], value)) : (program >>= next) s = next value s' := by
  change (program s).bind _ = _
  rw [silent, Option.bind_some]
  exact congrFun Option.map_id (next value s')

end Logged
