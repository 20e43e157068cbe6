import Mathlib.Data.List.Nodup
import Mathlib.Data.List.Range
import Mathlib.Data.Nat.Find

/-!
# The first free candidate

Candidates are numbered, and no two of them are the same; a number may have none.  Some values are used.
Whoever tries one candidate after the other meets as many used ones as there are used values, at most
(`length_le_of_used`), and so comes to one that is free, or to a number without one (`exists_first`).
-/

namespace Candidates

variable {α : Type*} {candidate : ℕ → Option α} {used : List α}

/-- No value has two numbers. -/
def Distinct (candidate : ℕ → Option α) : Prop :=
  ∀ m n value, candidate m = some value → candidate n = some value → m = n

/-- The candidates in front of this one are used. -/
def Used (candidate : ℕ → Option α) (used : List α) (n : ℕ) : Prop :=
  ∀ m < n, ∃ value ∈ used, candidate m = some value

theorem Used.succ {n : ℕ} {value : α} (before : Used candidate used n)
    (here : candidate n = some value) (member : value ∈ used) : Used candidate used (n + 1) := by
  intro m below
  rcases Nat.lt_succ_iff_lt_or_eq.mp below with earlier | rfl
  · exact before m earlier
  · exact ⟨value, member, here⟩

theorem Used.mono {n : ℕ} {more : List α} (before : Used candidate used n) (subset : used ⊆ more) :
    Used candidate more n := by
  intro m below
  obtain ⟨value, member, here⟩ := before m below
  exact ⟨value, subset member, here⟩

/-- Each of them takes a value of its own. -/
theorem length_le_of_used (distinct : Distinct candidate) {n : ℕ} (before : Used candidate used n) :
    n ≤ used.length := by
  have each : ∀ m ∈ List.range n, ∃ value ∈ used, candidate m = some value :=
    fun m member => before m (List.mem_range.mp member)
  let tried := (List.range n).pmap (fun m here => Classical.choose here) each
  have nodup : tried.Nodup := by
    refine List.Nodup.pmap ?_ (List.nodup_range)
    intro m here k there same
    have first := (Classical.choose_spec here).2
    have second := (Classical.choose_spec there).2
    rw [← same] at second
    exact distinct m k _ first second
  have subset : tried ⊆ used := by
    intro value member
    obtain ⟨m, listed, rfl⟩ := List.mem_pmap.mp member
    exact (Classical.choose_spec (each m listed)).1
  have counted := nodup.length_le_of_subset subset
  rwa [List.length_pmap, List.length_range] at counted

/-- **There is a first number whose candidate is free, or which has none.** -/
theorem exists_first (distinct : Distinct candidate) (used : List α) :
    ∃ n ≤ used.length, Used candidate used n ∧ ∀ value, candidate n = some value → value ∉ used := by
  classical
  have some : ∃ n, ∀ value, candidate n = some value → value ∉ used := by
    by_contra none
    have all : Used candidate used (used.length + 1) := by
      intro m _
      by_contra free
      refine none ⟨m, fun value here member => free ⟨value, member, here⟩⟩
    exact absurd (length_le_of_used distinct all) (Nat.not_succ_le_self _)
  have before : Used candidate used (Nat.find some) := by
    intro m below
    by_contra free
    exact Nat.find_min some below fun value here member => free ⟨value, member, here⟩
  exact ⟨_, length_le_of_used distinct before, before, Nat.find_spec some⟩

end Candidates
