import Mathlib.Data.List.Nodup
import Mathlib.Data.List.Sort

/-!
# Relational tables

A table is a list of rows.  The statements a program sends to a relational store are list
functions: `UPDATE … WHERE` rewrites the rows that match, `DELETE … WHERE` drops them, and the
number of affected rows is what the driver reports back.  A primary key or unique column is a
projection whose image has no duplicates; with such a column a keyed `SELECT` is a membership
statement (`select_eq_some`), and that is the form in which the lemmas below are used.
-/

namespace Table

variable {ρ κ : Type*}

/-- `UPDATE … SET … WHERE …`. -/
def update (rows : List ρ) (hit : ρ → Bool) (set : ρ → ρ) : List ρ :=
  rows.map fun row => if hit row then set row else row

/-- `DELETE … WHERE …`. -/
def delete (rows : List ρ) (hit : ρ → Bool) : List ρ :=
  rows.filter fun row => !hit row

/-- `SELECT … WHERE column = value`, at most one row being read. -/
def select [DecidableEq κ] (rows : List ρ) (column : ρ → κ) (value : κ) : Option ρ :=
  rows.find? fun row => column row = value

/-- `SELECT … WHERE … ORDER BY …`. -/
def selectAll (rows : List ρ) (hit : ρ → Bool) (before : ρ → ρ → Prop) [DecidableRel before] :
    List ρ :=
  (rows.filter hit).insertionSort before

variable {rows : List ρ} {hit : ρ → Bool} {set : ρ → ρ} {column : ρ → κ} {row : ρ} {value : κ}

theorem mem_update : row ∈ update rows hit set ↔
    ∃ old ∈ rows, (if hit old then set old else old) = row := by
  simp [update]

theorem mem_delete : row ∈ delete rows hit ↔ row ∈ rows ∧ hit row = false := by
  simp [delete]

theorem mem_selectAll {before : ρ → ρ → Prop} [DecidableRel before] :
    row ∈ selectAll rows hit before ↔ row ∈ rows ∧ hit row = true := by
  rw [selectAll, List.mem_insertionSort, List.mem_filter]

/-- An update that hits no row. -/
theorem update_of_forall (none : ∀ row ∈ rows, hit row = false) : update rows hit set = rows := by
  unfold update
  refine (List.map_congr_left fun row member => ?_).trans (List.map_id rows)
  rw [none row member]
  rfl

/-- A deletion that hits no row. -/
theorem delete_of_forall (none : ∀ row ∈ rows, hit row = false) : delete rows hit = rows := by
  unfold delete
  rw [List.filter_eq_self]
  intro row member
  rw [none row member]
  rfl

/-- An update that does not assign a column leaves the whole column as it was. -/
theorem map_update (keeps : ∀ row, column (set row) = column row) :
    (update rows hit set).map column = rows.map column := by
  rw [update, List.map_map]
  refine List.map_congr_left fun row _ => ?_
  simp only [Function.comp_apply]
  split
  · exact keeps row
  · rfl

/-- An update seen through a projection that the condition and the assignment respect. -/
theorem map_update_of_commutes {ν : Type*} {view : ρ → ν} {hit' : ν → Bool} {set' : ν → ν}
    (same : ∀ row, hit' (view row) = hit row) (commutes : ∀ row, view (set row) = set' (view row)) :
    (update rows hit set).map view = update (rows.map view) hit' set' := by
  unfold update
  rw [List.map_map, List.map_map]
  refine List.map_congr_left fun row _ => ?_
  simp only [Function.comp_apply, same]
  split
  · exact commutes row
  · rfl

/-- A deletion seen through a projection that the condition respects. -/
theorem map_delete {ν : Type*} {view : ρ → ν} {hit' : ν → Bool}
    (same : ∀ row, hit' (view row) = hit row) :
    (delete rows hit).map view = delete (rows.map view) hit' := by
  unfold delete
  rw [List.filter_map]
  congr 1
  refine List.filter_congr fun row _ => ?_
  simp only [Function.comp_apply, same]

/-- A query does not see an update of rows that it selects neither before nor after. -/
theorem selectAll_update {keep : ρ → Bool} {before : ρ → ρ → Prop} [DecidableRel before]
    (unseen : ∀ row ∈ rows, hit row = true → keep row = false ∧ keep (set row) = false) :
    selectAll (update rows hit set) keep before = selectAll rows keep before := by
  unfold selectAll
  congr 1
  induction rows with
  | nil => rfl
  | cons head tail ih =>
      have rest := ih fun row member => unseen row (List.mem_cons_of_mem head member)
      unfold update at rest ⊢
      rw [List.map_cons, List.filter_cons, List.filter_cons, rest]
      by_cases hits : hit head = true
      · obtain ⟨old, new⟩ := unseen head List.mem_cons_self hits
        rw [if_pos hits, if_neg (by rw [new]; nofun), if_neg (by rw [old]; nofun)]
      · rw [if_neg hits]

/-- A query does not see the deletion of rows that it does not select. -/
theorem selectAll_delete {keep : ρ → Bool} {before : ρ → ρ → Prop} [DecidableRel before]
    (unseen : ∀ row ∈ rows, hit row = true → keep row = false) :
    selectAll (delete rows hit) keep before = selectAll rows keep before := by
  unfold selectAll delete
  rw [List.filter_filter]
  congr 1
  refine List.filter_congr fun row member => ?_
  cases hits : hit row with
  | false => simp
  | true => simp [unseen row member hits]

/-- A query does not see a new row that it does not select. -/
theorem selectAll_insert {keep : ρ → Bool} {before : ρ → ρ → Prop} [DecidableRel before]
    (unseen : keep row = false) :
    selectAll (rows ++ [row]) keep before = selectAll rows keep before := by
  unfold selectAll
  rw [List.filter_append, List.filter_singleton, unseen]
  simp

/-- A unique column stays unique when rows are deleted. -/
theorem nodup_delete (unique : (rows.map column).Nodup) :
    ((delete rows hit).map column).Nodup :=
  unique.sublist (List.filter_sublist.map column)

/-- A unique column stays unique when a row with a fresh value is inserted. -/
theorem nodup_insert (unique : (rows.map column).Nodup)
    (fresh : ∀ old ∈ rows, column old ≠ column row) :
    ((rows ++ [row]).map column).Nodup := by
  rw [List.map_append, List.nodup_append]
  refine ⟨unique, List.nodup_singleton _, ?_⟩
  intro old member new isNew
  obtain ⟨source, present, rfl⟩ := List.mem_map.mp member
  rw [List.map_singleton, List.mem_singleton] at isNew
  exact isNew ▸ fresh source present

/-- Only a fresh value can be inserted into a unique column. -/
theorem fresh_of_nodup_insert (unique : ((rows ++ [row]).map column).Nodup) :
    ∀ old ∈ rows, column old ≠ column row := by
  intro old member same
  rw [List.map_append, List.nodup_append] at unique
  exact unique.2.2 _ (List.mem_map_of_mem member) _ (List.mem_singleton_self _) same

/-- Two rows with the same value in a unique column are the same row. -/
theorem eq_of_column_eq (unique : (rows.map column).Nodup) {other : ρ} (member : row ∈ rows)
    (present : other ∈ rows) (equal : column row = column other) : row = other :=
  List.inj_on_of_nodup_map unique member present equal

variable [DecidableEq κ]

/-- A keyed `SELECT` on a unique column is membership. -/
theorem select_eq_some (unique : (rows.map column).Nodup) :
    select rows column value = some row ↔ row ∈ rows ∧ column row = value := by
  constructor
  · intro found
    exact ⟨List.mem_of_find?_eq_some found, by simpa using List.find?_some found⟩
  · rintro ⟨member, matches'⟩
    cases found : select rows column value with
    | none =>
        have := List.find?_eq_none.mp found row member
        exact absurd matches' (by simpa using this)
    | some other =>
        have present : other ∈ rows := List.mem_of_find?_eq_some found
        have column' : column other = value := by simpa using List.find?_some found
        rw [eq_of_column_eq unique member present (matches'.trans column'.symm)]

/-- An update that does not assign the key is seen through a keyed `SELECT`. -/
theorem select_update (keeps : ∀ row, column (set row) = column row) :
    select (update rows hit set) column value =
      (select rows column value).map fun row => if hit row then set row else row := by
  unfold select update
  rw [List.find?_map]
  congr 2
  funext row
  simp only [Function.comp_apply]
  split
  · rw [keeps]
  · rfl

theorem select_eq_none :
    select rows column value = none ↔ ∀ row ∈ rows, column row ≠ value := by
  simp [select]

end Table
