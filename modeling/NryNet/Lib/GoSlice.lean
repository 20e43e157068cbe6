import Mathlib.Data.List.Basic

/-!
# Slices of Go and the arrays behind them

A slice is a header: it names an array and says how many of its places it covers.  `append` writes into the
array as long as there is room, and a header that was made shorter keeps the array, so two headers with one
array overwrite each other.  What an operation does to the slices of *other* arrays is therefore part of
its specification: each has a lemma about the slice it works on and one about every slice apart from it.

The slices here begin where their array begins.  How much room `append` leaves in a new array is up to the
runtime; it is the argument `spare`.
-/

/-- The arrays that have been allocated, each with all of its places. -/
structure GoHeap (α : Type*) where
  arrays : List (List α)

/-- The header of a slice.  A nil slice has no array. -/
structure GoSlice where
  array : Option ℕ
  len : ℕ
  deriving DecidableEq, Repr

namespace GoSlice

variable {α : Type*}

/-- The nil slice. -/
def nil : GoSlice := ⟨none, 0⟩

/-- All places of the array; `cap(s)` is their number. -/
def places (heap : GoHeap α) (s : GoSlice) : List α :=
  match s.array with
  | none => []
  | some array => heap.arrays.getD array []

/-- The elements of the slice. -/
def values (heap : GoHeap α) (s : GoSlice) : List α :=
  (s.places heap).take s.len

/-- `s[i]`; out of range it panics. -/
def get (heap : GoHeap α) (s : GoSlice) (i : ℕ) : Option α :=
  (s.values heap)[i]?

/-- `s[i] = value`. -/
def set (heap : GoHeap α) (s : GoSlice) (i : ℕ) (value : α) : GoHeap α :=
  match s.array with
  | none => heap
  | some array => ⟨heap.arrays.modify array fun places => places.set i value⟩

/-- `s[:n]`. -/
def reslice (s : GoSlice) (n : ℕ) : GoSlice :=
  { s with len := n }

/-- `append(s, value)`: in place if there is room, else in a new array. -/
def append (heap : GoHeap α) (s : GoSlice) (value : α) (spare : ℕ) (zero : α) : GoHeap α × GoSlice :=
  if s.len < (s.places heap).length then (s.set heap s.len value, s.reslice (s.len + 1))
  else
    (⟨heap.arrays ++ [s.values heap ++ value :: List.replicate spare zero]⟩,
      ⟨some heap.arrays.length, s.len + 1⟩)

/-- The header covers places of an array that exists. -/
structure Valid (heap : GoHeap α) (s : GoSlice) : Prop where
  allocated : ∀ array, s.array = some array → array < heap.arrays.length
  covered : s.len ≤ (s.places heap).length

/-- Two headers that do not overwrite each other. -/
def Apart (s other : GoSlice) : Prop :=
  s.array ≠ other.array

variable {heap : GoHeap α} {s other : GoSlice} {value zero : α} {i n spare : ℕ}

theorem valid_nil (heap : GoHeap α) : nil.Valid heap :=
  ⟨fun _ impossible => (nomatch impossible), Nat.le_refl 0⟩

theorem values_nil (heap : GoHeap α) : nil.values heap = [] := rfl

theorem length_values (valid : s.Valid heap) : (s.values heap).length = s.len := by
  unfold values
  rw [List.length_take, Nat.min_eq_left valid.covered]

/-! ## `s[i] = value` -/

theorem places_set (valid : s.Valid heap) : s.places (s.set heap i value) = (s.places heap).set i value := by
  unfold places set
  cases located : s.array with
  | none => rfl
  | some array =>
      simp only [List.getD_eq_getElem?_getD, List.getElem?_modify_eq]
      rw [List.getElem?_eq_getElem (valid.allocated array located)]
      rfl

theorem places_set_of_apart (apart : s.Apart other) :
    other.places (s.set heap i value) = other.places heap := by
  unfold places set
  cases located : s.array with
  | none => rfl
  | some array =>
      cases elsewhere : other.array with
      | none => rfl
      | some otherArray =>
          have different : array ≠ otherArray := by
            rintro rfl
            exact apart (located.trans elsewhere.symm)
          simp only [List.getD_eq_getElem?_getD]
          rw [List.getElem?_modify_ne _ _ different]

theorem length_arrays_set : (s.set heap i value).arrays.length = heap.arrays.length := by
  unfold set
  split
  · rfl
  · exact List.length_modify _ _ _

theorem valid_set (valid : s.Valid heap) : s.Valid (s.set heap i value) where
  allocated := by
    rw [length_arrays_set]
    exact valid.allocated
  covered := by
    rw [places_set valid, List.length_set]
    exact valid.covered

theorem valid_set_of_apart (apart : s.Apart other) (valid : other.Valid heap) :
    other.Valid (s.set heap i value) where
  allocated := by
    rw [length_arrays_set]
    exact valid.allocated
  covered := by
    rw [places_set_of_apart apart]
    exact valid.covered

theorem values_set_of_apart (apart : s.Apart other) :
    other.values (s.set heap i value) = other.values heap := by
  unfold values
  rw [places_set_of_apart apart]

/-! ## `s[:n]` -/

theorem valid_reslice (valid : s.Valid heap) (shorter : n ≤ s.len) : (s.reslice n).Valid heap :=
  ⟨valid.allocated, Nat.le_trans shorter valid.covered⟩

/-- What is written behind the end is not seen. -/
theorem values_reslice_set (valid : s.Valid heap) (shorter : n ≤ s.len) :
    (s.reslice n).values (s.set heap n value) = (s.values heap).take n := by
  unfold values
  show ((s.places (s.set heap n value)).take n) = _
  rw [places_set valid, List.take_set_of_le (Nat.le_refl n), List.take_take, Nat.min_eq_left shorter]

/-! ## `append` -/

/-- A new array is the array of its header. -/
theorem places_new (heap : GoHeap α) (fresh : List α) (n : ℕ) :
    (⟨some heap.arrays.length, n⟩ : GoSlice).places ⟨heap.arrays ++ [fresh]⟩ = fresh := by
  show (heap.arrays ++ [fresh]).getD heap.arrays.length [] = fresh
  rw [List.getD_eq_getElem?_getD, List.getElem?_append_right (Nat.le_refl _), Nat.sub_self]
  rfl

/-- A new array leaves the others alone. -/
theorem places_of_allocated (fresh : List α) (valid : other.Valid heap) :
    other.places ⟨heap.arrays ++ [fresh]⟩ = other.places heap := by
  unfold places
  cases located : other.array with
  | none => rfl
  | some array =>
      show (heap.arrays ++ [fresh]).getD array [] = heap.arrays.getD array []
      rw [List.getD_eq_getElem?_getD, List.getElem?_append_left (valid.allocated array located),
        List.getD_eq_getElem?_getD]

theorem values_append (valid : s.Valid heap) :
    (s.append heap value spare zero).2.values (s.append heap value spare zero).1 =
      s.values heap ++ [value] := by
  unfold append
  split
  · rename_i room
    show (s.places (s.set heap s.len value)).take (s.len + 1) = (s.places heap).take s.len ++ [value]
    rw [places_set valid, List.take_add_one, List.take_set_of_le (Nat.le_refl _),
      List.getElem?_set_self room]
    rfl
  · show (GoSlice.places _ _).take (s.len + 1) = _
    rw [places_new, List.take_append, length_values valid, Nat.add_sub_cancel_left,
      List.take_of_length_le (by rw [length_values valid]; exact Nat.le_succ _)]
    rfl

theorem valid_append (valid : s.Valid heap) :
    (s.append heap value spare zero).2.Valid (s.append heap value spare zero).1 := by
  unfold append
  split
  · rename_i room
    refine ⟨(valid_set valid).allocated, ?_⟩
    show s.len + 1 ≤ (s.places (s.set heap s.len value)).length
    rw [places_set valid, List.length_set]
    exact room
  · refine ⟨fun array same => ?_, ?_⟩
    · cases same
      rw [List.length_append]
      exact Nat.lt_succ_self _
    · rw [places_new, List.length_append, length_values valid, List.length_cons]
      exact Nat.add_le_add_left (Nat.succ_le_succ (Nat.zero_le _)) _

/-- The slice that `append` returns has the array of the old one or a new one, and an array in any case. -/
theorem array_append (heap : GoHeap α) (s : GoSlice) (value : α) (spare : ℕ) (zero : α) :
    ∃ array, (s.append heap value spare zero).2.array = some array ∧
      (s.array = some array ∨ array = heap.arrays.length) := by
  unfold append
  split
  · rename_i room
    cases located : s.array with
    | none =>
        unfold places at room
        rw [located] at room
        exact absurd room (Nat.not_lt_zero _)
    | some array => exact ⟨array, located, Or.inl rfl⟩
  · exact ⟨heap.arrays.length, rfl, Or.inr rfl⟩

section Apart

variable (apart : s.Apart other) (valid : other.Valid heap)

include apart valid

theorem valid_append_of_apart : other.Valid (s.append heap value spare zero).1 := by
  unfold append
  split
  · exact valid_set_of_apart apart valid
  · refine ⟨fun array located => ?_, ?_⟩
    · rw [List.length_append]
      exact Nat.lt_add_right _ (valid.allocated array located)
    · rw [places_of_allocated _ valid]
      exact valid.covered

theorem values_append_of_apart : other.values (s.append heap value spare zero).1 = other.values heap := by
  unfold append
  split
  · exact values_set_of_apart apart
  · unfold values
    rw [places_of_allocated _ valid]

/-- The slice that `append` returns is apart from those the old one was apart from. -/
theorem apart_append : (s.append heap value spare zero).2.Apart other := by
  obtain ⟨array, located, old | new⟩ := array_append heap s value spare zero
  · unfold Apart
    rw [located, ← old]
    exact apart
  · unfold Apart
    rw [located]
    intro same
    have bound := valid.allocated array same.symm
    omega

end Apart

end GoSlice
