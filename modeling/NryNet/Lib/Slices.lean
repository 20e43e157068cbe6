import NryNet.Lib.ByteStream

/-!
# Programs on byte slices

A function that takes a byte slice apart can end in three ways: it returns a value, it returns an error,
or it panics, because an index or the bounds of a slice are out of range.  `Sliced` is the monad of such
functions, with `none` for the panic.

`Returns program post` is the rule of reasoning: the program does not panic, and a value that it returns
meets `post`.  The bound of `s[i:j]` is taken to be the length of the slice, not its capacity, so a
program that does not panic here reads no byte that is not in the slice.
-/

open ByteStream

/-- A function that returns a value or an error, or panics. -/
def Sliced (ε α : Type) := Option (Except ε α)

namespace Sliced

variable {ε ε' α β : Type}

instance : Monad (Sliced ε) where
  pure value := some (.ok value)
  bind program next :=
    match program with
    | none => none
    | some (.error error) => some (.error error)
    | some (.ok value) => next value

/-- `return …, err`. -/
def fail (error : ε) : Sliced ε α := some (.error error)

/-- A program that has ended without a panic. -/
def ended (result : Except ε α) : Sliced ε α := some result

/-- The panic. -/
def outOfRange : Sliced ε α := none

/-- The program, with its errors reported in other terms. -/
def reporting (report : ε → ε') (program : Sliced ε α) : Sliced ε' α :=
  Option.map (Except.mapError report) program

/-- `data[i]`. -/
def index (data : Bytes) (i : ℕ) : Sliced ε UInt8 :=
  Option.map Except.ok data[i]?

/-- `data[low:high]`. -/
def slice (data : Bytes) (low high : ℕ) : Sliced ε Bytes :=
  if low ≤ high ∧ high ≤ data.length then pure ((data.take high).drop low) else outOfRange

/-- `binary.BigEndian.Uint16` and `Uint64`: the first bytes as a number, which must be there. -/
def uint (width : ℕ) (data : Bytes) : Sliced ε ℕ :=
  if width ≤ data.length then pure (ofBigEndian (data.take width)) else outOfRange

/-- Bytes are put into an array from some place on, where there must be room for them. -/
def put (array : Bytes) (offset : ℕ) (bytes : Bytes) : Sliced ε Bytes :=
  if offset + bytes.length ≤ array.length then
    pure (array.take offset ++ bytes ++ array.drop (offset + bytes.length))
  else outOfRange

/-- `append(array[:used], bytes...)`: in place, if the array has room for them. -/
def append (array : Bytes) (used : ℕ) (bytes : Bytes) : Bytes :=
  if used + bytes.length ≤ array.length then
    (array.take used ++ bytes ++ array.drop (used + bytes.length)).take (used + bytes.length)
  else array.take used ++ bytes

@[simp] theorem return_bind (value : α) (next : α → Sliced ε β) :
    (pure value : Sliced ε α) >>= next = next value := rfl

@[simp] theorem fail_bind (error : ε) (next : α → Sliced ε β) :
    (fail error : Sliced ε α) >>= next = fail error := rfl

@[simp] theorem reporting_return (report : ε → ε') (value : α) :
    (pure value : Sliced ε α).reporting report = pure value := rfl

@[simp] theorem reporting_fail (report : ε → ε') (error : ε) :
    (fail error : Sliced ε α).reporting report = fail (report error) := rfl

section Reads

variable {data : Bytes} {low high width i : ℕ}

theorem index_eq {byte : UInt8} (here : data[i]? = some byte) :
    (index data i : Sliced ε UInt8) = pure byte := by
  rw [index, here]
  rfl

theorem slice_eq (ordered : low ≤ high) (bound : high ≤ data.length) :
    (slice data low high : Sliced ε Bytes) = pure ((data.take high).drop low) :=
  if_pos ⟨ordered, bound⟩

theorem uint_eq (bound : width ≤ data.length) :
    (uint width data : Sliced ε ℕ) = pure (ofBigEndian (data.take width)) :=
  if_pos bound

/-- The middle of three pieces. -/
theorem slice_append (before middle after : Bytes) (low_eq : low = before.length)
    (high_eq : high = before.length + middle.length) :
    (slice (before ++ middle ++ after) low high : Sliced ε Bytes) = pure middle := by
  subst low_eq high_eq
  rw [slice_eq (Nat.le_add_right _ _) (by simp)]
  rw [List.take_left' (by rw [List.length_append]), List.drop_left' rfl]

/-- Putting something over the middle of three pieces. -/
theorem put_append {offset : ℕ} (before middle after : Bytes) {bytes : Bytes}
    (offset_eq : offset = before.length) (same : bytes.length = middle.length) :
    (put (before ++ middle ++ after) offset bytes : Sliced ε Bytes) =
      pure (before ++ bytes ++ after) := by
  subst offset_eq
  have bound : before.length + bytes.length ≤ (before ++ middle ++ after).length := by
    simp only [List.length_append, same]
    omega
  rw [put, if_pos bound, List.append_assoc before middle after, List.take_left' rfl,
    ← List.append_assoc before middle after,
    List.drop_left' (by rw [List.length_append, same])]

/-- Whether in place or not, what comes out is what one expects. -/
theorem append_eq {array : Bytes} {used : ℕ} (bound : used ≤ array.length) (bytes : Bytes) :
    append array used bytes = array.take used ++ bytes := by
  unfold append
  split
  · exact List.take_left' (by rw [List.length_append, List.length_take_of_le bound])
  · rfl

end Reads

/-! ## What a program returns -/

/-- The program does not panic, and what it returns meets `post`. -/
def Returns (program : Sliced ε α) (post : α → Prop) : Prop :=
  ∃ result, program = some result ∧ ∀ value, result = .ok value → post value

section Returns

variable {program : Sliced ε α} {post : α → Prop}

theorem Returns.ne_none (returns : Returns program post) : program ≠ none := by
  obtain ⟨result, same, -⟩ := returns
  rw [same]
  exact Option.some_ne_none result

theorem Returns.imp {post' : α → Prop} (returns : Returns program post)
    (weaker : ∀ value, post value → post' value) : Returns program post' := by
  obtain ⟨result, same, met⟩ := returns
  exact ⟨result, same, fun value returned => weaker value (met value returned)⟩

theorem returns_pure {value : α} (met : post value) : Returns (pure value : Sliced ε α) post := by
  refine ⟨_, rfl, ?_⟩
  rintro _ ⟨⟩
  exact met

theorem returns_fail (error : ε) : Returns (fail error : Sliced ε α) post := by
  refine ⟨_, rfl, ?_⟩
  rintro _ ⟨⟩

/-- Sequencing. -/
theorem Returns.bind {next : α → Sliced ε β} {middle : α → Prop} {post : β → Prop}
    (first : Returns program middle) (second : ∀ value, middle value → Returns (next value) post) :
    Returns (program >>= next) post := by
  obtain ⟨result, rfl, met⟩ := first
  cases result with
  | error error => exact returns_fail error
  | ok value => exact second value (met value rfl)

theorem Returns.reporting (returns : Returns program post) (report : ε → ε') :
    Returns (program.reporting report) post := by
  obtain ⟨result, rfl, met⟩ := returns
  cases result with
  | error error => exact returns_fail (report error)
  | ok value => exact returns_pure (met value rfl)

/-- A branch. -/
theorem returns_ite {condition : Prop} [Decidable condition] {program' : Sliced ε α}
    (positive : condition → Returns program post) (negative : ¬ condition → Returns program' post) :
    Returns (if condition then program else program') post := by
  split
  · rename_i holds
    exact positive holds
  · rename_i fails
    exact negative fails

variable {data : Bytes} {low high width i : ℕ}

theorem returns_index (bound : i < data.length) :
    Returns (index data i : Sliced ε UInt8) fun _ => True := by
  rw [index_eq (List.getElem?_eq_getElem bound)]
  exact returns_pure trivial

/-- A slice within the bounds has the length that one expects. -/
theorem returns_slice (ordered : low ≤ high) (bound : high ≤ data.length) :
    Returns (slice data low high : Sliced ε Bytes) fun part => part.length = high - low := by
  rw [slice_eq ordered bound]
  refine returns_pure ?_
  rw [List.length_drop, List.length_take_of_le bound]

theorem returns_uint (bound : width ≤ data.length) :
    Returns (uint width data : Sliced ε ℕ) fun _ => True := by
  rw [uint_eq bound]
  exact returns_pure trivial

end Returns

end Sliced
