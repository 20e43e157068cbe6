import Mathlib.Data.List.Sort

/-!
# Writing JSON

The texts that `json.Marshal` of `encoding/json` makes of strings, lists and structures.  A string is
written with the escapes that are safe in HTML, and the fields of a structure in the order in which they are
declared.

Nothing is shorter in JSON than it is by itself, which is what `size_quote`, `size_array` and `size_object`
are about.
-/

namespace GoJSON

/-- The number of bytes of a text. -/
def size (text : String) : ℕ := text.utf8ByteSize

/-- A hexadecimal digit. -/
def hex (n : ℕ) : Char :=
  if n < 10 then Char.ofNat ('0'.toNat + n) else Char.ofNat ('a'.toNat + (n - 10))

/-- What is written for a character of a string. -/
def escape (c : Char) : List Char :=
  if c = '"' ∨ c = '\\' then ['\\', c]
  else if c = '\x08' then ['\\', 'b']
  else if c = '\x0c' then ['\\', 'f']
  else if c = '\n' then ['\\', 'n']
  else if c = '\r' then ['\\', 'r']
  else if c = '\t' then ['\\', 't']
  else if c.toNat < 0x20 ∨ c = '<' ∨ c = '>' ∨ c = '&' then
    ['\\', 'u', '0', '0', hex (c.toNat / 16), hex (c.toNat % 16)]
  else if c = '\u2028' ∨ c = '\u2029' then ['\\', 'u', '2', '0', '2', hex (c.toNat % 16)]
  else [c]

/-- A string. -/
def quote (text : String) : String :=
  "\"" ++ String.ofList (text.toList.flatMap escape) ++ "\""

/-- Some texts with commas between them. -/
def commas : List String → String
  | [] => ""
  | [item] => item
  | item :: rest => item ++ "," ++ commas rest

/-- A list. -/
def array (items : List String) : String :=
  "[" ++ commas items ++ "]"

/-- A structure or a map. -/
def object (fields : List (String × String)) : String :=
  "\x7b" ++ commas (fields.map fun field => quote field.1 ++ ":" ++ field.2) ++ "\x7d"

/-- A map; its keys are sorted. -/
def map {V : Type} (value : V → String) (entries : List (Σ _ : String, V)) : String :=
  object ((entries.insertionSort fun entry other => entry.1 ≤ other.1).map fun entry =>
    (entry.1, value entry.2))

/-- A field with `omitempty`. -/
def omitEmpty (empty : Bool) (name value : String) : List (String × String) :=
  if empty then [] else [(name, value)]

example : object [("id", quote "<1>"), ("headers", map quote [⟨"b", "2"⟩, ⟨"a", "\n"⟩])] =
    "\x7b\"id\":\"\\u003c1\\u003e\",\"headers\":\x7b\"a\":\"\\n\",\"b\":\"2\"\x7d\x7d" := by
  decide +kernel

theorem omitEmpty_false (name value : String) : omitEmpty false name value = [(name, value)] :=
  rfl

/-! ## Sizes -/

theorem size_append (first second : String) : size (first ++ second) = size first + size second :=
  String.utf8ByteSize_append

theorem length_le_size (chars : List Char) : chars.length ≤ size (String.ofList chars) := by
  induction chars with
  | nil => exact Nat.zero_le _
  | cons c rest ih =>
      have positive := c.utf8Size_pos
      have first : size (String.singleton c) = c.utf8Size := String.utf8ByteSize_singleton
      rw [String.ofList_cons, size_append, first, List.length_cons]
      omega

theorem escape_ne_nil (c : Char) : escape c ≠ [] := by
  unfold escape
  split_ifs <;> exact List.cons_ne_nil _ _

/-- A string does not get shorter. -/
theorem size_quote (text : String) : text.toList.length + 2 ≤ size (quote text) := by
  have escaped : text.toList.length ≤ (text.toList.flatMap escape).length := by
    induction text.toList with
    | nil => exact Nat.zero_le _
    | cons c rest ih =>
        have positive := List.length_pos_of_ne_nil (escape_ne_nil c)
        rw [List.flatMap_cons, List.length_append, List.length_cons]
        omega
  have written := length_le_size (text.toList.flatMap escape)
  have quotes : size "\"" = 1 := by decide
  unfold quote
  rw [size_append, size_append, quotes]
  omega

theorem size_commas {item : String} {items : List String} (member : item ∈ items) :
    size item ≤ size (commas items) := by
  induction items using commas.induct with
  | case1 => cases member
  | case2 single =>
      rw [List.mem_singleton.mp member]
      exact Nat.le_refl _
  | case3 first rest filled ih =>
      rw [commas.eq_3 _ _ filled, size_append, size_append]
      rcases List.mem_cons.mp member with rfl | later
      · omega
      · have inner := ih later
        omega

/-- No element of a list is longer than the list. -/
theorem size_array {item : String} {items : List String} (member : item ∈ items) :
    size item ≤ size (array items) := by
  have inner := size_commas member
  unfold array
  rw [size_append, size_append]
  omega

/-- No value of a structure is longer than the structure. -/
theorem size_object {field : String × String} {fields : List (String × String)}
    (member : field ∈ fields) : size field.2 ≤ size (object fields) := by
  have inner := size_commas (List.mem_map_of_mem (f := fun field : String × String =>
    quote field.1 ++ ":" ++ field.2) member)
  unfold object
  rw [size_append, size_append] at *
  omega

theorem size_map {V : Type} (value : V → String) {entries : List (Σ _ : String, V)}
    {entry : Σ _ : String, V} (member : entry ∈ entries) :
    size (value entry.2) ≤ size (map value entries) := by
  have among : (entry.1, value entry.2) ∈ (entries.insertionSort fun entry other =>
      entry.1 ≤ other.1).map fun entry => (entry.1, value entry.2) :=
    List.mem_map.mpr ⟨entry, (List.mem_insertionSort _).mpr member, rfl⟩
  exact size_object among

end GoJSON
