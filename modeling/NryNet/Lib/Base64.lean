import NryNet.Lib.ByteStream

/-!
# Base64 texts

`base64.StdEncoding` of `encoding/base64`: three bytes are four characters, and the last group is padded.
The decoder skips line breaks wherever they are, and does not look at the bits that the padding leaves
over.

`atob` of a browser reads the same texts, skips all white space and takes a text without its padding as
well.  What `EncodeToString` writes is read back by both.
-/

namespace Base64

open ByteStream

/-- The value of a character. -/
def digit (c : Char) : Option ℕ :=
  if 'A' ≤ c ∧ c ≤ 'Z' then some (c.toNat - 'A'.toNat)
  else if 'a' ≤ c ∧ c ≤ 'z' then some (c.toNat - 'a'.toNat + 26)
  else if '0' ≤ c ∧ c ≤ '9' then some (c.toNat - '0'.toNat + 52)
  else if c = '+' then some 62
  else if c = '/' then some 63
  else none

/-- The character of a value. -/
def symbol (n : ℕ) : Char :=
  if n < 26 then Char.ofNat ('A'.toNat + n)
  else if n < 52 then Char.ofNat ('a'.toNat + (n - 26))
  else if n < 62 then Char.ofNat ('0'.toNat + (n - 52))
  else if n = 62 then '+'
  else '/'

/-- The bytes of a text without line breaks, four characters at a time. -/
def groups : List Char → Option Bytes
  | [] => some []
  | [a, b, '=', '='] => do
      let a ← digit a
      let b ← digit b
      some [UInt8.ofNat (a * 4 + b / 16)]
  | [a, b, c, '='] => do
      let a ← digit a
      let b ← digit b
      let c ← digit c
      some [UInt8.ofNat (a * 4 + b / 16), UInt8.ofNat (b % 16 * 16 + c / 4)]
  | a :: b :: c :: d :: rest => do
      let a ← digit a
      let b ← digit b
      let c ← digit c
      let d ← digit d
      let bytes ← groups rest
      some (UInt8.ofNat (a * 4 + b / 16) :: UInt8.ofNat (b % 16 * 16 + c / 4) ::
        UInt8.ofNat (c % 4 * 64 + d) :: bytes)
  | _ => none

/-- `DecodeString`. -/
def decodeString (text : String) : Option Bytes :=
  groups (text.toList.filter fun c => c ≠ '\n' ∧ c ≠ '\r')

/-- The characters of some bytes. -/
def encode : Bytes → List Char
  | [] => []
  | [a] => [symbol (a.toNat / 4), symbol (a.toNat % 4 * 16), '=', '=']
  | [a, b] =>
      [symbol (a.toNat / 4), symbol (a.toNat % 4 * 16 + b.toNat / 16), symbol (b.toNat % 16 * 4), '=']
  | a :: b :: c :: rest =>
      symbol (a.toNat / 4) :: symbol (a.toNat % 4 * 16 + b.toNat / 16) ::
        symbol (b.toNat % 16 * 4 + c.toNat / 64) :: symbol (c.toNat % 64) :: encode rest

/-- `EncodeToString`. -/
def encodeToString (bytes : Bytes) : String :=
  String.ofList (encode bytes)

/-! ## Browsers -/

/-- The bytes of a text without white space and padding. -/
def ungroup : List Char → Option Bytes
  | [] => some []
  | [_] => none
  | [a, b] => do
      let a ← digit a
      let b ← digit b
      some [UInt8.ofNat (a * 4 + b / 16)]
  | [a, b, c] => do
      let a ← digit a
      let b ← digit b
      let c ← digit c
      some [UInt8.ofNat (a * 4 + b / 16), UInt8.ofNat (b % 16 * 16 + c / 4)]
  | a :: b :: c :: d :: rest => do
      let a ← digit a
      let b ← digit b
      let c ← digit c
      let d ← digit d
      let bytes ← ungroup rest
      some (UInt8.ofNat (a * 4 + b / 16) :: UInt8.ofNat (b % 16 * 16 + c / 4) ::
        UInt8.ofNat (c % 4 * 64 + d) :: bytes)

/-- The padding of a text is one or two characters at its end, if the groups are full. -/
def unpad (chars : List Char) : List Char :=
  if chars.length % 4 ≠ 0 then chars
  else if ['=', '='] <:+ chars then chars.dropLast.dropLast
  else if ['='] <:+ chars then chars.dropLast
  else chars

/-- `atob`. -/
def atob (text : String) : Option Bytes :=
  ungroup (unpad (text.toList.filter fun c => c ∉ ['\t', '\n', '\x0c', '\r', ' ']))

/-! ## Reading back what was written -/

/-- A character that stands for a value, and neither for padding nor for white space. -/
def IsSymbol (c : Char) : Prop :=
  c ≠ '=' ∧ c ∉ ['\t', '\n', '\x0c', '\r', ' ']

theorem digit_symbol {n : ℕ} (bound : n < 64) : digit (symbol n) = some n ∧ IsSymbol (symbol n) := by
  revert n
  unfold IsSymbol
  decide

/-- Three bytes come back from four values. -/
theorem ofNat_split (a b c : UInt8) :
    UInt8.ofNat (a.toNat / 4 * 4 + (a.toNat % 4 * 16 + b.toNat / 16) / 16) = a ∧
      UInt8.ofNat ((a.toNat % 4 * 16 + b.toNat / 16) % 16 * 16 + (b.toNat % 16 * 4 + c.toNat / 64) / 4) = b ∧
      UInt8.ofNat ((b.toNat % 16 * 4 + c.toNat / 64) % 4 * 64 + c.toNat % 64) = c := by
  have ha := a.toNat_lt
  have hb := b.toNat_lt
  have hc := c.toNat_lt
  refine ⟨?_, ?_, ?_⟩
  · rw [show a.toNat / 4 * 4 + (a.toNat % 4 * 16 + b.toNat / 16) / 16 = a.toNat by omega,
      UInt8.ofNat_toNat]
  · rw [show (a.toNat % 4 * 16 + b.toNat / 16) % 16 * 16 + (b.toNat % 16 * 4 + c.toNat / 64) / 4 =
      b.toNat by omega, UInt8.ofNat_toNat]
  · rw [show (b.toNat % 16 * 4 + c.toNat / 64) % 4 * 64 + c.toNat % 64 = c.toNat by omega,
      UInt8.ofNat_toNat]

/-- The characters without the padding. -/
def symbols : Bytes → List Char
  | [] => []
  | [a] => [symbol (a.toNat / 4), symbol (a.toNat % 4 * 16)]
  | [a, b] => [symbol (a.toNat / 4), symbol (a.toNat % 4 * 16 + b.toNat / 16), symbol (b.toNat % 16 * 4)]
  | a :: b :: c :: rest =>
      symbol (a.toNat / 4) :: symbol (a.toNat % 4 * 16 + b.toNat / 16) ::
        symbol (b.toNat % 16 * 4 + c.toNat / 64) :: symbol (c.toNat % 64) :: symbols rest

/-- The padding. -/
def padding : Bytes → List Char
  | [] => []
  | [_] => ['=', '=']
  | [_, _] => ['=']
  | _ :: _ :: _ :: rest => padding rest

theorem encode_eq (bytes : Bytes) : encode bytes = symbols bytes ++ padding bytes := by
  fun_induction encode bytes with
  | case1 => rfl
  | case2 a => rfl
  | case3 a b => rfl
  | case4 a b c rest ih =>
      rw [ih]
      rfl

theorem isSymbol_of_mem {bytes : Bytes} {c : Char} (member : c ∈ symbols bytes) : IsSymbol c := by
  have small (a : UInt8) : a.toNat < 256 := a.toNat_lt
  fun_induction symbols bytes with
  | case1 => cases member
  | case2 a =>
      have := small a
      simp only [List.mem_cons, List.not_mem_nil, or_false] at member
      rcases member with rfl | rfl <;> exact (digit_symbol (by omega)).2
  | case3 a b =>
      have := small a
      have := small b
      simp only [List.mem_cons, List.not_mem_nil, or_false] at member
      rcases member with rfl | rfl | rfl <;> exact (digit_symbol (by omega)).2
  | case4 a b c rest ih =>
      have := small a
      have := small b
      have := small c
      simp only [List.mem_cons] at member
      rcases member with rfl | rfl | rfl | rfl | member
      · exact (digit_symbol (by omega)).2
      · exact (digit_symbol (by omega)).2
      · exact (digit_symbol (by omega)).2
      · exact (digit_symbol (by omega)).2
      · exact ih member

/-- The padding fills the last group. -/
theorem padding_cases (bytes : Bytes) :
    (padding bytes = [] ∧ (symbols bytes).length % 4 = 0) ∨
      (padding bytes = ['='] ∧ (symbols bytes).length % 4 = 3) ∨
      (padding bytes = ['=', '='] ∧ (symbols bytes).length % 4 = 2) := by
  fun_induction padding bytes with
  | case1 => exact .inl ⟨rfl, rfl⟩
  | case2 a => exact .inr (.inr ⟨rfl, rfl⟩)
  | case3 a b => exact .inr (.inl ⟨rfl, rfl⟩)
  | case4 a b c rest ih =>
      have longer : (symbols (a :: b :: c :: rest)).length = (symbols rest).length + 4 := rfl
      rw [longer, Nat.add_mod_right]
      exact ih

theorem ungroup_symbols (bytes : Bytes) : ungroup (symbols bytes) = some bytes := by
  have small (a : UInt8) : a.toNat < 256 := a.toNat_lt
  fun_induction symbols bytes with
  | case1 => rfl
  | case2 a =>
      have := small a
      obtain ⟨first, -⟩ := ofNat_split a 0 0
      simp only [ungroup, (digit_symbol (show a.toNat / 4 < 64 by omega)).1,
        (digit_symbol (show a.toNat % 4 * 16 < 64 by omega)).1, Option.bind_eq_bind, Option.bind_some]
      simpa using first
  | case3 a b =>
      have := small a
      have := small b
      obtain ⟨first, second, -⟩ := ofNat_split a b 0
      simp only [ungroup, (digit_symbol (show a.toNat / 4 < 64 by omega)).1,
        (digit_symbol (show a.toNat % 4 * 16 + b.toNat / 16 < 64 by omega)).1,
        (digit_symbol (show b.toNat % 16 * 4 < 64 by omega)).1, Option.bind_eq_bind, Option.bind_some]
      simp at first second
      simp [first, second]
  | case4 a b c rest ih =>
      have := small a
      have := small b
      have := small c
      obtain ⟨first, second, third⟩ := ofNat_split a b c
      simp only [ungroup, (digit_symbol (show a.toNat / 4 < 64 by omega)).1,
        (digit_symbol (show a.toNat % 4 * 16 + b.toNat / 16 < 64 by omega)).1,
        (digit_symbol (show b.toNat % 16 * 4 + c.toNat / 64 < 64 by omega)).1,
        (digit_symbol (show c.toNat % 64 < 64 by omega)).1, Option.bind_eq_bind, Option.bind_some, ih,
        first, second, third]

theorem unpad_encode (bytes : Bytes) : unpad (encode bytes) = symbols bytes := by
  have plain : '=' ∉ symbols bytes := fun member => (isSymbol_of_mem member).1 rfl
  rw [encode_eq]
  unfold unpad
  rcases padding_cases bytes with ⟨none, full⟩ | ⟨one, three⟩ | ⟨two, half⟩
  · rw [none, List.append_nil, if_neg (by omega), if_neg, if_neg]
    · exact fun ended => plain (ended.subset (by simp))
    · exact fun ended => plain (ended.subset (by simp))
  · rw [one, if_neg (by rw [List.length_append, List.length_singleton]; omega), if_neg, if_pos,
      List.dropLast_concat]
    · exact List.suffix_append _ _
    · rintro ⟨before, split⟩
      rw [show (['=', '='] : List Char) = ['='] ++ ['='] from rfl, ← List.append_assoc] at split
      exact plain (by rw [← List.append_cancel_right split]; simp)
  · rw [two, if_neg (by simp; omega), if_pos (List.suffix_append _ _)]
    simp

/-- What is kept of a text that was written. -/
theorem filter_encode {keep : Char → Bool} (padded : keep '=' = true)
    (kept : ∀ c, IsSymbol c → keep c = true) (bytes : Bytes) :
    (encodeToString bytes).toList.filter keep = encode bytes := by
  unfold encodeToString
  rw [String.toList_ofList, List.filter_eq_self]
  intro c member
  rw [encode_eq, List.mem_append] at member
  rcases member with member | member
  · exact kept c (isSymbol_of_mem member)
  · rcases padding_cases bytes with ⟨same, -⟩ | ⟨same, -⟩ | ⟨same, -⟩ <;> rw [same] at member <;>
      simp at member <;> exact member ▸ padded

/-- A browser reads what `EncodeToString` has written. -/
theorem atob_encodeToString (bytes : Bytes) : atob (encodeToString bytes) = some bytes := by
  unfold atob
  rw [filter_encode (by decide) (fun c symbol => by simpa using symbol.2), unpad_encode, ungroup_symbols]

theorem groups_cons {a b c d : Char} (plain : d ≠ '=') (rest : List Char) :
    groups (a :: b :: c :: d :: rest) =
      (digit a).bind fun a => (digit b).bind fun b => (digit c).bind fun c => (digit d).bind fun d =>
        (groups rest).bind fun bytes =>
          some (UInt8.ofNat (a * 4 + b / 16) :: UInt8.ofNat (b % 16 * 16 + c / 4) ::
            UInt8.ofNat (c % 4 * 64 + d) :: bytes) := by
  rw [groups]
  · rfl
  · exact fun _ pad _ => plain pad
  · exact fun pad _ => plain pad

theorem groups_encode (bytes : Bytes) : groups (encode bytes) = some bytes := by
  have small (a : UInt8) : a.toNat < 256 := a.toNat_lt
  fun_induction encode bytes with
  | case1 => rfl
  | case2 a =>
      have := small a
      obtain ⟨first, -⟩ := ofNat_split a 0 0
      simp only [groups, (digit_symbol (show a.toNat / 4 < 64 by omega)).1,
        (digit_symbol (show a.toNat % 4 * 16 < 64 by omega)).1, Option.bind_eq_bind, Option.bind_some]
      simpa using first
  | case3 a b =>
      have := small a
      have := small b
      have third := digit_symbol (show b.toNat % 16 * 4 < 64 by omega)
      obtain ⟨first, second, -⟩ := ofNat_split a b 0
      rw [groups.eq_3 _ _ _ third.2.1]
      simp only [(digit_symbol (show a.toNat / 4 < 64 by omega)).1,
        (digit_symbol (show a.toNat % 4 * 16 + b.toNat / 16 < 64 by omega)).1, third.1,
        Option.bind_eq_bind, Option.bind_some]
      simp at first second
      simp [first, second]
  | case4 a b c rest ih =>
      have := small a
      have := small b
      have := small c
      have last := digit_symbol (show c.toNat % 64 < 64 by omega)
      obtain ⟨first, second, third⟩ := ofNat_split a b c
      rw [groups_cons last.2.1, (digit_symbol (show a.toNat / 4 < 64 by omega)).1,
        (digit_symbol (show a.toNat % 4 * 16 + b.toNat / 16 < 64 by omega)).1,
        (digit_symbol (show b.toNat % 16 * 4 + c.toNat / 64 < 64 by omega)).1, last.1, ih]
      simp only [Option.bind_some, first, second, third]

/-- `DecodeString` reads what `EncodeToString` has written. -/
theorem decodeString_encodeToString (bytes : Bytes) :
    decodeString (encodeToString bytes) = some bytes := by
  unfold decodeString
  rw [filter_encode (by decide), groups_encode]
  intro c symbol
  refine decide_eq_true ⟨?_, ?_⟩
  · rintro rfl
    exact symbol.2 (by decide)
  · rintro rfl
    exact symbol.2 (by decide)

example : decodeString (encodeToString [0x66, 0x6f, 0x6f, 0x62]) = some [0x66, 0x6f, 0x6f, 0x62] := by
  decide

end Base64
