import NryNet.Lib.GoText

/-!
# Trimmed texts

What `strings.TrimSpace` and `strings.TrimSuffix` leave of a text.
-/

namespace GoText

/-! ## `strings.TrimSpace` -/

theorem toList_trimSpace (text : String) :
    (trimSpace text).toList = (text.toList.dropWhile isSpace).rdropWhile isSpace := by
  rw [trimSpace, String.toList_ofList]

theorem mem_trimSpace {text : String} {c : Char} (member : c ∈ (trimSpace text).toList) :
    c ∈ text.toList := by
  rw [toList_trimSpace] at member
  exact (List.dropWhile_sublist _).subset ((List.rdropWhile_prefix _ _).subset member)

/-- Nothing is left to be trimmed. -/
structure Trimmed (text : String) : Prop where
  front : ∀ c ∈ text.toList.head?, isSpace c = false
  back : ∀ c ∈ text.toList.getLast?, isSpace c = false

theorem trimmed_trimSpace (text : String) : Trimmed (trimSpace text) := by
  constructor
  · intro c first
    rw [toList_trimSpace] at first
    -- what is trimmed at the end leaves the first character, if any
    obtain ⟨rest, split⟩ := List.rdropWhile_prefix isSpace (text.toList.dropWhile isSpace)
    have whole : (text.toList.dropWhile isSpace).head? = some c := by
      rw [← split, List.head?_append, first, Option.some_or]
    have solid := List.head?_dropWhile_not isSpace text.toList
    rw [whole] at solid
    exact solid
  · intro c last
    rw [toList_trimSpace] at last
    obtain ⟨nonempty, same⟩ := List.mem_getLast?_eq_getLast last
    rw [same]
    exact Bool.eq_false_iff.mpr (List.rdropWhile_last_not isSpace _ nonempty)

theorem trimSpace_of_trimmed {text : String} (trimmed : Trimmed text) : trimSpace text = text := by
  have front : text.toList.dropWhile isSpace = text.toList := by
    cases chars : text.toList with
    | nil => rfl
    | cons c rest =>
        refine List.dropWhile_cons_of_neg (Bool.not_eq_true _ ▸ trimmed.front c ?_)
        rw [chars]
        rfl
  have back : text.toList.rdropWhile isSpace = text.toList := by
    rw [List.rdropWhile_eq_self_iff]
    intro nonempty
    exact Bool.not_eq_true _ ▸ trimmed.back _ (List.getLast?_eq_some_getLast nonempty)
  rw [trimSpace, front, back, String.ofList_toList]

theorem trimSpace_idem (text : String) : trimSpace (trimSpace text) = trimSpace text :=
  trimSpace_of_trimmed (trimmed_trimSpace text)

/-! ## `strings.TrimSuffix` -/

theorem mem_trimSuffix {text : String} {c suffix : Char}
    (member : c ∈ (trimSuffix text suffix).toList) : c ∈ text.toList := by
  unfold trimSuffix at member
  split at member
  · rw [String.toList_ofList] at member
    exact (List.dropLast_prefix _).subset member
  · exact member

/-! ## `strings.ToLower` -/

theorem toLower_ascii : ∀ n < 128,
    (Char.ofNat n).toLower.toNat < 128 ∧ (Char.ofNat n).toLower.toLower = (Char.ofNat n).toLower := by
  decide +kernel

theorem lower_lower_ascii :
    let _ := CaseTable.ascii
    ∀ c, lower (lower c) = lower c := by
  intro _ c
  unfold lower
  by_cases small : c.toNat < 128
  · have checked := toLower_ascii c.toNat small
    rw [Char.ofNat_toNat] at checked
    rw [if_pos small, if_pos checked.1, checked.2]
  · rw [if_neg small]
    exact if_neg small

section Dots

variable [CaseTable]

/-- No other character becomes a dot. -/
theorem getLast?_toLower (dots : ∀ c, lower c = '.' → c = '.') (text : String) :
    (toLower text).toList.getLast? = some '.' ↔ text.toList.getLast? = some '.' := by
  rw [toList_toLower, List.getLast?_map, Option.map_eq_some_iff]
  constructor
  · rintro ⟨c, last, dot⟩
    rw [last, dots c dot]
  · intro last
    exact ⟨'.', last, rfl⟩

/-- Whether the dot at the end goes first or the capital letters makes no difference. -/
theorem toLower_trimSuffix (dots : ∀ c, lower c = '.' → c = '.') (text : String) :
    toLower (trimSuffix text '.') = trimSuffix (toLower text) '.' := by
  unfold trimSuffix
  by_cases last : text.toList.getLast? = some '.'
  · rw [if_pos last, if_pos ((getLast?_toLower dots text).mpr last)]
    conv_lhs => rw [toLower, String.toList_ofList]
    rw [toList_toLower, List.map_dropLast]
  · rw [if_neg last, if_neg fun dot => last ((getLast?_toLower dots text).mp dot)]

theorem toLower_toLower (stable : ∀ c, lower (lower c) = lower c) (text : String) :
    toLower (toLower text) = toLower text := by
  refine toLower_of_fixed fun c member => ?_
  rw [toList_toLower] at member
  obtain ⟨other, -, rfl⟩ := List.mem_map.mp member
  exact stable other

end Dots

end GoText
