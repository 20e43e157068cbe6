import NryNet.Lib.GoText

/-!
# Domain names (`internal/storage/domains.go`)

What the store accepts as a domain: labels of small letters, digits and hyphens, at least two of them,
and no address.  `NormalizeDomain` brings a text into that form or refuses it.
-/

namespace NryNet

open GoText

/-- The characters of a label. -/
def isSlugChar (c : Char) : Bool :=
  ('a' ≤ c && c ≤ 'z') || ('0' ≤ c && c ≤ '9') || c = '-'

/-- `ValidateSlug`. -/
def validateSlug (slug : String) : Except String Unit :=
  if slug = "" ∨ 63 < slug.utf8ByteSize then .error "slug must be 1-63 characters"
  else if slug.toList.head? = some '-' ∨ slug.toList.getLast? = some '-' then
    .error "slug must start and end with a letter or number"
  else if slug.toList.all isSlugChar then .ok ()
  else .error "slug may contain only lowercase letters, numbers, and hyphens"

/-- `ValidateDomain`. -/
def validateDomain (domain : String) : Except String Unit :=
  if domain = "" then .error "domain is required"
  else if 253 < domain.utf8ByteSize ∨ containsAny domain ['_', '*', ':', '/', '\\'] = true ∨
      (parseIP domain).isSome = true then
    .error "domain must be a fully qualified DNS name"
  else
    let labels := (domain.toList.splitOn '.').map String.ofList
    if labels.length < 2 then .error "domain must be fully qualified"
    else if labels.all fun label => (validateSlug label).isOk then .ok ()
    else .error "domain contains an invalid label"

theorem isSlugChar_of_validateSlug {slug : String} (valid : validateSlug slug = .ok ()) :
    slug.toList ≠ [] ∧ ∀ c ∈ slug.toList, isSlugChar c = true := by
  unfold validateSlug at valid
  split at valid
  · cases valid
  · rename_i size
    split at valid
    · cases valid
    · split at valid
      · rename_i plain
        refine ⟨fun empty => size (Or.inl ?_), List.all_eq_true.mp plain⟩
        rw [← String.ofList_toList (s := slug), empty]
      · cases valid

/-- A domain that was accepted is a list of labels. -/
theorem validateSlug_of_validateDomain {domain : String} (valid : validateDomain domain = .ok ()) :
    ∀ label ∈ domain.toList.splitOn '.', validateSlug (String.ofList label) = .ok () := by
  unfold validateDomain at valid
  split at valid
  · cases valid
  · split at valid
    · cases valid
    · simp only at valid
      split at valid
      · cases valid
      · split at valid
        · rename_i each
          intro label member
          have checked := List.all_eq_true.mp each _ (List.mem_map_of_mem member)
          cases result : validateSlug (String.ofList label) with
          | error message =>
              rw [result] at checked
              cases checked
          | ok nothing => rfl
        · cases valid

theorem labels_of_validateDomain {domain : String} (valid : validateDomain domain = .ok ()) :
    ∀ label ∈ domain.toList.splitOn '.', label ≠ [] ∧ ∀ c ∈ label, isSlugChar c = true := by
  intro label listed
  have plain := isSlugChar_of_validateSlug (validateSlug_of_validateDomain valid label listed)
  rw [String.toList_ofList] at plain
  exact plain

/-- The characters of a domain. -/
theorem plain_ascii : ∀ n < 128, isSlugChar (Char.ofNat n) = true ∨ Char.ofNat n = '.' →
    isSpace (Char.ofNat n) = false ∧ (Char.ofNat n).toLower = Char.ofNat n := by
  decide +kernel

theorem lt_of_plain {c : Char} (plain : isSlugChar c = true ∨ c = '.') : c.toNat < 128 := by
  have bound (last : Char) (small : last.toNat < 128) (le : c ≤ last) : c.toNat < 128 :=
    lt_of_le_of_lt (UInt32.le_iff_toNat_le.mp (Char.le_def.mp le)) small
  rcases plain with slug | rfl
  · simp only [isSlugChar, Bool.or_eq_true, Bool.and_eq_true, decide_eq_true_eq] at slug
    rcases slug with (⟨-, le⟩ | ⟨-, le⟩) | rfl
    · exact bound 'z' (by decide) le
    · exact bound '9' (by decide) le
    · decide
  · decide

/-- `lower` of SQLite, which knows ASCII only. -/
def sqlLower (text : String) : String :=
  String.ofList (text.toList.map Char.toLower)

theorem ascii_of_all {text : String} (all : text.toList.all (fun c => decide (c.toNat < 128)) = true) :
    ∀ c ∈ text.toList, c.toNat < 128 :=
  fun c member => of_decide_eq_true (List.all_eq_true.mp all c member)

variable [CaseTable]

/-- Both agree on texts of ASCII. -/
theorem toLower_of_ascii {text : String} (ascii : ∀ c ∈ text.toList, c.toNat < 128) :
    toLower text = sqlLower text := by
  rw [toLower, sqlLower]
  exact congrArg String.ofList (List.map_congr_left fun c member => if_pos (ascii c member))

/-- `NormalizeDomain`. -/
def normalizeDomain (value : String) : Except String String :=
  let domain := trimSuffix (toLower (trimSpace value)) '.'
  match validateDomain domain with
  | .error message => .error message
  | .ok () => .ok domain

/-- `SlugFromName`, up to the check: runs of other characters become one hyphen. -/
def slugText (name : String) : String :=
  let letters := (toLower (trimSpace name)).toList.foldl
    (fun (built : List Char) c =>
      if ('a' ≤ c && c ≤ 'z') || ('0' ≤ c && c ≤ '9') then built ++ [c]
      else if built ≠ [] ∧ built.getLast? ≠ some '-' then built ++ ['-']
      else built) []
  let slug := (trim (String.ofList letters) ['-']).toList
  let short := if 48 < slug.length then (slug.take 48).rdropWhile (· = '-') else slug
  if short = [] then "tunnel" else String.ofList short

/-- `SlugFromName`. -/
def slugFromName (name : String) : Except String String :=
  match validateSlug (slugText name) with
  | .error message => .error message
  | .ok () => .ok (slugText name)

/-- `JoinDomain`. -/
def joinDomain (slug baseDomain : String) : Except String String :=
  match validateSlug slug with
  | .error message => .error message
  | .ok () =>
      match normalizeDomain baseDomain with
      | .error message => .error message
      | .ok base =>
          let domain := slug ++ "." ++ base
          if 253 < domain.utf8ByteSize then .error "generated domain is too long" else .ok domain

/-! ## A normal form -/

theorem isSpace_of_plain {c : Char} (plain : isSlugChar c = true ∨ c = '.') :
    isSpace c = false ∧ lower c = c := by
  have small := lt_of_plain plain
  have checked := plain_ascii c.toNat small
  rw [Char.ofNat_toNat] at checked
  obtain ⟨solid, fixed⟩ := checked plain
  exact ⟨solid, (if_pos small).trans fixed⟩

/-- A text of such characters has nothing to be trimmed and no capital letters. -/
theorem fixed_of_plain {text : String} (plain : ∀ c ∈ text.toList, isSlugChar c = true ∨ c = '.') :
    trimSpace text = text ∧ toLower text = text :=
  ⟨trimSpace_of_solid fun c member => (isSpace_of_plain (plain c member)).1,
    toLower_of_fixed fun c member => (isSpace_of_plain (plain c member)).2⟩

omit [CaseTable] in
theorem plain_of_labels {text : String}
    (labels : ∀ label ∈ text.toList.splitOn '.', ∀ c ∈ label, isSlugChar c = true) :
    ∀ c ∈ text.toList, isSlugChar c = true ∨ c = '.' := by
  intro c member
  have split : c = '.' ∨ ∃ label ∈ text.toList.splitOn '.', c ∈ label := mem_splitOn member
  rcases split with rfl | ⟨label, listed, inside⟩
  · exact Or.inr rfl
  · exact Or.inl (labels label listed c inside)

theorem validateDomain_of_normalizeDomain {value domain : String}
    (normal : normalizeDomain value = .ok domain) : validateDomain domain = .ok () := by
  delta normalizeDomain at normal
  simp only at normal
  split at normal
  · cases normal
  · rename_i checked
    rw [← Except.ok.inj normal]
    exact checked

/-- An empty text is no domain, before normalization or after it. -/
theorem ne_empty_of_normalizeDomain {value domain : String}
    (normal : normalizeDomain value = .ok domain) : value ≠ "" ∧ domain ≠ "" := by
  refine ⟨?_, ?_⟩
  · rintro rfl
    cases normal
  · rintro rfl
    cases validateDomain_of_normalizeDomain normal

/-- A domain that was accepted is its own normal form. -/
theorem normalizeDomain_of_validateDomain {domain : String} (valid : validateDomain domain = .ok ()) :
    normalizeDomain domain = .ok domain := by
  have labels := labels_of_validateDomain valid
  obtain ⟨trimmed, lowered⟩ := fixed_of_plain (plain_of_labels fun label listed => (labels label listed).2)
  have ended : trimSuffix domain '.' = domain :=
    trimSuffix_of_ne fun last => (labels [] (nil_mem_splitOn last)).1 rfl
  delta normalizeDomain
  simp only [trimmed, lowered, ended, valid]

/-- **A normalized domain is its own normal form.** -/
theorem normalizeDomain_idem {value domain : String} (normal : normalizeDomain value = .ok domain) :
    normalizeDomain domain = .ok domain :=
  normalizeDomain_of_validateDomain (validateDomain_of_normalizeDomain normal)

end NryNet
