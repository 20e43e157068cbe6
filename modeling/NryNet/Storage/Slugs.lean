import NryNet.Storage.Domains
import NryNet.Lib.GoTrim

/-!
# Slugs from names (`internal/storage/domains.go`)

`SlugFromName` makes a label of any text.  What its loop has built is at every moment a text of label
characters that does not begin with a hyphen and has no two of them side by side, and every text that
is cut off from such a text is one as well.  So the check at the end cannot fail, and a slug that goes
through the loop once more comes out as it was.
-/

namespace NryNet

open GoText

/-! ## The loop -/

/-- One round of the loop: `previousHyphen` is the last character built. -/
def slugStep (built : List Char) (c : Char) : List Char :=
  if ('a' ≤ c && c ≤ 'z') || ('0' ≤ c && c ≤ '9') then built ++ [c]
  else if built ≠ [] ∧ built.getLast? ≠ some '-' then built ++ ['-']
  else built

/-- What the loop builds. -/
structure Built (chars : List Char) : Prop where
  plain : ∀ c ∈ chars, isSlugChar c = true
  front : chars.head? ≠ some '-'
  apart : ¬ ['-', '-'] <:+: chars

theorem Built.of_prefix {chars cut : List Char} (built : Built chars) (part : cut <+: chars) :
    Built cut := by
  refine ⟨fun c member => built.plain c (part.subset member), fun first => ?_, fun twice => ?_⟩
  · obtain ⟨rest, rfl⟩ := part
    refine built.front ?_
    rw [List.head?_append, first, Option.some_or]
  · exact built.apart (twice.trans part.isInfix)

/-- A character may follow, a hyphen only behind something else. -/
theorem Built.concat {chars : List Char} {c : Char} (built : Built chars)
    (plain : isSlugChar c = true) (behind : c = '-' → chars ≠ [] ∧ chars.getLast? ≠ some '-') :
    Built (chars ++ [c]) := by
  refine ⟨fun other member => ?_, fun first => ?_, fun twice => ?_⟩
  · rcases List.mem_append.mp member with old | new
    · exact built.plain other old
    · rw [List.mem_singleton.mp new]
      exact plain
  · cases chars with
    | nil => exact (behind (Option.some.inj first)).1 rfl
    | cons head rest => exact built.front first
  · rcases List.infix_concat_iff.mp twice with last | before
    · obtain ⟨rest, split, ends⟩ := (List.suffix_concat_iff.mp last).resolve_left (List.cons_ne_nil _ _)
      obtain ⟨same, hyphen⟩ : ['-'] = rest ∧ ['-'] = [c] := List.append_inj' split rfl
      rw [← same] at ends
      obtain ⟨start, rfl⟩ := ends
      exact (behind (List.singleton_inj.mp hyphen).symm).2 List.getLast?_concat
    · exact built.apart before

theorem built_slugStep {built : List Char} (so : Built built) (c : Char) : Built (slugStep built c) := by
  unfold slugStep
  split
  · rename_i letter
    refine so.concat ?_ fun hyphen => absurd letter (hyphen ▸ by decide)
    rw [isSlugChar, letter, Bool.true_or]
  · split
    · rename_i behind
      exact so.concat rfl fun _ => behind
    · exact so

theorem built_foldl (chars : List Char) : Built (chars.foldl slugStep []) := by
  refine List.foldlRecOn chars slugStep ⟨?_, ?_, ?_⟩ fun built so c _ => built_slugStep so c
  · exact List.forall_mem_nil _
  · exact Option.some_ne_none _ ∘ Eq.symm
  · decide

/-- What could have been built is built again. -/
theorem foldl_slugStep {built rest : List Char} (whole : Built (built ++ rest)) :
    rest.foldl slugStep built = built ++ rest := by
  induction rest generalizing built with
  | nil => exact (List.append_nil built).symm
  | cons c rest ih =>
      have here : slugStep built c = built ++ [c] := by
        unfold slugStep
        split
        · rfl
        · rename_i other
          -- the other character of a label is the hyphen
          have hyphen : c = '-' := by
            have listed := whole.plain c (List.mem_append_right _ List.mem_cons_self)
            rw [isSlugChar, Bool.or_eq_true] at listed
            exact of_decide_eq_true (listed.resolve_left other)
          subst hyphen
          refine if_pos ⟨?_, fun last => ?_⟩
          · rintro rfl
            exact whole.front rfl
          · obtain ⟨start, rfl⟩ := List.getLast?_eq_some_iff.mp last
            refine whole.apart ⟨start, rest, ?_⟩
            simp only [List.append_assoc, List.cons_append, List.nil_append]
      rw [List.foldl_cons, here, ih (by rw [List.append_assoc]; exact whole), List.append_assoc]
      rfl

/-! ## The slug -/

/-- A text that `SlugFromName` can return. -/
structure IsSlug (chars : List Char) : Prop extends Built chars where
  nonempty : chars ≠ []
  back : chars.getLast? ≠ some '-'
  short : chars.length ≤ 48

theorem size_of_ascii {chars : List Char} (ascii : ∀ c ∈ chars, c.toNat < 128) :
    (String.ofList chars).utf8ByteSize = chars.length := by
  induction chars with
  | nil => rfl
  | cons c rest ih =>
      have first : (String.singleton c).utf8ByteSize = 1 := by
        rw [String.utf8ByteSize_singleton, Char.utf8Size_eq_one_iff]
        exact UInt32.le_iff_toNat_le.mpr (Nat.le_of_lt_succ (ascii c List.mem_cons_self))
      have later := ih fun other member => ascii other (List.mem_cons_of_mem _ member)
      rw [String.ofList_cons, String.utf8ByteSize_append, first, later, List.length_cons,
        Nat.add_comm]

/-- The bytes of a text of labels are its characters. -/
theorem size_of_plain {text : String} (plain : ∀ c ∈ text.toList, isSlugChar c = true ∨ c = '.') :
    text.utf8ByteSize = text.toList.length := by
  rw [← size_of_ascii fun c member => lt_of_plain (plain c member), String.ofList_toList]

theorem validateSlug_of_plain {slug : String} (plain : ∀ c ∈ slug.toList, isSlugChar c = true)
    (nonempty : slug ≠ "") (short : slug.utf8ByteSize ≤ 63) (front : slug.toList.head? ≠ some '-')
    (back : slug.toList.getLast? ≠ some '-') : validateSlug slug = .ok () := by
  unfold validateSlug
  rw [if_neg (not_or.mpr ⟨nonempty, Nat.not_lt.mpr short⟩), if_neg (not_or.mpr ⟨front, back⟩),
    if_pos (List.all_eq_true.mpr plain)]

theorem IsSlug.valid {slug : String} (is : IsSlug slug.toList) :
    slug.utf8ByteSize ≤ 48 ∧ validateSlug slug = .ok () := by
  have size := size_of_plain fun c member => Or.inl (is.plain c member)
  refine ⟨size ▸ is.short, validateSlug_of_plain is.plain ?_ ?_ is.front is.back⟩
  · rintro rfl
    exact is.nonempty rfl
  · exact size ▸ is.short.trans (by decide)

/-- Without hyphens at its end, a text that was built is a slug. -/
theorem isSlug_rdropWhile {chars : List Char} (built : Built chars)
    (left : chars.rdropWhile (· = '-') ≠ []) (short : (chars.rdropWhile (· = '-')).length ≤ 48) :
    IsSlug (chars.rdropWhile (· = '-')) where
  toBuilt := built.of_prefix (List.rdropWhile_prefix _ _)
  nonempty := left
  back := by
    intro last
    have ends := List.rdropWhile_last_not (fun c => decide (c = '-')) chars left
    rw [List.getLast?_eq_some_getLast left, Option.some.injEq] at last
    exact ends (decide_eq_true last)
  short := short

theorem isSlug_tunnel : IsSlug "tunnel".toList where
  plain := List.all_eq_true.mp (by decide)
  front := by decide
  apart := by decide
  nonempty := by decide
  back := by decide
  short := by decide

/-- `strings.Trim` finds nothing in front. -/
theorem toList_trim_of_built {chars : List Char} (built : Built chars) :
    (trim (String.ofList chars) ['-']).toList = chars.rdropWhile (· = '-') := by
  have hyphens : ['-'].contains = fun c => decide (c = '-') := by
    funext c
    exact (List.elem_eq_mem c ['-']).trans (decide_eq_decide.mpr List.mem_singleton)
  have front : chars.dropWhile (· = '-') = chars := by
    cases chars with
    | nil => rfl
    | cons c rest =>
        refine List.dropWhile_cons_of_neg fun hyphen => built.front ?_
        rw [List.head?_cons, of_decide_eq_true hyphen]
  rw [trim, String.toList_ofList, String.toList_ofList, hyphens, front]

variable [CaseTable]

/-- What the loop makes of a name. -/
def slugLetters (name : String) : List Char :=
  (toLower (trimSpace name)).toList.foldl slugStep []

theorem built_slugLetters (name : String) : Built (slugLetters name) :=
  built_foldl _

theorem slugText_eq (name : String) :
    slugText name =
      let slug := (slugLetters name).rdropWhile (· = '-')
      let short := if 48 < slug.length then (slug.take 48).rdropWhile (· = '-') else slug
      if short = [] then "tunnel" else String.ofList short := by
  simp only [← toList_trim_of_built (built_slugLetters name)]
  rfl

theorem isSlug_slugText (name : String) : IsSlug (slugText name).toList := by
  have built := built_slugLetters name
  rw [slugText_eq]
  simp only
  split_ifs with long none none
  · exact isSlug_tunnel
  · rw [String.toList_ofList]
    refine isSlug_rdropWhile ?_ none ?_
    · exact built.of_prefix ((List.take_prefix _ _).trans (List.rdropWhile_prefix _ _))
    · exact (List.rdropWhile_prefix _ _).length_le.trans (List.length_take_le _ _)
  · exact isSlug_tunnel
  · rw [String.toList_ofList]
    exact isSlug_rdropWhile built none (Nat.le_of_not_lt long)

theorem slugText_of_isSlug {slug : String} (is : IsSlug slug.toList) : slugText slug = slug := by
  obtain ⟨trimmed, lowered⟩ := fixed_of_plain fun c member => Or.inl (is.plain c member)
  have letters : slugLetters slug = slug.toList := by
    rw [slugLetters, trimmed, lowered]
    exact foldl_slugStep is.toBuilt
  have back : slug.toList.rdropWhile (· = '-') = slug.toList := by
    rw [List.rdropWhile_eq_self_iff]
    intro nonempty hyphen
    refine is.back ?_
    rw [List.getLast?_eq_some_getLast nonempty, of_decide_eq_true hyphen]
  rw [slugText_eq]
  simp only
  rw [letters, back, if_neg (Nat.not_lt.mpr is.short), if_neg is.nonempty, String.ofList_toList]

example : @slugText CaseTable.ascii "  My Desk (2) " = "my-desk-2" := by decide +kernel

theorem slugFromName_of_valid {name : String} (valid : validateSlug (slugText name) = .ok ()) :
    slugFromName name = .ok (slugText name) := by
  unfold slugFromName
  rw [valid]

/-- **Every name has a slug**: one that the check accepts, of at most 48 bytes, without hyphens side by
side, and its own slug. -/
theorem slugFromName_ok (name : String) :
    ∃ slug, slugFromName name = .ok slug ∧ validateSlug slug = .ok () ∧
      slug.utf8ByteSize ≤ 48 ∧ contains slug "--" = false ∧ slugFromName slug = .ok slug := by
  have is := isSlug_slugText name
  obtain ⟨short, valid⟩ := is.valid
  have again : slugFromName (slugText name) = .ok (slugText name) := by
    have same := slugText_of_isSlug is
    exact (slugFromName_of_valid (same.symm ▸ valid)).trans (congrArg Except.ok same)
  exact ⟨slugText name, slugFromName_of_valid valid, valid, short, decide_eq_false is.apart, again⟩

end NryNet
