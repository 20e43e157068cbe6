import NryNet.Storage.Slugs
import NryNet.Storage.Tunnels

/-!
# Generated domains (`internal/storage/domains.go`)

`JoinDomain` puts a slug in front of a base domain.  Both were checked, and what is left to be checked
of the whole is its length and that it is no address.  The function looks at the length.  A slug and
three labels that are all numbers below 256 are an address of four bytes.
-/

namespace NryNet

open GoText

/-- The slug and the labels of the base domain are the four bytes of an address. -/
def isAddress (slug base : String) : Bool :=
  let labels := base.toList.splitOn '.'
  (octet slug.toList).isSome && labels.length = 3 && labels.all fun label => (octet label).isSome

/-! ## The parts of a joined domain -/

theorem not_mem_of_slugChars {chars : List Char} (plain : ∀ c ∈ chars, isSlugChar c = true) :
    '.' ∉ chars := by
  intro dot
  cases plain '.' dot

theorem toList_joined (slug base : String) :
    (slug ++ "." ++ base).toList = slug.toList ++ '.' :: base.toList := by
  rw [String.toList_append, String.toList_append, List.append_assoc]
  rfl

example : isAddress "1" "2.3.4" = true ∧ isAddress "web" "2.3.4" = false := by decide +kernel

theorem joined_ne_empty (slug base : String) : slug ++ "." ++ base ≠ "" := by
  intro empty
  have chars := toList_joined slug base
  rw [empty] at chars
  cases (List.append_eq_nil_iff.mp chars.symm).2

/-- The labels of a joined domain. -/
theorem splitOn_joined {slug base : String} (valid : validateSlug slug = .ok ()) :
    (slug ++ "." ++ base).toList.splitOn '.' = slug.toList :: base.toList.splitOn '.' := by
  have dotless := not_mem_of_slugChars (isSlugChar_of_validateSlug valid).2
  rw [toList_joined, List.splitOn_append_cons_self_of_not_mem dotless]

/-- Characters of labels are an address when their fields are. -/
theorem isSome_parseIP_of_plain {text : String}
    (plain : ∀ c ∈ text.toList, isSlugChar c = true ∨ c = '.') (dotted : '.' ∈ text.toList) :
    (parseIP text).isSome = (parseIPv4 text.toList).isSome := by
  have first : text.toList.find? (fun c => c = '.' || c = ':' || c = '%') = some '.' := by
    cases found : text.toList.find? (fun c => c = '.' || c = ':' || c = '%') with
    | none => exact absurd (List.find?_eq_none.mp found '.' dotted) (by decide)
    | some c =>
        have member := List.mem_of_find?_eq_some found
        have separator := List.find?_some found
        rcases plain c member with slug | rfl
        · -- no separator is a character of a label
          simp only [Bool.or_eq_true, decide_eq_true_eq] at separator
          rcases separator with (rfl | rfl) | rfl <;> cases slug
        · rfl
  rw [parseIP, first]
  exact Option.isSome_map

theorem labels_joined {slug base : String} (slugValid : validateSlug slug = .ok ())
    (baseValid : validateDomain base = .ok ()) :
    ∀ label ∈ (slug ++ "." ++ base).toList.splitOn '.', validateSlug (String.ofList label) = .ok () := by
  rw [splitOn_joined slugValid]
  intro label listed
  rcases List.mem_cons.mp listed with rfl | later
  · rw [String.ofList_toList]
    exact slugValid
  · exact validateSlug_of_validateDomain baseValid label later

theorem plain_joined {slug base : String} (slugValid : validateSlug slug = .ok ())
    (baseValid : validateDomain base = .ok ()) :
    ∀ c ∈ (slug ++ "." ++ base).toList, isSlugChar c = true ∨ c = '.' := by
  refine plain_of_labels fun label listed => ?_
  have plain := isSlugChar_of_validateSlug (labels_joined slugValid baseValid label listed)
  rw [String.toList_ofList] at plain
  exact plain.2

theorem isSome_parseIP_joined {slug base : String} (slugValid : validateSlug slug = .ok ())
    (baseValid : validateDomain base = .ok ()) :
    (parseIP (slug ++ "." ++ base)).isSome = isAddress slug base := by
  have dotted : '.' ∈ (slug ++ "." ++ base).toList := by
    rw [toList_joined]
    exact List.mem_append_right _ List.mem_cons_self
  rw [isSome_parseIP_of_plain (plain_joined slugValid baseValid) dotted, parseIPv4, isAddress]
  simp only [splitOn_joined slugValid, List.length_cons]
  by_cases three : (base.toList.splitOn '.').length = 3
  · rw [if_pos (by rw [three]), isSome_mapM_octet, List.all_cons, decide_eq_true three, Bool.and_true]
  · rw [if_neg fun four => three (Nat.succ.inj four), decide_eq_false three, Bool.and_false,
      Bool.false_and]
    rfl

/-! ## What is left to be checked -/

theorem not_containsAny_of_plain {text : String}
    (plain : ∀ c ∈ text.toList, isSlugChar c = true ∨ c = '.') :
    containsAny text ['_', '*', ':', '/', '\\'] = false := by
  refine List.any_eq_false.mpr fun c member listed => ?_
  rcases plain c member with slug | rfl
  · have none : ['_', '*', ':', '/', '\\'].any isSlugChar = false := by decide
    exact List.any_eq_false.mp none c (List.contains_iff_mem.mp listed) slug
  · revert listed
    decide

/-- A joined domain of an allowed length is refused as an address or not at all. -/
theorem validateDomain_joined {slug base : String} (slugValid : validateSlug slug = .ok ())
    (baseValid : validateDomain base = .ok ()) (short : (slug ++ "." ++ base).utf8ByteSize ≤ 253) :
    validateDomain (slug ++ "." ++ base) =
      if isAddress slug base then .error "domain must be a fully qualified DNS name" else .ok () := by
  have plain := plain_joined slugValid baseValid
  unfold validateDomain
  rw [if_neg (joined_ne_empty slug base), not_containsAny_of_plain plain,
    isSome_parseIP_joined slugValid baseValid]
  cases isAddress slug base with
  | true => exact (if_pos (Or.inr (Or.inr rfl))).trans (if_pos rfl).symm
  | false =>
      have long : ¬ (253 < (slug ++ "." ++ base).utf8ByteSize ∨ false = true ∨ false = true) := by
        rintro (long | none | none)
        · exact Nat.not_lt.mpr short long
        all_goals cases none
      have two : ¬ (((slug ++ "." ++ base).toList.splitOn '.').map String.ofList).length < 2 := by
        have some := List.length_pos_of_ne_nil (List.splitOn_ne_nil '.' base.toList)
        rw [List.length_map, splitOn_joined slugValid, List.length_cons]
        omega
      have each : (((slug ++ "." ++ base).toList.splitOn '.').map String.ofList).all
          (fun label => (validateSlug label).isOk) = true := by
        refine List.all_eq_true.mpr fun label listed => ?_
        obtain ⟨chars, inside, rfl⟩ := List.mem_map.mp listed
        rw [labels_joined slugValid baseValid chars inside]
        rfl
      rw [if_neg long]
      simp only
      rw [if_neg two, if_pos each]
      rfl

variable [CaseTable]

/-- What `JoinDomain` returns. -/
theorem joinDomain_cases {slug baseDomain domain : String}
    (joined : joinDomain slug baseDomain = .ok domain) :
    validateSlug slug = .ok () ∧ ∃ base, normalizeDomain baseDomain = .ok base ∧
      domain = slug ++ "." ++ base ∧ domain.utf8ByteSize ≤ 253 := by
  unfold joinDomain at joined
  split at joined
  · cases joined
  · rename_i slugValid
    split at joined
    · cases joined
    · rename_i base normal
      simp only at joined
      split at joined
      · cases joined
      · rename_i short
        obtain rfl := Except.ok.inj joined
        exact ⟨slugValid, base, normal, rfl, Nat.le_of_not_lt short⟩

/-- `CreateTunnel` makes no difference between domains that have a normal form. -/
theorem validateTunnel_of_normalizeDomain {first second : String} (tunnel : Tunnel)
    (firstNormal : (normalizeDomain first).isOk = true)
    (secondNormal : (normalizeDomain second).isOk = true) :
    validateTunnel { tunnel with domain := first } =
      validateTunnel { tunnel with domain := second } := by
  have accepted (domain : String) (normal : (normalizeDomain domain).isOk = true) :
      domain ≠ "" ∧ ∃ form, normalizeDomain domain = .ok form := by
    cases result : normalizeDomain domain with
    | error message =>
        rw [result] at normal
        cases normal
    | ok form => exact ⟨(ne_empty_of_normalizeDomain result).1, form, rfl⟩
  obtain ⟨firstFilled, firstForm, firstResult⟩ := accepted first firstNormal
  obtain ⟨secondFilled, secondForm, secondResult⟩ := accepted second secondNormal
  unfold validateTunnel
  simp only [firstFilled, secondFilled, firstResult, secondResult, if_false]

/-- **A joined domain is valid unless it is an address.** -/
theorem joinDomain_valid_iff {slug baseDomain domain : String}
    (joined : joinDomain slug baseDomain = .ok domain) :
    ∃ base, normalizeDomain baseDomain = .ok base ∧
      ((validateDomain domain = .ok () ∧ normalizeDomain domain = .ok domain ∧
          '.' :: base.toList <:+ domain.toList ∧
          ∀ tunnel : Tunnel, validateTunnel { tunnel with domain := domain } =
            validateTunnel { tunnel with domain := base }) ↔
        isAddress slug base = false) := by
  obtain ⟨slugValid, base, normal, rfl, short⟩ := joinDomain_cases joined
  have verdict := validateDomain_joined slugValid (validateDomain_of_normalizeDomain normal) short
  refine ⟨base, normal, fun ⟨valid, _⟩ => ?_, fun apart => ?_⟩
  · by_contra address
    rw [if_pos (Bool.not_eq_false _ ▸ address), valid] at verdict
    cases verdict
  · have valid : validateDomain (slug ++ "." ++ base) = .ok () := by
      rw [verdict, apart]
      rfl
    have same := normalizeDomain_of_validateDomain valid
    refine ⟨valid, same, ?_, fun tunnel => validateTunnel_of_normalizeDomain tunnel ?_ ?_⟩
    · rw [toList_joined]
      exact List.suffix_append _ _
    · rw [same]
      rfl
    · rw [normalizeDomain_idem normal]
      rfl

omit [CaseTable] in
theorem joinDomain_valid_named :
    let _ := CaseTable.ascii
    joinDomain "web" "Example.com." = .ok "web.example.com" ∧
      ∃ base, normalizeDomain "Example.com." = .ok base ∧
        ((validateDomain "web.example.com" = .ok () ∧
            normalizeDomain "web.example.com" = .ok "web.example.com" ∧
            '.' :: base.toList <:+ "web.example.com".toList ∧
            ∀ tunnel : Tunnel, validateTunnel { tunnel with domain := "web.example.com" } =
              validateTunnel { tunnel with domain := base }) ↔
          isAddress "web" base = false) := by
  intro _
  have joined : joinDomain "web" "Example.com." = .ok "web.example.com" := by decide +kernel
  exact ⟨joined, joinDomain_valid_iff joined⟩

omit [CaseTable] in
/-- The slug `1` in front of the domain `2.3.4`. -/
theorem joinDomain_address :
    let _ := CaseTable.ascii
    ¬ ∀ slug baseDomain domain : String, joinDomain slug baseDomain = .ok domain →
      validateDomain domain = .ok () := by
  intro _ valid
  have joined : joinDomain "1" "2.3.4" = .ok "1.2.3.4" := by decide +kernel
  have refused : validateDomain "1.2.3.4" = .error "domain must be a fully qualified DNS name" := by
    decide +kernel
  have accepted := valid "1" "2.3.4" "1.2.3.4" joined
  rw [refused] at accepted
  cases accepted

end NryNet
