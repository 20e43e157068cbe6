import NryNet.Lib.Candidates
import NryNet.Storage.Joined
import NryNet.Api.TunnelHandlers

/-!
# Automatic domains (`server/api/auto_domains.go`)

The candidates for the domain of a tunnel are its slug, and the slug with the numbers 2, 3, … behind it.
A slug that would become too long is cut in front of the number, so two candidates might be the same; they
are not, for a slug of a name has at most 48 bytes and no two hyphens side by side.
-/

namespace NryNet.TunnelApi

open GoText Tunnels

/-! ## The number of a candidate -/

theorem toList_number (n : ℕ) : (toString n).toList = Nat.toDigits 10 n := by
  rw [Nat.toString_eq_repr, Nat.toList_repr]

theorem isDigit_of_mem_number {n : ℕ} {c : Char} (member : c ∈ (toString n).toList) :
    c.isDigit = true := by
  rw [toList_number] at member
  exact Nat.isDigit_of_mem_toDigits (by decide) (by decide) member

theorem number_inj {m n : ℕ} (same : (toString m).toList = (toString n).toList) : m = n := by
  rw [toList_number, toList_number] at same
  have values := congrArg (fun digits => Nat.ofDigitChars 10 digits 0) same
  simp only [Nat.ofDigitChars_ten_toDigits] at values
  exact values

theorem isSlugChar_of_isDigit {c : Char} (digit : c.isDigit = true) :
    isSlugChar c = true ∧ c ≠ '-' := by
  have range : ('0' ≤ c ∧ c ≤ '9') := by
    simp only [Char.isDigit, Bool.and_eq_true, decide_eq_true_eq] at digit
    exact digit
  refine ⟨?_, ?_⟩
  · rw [isSlugChar, decide_eq_true range.1, decide_eq_true range.2]
    simp
  · rintro rfl
    cases digit

theorem hyphen_not_mem_number (n : ℕ) : '-' ∉ (toString n).toList := fun member =>
  (isSlugChar_of_isDigit (isDigit_of_mem_number member)).2 rfl

/-- What stands behind the last hyphen. -/
theorem number_of_concat {front front' : List Char} {m n : ℕ}
    (same : front ++ '-' :: (toString m).toList = front' ++ '-' :: (toString n).toList) : m = n := by
  have last (front : List Char) (n : ℕ) :
      ((front ++ '-' :: (toString n).toList).splitOn '-').getLast? = some (toString n).toList := by
    rw [List.splitOn_append_cons_self, List.splitOn_eq_singleton (hyphen_not_mem_number n),
      List.getLast?_concat]
  refine number_inj (Option.some.inj ?_)
  rw [← last front, ← last front', same]

/-! ## The slug of a candidate -/

/-- The label that `candidateDomain` joins with the base domain. -/
def candidateSlug (slug : String) (attempt : ℕ) : String :=
  if attempt = 0 then slug
  else trimSlugForSuffix slug attempt ++ "-" ++ toString (attempt + 1)

/-- At most one hyphen is cut off. -/
theorem length_le_rdropWhile {chars : List Char} (built : Built chars) :
    chars.length ≤ (chars.rdropWhile (· = '-')).length + 1 := by
  rcases List.eq_nil_or_concat chars with rfl | ⟨front, c, rfl⟩
  · exact Nat.zero_le _
  · rw [List.concat_eq_append] at built ⊢
    rw [List.length_append, List.length_singleton]
    by_cases hyphen : c = '-'
    · -- in front of the hyphen there is none
      have kept : front.rdropWhile (· = '-') = front := by
        rw [List.rdropWhile_eq_self_iff]
        intro nonempty again
        refine built.apart ⟨front.dropLast, [], ?_⟩
        rw [List.append_nil, hyphen]
        have last : front.getLast nonempty = '-' := of_decide_eq_true again
        conv_rhs => rw [← List.dropLast_append_getLast nonempty, last]
        rw [List.append_assoc]
        rfl
      have cut := List.rdropWhile_concat_pos (fun c => decide (c = '-')) front c (decide_eq_true hyphen)
      rw [cut, kept]
    · rw [List.rdropWhile_concat_neg _ _ _ (by simpa using hyphen), List.length_append,
        List.length_singleton]
      exact Nat.le_succ _

section Slug

variable {slug : String}

/-- What is left of a slug in front of a number: all of it, or about as much as a label has room for. -/
theorem trimSlugForSuffix_cases (is : IsSlug slug.toList) (attempt : ℕ) :
    let digits := (toString (attempt + 1)).length
    let short := trimSlugForSuffix slug attempt
    short.toList <+: slug.toList ∧ short.length ≤ 62 - digits ∧
      (short = slug ∨ 62 ≤ short.length + 1 + digits) := by
  have suffix : ("-" ++ toString (attempt + 1)).length = (toString (attempt + 1)).length + 1 := by
    rw [String.length_append, Nat.add_comm]
    rfl
  have room : 63 - ((toString (attempt + 1)).length + 1) = 62 - (toString (attempt + 1)).length := by
    omega
  simp only [trimSlugForSuffix, suffix, room]
  split
  · rename_i fits
    exact ⟨List.prefix_rfl, fits, Or.inl rfl⟩
  · rename_i long
    set limit := 62 - (toString (attempt + 1)).length with limited
    have part : slug.toList.take limit <+: slug.toList := List.take_prefix _ _
    have left := length_le_rdropWhile (is.toBuilt.of_prefix part)
    have cut : (slug.toList.take limit).length = limit :=
      List.length_take_of_le (Nat.le_of_not_le long)
    have less := (List.rdropWhile_prefix (fun c => decide (c = '-')) (slug.toList.take limit)).length_le
    rw [cut] at left less
    rw [String.toList_ofList, String.length_ofList]
    exact ⟨(List.rdropWhile_prefix _ _).trans part, less, Or.inr (by omega)⟩

theorem toList_candidateSlug {attempt : ℕ} (later : attempt ≠ 0) :
    (candidateSlug slug attempt).toList =
      (trimSlugForSuffix slug attempt).toList ++ '-' :: (toString (attempt + 1)).toList := by
  rw [candidateSlug, if_neg later, String.toList_append, String.toList_append, List.append_assoc]
  rfl

theorem length_candidateSlug {attempt : ℕ} (later : attempt ≠ 0) :
    (candidateSlug slug attempt).toList.length =
      (trimSlugForSuffix slug attempt).length + 1 + (toString (attempt + 1)).length := by
  rw [toList_candidateSlug later, List.length_append, List.length_cons, String.length_toList,
    String.length_toList]
  omega

/-- A numbered candidate is longer than the slug: either the whole slug stands in it, or it is longer than
48 bytes. -/
theorem candidateSlug_ne (is : IsSlug slug.toList) {attempt : ℕ} (later : attempt ≠ 0) :
    candidateSlug slug attempt ≠ slug := by
  intro same
  have length : (candidateSlug slug attempt).toList.length = _ := length_candidateSlug later
  obtain ⟨-, -, whole | long⟩ := trimSlugForSuffix_cases is attempt
  · rw [same, whole, String.length_toList] at length
    omega
  · have short := is.short
    rw [same] at length
    omega

/-- **No two candidates have the same label.** -/
theorem candidateSlug_inj (is : IsSlug slug.toList) {m n : ℕ}
    (same : candidateSlug slug m = candidateSlug slug n) : m = n := by
  by_cases first : m = 0
  · by_cases second : n = 0
    · rw [first, second]
    · refine absurd same.symm ?_
      rw [first]
      exact candidateSlug_ne is second
  · by_cases second : n = 0
    · refine absurd same ?_
      rw [second]
      exact candidateSlug_ne is first
    · have chars := congrArg String.toList same
      rw [toList_candidateSlug first, toList_candidateSlug second] at chars
      exact Nat.succ.inj (number_of_concat chars)

/-- A candidate is a label, as long as its number has no more digits than a label has room for. -/
theorem validateSlug_candidateSlug (is : IsSlug slug.toList) {attempt : ℕ} (small : attempt < 2 ^ 63) :
    validateSlug (candidateSlug slug attempt) = .ok () := by
  by_cases later : attempt = 0
  · rw [candidateSlug, if_pos later]
    exact is.valid.2
  · have chars : (candidateSlug slug attempt).toList = _ := toList_candidateSlug later
    have length : (candidateSlug slug attempt).toList.length = _ := length_candidateSlug later
    have digits : (toString (attempt + 1)).length ≤ 20 := by
      rw [Nat.toString_eq_repr, Nat.length_repr_le_iff (by decide)]
      exact lt_of_lt_of_le (Nat.succ_lt_succ small) (by decide)
    obtain ⟨part, short, -⟩ := trimSlugForSuffix_cases is attempt
    have plain : ∀ c ∈ (candidateSlug slug attempt).toList, isSlugChar c = true := by
      rw [chars]
      intro c member
      rcases List.mem_append.mp member with front | back
      · exact is.plain c (part.subset front)
      · rcases List.mem_cons.mp back with rfl | digit
        · rfl
        · exact (isSlugChar_of_isDigit (isDigit_of_mem_number digit)).1
    have size := size_of_plain fun c member => Or.inl (plain c member)
    refine validateSlug_of_plain plain ?_ ?_ ?_ ?_
    · intro empty
      rw [empty] at chars
      cases (List.append_eq_nil_iff.mp chars.symm).2
    · omega
    · -- something is left of the slug
      have nonempty : (trimSlugForSuffix slug attempt).toList ≠ [] := by
        obtain ⟨-, -, whole | long⟩ := trimSlugForSuffix_cases is attempt
        · rw [whole]
          exact is.nonempty
        · refine List.ne_nil_of_length_pos ?_
          rw [String.length_toList]
          omega
      rw [chars, List.head?_append_of_ne_nil _ nonempty]
      exact (is.toBuilt.of_prefix part).front
    · have nonempty : (toString (attempt + 1)).toList ≠ [] := by
        rw [toList_number]
        exact Nat.toDigits_ne_nil
      rw [chars, List.append_cons, List.getLast?_append_of_ne_nil _ nonempty]
      intro last
      exact hyphen_not_mem_number _ (List.mem_of_getLast? last)

end Slug

/-! ## The domain of a candidate -/

/-- An octet is written in digits. -/
theorem isDigit_of_octet {digits : List Char} {byte : ℕ} (octet : octet digits = some byte) :
    ∀ c ∈ digits, c.isDigit = true := by
  unfold GoText.octet at octet
  split at octet
  · cases octet
  · rename_i written
    simp only [Bool.or_eq_true, not_or, Bool.not_eq_true, Bool.not_eq_false'] at written
    exact List.all_eq_true.mp written.2

/-- A candidate with a number is no address. -/
theorem isAddress_candidateSlug {slug base : String} {attempt : ℕ}
    (address : isAddress (candidateSlug slug attempt) base = true) :
    isAddress slug base = true ∧ attempt = 0 := by
  by_cases first : attempt = 0
  · rw [candidateSlug, if_pos first] at address
    exact ⟨address, first⟩
  · simp only [isAddress, Bool.and_eq_true] at address
    obtain ⟨byte, number⟩ := Option.isSome_iff_exists.mp address.1.1
    have hyphen : '-' ∈ (candidateSlug slug attempt).toList := by
      rw [toList_candidateSlug first]
      exact List.mem_append_right _ List.mem_cons_self
    cases isDigit_of_octet number _ hyphen

/-- The domains in use for a protocol. -/
def domainsOf (protocol : String) (tunnels : List Tunnel) : List String :=
  (tunnels.filter fun tunnel => tunnel.protocol = protocol).map Tunnel.domain

theorem mem_domainsOf {protocol domain : String} {tunnels : List Tunnel} :
    domain ∈ domainsOf protocol tunnels ↔
      ∃ tunnel ∈ tunnels, tunnel.protocol = protocol ∧ tunnel.domain = domain := by
  unfold domainsOf
  rw [List.mem_map]
  simp only [List.mem_filter, decide_eq_true_eq, and_assoc]

theorem domainsOf_subset {protocol : String} {tunnels more : List Tunnel} (subset : tunnels ⊆ more) :
    domainsOf protocol tunnels ⊆ domainsOf protocol more := by
  intro domain held
  obtain ⟨tunnel, member, same⟩ := mem_domainsOf.mp held
  exact mem_domainsOf.mpr ⟨tunnel, subset member, same⟩

theorem length_domainsOf (protocol : String) (tunnels : List Tunnel) :
    (domainsOf protocol tunnels).length ≤ tunnels.length := by
  rw [domainsOf, List.length_map]
  exact List.length_filter_le _ _

/-- The index looks at the domains in use. -/
theorem mem_domains_iff {db : Database} {protocol domain : String} (filled : domain ≠ "") :
    (protocol, domain) ∈ db.domains ↔ domain ∈ domainsOf protocol db.tunnels := by
  rw [mem_domainsOf, Database.domains, List.mem_map]
  constructor
  · rintro ⟨tunnel, listed, same⟩
    obtain ⟨protocols, domains⟩ := Prod.mk.inj same
    exact ⟨tunnel, (List.mem_filter.mp listed).1, protocols, domains⟩
  · rintro ⟨tunnel, member, rfl, rfl⟩
    exact ⟨tunnel, List.mem_filter.mpr ⟨member, decide_eq_true filled⟩, rfl⟩

variable [CaseTable] {tunnel : Tunnel} {slug base domain : String} {attempt : ℕ}

/-- The candidates. -/
def candidate (slug base : String) (attempt : ℕ) : Option String :=
  (candidateDomain slug base attempt).toOption

theorem candidate_eq_some :
    candidate slug base attempt = some domain ↔ candidateDomain slug base attempt = .ok domain := by
  unfold candidate
  cases candidateDomain slug base attempt with
  | error err => exact iff_of_false nofun nofun
  | ok found =>
      exact ⟨fun same => congrArg Except.ok (Option.some.inj same),
        fun same => congrArg some (Except.ok.inj same)⟩

theorem candidateDomain_cases (found : candidateDomain slug base attempt = .ok domain) :
    validateSlug (candidateSlug slug attempt) = .ok () ∧ ∃ form, normalizeDomain base = .ok form ∧
      domain = candidateSlug slug attempt ++ "." ++ form ∧ domain.utf8ByteSize ≤ 253 :=
  joinDomain_cases found

theorem isSlug_of_slugFromName {name : String} (named : slugFromName name = .ok slug) :
    IsSlug slug.toList := by
  have is := isSlug_slugText name
  rw [slugFromName_of_valid is.valid.2] at named
  exact Except.ok.inj named ▸ is

/-- **No two attempts try the same domain.** -/
theorem distinct_candidate (is : IsSlug slug.toList) (base : String) :
    Candidates.Distinct (candidate slug base) := by
  intro m n domain first second
  obtain ⟨-, form, normal, rfl, -⟩ := candidateDomain_cases (candidate_eq_some.mp first)
  obtain ⟨-, other, again, same, -⟩ := candidateDomain_cases (candidate_eq_some.mp second)
  rw [normal] at again
  obtain rfl := Except.ok.inj again
  refine candidateSlug_inj is (String.toList_injective ?_)
  have chars := congrArg String.toList same
  rw [toList_joined, toList_joined] at chars
  exact List.append_cancel_right chars

/-- A candidate that is refused is too long. -/
theorem candidateDomain_error {err : String} (is : IsSlug slug.toList)
    (baseValid : validateDomain base = .ok ()) (small : attempt < 2 ^ 63)
    (refused : candidateDomain slug base attempt = .error err) :
    err = "generated domain is too long" ∧
      253 < (candidateSlug slug attempt ++ "." ++ base).utf8ByteSize := by
  have slugValid := validateSlug_candidateSlug is small
  have normal := normalizeDomain_of_validateDomain baseValid
  change joinDomain (candidateSlug slug attempt) base = .error err at refused
  unfold joinDomain at refused
  rw [slugValid, normal] at refused
  simp only at refused
  split at refused
  · rename_i long
    exact ⟨(Except.error.inj refused).symm, long⟩
  · cases refused

/-- A candidate is a domain, unless it is an address. -/
theorem validateDomain_candidate (baseValid : validateDomain base = .ok ())
    (apart : isAddress slug base = false) (found : candidateDomain slug base attempt = .ok domain) :
    validateDomain domain = .ok () := by
  obtain ⟨slugValid, form, normal, rfl, short⟩ := candidateDomain_cases found
  rw [normalizeDomain_of_validateDomain baseValid] at normal
  obtain rfl := Except.ok.inj normal
  have free : isAddress (candidateSlug slug attempt) base = false := by
    by_contra address
    have first := (isAddress_candidateSlug (Bool.not_eq_false _ ▸ address)).1
    rw [apart] at first
    cases first
  rw [validateDomain_joined slugValid baseValid short, free]
  rfl

/-- A domain that was accepted is stored as it is. -/
theorem storedDomain_of_validateDomain (valid : validateDomain domain = .ok ()) :
    storedDomain domain = domain := by
  have labels := labels_of_validateDomain valid
  obtain ⟨trimmed, lowered⟩ := fixed_of_plain (plain_of_labels fun label listed => (labels label listed).2)
  have ended : trimSuffix domain '.' = domain :=
    trimSuffix_of_ne fun last => (labels [] (nil_mem_splitOn last)).1 rfl
  rw [storedDomain, trimmed, ended, lowered]

/-! ## One attempt -/

/-- What SQLite says about a domain in use. -/
def domainConflict : String := "UNIQUE constraint failed: tunnels.protocol, tunnels.domain"

theorem isDomainConflict_domainConflict : isDomainConflict domainConflict = true := by
  have ascii : ∀ c ∈ domainConflict.toList, c.toNat < 128 := ascii_of_all (by decide +kernel)
  have lower : toLower domainConflict = "unique constraint failed: tunnels.protocol, tunnels.domain" := by
    rw [toLower_of_ascii ascii]
    decide +kernel
  unfold isDomainConflict
  simp only [lower]
  decide +kernel

/-- A request that lacks nothing but a domain. -/
structure Lacking (clients : List Client) (tunnel : Tunnel) (base : String) : Prop where
  auto : needsAutoDomain tunnel
  /-- with the base domain in its place, the request passes the checks -/
  valid : validateTunnel { tunnel with domain := base } = .ok ()
  client : ∃ client ∈ clients, client.id = tunnel.clientID

/-- The row that an attempt inserts. -/
def attempted (tunnel : Tunnel) (domain id uuid : String) (now : Time) : Tunnel :=
  ({ tunnel with domain := domain } : Tunnel).created id uuid now

section Attempt

variable {m : Manager} {trafficLogs : List TrafficRow} {id : String}

theorem attempted_domain (valid : validateDomain domain = .ok ()) (id uuid : String) (now : Time) :
    (attempted tunnel domain id uuid now).domain = domain :=
  storedDomain_of_validateDomain valid

/-- The statement fails because the domain is in use, or the row is inserted. -/
theorem write_attempt (lacking : Lacking m.store.clients tunnel base)
    (baseValid : validateDomain base = .ok ()) (valid : validateDomain domain = .ok ())
    (intact : (tables m.store trafficLogs).Valid) (fresh : id ∉ m.store.tunnels.map Tunnel.id)
    (uuid : String) (now : Time) :
    (domain ∈ domainsOf (toLower tunnel.protocol) m.store.tunnels ∧
      write (Database.createTunnel { tunnel with domain := domain } id uuid now) trafficLogs none m =
        some (m, [], .error domainConflict)) ∨
    (domain ∉ domainsOf (toLower tunnel.protocol) m.store.tunnels ∧ ∃ store,
      write (Database.createTunnel { tunnel with domain := domain } id uuid now) trafficLogs none m =
        some ({ m with store := store }, [], .ok (attempted tunnel domain id uuid now)) ∧
      store.tunnels = m.store.tunnels ++ [attempted tunnel domain id uuid now] ∧
      store.clients = m.store.clients ∧ (tables store trafficLogs).Valid) := by
  have checks : validateTunnel { tunnel with domain := domain } = .ok () := by
    rw [← lacking.valid]
    refine validateTunnel_of_normalizeDomain tunnel ?_ ?_
    · rw [normalizeDomain_of_validateDomain valid]
      rfl
    · rw [normalizeDomain_of_validateDomain baseValid]
      rfl
  have filled : domain ≠ "" := (ne_empty_of_normalizeDomain (normalizeDomain_of_validateDomain valid)).2
  have same := @attempted_domain _ tunnel _ valid id uuid now
  have verdict : ({ tables m.store trafficLogs with
      tunnels := m.store.tunnels ++ [attempted tunnel domain id uuid now] } : Database).violation = _ :=
    Database.violation_append intact fresh lacking.client
  rw [same] at verdict
  by_cases held : domain ∈ domainsOf (toLower tunnel.protocol) m.store.tunnels
  · refine Or.inl ⟨held, ?_⟩
    rw [if_pos ⟨filled, (mem_domains_iff filled).mpr held⟩] at verdict
    unfold write
    rw [Database.createTunnel_of_violation checks verdict]
    rfl
  · refine Or.inr ⟨held, ?_⟩
    rw [if_neg fun both => held ((mem_domains_iff filled).mp both.2)] at verdict
    have valid := Database.violation_eq_none.mp verdict
    refine ⟨Database.toStore _ valid, ?_, rfl, rfl, valid⟩
    unfold write
    rw [Database.createTunnel_of_valid checks verdict]
    exact dif_pos verdict

/-- The look at the database that follows a conflict. -/
theorem domainInUse_of_mem (auto : needsAutoDomain tunnel) (valid : validateDomain domain = .ok ())
    (held : domain ∈ domainsOf (toLower tunnel.protocol) m.store.tunnels) :
    domainInUse (toLower tunnel.protocol) domain m = some (m, [], true) := by
  obtain ⟨row, member, protocol, rfl⟩ := mem_domainsOf.mp held
  have again : toLower (toLower tunnel.protocol) = toLower tunnel.protocol := by
    have known : ∀ text ∈ ["http", "https"], toLower text = text := by
      refine List.forall_mem_cons.mpr ⟨?_, List.forall_mem_singleton.mpr ?_⟩ <;>
        exact toLower_of_ascii (ascii_of_all (by decide +kernel))
    exact known _ auto.1
  unfold domainInUse
  rw [normalizeDomain_of_validateDomain valid]
  simp only [again, Option.some.injEq, Prod.mk.injEq, true_and]
  refine List.any_eq_true.mpr ⟨row, member, ?_⟩
  rw [protocol]
  simp

end Attempt

/-! ## One creator -/

/-- What `createTunnel` comes to with the candidate of this number: the tunnel is stored under it, or it
is refused. -/
def EndsAt (tunnel : Tunnel) (slug base : String) (m : Manager)
    (result : Option (Manager × List Snapshot × Except String Tunnel)) (n : ℕ) : Prop :=
  match candidateDomain slug base n with
  | .ok domain =>
      domain ∉ domainsOf (toLower tunnel.protocol) m.store.tunnels ∧ ∃ store created,
        result = some ({ m with store := store }, [], .ok created) ∧
        store.tunnels = m.store.tunnels ++ [created] ∧
        created.domain = domain ∧ created.protocol = toLower tunnel.protocol
  | .error err =>
      result = some (m, [], .error err) ∧ (n < 2 ^ 63 → err = "generated domain is too long")

/-- It ends with the first candidate that is not in use, within one attempt more than there are
tunnels. -/
def Allocates (tunnel : Tunnel) (slug base : String) (m : Manager)
    (result : Option (Manager × List Snapshot × Except String Tunnel)) : Prop :=
  ∃ n ≤ m.store.tunnels.length,
    Candidates.Used (candidate slug base) (domainsOf (toLower tunnel.protocol) m.store.tunnels) n ∧
      EndsAt tunnel slug base m result n

section Loop

variable {m : Manager} {w : World}

/-- Nothing but a conflict fails. -/
structure Calm (m : Manager) (w : World) : Prop where
  failure : ∀ n, w.failure n = none
  fresh : ∀ n, w.newID n ∉ m.store.tunnels.map Tunnel.id
  intact : (tables m.store w.trafficLogs).Valid

theorem tryDomains_used (calm : Calm m w) (lacking : Lacking m.store.clients tunnel base)
    (baseValid : validateDomain base = .ok ()) (apart : isAddress slug base = false) (left : ℕ)
    (found : candidateDomain slug base attempt = .ok domain)
    (held : domain ∈ domainsOf (toLower tunnel.protocol) m.store.tunnels) :
    tryDomains tunnel slug base w (left + 1) attempt m =
      tryDomains tunnel slug base w left (attempt + 1) m := by
  have valid := validateDomain_candidate baseValid apart found
  have looked := domainInUse_of_mem lacking.auto valid held
  rcases write_attempt lacking baseValid valid calm.intact (calm.fresh attempt) w.uuid w.now with
    ⟨-, wrote⟩ | ⟨free, -⟩
  · rw [tryDomains, found, calm.failure]
    refine (Logged.bind_of_silent wrote).trans ?_
    simp only [isDomainConflict_domainConflict, if_true]
    exact Logged.bind_of_silent looked
  · exact absurd held free

/-- The candidates in front of this one are all in use. -/
theorem tryDomains_skip (calm : Calm m w) (lacking : Lacking m.store.clients tunnel base)
    (baseValid : validateDomain base = .ok ()) (apart : isAddress slug base = false) (left : ℕ) {n : ℕ}
    (used : Candidates.Used (candidate slug base)
      (domainsOf (toLower tunnel.protocol) m.store.tunnels) n) :
    tryDomains tunnel slug base w (left + n) 0 m = tryDomains tunnel slug base w left n m := by
  induction n generalizing left with
  | zero => rfl
  | succ n ih =>
      obtain ⟨domain, held, found⟩ := used n (Nat.lt_succ_self n)
      have before : Candidates.Used _ _ n := fun m below => used m (below.trans (Nat.lt_succ_self n))
      rw [← tryDomains_used calm lacking baseValid apart left (candidate_eq_some.mp found) held,
        ← ih (left + 1) before, Nat.add_right_comm, Nat.add_assoc]

theorem tryDomains_endsAt (calm : Calm m w) (lacking : Lacking m.store.clients tunnel base)
    (is : IsSlug slug.toList) (baseValid : validateDomain base = .ok ())
    (apart : isAddress slug base = false) (left : ℕ) {n : ℕ}
    (free : ∀ domain, candidate slug base n = some domain →
      domain ∉ domainsOf (toLower tunnel.protocol) m.store.tunnels) :
    EndsAt tunnel slug base m (tryDomains tunnel slug base w (left + 1) n m) n := by
  unfold EndsAt
  rw [tryDomains]
  cases found : candidateDomain slug base n with
  | error err => exact ⟨rfl, fun small => (candidateDomain_error is baseValid small found).1⟩
  | ok domain =>
      have valid := validateDomain_candidate baseValid apart found
      have unused := free domain (candidate_eq_some.mpr found)
      rcases write_attempt lacking baseValid valid calm.intact (calm.fresh n) w.uuid w.now with
        ⟨held, -⟩ | ⟨-, store, wrote, rows, -⟩
      · exact absurd held unused
      · refine ⟨unused, store, _, ?_, rows, attempted_domain valid _ _ _, rfl⟩
        rw [calm.failure]
        exact Logged.bind_of_silent wrote

/-- **The loop ends with the first candidate that is not in use.** -/
theorem tryDomains_allocates (calm : Calm m w) (lacking : Lacking m.store.clients tunnel base)
    (is : IsSlug slug.toList) (baseValid : validateDomain base = .ok ())
    (apart : isAddress slug base = false) {left : ℕ} (enough : m.store.tunnels.length < left) :
    Allocates tunnel slug base m (tryDomains tunnel slug base w left 0 m) := by
  obtain ⟨n, bound, used, free⟩ := Candidates.exists_first (distinct_candidate is base)
    (domainsOf (toLower tunnel.protocol) m.store.tunnels)
  have within := bound.trans (length_domainsOf _ _)
  refine ⟨n, within, used, ?_⟩
  obtain ⟨rest, rfl⟩ := Nat.exists_eq_add_of_lt (within.trans_lt enough)
  rw [show n + rest + 1 = (rest + 1) + n by omega, tryDomains_skip calm lacking baseValid apart _ used]
  exact tryDomains_endsAt calm lacking is baseValid apart rest free

theorem createTunnel_eq_tryDomains {baseDomain : String} (auto : needsAutoDomain tunnel)
    (settings : w.auto = .ok { enabled := true, baseDomain := baseDomain })
    (normal : normalizeDomain baseDomain = .ok base) :
    createTunnel tunnel w m = tryDomains tunnel (slugText tunnel.name) base w w.attempts 0 m := by
  have named := slugFromName_of_valid (isSlug_slugText tunnel.name).valid.2
  unfold createTunnel
  simp only [not_true_eq_false, if_false, auto, settings, Bool.true_eq_false, normal, named]

/-! ## Addresses -/

omit [CaseTable] in
/-- The value grows by a factor of ten with every digit. -/
theorem le_foldl_digits (digits : List Char) (value : ℕ) :
    value * 10 ^ digits.length ≤
      digits.foldl (fun value digit => value * 10 + (digit.toNat - '0'.toNat)) value := by
  induction digits generalizing value with
  | nil => exact (Nat.mul_one value).le
  | cons digit rest ih =>
      refine le_trans ?_ (ih (value * 10 + (digit.toNat - '0'.toNat)))
      rw [List.length_cons, Nat.pow_succ', ← Nat.mul_assoc]
      exact Nat.mul_le_mul_right _ (Nat.le_add_right _ _)

omit [CaseTable] in
theorem digit_pos {c : Char} (digit : c.isDigit = true) (other : c ≠ '0') : 1 ≤ c.toNat - '0'.toNat := by
  have least : '0' ≤ c := by
    simp only [Char.isDigit, Bool.and_eq_true, decide_eq_true_eq] at digit
    exact digit.1
  have bound : '0'.toNat ≤ c.toNat := UInt32.le_iff_toNat_le.mp (Char.le_def.mp least)
  have apart : c.toNat ≠ '0'.toNat := fun same => other (Char.toNat_inj.mp same)
  omega

omit [CaseTable] in
/-- A number without a zero in front that has four digits is not below 1000. -/
theorem length_of_octet {digits : List Char} {byte : ℕ} (octet : octet digits = some byte) :
    digits.length ≤ 3 := by
  have all := isDigit_of_octet octet
  cases digits with
  | nil => exact Nat.zero_le _
  | cons first rest =>
      unfold GoText.octet at octet
      split at octet
      · cases octet
      split at octet
      · cases octet
      rename_i leading
      simp only at octet
      split at octet
      · cases octet
      rename_i small
      by_contra long
      rw [List.length_cons] at long
      have positive : 1 ≤ first.toNat - '0'.toNat := by
        refine digit_pos (all first List.mem_cons_self) ?_
        rintro rfl
        refine leading (Bool.and_eq_true_iff.mpr ⟨rfl, decide_eq_true fun single => long ?_⟩)
        rw [(List.cons.inj single).2]
        decide
      have grown := le_foldl_digits rest (0 * 10 + (first.toNat - '0'.toNat))
      have power : 10 ^ 3 ≤ 10 ^ rest.length := Nat.pow_le_pow_right (by decide) (by omega)
      have least : 1 * 10 ^ 3 ≤ (0 * 10 + (first.toNat - '0'.toNat)) * 10 ^ rest.length :=
        Nat.mul_le_mul (by omega) power
      rw [List.foldl_cons] at small
      omega

omit [CaseTable] in
/-- The pieces of a text, with the separators between them. -/
theorem sum_length_splitOn (separator : Char) (chars : List Char) :
    ((chars.splitOn separator).map fun piece => piece.length + 1).sum = chars.length + 1 := by
  induction chars with
  | nil => rfl
  | cons c rest ih =>
      obtain ⟨piece, others, pieces⟩ := List.exists_cons_of_ne_nil (List.splitOn_ne_nil separator rest)
      rw [pieces, List.map_cons, List.sum_cons] at ih
      rw [List.splitOn_cons_eq_if_modifyHead, pieces]
      split
      · rw [List.map_cons, List.map_cons, List.sum_cons, List.sum_cons, ih, List.length_cons,
          List.length_nil]
        omega
      · rw [List.modifyHead_cons, List.map_cons, List.sum_cons, List.length_cons, List.length_cons]
        omega

omit [CaseTable] in
/-- An address is short. -/
theorem length_of_isAddress (address : isAddress slug base = true) :
    slug.toList.length ≤ 3 ∧ base.toList.length ≤ 11 := by
  simp only [isAddress, Bool.and_eq_true, decide_eq_true_eq] at address
  obtain ⟨⟨number, three⟩, each⟩ := address
  obtain ⟨byte, first⟩ := Option.isSome_iff_exists.mp number
  have summed := sum_length_splitOn '.' base.toList
  have most : ((base.toList.splitOn '.').map fun piece => piece.length + 1).sum ≤ 3 * 4 := by
    refine (List.sum_le_card_nsmul _ 4 fun length listed => ?_).trans ?_
    · obtain ⟨label, member, rfl⟩ := List.mem_map.mp listed
      obtain ⟨byte, number⟩ := Option.isSome_iff_exists.mp (List.all_eq_true.mp each label member)
      exact Nat.succ_le_succ (length_of_octet number)
    · rw [List.length_map, three]
      rfl
  exact ⟨length_of_octet first, by omega⟩

/-- The first candidate of such a name: nothing but `CreateTunnel` refuses it. -/
theorem candidateDomain_address (is : IsSlug slug.toList) (baseValid : validateDomain base = .ok ())
    (address : isAddress slug base = true) :
    candidateDomain slug base 0 = .ok (slug ++ "." ++ base) ∧
      normalizeDomain (slug ++ "." ++ base) = .error "domain must be a fully qualified DNS name" := by
  obtain ⟨slugShort, baseShort⟩ := length_of_isAddress address
  have slugValid := is.valid.2
  have plain := plain_joined slugValid baseValid
  have size := size_of_plain plain
  have short : (slug ++ "." ++ base).utf8ByteSize ≤ 253 := by
    rw [size, toList_joined, List.length_append, List.length_cons]
    omega
  constructor
  · change joinDomain slug base = _
    unfold joinDomain
    rw [slugValid, normalizeDomain_of_validateDomain baseValid]
    exact if_neg (Nat.not_lt.mpr short)
  · have refused := validateDomain_joined slugValid baseValid short
    rw [if_pos address] at refused
    obtain ⟨trimmed, lowered⟩ := fixed_of_plain plain
    have ended : trimSuffix (slug ++ "." ++ base) '.' = slug ++ "." ++ base := by
      refine trimSuffix_of_ne fun last => ?_
      have labels := labels_joined slugValid baseValid [] (nil_mem_splitOn last)
      cases labels
    delta normalizeDomain
    simp only [trimmed, lowered, ended, refused]

/-- The checks refuse a request for its domain only. -/
theorem validateTunnel_of_refused {other message : String}
    (valid : validateTunnel { tunnel with domain := base } = .ok ())
    (web : toLower tunnel.protocol ∈ ["http", "https"]) (filled : other ≠ "")
    (refused : normalizeDomain other = .error message) :
    validateTunnel { tunnel with domain := other } = .error message := by
  unfold validateTunnel at valid ⊢
  split at valid
  · cases valid
  split at valid
  · cases valid
  simp only at valid ⊢
  split at valid
  · cases valid
  split at valid
  · cases valid
  split at valid
  · cases valid
  rename_i named port known remote visitor
  simp only [named, port, known, remote, visitor, web, filled, refused, if_true, if_false]

/-- Nor is there a conflict. -/
theorem tryDomains_address (is : IsSlug slug.toList) (baseValid : validateDomain base = .ok ())
    (valid : validateTunnel { tunnel with domain := base } = .ok ()) (auto : needsAutoDomain tunnel)
    (calm : Calm m w) (address : isAddress slug base = true) (left : ℕ) :
    tryDomains tunnel slug base w (left + 1) 0 m =
      some (m, [], .error "domain must be a fully qualified DNS name") := by
  obtain ⟨found, refused⟩ := candidateDomain_address is baseValid address
  have checks := validateTunnel_of_refused valid auto.1 (joined_ne_empty slug base) refused
  have wrote : write (Database.createTunnel { tunnel with domain := slug ++ "." ++ base }
      (w.newID 0) w.uuid w.now) w.trafficLogs none m =
        some (m, [], .error "domain must be a fully qualified DNS name") := by
    have failed : Database.createTunnel { tunnel with domain := slug ++ "." ++ base } (w.newID 0) w.uuid
        w.now (tables m.store w.trafficLogs) =
          (tables m.store w.trafficLogs, .error "domain must be a fully qualified DNS name") := by
      unfold Database.createTunnel Database.validated
      rw [checks]
      rfl
    unfold write
    rw [failed]
  have other : isDomainConflict "domain must be a fully qualified DNS name" = false := by
    have lower : toLower "domain must be a fully qualified DNS name" =
        "domain must be a fully qualified dns name" := by
      rw [toLower_of_ascii (ascii_of_all (by decide +kernel))]
      decide +kernel
    unfold isDomainConflict
    simp only [lower]
    decide +kernel
  rw [tryDomains, found, calm.failure]
  refine (Logged.bind_of_silent wrote).trans ?_
  simp only [other, Bool.false_eq_true, if_false]
  rfl

/-- What `JoinDomain` complains about is never the whole domain. -/
theorem joinDomain_error {other message : String} (baseValid : validateDomain base = .ok ())
    (refused : joinDomain other base = .error message) :
    message ≠ "domain must be a fully qualified DNS name" := by
  unfold joinDomain at refused
  split at refused
  · rename_i slugRefused
    obtain rfl := Except.error.inj refused
    unfold validateSlug at slugRefused
    split at slugRefused
    · rw [← Except.error.inj slugRefused]
      decide
    split at slugRefused
    · rw [← Except.error.inj slugRefused]
      decide
    split at slugRefused
    · cases slugRefused
    · rw [← Except.error.inj slugRefused]
      decide
  · rw [normalizeDomain_of_validateDomain baseValid] at refused
    simp only at refused
    split at refused
    · rw [← Except.error.inj refused]
      decide
    · cases refused

/-- **The loop finds the first candidate that is not in use, unless the slug and the base domain are an
address.** -/
theorem tryDomains_allocates_iff (calm : Calm m w) (lacking : Lacking m.store.clients tunnel base)
    (is : IsSlug slug.toList) (baseValid : validateDomain base = .ok ()) {left : ℕ}
    (enough : m.store.tunnels.length < left) :
    Allocates tunnel slug base m (tryDomains tunnel slug base w left 0 m) ↔
      isAddress slug base = false := by
  refine ⟨fun ⟨n, _, _, ends⟩ => ?_, fun apart => tryDomains_allocates calm lacking is baseValid apart enough⟩
  by_contra same
  obtain ⟨rest, rfl⟩ := Nat.exists_eq_add_of_lt (Nat.zero_lt_of_lt enough)
  have ran := tryDomains_address is baseValid lacking.valid lacking.auto calm
    (Bool.not_eq_false _ ▸ same) (0 + rest)
  unfold EndsAt at ends
  split at ends
  · obtain ⟨-, store, created, stored, -⟩ := ends
    rw [ran] at stored
    cases (Prod.mk.inj (Prod.mk.inj (Option.some.inj stored)).2).2
  · rename_i err found
    obtain ⟨returned, -⟩ := ends
    rw [ran] at returned
    simp only [Option.some.injEq, Prod.mk.injEq, Except.error.injEq, true_and] at returned
    exact joinDomain_error baseValid found returned.symm

end Loop

end NryNet.TunnelApi
