import Mathlib.Data.List.AList

/-!
# Maps of Go

A Go map is a finite table with at most one value for each key: Mathlib's `AList` over a constant
family.  Reading a missing key is `lookup` returning `none`, assignment is `insert`, the builtin
`delete` is `erase`.  What `AList` lacks are the loops a Go program writes over a map: deleting every
entry that meets a condition, assigning every entry anew, collecting the values of some entries, and
counting them.  The order in which Go visits the entries is unspecified, so nothing here may be used
to conclude anything about it; a loop whose result depends on the order takes it as an argument, a
`RangeOrder`.

The lookup lemmas are stated with `if` rather than with side conditions, which is the form a case
analysis over keys wants.
-/

/-- A Go `map[K]V`. -/
abbrev GoMap (K V : Type*) := AList fun _ : K => V

namespace GoMap

variable {K V : Type*} [DecidableEq K]

/-- Equality of the entries, in the order in which they are kept.  The instance for `AList` rewrites, so
that it does not evaluate. -/
instance [DecidableEq V] : DecidableEq (GoMap K V) := fun _ _ =>
  decidable_of_iff _ AList.ext_iff.symm

theorem lookup_insert_if (map : GoMap K V) (key other : K) (value : V) :
    (map.insert key value).lookup other = if other = key then some value else map.lookup other := by
  by_cases same : other = key
  · subst same
    rw [if_pos rfl, AList.lookup_insert]
  · rw [if_neg same, AList.lookup_insert_ne same]

theorem lookup_erase_if (map : GoMap K V) (key other : K) :
    (map.erase key).lookup other = if other = key then none else map.lookup other := by
  by_cases same : other = key
  · subst same
    rw [if_pos rfl, AList.lookup_erase]
  · rw [if_neg same, AList.lookup_erase_ne same]

/-- A new entry does not get in the way of those that were there. -/
theorem lookup_insert_of_absent {map : GoMap K V} {key other : K} {value new : V}
    (absent : map.lookup key = none) (found : map.lookup other = some value) :
    (map.insert key new).lookup other = some value := by
  rw [lookup_insert_if, if_neg, found]
  rintro rfl
  rw [absent] at found
  cases found

/-- What was in the map is still there, or is what was taken out. -/
theorem lookup_erase_or {map : GoMap K V} {key other : K} {value taken : V}
    (present : map.lookup key = some taken) (found : map.lookup other = some value) :
    (map.erase key).lookup other = some value ∨ other = key ∧ taken = value := by
  rw [lookup_erase_if]
  split
  · rename_i same
    subst same
    exact Or.inr ⟨rfl, Option.some.inj (present.symm.trans found)⟩
  · exact Or.inl found

omit [DecidableEq K] in
/-- Removing entries keeps the keys distinct. -/
theorem nodupKeys_filter (map : GoMap K V) (keep : (Σ _ : K, V) → Bool) :
    (map.entries.filter keep).NodupKeys :=
  map.nodupKeys.sublist List.filter_sublist

omit [DecidableEq K] in
/-- Reading the values in some way keeps the keys distinct. -/
theorem nodupKeys_map {W : Type*} (map : GoMap K V) (read : K → V → W) :
    (map.entries.map fun entry => (⟨entry.1, read entry.1 entry.2⟩ : Σ _ : K, W)).NodupKeys := by
  have keys : (map.entries.map fun entry => (⟨entry.1, read entry.1 entry.2⟩ : Σ _ : K, W)).keys =
      map.entries.keys := by
    unfold List.keys
    rw [List.map_map]
    rfl
  show List.Nodup _
  rw [keys]
  exact map.nodupKeys

/-- `for k, v := range m { if drop k v { delete(m, k) } }`. -/
def deleteWhere (map : GoMap K V) (drop : K → V → Bool) : GoMap K V where
  entries := map.entries.filter fun entry => !drop entry.1 entry.2
  nodupKeys := map.nodupKeys_filter _

/-- `for k, v := range m { m[k] = set k v }`. -/
def mapValues (map : GoMap K V) (set : K → V → V) : GoMap K V where
  entries := map.entries.map fun entry => ⟨entry.1, set entry.1 entry.2⟩
  nodupKeys := map.nodupKeys_map set

/-- The map with its values read as `read` says: a map whose values point somewhere is read through what
they point to. -/
def view {W : Type*} (map : GoMap K V) (read : K → V → W) : GoMap K W where
  entries := map.entries.map fun entry => ⟨entry.1, read entry.1 entry.2⟩
  nodupKeys := map.nodupKeys_map read

/-- The values a loop `for k, v := range m` collects under a condition. -/
def valuesWhere (map : GoMap K V) (pick : K → V → Bool) : List V :=
  (map.entries.filter fun entry => pick entry.1 entry.2).map fun entry => entry.2

theorem mem_lookup_iff_mem_entries {map : GoMap K V} {key : K} {value : V} :
    map.lookup key = some value ↔ (⟨key, value⟩ : Σ _ : K, V) ∈ map.entries := by
  rw [← Option.mem_def]
  exact AList.mem_lookup_iff

theorem lookup_deleteWhere_eq_some {map : GoMap K V} {drop : K → V → Bool} {key : K} {value : V} :
    (map.deleteWhere drop).lookup key = some value ↔
      map.lookup key = some value ∧ drop key value = false := by
  rw [mem_lookup_iff_mem_entries, mem_lookup_iff_mem_entries]
  simp [deleteWhere]

theorem lookup_view {W : Type*} (map : GoMap K V) (read : K → V → W) (key : K) :
    (map.view read).lookup key = (map.lookup key).map (read key) := by
  ext value
  rw [mem_lookup_iff_mem_entries, Option.map_eq_some_iff]
  simp only [view, List.mem_map, mem_lookup_iff_mem_entries]
  constructor
  · rintro ⟨⟨other, old⟩, member, equal⟩
    cases equal
    exact ⟨old, member, rfl⟩
  · rintro ⟨old, member, rfl⟩
    exact ⟨⟨key, old⟩, member, rfl⟩

/-- Every entry is assigned anew, and no entry comes or goes. -/
theorem lookup_mapValues (map : GoMap K V) (set : K → V → V) (key : K) :
    (map.mapValues set).lookup key = (map.lookup key).map (set key) :=
  map.lookup_view set key

theorem mem_valuesWhere {map : GoMap K V} {pick : K → V → Bool} {value : V} :
    value ∈ map.valuesWhere pick ↔ ∃ key, map.lookup key = some value ∧ pick key value = true := by
  simp only [valuesWhere, List.mem_map, List.mem_filter]
  constructor
  · rintro ⟨⟨key, found⟩, ⟨member, picked⟩, rfl⟩
    exact ⟨key, mem_lookup_iff_mem_entries.mpr member, picked⟩
  · rintro ⟨key, found, picked⟩
    exact ⟨⟨key, value⟩, ⟨mem_lookup_iff_mem_entries.mp found, picked⟩, rfl⟩

/-- When no two keys share a value, the loop collects no value twice. -/
theorem nodup_valuesWhere {map : GoMap K V} {pick : K → V → Bool}
    (injective : ∀ key other value, map.lookup key = some value →
      map.lookup other = some value → key = other) :
    (map.valuesWhere pick).Nodup := by
  unfold valuesWhere
  refine List.Nodup.map_on ?_ ((List.NodupKeys.nodup map.nodupKeys).filter _)
  rintro ⟨key, value⟩ member ⟨other, value'⟩ member' same
  simp only at same
  subst same
  have found := mem_lookup_iff_mem_entries.mpr (List.mem_of_mem_filter member)
  have found' := mem_lookup_iff_mem_entries.mpr (List.mem_of_mem_filter member')
  rw [injective key other value found found']

/-- `for _, k := range keys { delete(m, k) }`. -/
def eraseAll (map : GoMap K V) (keys : List K) : GoMap K V :=
  keys.foldl (fun map key => map.erase key) map

theorem lookup_eraseAll (map : GoMap K V) (keys : List K) (other : K) :
    (map.eraseAll keys).lookup other = if other ∈ keys then none else map.lookup other := by
  induction keys generalizing map with
  | nil => rw [if_neg List.not_mem_nil]; rfl
  | cons key keys ih =>
      have next : map.eraseAll (key :: keys) = eraseAll (map.erase key) keys := rfl
      rw [next, ih, lookup_erase_if]
      by_cases same : other = key
      · rw [if_pos same, if_pos (List.mem_cons.mpr (.inl same)), ite_self]
      · have members : other ∈ key :: keys ↔ other ∈ keys :=
          ⟨fun member => (List.mem_cons.mp member).resolve_left same, List.mem_cons_of_mem _⟩
        simp only [if_neg same, members]

/-- When an item can only be in the list of one key, all lists together have it as often as that one. -/
theorem count_flatten_valuesWhere {I : Type*} [DecidableEq I] {map : GoMap K (List I)} {item : I} {key : K}
    (own : ∀ other items, map.lookup other = some items → item ∈ items → other = key) :
    (map.valuesWhere fun _ _ => true).flatten.count item = ((map.lookup key).getD []).count item := by
  have elsewhere (entries : List (Σ _ : K, List I)) (within : entries ⊆ map.entries)
      (others : ∀ entry ∈ entries, entry.1 ≠ key) :
      (entries.map fun entry => entry.2).flatten.count item = 0 := by
    refine List.count_eq_zero.mpr fun listed => ?_
    obtain ⟨items, member, inside⟩ := List.mem_flatten.mp listed
    obtain ⟨entry, present, rfl⟩ := List.mem_map.mp member
    exact others entry present (own entry.1 entry.2 (mem_lookup_iff_mem_entries.mpr (within present)) inside)
  unfold valuesWhere
  rw [List.filter_true]
  cases found : map.lookup key with
  | none =>
      rw [elsewhere map.entries (List.Subset.refl _)]
      · rfl
      · rintro entry member rfl
        rw [mem_lookup_iff_mem_entries.mpr member] at found
        cases found
  | some items =>
      obtain ⟨before, after, split⟩ := List.append_of_mem (mem_lookup_iff_mem_entries.mp found)
      have distinct : (key :: (before ++ after).map Sigma.fst).Nodup := by
        have nodup := map.nodupKeys
        unfold List.NodupKeys List.keys at nodup
        rw [split, List.map_append, List.map_cons] at nodup
        rw [List.map_append]
        exact List.nodup_middle.mp nodup
      have others (entry : Σ _ : K, List I) (member : entry ∈ before ++ after) : entry.1 ≠ key := by
        rintro rfl
        exact (List.nodup_cons.mp distinct).1 (List.mem_map_of_mem member)
      rw [split, List.map_append, List.map_cons, List.flatten_append, List.flatten_cons, List.count_append,
        List.count_append, elsewhere before (fun entry member => by rw [split]; simp [member])
          fun entry member => others entry (List.mem_append_left _ member),
        elsewhere after (fun entry member => by rw [split]; simp [member])
          fun entry member => others entry (List.mem_append_right _ member), Nat.zero_add, Nat.add_zero]
      rfl

/-! ## Counting entries -/

/-- The number of entries that meet a condition. -/
def countWhere (map : GoMap K V) (pick : K → V → Bool) : ℕ :=
  map.entries.countP fun entry => pick entry.1 entry.2

/-- `len(m)`. -/
def size (map : GoMap K V) : ℕ :=
  map.entries.length

omit [DecidableEq K] in
theorem size_eq_countWhere (map : GoMap K V) : map.size = map.countWhere fun _ _ => true := by
  unfold size countWhere
  rw [List.countP_true]

/-- An entry counts for itself, and the others are counted without it. -/
theorem countWhere_eq_erase (map : GoMap K V) (pick : K → V → Bool) (key : K) :
    map.countWhere pick = countWhere (map.erase key) pick +
      if (map.lookup key).any (pick key) then 1 else 0 := by
  unfold countWhere
  show _ = (List.kerase key map.entries).countP _ + _
  by_cases present : key ∈ map.entries.keys
  · obtain ⟨value, before, after, -, split, rest⟩ := List.exists_of_kerase present
    have found : map.lookup key = some value := by
      rw [mem_lookup_iff_mem_entries, split]
      exact List.mem_append_right _ List.mem_cons_self
    rw [found, rest, split, List.countP_append, List.countP_append, List.countP_cons, Option.any_some,
      Nat.add_assoc]
  · have missing : map.lookup key = none := AList.lookup_eq_none.mpr present
    rw [missing, List.kerase_of_notMem_keys present]
    rfl

theorem countWhere_insert (map : GoMap K V) (pick : K → V → Bool) (key : K) (value : V) :
    countWhere (map.insert key value) pick =
      countWhere (map.erase key) pick + if pick key value then 1 else 0 := by
  unfold countWhere
  rw [AList.entries_insert, List.countP_cons]
  rfl

theorem size_insert_of_absent {map : GoMap K V} {key : K} (absent : map.lookup key = none)
    (value : V) : size (map.insert key value) = map.size + 1 := by
  have all := map.countWhere_eq_erase (fun _ _ => true) key
  rw [absent, Option.any_none, if_neg Bool.false_ne_true, Nat.add_zero] at all
  rw [size_eq_countWhere, size_eq_countWhere, countWhere_insert, all, if_pos rfl]

theorem size_insert_of_present {map : GoMap K V} {key : K} {old : V}
    (present : map.lookup key = some old) (value : V) :
    size (map.insert key value) = map.size := by
  have all := map.countWhere_eq_erase (fun _ _ => true) key
  rw [present, Option.any_some, if_pos rfl] at all
  rw [size_eq_countWhere, size_eq_countWhere, countWhere_insert, all, if_pos rfl]

theorem size_erase_of_present {map : GoMap K V} {key : K} {value : V}
    (present : map.lookup key = some value) : size (map.erase key) + 1 = map.size := by
  have all := map.countWhere_eq_erase (fun _ _ => true) key
  rw [present, Option.any_some, if_pos rfl] at all
  rw [size_eq_countWhere, size_eq_countWhere, all]

theorem size_erase_of_absent {map : GoMap K V} {key : K} (absent : map.lookup key = none) :
    size (map.erase key) = map.size := by
  have all := map.countWhere_eq_erase (fun _ _ => true) key
  rw [absent, Option.any_none, if_neg Bool.false_ne_true, Nat.add_zero] at all
  rw [size_eq_countWhere, size_eq_countWhere, all]

theorem size_erase_le (map : GoMap K V) (key : K) : size (map.erase key) ≤ map.size :=
  (List.kerase_sublist key map.entries).length_le

omit [DecidableEq K] in
theorem size_deleteWhere_le (map : GoMap K V) (drop : K → V → Bool) :
    (map.deleteWhere drop).size ≤ map.size :=
  List.length_filter_le _ _

omit [DecidableEq K] in
/-- Every entry survives the loop or counts among those that it deletes. -/
theorem size_deleteWhere_add (map : GoMap K V) (drop : K → V → Bool) :
    (map.deleteWhere drop).size + (map.valuesWhere drop).length = map.size := by
  unfold size deleteWhere valuesWhere
  rw [List.length_map, ← List.countP_eq_length_filter, ← List.countP_eq_length_filter, Nat.add_comm]
  rw [List.length_eq_countP_add_countP fun entry : Σ _ : K, V => drop entry.1 entry.2]
  simp

omit [DecidableEq K] in
theorem exists_mem_of_size_pos {map : GoMap K V} (filled : 0 < map.size) :
    ∃ entry, entry ∈ map.entries :=
  List.exists_mem_of_length_pos filled

/-- The order in which a loop `for k, v := range m` visits the entries of each map. -/
structure RangeOrder (K V : Type*) where
  visit : GoMap K V → List (Σ _ : K, V)
  perm : ∀ map, (visit map).Perm map.entries

/-- The entries one after the other, as they are kept. -/
def RangeOrder.kept (K V : Type*) : RangeOrder K V where
  visit map := map.entries
  perm _ := List.Perm.refl _

/-! ## Views -/

section Views

variable {W : Type*}

variable {map : GoMap K V} {read read' : K → V → W} {key : K}

/-- Only the entries of the map are read. -/
theorem view_congr (same : ∀ key value, map.lookup key = some value → read key value = read' key value) :
    map.view read = map.view read' := by
  refine AList.ext (List.map_congr_left fun entry member => ?_)
  rw [same entry.1 entry.2 (mem_lookup_iff_mem_entries.mpr member)]

theorem view_erase (map : GoMap K V) (read : K → V → W) (key : K) :
    view (map.erase key) read = (map.view read).erase key := by
  refine AList.ext ?_
  show (List.kerase key map.entries).map _ = List.kerase key (map.entries.map _)
  unfold List.kerase
  rw [List.eraseP_map]
  rfl

theorem view_insert (map : GoMap K V) (read : K → V → W) (key : K) (value : V) :
    view (map.insert key value) read = (map.view read).insert key (read key value) := by
  have rest := congrArg AList.entries (map.view_erase read key)
  refine AList.ext ?_
  rw [AList.entries_insert]
  exact congrArg (List.cons _) rest

/-- An assignment does not look at the old value of the key. -/
theorem insert_erase (map : GoMap K V) (key : K) (value : V) :
    AList.insert key value (map.erase key) = map.insert key value := by
  refine AList.ext ?_
  rw [AList.entries_insert, AList.entries_insert]
  show (⟨key, value⟩ : Σ _ : K, V) :: List.kerase key (List.kerase key map.entries) = _
  rw [List.kerase_of_notMem_keys (List.notMem_keys_kerase key map.nodupKeys)]

/-- After an assignment the old value of the key is read no more. -/
theorem view_insert_congr (value : V) {value' : W} (own : read key value = value')
    (others : ∀ other held, other ≠ key → map.lookup other = some held → read other held = read' other held) :
    view (map.insert key value) read = (map.view read').insert key value' := by
  have rest : view (map.erase key) read = view (map.erase key) read' := by
    refine view_congr fun other held found => ?_
    rw [lookup_erase_if] at found
    split at found
    · cases found
    · rename_i different
      exact others other held different found
  rw [view_insert, ← insert_erase, ← view_erase, rest, view_erase, insert_erase, own]

omit [DecidableEq K] in
/-- `for _, v := range m`, over what is read. -/
theorem valuesWhere_view (map : GoMap K V) (read : K → V → W) :
    (map.view read).valuesWhere (fun _ _ => true) = map.entries.map fun entry => read entry.1 entry.2 := by
  unfold valuesWhere view
  rw [List.filter_true, List.map_map]
  rfl

end Views

end GoMap
