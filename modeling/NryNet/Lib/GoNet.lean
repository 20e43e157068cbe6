import NryNet.Lib.GoText

/-!
# Addresses of Go and their texts (`net`, `net/netip`)

A `net.IP` is a list of four or of sixteen bytes.  Its text is made by `IP.String` and read by `ParseIP`,
and what is read is what was written, with sixteen bytes.  `matches` of an address and a network look at
the last four bytes only when the twelve in front of them say that it is an address of version 4.

How `appendTo6` chooses the run of zeros that it leaves out does not matter for this; that it is a run of
zeros does.
-/

namespace GoText

/-! ## Texts of addresses -/

/-- The first twelve bytes of an address of version 4. -/
def v4InV6Prefix : List ℕ := List.replicate 10 0 ++ [255, 255]

/-- `IP.To4`. -/
def to4 (ip : List ℕ) : Option (List ℕ) :=
  if ip.length = 4 then some ip
  else if ip.length = 16 ∧ ip.take 12 = v4InV6Prefix then some (ip.drop 12)
  else none

/-- `IP.To16`, for an address. -/
def to16 (ip : List ℕ) : List ℕ :=
  if ip.length = 4 then v4InV6Prefix ++ ip else ip

/-- A digit of `appendHex`. -/
def hexChar (digit : ℕ) : Char :=
  ['0', '1', '2', '3', '4', '5', '6', '7', '8', '9', 'a', 'b', 'c', 'd', 'e', 'f'].getD digit '0'

/-- The digits that `appendHex` appends. -/
def hexDigits (group : ℕ) : List ℕ :=
  (if 0x1000 ≤ group then [group / 0x1000] else []) ++
    (if 0x100 ≤ group then [group / 0x100 % 16] else []) ++
    (if 0x10 ≤ group then [group / 0x10 % 16] else []) ++ [group % 16]

/-- `appendHex`. -/
def appendHex (group : ℕ) : List Char :=
  (hexDigits group).map hexChar

/-- `Addr.v6u16`: the groups of an address. -/
def v6Groups : List ℕ → List ℕ
  | high :: low :: rest => (256 * high + low) :: v6Groups rest
  | _ => []

/-- The search of `appendTo6` for the longest run of zeros. -/
def zeroRun (groups : List ℕ) : ℕ × ℕ :=
  (List.range 8).foldl
    (fun (zeroStart, zeroEnd) i =>
      let j := i + ((groups.drop i).takeWhile fun group => group = 0).length
      if 2 ≤ j - i ∧ zeroEnd - zeroStart < j - i then (i, j) else (zeroStart, zeroEnd))
    (255, 255)

/-- The loop of `appendTo6` that writes the groups. -/
def writeGroups (groups : List ℕ) (zeroStart zeroEnd : ℕ) : ℕ → ℕ → List Char
  | 0, _ => []
  | rounds + 1, i =>
      if 8 ≤ i then []
      else if i = zeroStart then
        [':', ':'] ++
          if 8 ≤ zeroEnd then []
          else
            appendHex (groups.getD zeroEnd 0) ++
              writeGroups groups zeroStart zeroEnd rounds (zeroEnd + 1)
      else
        (if 0 < i then [':'] else []) ++ appendHex (groups.getD i 0) ++
          writeGroups groups zeroStart zeroEnd rounds (i + 1)

/-- `appendTo6`, for an address without a zone. -/
def appendTo6 (ip : List ℕ) : List Char :=
  let groups := v6Groups ip
  let (zeroStart, zeroEnd) := zeroRun groups
  writeGroups groups zeroStart zeroEnd 8 0

/-- `appendTo4`. -/
def appendTo4 (ip : List ℕ) : List Char :=
  List.intercalate ['.'] (ip.map (Nat.toDigits 10))

/-- `IP.String`. -/
def ipString (ip : List ℕ) : String :=
  if ip = [] then "<nil>"
  else if ip.length ≠ 4 ∧ ip.length ≠ 16 then
    "?" ++ String.ofList (ip.flatMap fun byte => [hexChar (byte / 16), hexChar (byte % 16)])
  else
    match to4 ip with
    | some four => String.ofList (appendTo4 four)
    | none => String.ofList (appendTo6 ip)

/-- `net.TCPAddr`. -/
structure TCPAddr where
  ip : List ℕ
  port : ℕ
  zone : String

/-- The host in the text of an address: `ipEmptyString`, and the zone. -/
def TCPAddr.host (addr : TCPAddr) : String :=
  let ip := if addr.ip = [] then "" else ipString addr.ip
  if addr.zone ≠ "" then ip ++ "%" ++ addr.zone else ip

/-- `TCPAddr.String`. -/
def TCPAddr.string (addr : TCPAddr) : String :=
  joinHostPort addr.host addr.port

/-! ## Numbers -/

/-- `strconv.Atoi`; `none` is an error. -/
def atoi (text : String) : Option ℤ :=
  let number (digits : List Char) (largest : ℕ) : Option ℕ :=
    if digits = [] || !digits.all Char.isDigit then none
    else
      let value := digits.foldl (fun value digit => value * 10 + (digit.toNat - '0'.toNat)) 0
      if largest < value then none else some value
  match text.toList with
  | '-' :: digits => (number digits (2 ^ 63)).map fun value => -(value : ℤ)
  | '+' :: digits => (number digits (2 ^ 63 - 1)).map fun value => (value : ℤ)
  | digits => (number digits (2 ^ 63 - 1)).map fun value => (value : ℤ)

/-! ## Networks -/

/-- `net.IPNet`. -/
structure IPNet where
  ip : List ℕ
  mask : List ℕ

/-- `CIDRMask`, of some bytes. -/
def cidrMask (ones : ℕ) : ℕ → List ℕ
  | 0 => []
  | bytes + 1 => (255 - 255 / 2 ^ min ones 8) :: cidrMask (ones - 8) bytes

/-- `ParseCIDR`, without the address; `none` is an error.  The number of bits is read by `dtoi`. -/
def parseCIDR (text : String) : Option IPNet :=
  let addr := text.toList.takeWhile fun c => c ≠ '/'
  match text.toList.dropWhile fun c => c ≠ '/' with
  | [] => none
  | _ :: mask =>
      (parseIP (String.ofList addr)).bind fun ip =>
        -- an address is of version 4 when a dot comes first in its text
        let size := if addr.find? (fun c => c = '.' || c = ':') = some '.' then 4 else 16
        let number := mask.foldl (fun value digit => value * 10 + (digit.toNat - '0'.toNat)) 0
        if mask = [] || !mask.all Char.isDigit || 8 * size < number then none
        else
          let mask := cidrMask number size
          some ⟨List.zipWith (· &&& ·) (if size = 4 then ip.drop 12 else ip) mask, mask⟩

/-- `IPNet.Contains`; the network is one of `parseCIDR`. -/
def IPNet.contains (network : IPNet) (ip : List ℕ) : Bool :=
  let number := (to4 network.ip).getD network.ip
  let mask := if number.length = 4 ∧ network.mask.length = 16 then network.mask.drop 12 else network.mask
  let ip := (to4 ip).getD ip
  ip.length = number.length &&
    List.zipWith (· &&& ·) number mask = List.zipWith (· &&& ·) ip mask

/-- `IP.Equal`. -/
def ipEqual (ip other : List ℕ) : Bool :=
  to16 ip = to16 other

/-! ## Groups -/

theorem hexDigits_lt {group digit : ℕ} (small : group < 65536) (member : digit ∈ hexDigits group) :
    digit < 16 := by
  unfold hexDigits at member
  simp only [List.mem_append, List.mem_ite_nil_right, List.mem_singleton] at member
  omega

theorem length_hexDigits (group : ℕ) : (hexDigits group).length ≤ 4 := by
  unfold hexDigits
  split_ifs <;> simp

theorem hexDigits_ne_nil (group : ℕ) : hexDigits group ≠ [] := by
  unfold hexDigits
  simp

theorem value_hexDigits {group : ℕ} (small : group < 65536) :
    (hexDigits group).foldl (fun value digit => value * 16 + digit) 0 = group := by
  unfold hexDigits
  split_ifs <;> simp only [List.nil_append, List.cons_append, List.foldl_cons, List.foldl_nil] <;> omega

theorem hexDigit_hexChar : ∀ digit < 16, hexDigit (hexChar digit) = some digit := by
  decide

theorem hexChar_ne : ∀ digit < 16, hexChar digit ∉ [':', '.', '%', '[', ']'] := by
  decide

theorem isHex_of_mem_appendHex {group : ℕ} {c : Char} (small : group < 65536)
    (member : c ∈ appendHex group) : (hexDigit c).isSome = true := by
  obtain ⟨digit, listed, rfl⟩ := List.mem_map.mp member
  rw [hexDigit_hexChar digit (hexDigits_lt small listed)]
  rfl

theorem value_appendHex {group : ℕ} (small : group < 65536) :
    (appendHex group).foldl (fun value digit => value * 16 + (hexDigit digit).getD 0) 0 = group := by
  have same (value : ℕ) (digits : List ℕ) (all : ∀ digit ∈ digits, digit < 16) :
      (digits.map hexChar).foldl (fun value digit => value * 16 + (hexDigit digit).getD 0) value =
        digits.foldl (fun value digit => value * 16 + digit) value := by
    induction digits generalizing value with
    | nil => rfl
    | cons digit rest ih =>
        rw [List.map_cons, List.foldl_cons, List.foldl_cons, hexDigit_hexChar digit (all digit (by simp)),
          Option.getD_some]
        exact ih _ fun digit member => all digit (List.mem_cons_of_mem _ member)
  rw [appendHex, same 0 _ fun digit member => hexDigits_lt small member, value_hexDigits small]

/-- What `readGroups` does behind a group. -/
def afterGroup (rounds : ℕ) (ip : List ℕ) (ellipsis : Option ℕ) :
    List Char → Option (List ℕ × Option ℕ × List Char)
  | [] => some (ip, ellipsis, [])
  | ':' :: ':' :: [] => if ellipsis = none then some (ip, some ip.length, []) else none
  | ':' :: ':' :: more =>
      if ellipsis = none then readGroups rounds ip (some ip.length) more else none
  | ':' :: [] => none
  | ':' :: more => readGroups rounds ip ellipsis more
  | _ => none

/-- The bytes of a list of groups. -/
def ungroup (groups : List ℕ) : List ℕ :=
  groups.flatMap fun group => [group / 256, group % 256]

/-- The groups, with a colon in front of each. -/
def colonGroups (groups : List ℕ) : List Char :=
  groups.flatMap fun group => ':' :: appendHex group

/-- The groups, with colons between them. -/
def joinGroups : List ℕ → List Char
  | [] => []
  | group :: rest => appendHex group ++ colonGroups rest

section Reading

variable {rounds group : ℕ} {ip rest : List ℕ} {ellipsis : Option ℕ} {chars : List Char}

/-- One round of the loop. -/
theorem readGroups_group (small : group < 65536) (stop : chars = [] ∨ chars.head? = some ':') :
    readGroups (rounds + 1) ip ellipsis (appendHex group ++ chars) =
      afterGroup rounds (ip ++ [group / 256, group % 256]) ellipsis chars := by
  have digits : (appendHex group ++ chars).takeWhile (fun c => (hexDigit c).isSome) =
      appendHex group := by
    rw [List.takeWhile_append_of_pos fun c member => isHex_of_mem_appendHex small member]
    rcases stop with rfl | first
    · rw [List.takeWhile_nil, List.append_nil]
    · obtain ⟨more, rfl⟩ := List.head?_eq_some_iff.mp first
      rw [List.takeWhile_cons_of_neg (by decide), List.append_nil]
  have some : appendHex group ≠ [] := fun none =>
    hexDigits_ne_nil group (List.map_eq_nil_iff.mp none)
  have short : ¬ 4 < (appendHex group).length := by
    rw [appendHex, List.length_map, Nat.not_lt]
    exact length_hexDigits group
  have plain : chars.head? ≠ Option.some '.' := by
    rintro dot
    rcases stop with rfl | first
    · cases dot
    · rw [first] at dot
      cases dot
  rw [readGroups]
  simp only [digits, List.drop_left, value_appendHex small, if_neg plain]
  rw [if_neg (by simp [some, short])]
  rfl

/-- Behind a colon comes another group. -/
theorem afterGroup_colon (small : group < 65536) :
    afterGroup rounds ip ellipsis (':' :: (appendHex group ++ chars)) =
      readGroups rounds ip ellipsis (appendHex group ++ chars) := by
  cases digits : hexDigits group with
  | nil => exact absurd digits (hexDigits_ne_nil group)
  | cons digit more =>
      have other : hexChar digit ≠ ':' := fun same =>
        hexChar_ne digit (hexDigits_lt small (digits ▸ List.mem_cons_self)) (by simp [same])
      rw [appendHex, digits, List.map_cons, List.cons_append]
      unfold afterGroup
      split <;> simp_all

theorem joinGroups_ne_nil (group : ℕ) (rest : List ℕ) : joinGroups (group :: rest) ≠ [] := fun none =>
  hexDigits_ne_nil group (List.map_eq_nil_iff.mp (List.append_eq_nil_iff.mp none).1)

theorem head_colonGroups (groups : List ℕ) :
    colonGroups groups = [] ∨ (colonGroups groups).head? = some ':' := by
  cases groups with
  | nil => exact Or.inl rfl
  | cons group rest => exact Or.inr rfl

/-- The groups at the end of an address. -/
theorem readGroups_join (small : ∀ member ∈ group :: rest, member < 65536)
    (enough : rest.length < rounds) :
    readGroups rounds ip ellipsis (joinGroups (group :: rest)) =
      some (ip ++ ungroup (group :: rest), ellipsis, []) := by
  induction rest generalizing group rounds ip with
  | nil =>
      obtain ⟨rounds, rfl⟩ := Nat.exists_eq_succ_of_ne_zero (Nat.ne_of_gt enough)
      rw [joinGroups, readGroups_group (small group List.mem_cons_self) (head_colonGroups [])]
      rfl
  | cons next rest ih =>
      rw [List.length_cons] at enough
      obtain ⟨rounds, rfl⟩ : ∃ fewer, rounds = fewer + 1 := ⟨rounds - 1, by omega⟩
      rw [joinGroups, readGroups_group (small group List.mem_cons_self) (head_colonGroups _)]
      change afterGroup rounds _ _ (':' :: (appendHex next ++ colonGroups rest)) = _
      rw [afterGroup_colon (small next (by simp))]
      change readGroups rounds _ _ (joinGroups (next :: rest)) = _
      rw [ih (fun member listed => small member (List.mem_cons_of_mem _ listed)) (by omega),
        List.append_assoc]
      rfl

/-- The groups in front of the colons that stand for zeros. -/
theorem readGroups_ellipsis (small : ∀ member ∈ group :: rest, member < 65536) :
    readGroups (rounds + (rest.length + 1)) ip none (joinGroups (group :: rest) ++ ':' :: ':' :: chars) =
      let ip := ip ++ ungroup (group :: rest)
      if chars = [] then some (ip, some ip.length, []) else readGroups rounds ip (some ip.length) chars := by
  induction rest generalizing group ip with
  | nil =>
      rw [joinGroups, List.append_assoc]
      change readGroups (rounds + 1) ip none (appendHex group ++ ':' :: ':' :: chars) = _
      rw [readGroups_group (small group List.mem_cons_self) (Or.inr rfl)]
      cases chars <;> rfl
  | cons next rest ih =>
      rw [joinGroups, List.append_assoc, List.length_cons, ← Nat.add_assoc,
        readGroups_group (small group List.mem_cons_self) (Or.inr rfl)]
      change afterGroup _ _ _ (':' :: (appendHex next ++ colonGroups rest ++ ':' :: ':' :: chars)) = _
      rw [List.append_assoc, afterGroup_colon (small next (by simp)), ← List.append_assoc]
      change readGroups _ _ _ (joinGroups (next :: rest) ++ ':' :: ':' :: chars) = _
      rw [ih fun member listed => small member (List.mem_cons_of_mem _ listed), List.append_assoc]
      rfl

end Reading

/-! ## What `appendTo6` writes -/

section Writing

variable {groups : List ℕ} {zeroStart zeroEnd rounds i : ℕ}

theorem drop_eq_getD_cons (inside : i < groups.length) :
    groups.drop i = groups.getD i 0 :: groups.drop (i + 1) := by
  rw [List.drop_eq_getElem_cons inside, List.getD_eq_getElem?_getD, List.getElem?_eq_getElem inside,
    Option.getD_some]

/-- Without a run of zeros ahead, the groups are written with a colon in front of each. -/
theorem writeGroups_rest (eight : groups.length = 8) (behind : ∀ k, i ≤ k → k < 8 → k ≠ zeroStart)
    (later : 0 < i) (enough : 8 ≤ i + rounds) :
    writeGroups groups zeroStart zeroEnd rounds i = colonGroups (groups.drop i) := by
  induction rounds generalizing i with
  | zero =>
      rw [List.drop_eq_nil_of_le (by omega)]
      rfl
  | succ rounds ih =>
      rw [writeGroups]
      by_cases done : 8 ≤ i
      · rw [if_pos done, List.drop_eq_nil_of_le (by omega)]
        rfl
      · have other : i ≠ zeroStart := behind i (Nat.le_refl i) (by omega)
        have here : groups.drop i = groups.getD i 0 :: groups.drop (i + 1) :=
          drop_eq_getD_cons (by omega)
        rw [if_neg done, if_neg other, if_pos later,
          ih (fun k le => behind k (by omega)) (Nat.succ_pos i) (by omega), here]
        rfl

/-- Behind the run of zeros the groups are joined. -/
theorem writeGroups_start (eight : groups.length = 8) (run : zeroStart < zeroEnd) (inside : zeroEnd ≤ 8)
    (enough : 8 ≤ zeroStart + rounds) (before : zeroStart < 8) :
    writeGroups groups zeroStart zeroEnd rounds zeroStart =
      ':' :: ':' :: joinGroups (groups.drop zeroEnd) := by
  obtain ⟨rounds, rfl⟩ := Nat.exists_eq_add_of_lt (show 0 < rounds by omega)
  rw [Nat.zero_add, writeGroups, if_neg (by omega), if_pos rfl]
  by_cases last : 8 ≤ zeroEnd
  · rw [if_pos last, List.drop_eq_nil_of_le (by omega)]
    rfl
  · rw [if_neg last, drop_eq_getD_cons (by omega),
      writeGroups_rest eight (fun k le => by omega) (by omega) (by omega)]
    rfl

/-- The run of zeros is left out. -/
theorem writeGroups_run (eight : groups.length = 8) (run : zeroStart < zeroEnd) (inside : zeroEnd ≤ 8)
    (before : i ≤ zeroStart) (later : 0 < i) (enough : 8 ≤ i + rounds) :
    writeGroups groups zeroStart zeroEnd rounds i =
      colonGroups ((groups.take zeroStart).drop i) ++ ':' :: ':' :: joinGroups (groups.drop zeroEnd) := by
  induction rounds generalizing i with
  | zero => omega
  | succ rounds ih =>
      rcases Nat.eq_or_lt_of_le before with rfl | ahead
      · rw [writeGroups_start eight run inside enough (by omega),
          List.drop_eq_nil_of_le (List.length_take_le i groups)]
        rfl
      · have here : (groups.take zeroStart).drop i =
            groups.getD i 0 :: (groups.take zeroStart).drop (i + 1) := by
          rw [drop_eq_getD_cons (by rw [List.length_take]; omega)]
          simp [List.getD_eq_getElem?_getD, List.getElem?_take_of_lt ahead]
        rw [writeGroups, if_neg (by omega), if_neg (Nat.ne_of_lt ahead), if_pos later,
          ih ahead (Nat.succ_pos i) (by omega), here]
        simp [colonGroups]

/-- From the first group on. -/
theorem writeGroups_join (eight : groups.length = 8) (none : 8 ≤ zeroStart) :
    writeGroups groups zeroStart zeroEnd 8 0 = joinGroups groups := by
  have start : groups.drop 0 = groups.getD 0 0 :: groups.drop 1 := drop_eq_getD_cons (by omega)
  rw [List.drop_zero] at start
  rw [writeGroups, if_neg (by omega), if_neg (by omega), if_neg (Nat.lt_irrefl 0),
    writeGroups_rest eight (fun k le => by omega) (by omega) (by omega), List.nil_append]
  conv_rhs => rw [start]
  rfl

theorem writeGroups_split (eight : groups.length = 8) (run : zeroStart < zeroEnd) (inside : zeroEnd ≤ 8) :
    writeGroups groups zeroStart zeroEnd 8 0 =
      joinGroups (groups.take zeroStart) ++ ':' :: ':' :: joinGroups (groups.drop zeroEnd) := by
  rcases Nat.eq_zero_or_pos zeroStart with rfl | later
  · rw [writeGroups_start eight run inside (by omega) (by omega), List.take_zero]
    rfl
  · have start : (groups.take zeroStart).drop 0 =
        (groups.take zeroStart).getD 0 0 :: (groups.take zeroStart).drop 1 :=
      drop_eq_getD_cons (by rw [List.length_take]; omega)
    rw [List.drop_zero, List.getD_eq_getElem?_getD, List.getElem?_take_of_lt later,
      ← List.getD_eq_getElem?_getD] at start
    rw [writeGroups, if_neg (by omega), if_neg (Nat.ne_of_lt later), if_neg (Nat.lt_irrefl 0),
      writeGroups_run eight run inside later (by omega) (by omega), List.nil_append]
    conv_rhs => rw [start]
    rw [joinGroups, List.append_assoc]

/-- What the search finds is a run of zeros. -/
theorem zeroRun_cases (eight : groups.length = 8) :
    zeroRun groups = (255, 255) ∨ (zeroRun groups).1 < (zeroRun groups).2 ∧ (zeroRun groups).2 ≤ 8 ∧
      groups = groups.take (zeroRun groups).1 ++
        List.replicate ((zeroRun groups).2 - (zeroRun groups).1) 0 ++ groups.drop (zeroRun groups).2 := by
  refine List.foldlRecOn (List.range 8) _ (motive := fun run => run = (255, 255) ∨ run.1 < run.2 ∧
    run.2 ≤ 8 ∧ groups = groups.take run.1 ++ List.replicate (run.2 - run.1) 0 ++ groups.drop run.2)
    (Or.inl rfl) fun run found i _ => ?_
  simp only
  split_ifs with longer
  · right
    have zeros : (groups.drop i).takeWhile (fun group => group = 0) =
        List.replicate ((groups.drop i).takeWhile fun group => group = 0).length 0 :=
      List.eq_replicate_length.mpr fun group member => by simpa using List.mem_takeWhile_imp member
    have whole := List.takeWhile_append_dropWhile (p := fun group => decide (group = 0))
      (l := groups.drop i)
    have short := (List.takeWhile_sublist (fun group => decide (group = 0)) (l := groups.drop i)).length_le
    rw [List.length_drop] at short
    generalize (groups.drop i).takeWhile (fun group => group = 0) = run at zeros whole short longer ⊢
    refine ⟨by omega, by omega, ?_⟩
    have rest : groups.drop (i + run.length) = (groups.drop i).dropWhile fun group => group = 0 := by
      rw [← List.drop_drop]
      conv_lhs => rw [← whole]
      exact List.drop_left
    rw [rest, Nat.add_sub_cancel_left, ← zeros, List.append_assoc, whole, List.take_append_drop]
  · exact found

/-- What `appendTo6` writes: all groups, or the groups on both sides of a run of zeros. -/
theorem writeGroups_cases (eight : groups.length = 8) :
    writeGroups groups (zeroRun groups).1 (zeroRun groups).2 8 0 = joinGroups groups ∨
      ∃ before zeros after, groups = before ++ List.replicate zeros 0 ++ after ∧ 0 < zeros ∧
        writeGroups groups (zeroRun groups).1 (zeroRun groups).2 8 0 =
          joinGroups before ++ ':' :: ':' :: joinGroups after := by
  rcases zeroRun_cases eight with none | ⟨run, inside, split⟩
  · left
    rw [none]
    exact writeGroups_join eight (by decide)
  · exact Or.inr ⟨_, _, _, split, Nat.sub_pos_of_lt run, writeGroups_split eight run inside⟩

end Writing

/-! ## Addresses of version 6 -/

section Six

variable {ip : List ℕ}

theorem ungroup_v6Groups (even : ip.length % 2 = 0) (small : ∀ byte ∈ ip, byte < 256) :
    ungroup (v6Groups ip) = ip := by
  induction ip using v6Groups.induct with
  | case1 high low rest ih =>
      have first := small high (by simp)
      have second := small low (by simp)
      have pair : [(256 * high + low) / 256, (256 * high + low) % 256] = [high, low] := by
        congr 1
        · omega
        · congr 1
          omega
      have others := ih (by rw [List.length_cons, List.length_cons] at even; omega)
        fun byte member => small byte (by simp [member])
      unfold ungroup at others ⊢
      rw [v6Groups, List.flatMap_cons, pair, others]
      rfl
  | case2 rest short =>
      cases rest with
      | nil => rfl
      | cons one rest =>
          cases rest with
          | nil => cases even
          | cons two rest => exact absurd rfl (short one two rest)

theorem length_ungroup (groups : List ℕ) : (ungroup groups).length = 2 * groups.length := by
  unfold ungroup
  rw [List.length_flatMap]
  simp [Nat.mul_comm]

/-- Sixteen bytes are eight groups. -/
theorem length_v6Groups (sized : ip.length = 16) (small : ∀ byte ∈ ip, byte < 256) :
    (v6Groups ip).length = 8 := by
  have twice := length_ungroup (v6Groups ip)
  rw [ungroup_v6Groups (by omega) small, sized] at twice
  omega

theorem v6Groups_lt (small : ∀ byte ∈ ip, byte < 256) : ∀ group ∈ v6Groups ip, group < 65536 := by
  induction ip using v6Groups.induct with
  | case1 high low rest ih =>
      intro group member
      have first := small high (by simp)
      have second := small low (by simp)
      rcases List.mem_cons.mp member with rfl | later
      · omega
      · exact ih (fun byte listed => small byte (by simp [listed])) group later
  | case2 rest short =>
      rw [v6Groups]
      · exact List.forall_mem_nil _
      · exact short

theorem ungroup_replicate (zeros : ℕ) : ungroup (List.replicate zeros 0) = List.replicate (2 * zeros) 0 := by
  induction zeros with
  | zero => rfl
  | succ zeros ih =>
      change 0 :: 0 :: ungroup (List.replicate zeros 0) = List.replicate (2 * zeros + 2) 0
      rw [ih]
      rfl

theorem ungroup_append (groups others : List ℕ) :
    ungroup (groups ++ others) = ungroup groups ++ ungroup others :=
  List.flatMap_append

/-- The text of groups begins with a digit. -/
theorem head_joinGroups {groups : List ℕ} {chars : List Char} (small : ∀ group ∈ groups, group < 65536)
    (some : groups ≠ []) : (joinGroups groups ++ chars).take 2 ≠ [':', ':'] := by
  obtain ⟨group, rest, rfl⟩ := List.exists_cons_of_ne_nil some
  obtain ⟨digit, more, digits⟩ := List.exists_cons_of_ne_nil (hexDigits_ne_nil group)
  have first := hexChar_ne digit (hexDigits_lt (small group (by simp)) (digits ▸ List.mem_cons_self))
  intro colons
  rw [joinGroups, appendHex, digits, List.map_cons, List.cons_append, List.cons_append,
    List.take_succ_cons] at colons
  rw [(List.cons.inj colons).1] at first
  exact first List.mem_cons_self

/-- The end of `parseIPv6`: the zeros come in. -/
def expand : List ℕ × Option ℕ × List Char → Option (List ℕ) := fun (ip, ellipsis, rest) =>
  if rest ≠ [] then none
  else if ip.length < 16 then
    ellipsis.map fun place => ip.take place ++ List.replicate (16 - ip.length) 0 ++ ip.drop place
  else if ellipsis = none then some ip
  else none

theorem parseIPv6_plain {chars : List Char} (bare : chars.take 2 ≠ [':', ':']) :
    parseIPv6 chars = (readGroups 8 [] none chars).bind expand := by
  unfold parseIPv6
  simp only [bare, false_and, if_false]
  rfl

theorem parseIPv6_leading {chars : List Char} (more : chars ≠ []) :
    parseIPv6 (':' :: ':' :: chars) = (readGroups 8 [] (some 0) chars).bind expand := by
  unfold parseIPv6
  simp only [List.take_succ_cons, List.take_zero, if_true, List.drop_succ_cons, List.drop_zero, true_and,
    if_neg more]
  rfl

theorem expand_ellipsis {before after : List ℕ} {zeros : ℕ} (some : 0 < zeros)
    (whole : before.length + zeros + after.length = 16) :
    expand (before ++ after, Option.some before.length, []) =
      Option.some (before ++ List.replicate zeros 0 ++ after) := by
  have short : (before ++ after).length < 16 := by
    rw [List.length_append]
    omega
  have missing : 16 - (before ++ after).length = zeros := by
    rw [List.length_append]
    omega
  unfold expand
  simp only [ne_eq, not_true_eq_false, if_false, if_pos short, missing, Option.map_some,
    List.take_left, List.drop_left]

/-- **An address of version 6 is read as it was written.** -/
theorem parseIPv6_appendTo6 (sized : ip.length = 16) (small : ∀ byte ∈ ip, byte < 256) :
    parseIPv6 (appendTo6 ip) = some ip := by
  have whole := ungroup_v6Groups (by omega) small
  have each := v6Groups_lt small
  have eight := length_v6Groups sized small
  unfold appendTo6
  simp only
  generalize v6Groups ip = groups at whole each eight ⊢
  rcases writeGroups_cases eight with written | ⟨before, zeros, after, rfl, some, written⟩
  · -- all groups are there
    obtain ⟨group, rest, rfl⟩ := List.exists_cons_of_ne_nil
      (List.ne_nil_of_length_eq_add_one eight)
    have bare : (joinGroups (group :: rest) ++ []).take 2 ≠ _ :=
      head_joinGroups each (List.cons_ne_nil group rest)
    rw [List.append_nil] at bare
    have fewer : rest.length < 8 := by
      rw [List.length_cons] at eight
      omega
    have read : readGroups 8 [] none (joinGroups (group :: rest)) = _ := readGroups_join each fewer
    rw [written, parseIPv6_plain bare, read, List.nil_append, whole, Option.bind_some]
    unfold expand
    simp [sized]
  · have zeroBytes := whole
    rw [ungroup_append, ungroup_append, ungroup_replicate] at zeroBytes
    have count : (ungroup before).length + 2 * zeros + (ungroup after).length = 16 := by
      rw [← sized, ← zeroBytes, List.length_append, List.length_append, List.length_replicate]
    have filled := expand_ellipsis (by omega) count
    rw [zeroBytes] at filled
    rw [List.length_append, List.length_append, List.length_replicate] at eight
    have back : ∀ group ∈ after, group < 65536 := fun group member => each group (by simp [member])
    rw [written]
    cases before with
    | nil =>
        cases after with
        | nil =>
            have all : zeros = 8 := by simpa using eight
            rw [← zeroBytes, all]
            rfl
        | cons group rest =>
            have read : readGroups 8 [] (Option.some 0) (joinGroups (group :: rest)) = _ :=
              readGroups_join back (by rw [List.length_cons] at eight; omega)
            change parseIPv6 (':' :: ':' :: joinGroups (group :: rest)) = _
            rw [parseIPv6_leading (joinGroups_ne_nil group rest), read]
            exact filled
    | cons first others =>
        have front : ∀ group ∈ first :: others, group < 65536 := fun group member =>
          each group (by rw [List.append_assoc]; exact List.mem_append_left _ member)
        rw [parseIPv6_plain (head_joinGroups front (List.cons_ne_nil first others))]
        rw [List.length_cons] at eight
        obtain ⟨rounds, total⟩ : ∃ rounds, 8 = rounds + (others.length + 1) :=
          ⟨8 - (others.length + 1), by omega⟩
        rw [total, readGroups_ellipsis front]
        simp only [List.nil_append]
        cases after with
        | nil =>
            rw [show ungroup [] = [] from rfl, List.append_nil] at filled
            rw [if_pos (show joinGroups [] = [] from rfl)]
            exact filled
        | cons group rest =>
            have fewer : rest.length < rounds := by
              rw [List.length_cons] at eight
              omega
            rw [if_neg (joinGroups_ne_nil group rest), readGroups_join back fewer]
            exact filled

/-- The characters of an address of version 6. -/
def isAddressChar (c : Char) : Bool :=
  c = ':' || (hexDigit c).isSome

theorem isAddressChar_joinGroups {groups : List ℕ} (small : ∀ group ∈ groups, group < 65536) :
    ∀ c ∈ joinGroups groups, isAddressChar c = true := by
  have digits {group : ℕ} (listed : group ∈ groups) {c : Char} (member : c ∈ appendHex group) :
      isAddressChar c = true := by
    unfold isAddressChar
    rw [isHex_of_mem_appendHex (small group listed) member, Bool.or_true]
  intro c member
  cases groups with
  | nil => cases member
  | cons group rest =>
      rcases List.mem_append.mp member with first | later
      · exact digits List.mem_cons_self first
      · obtain ⟨next, listed, inside⟩ := List.mem_flatMap.mp later
        rcases List.mem_cons.mp inside with rfl | inside
        · rfl
        · exact digits (List.mem_cons_of_mem _ listed) inside

/-- The text of an address of version 6 has digits and colons. -/
theorem appendTo6_chars (sized : ip.length = 16) (small : ∀ byte ∈ ip, byte < 256) :
    ':' ∈ appendTo6 ip ∧ ∀ c ∈ appendTo6 ip, isAddressChar c = true := by
  have each := v6Groups_lt small
  have eight := length_v6Groups sized small
  unfold appendTo6
  simp only
  generalize v6Groups ip = groups at each eight ⊢
  rcases writeGroups_cases eight with written | ⟨before, zeros, after, rfl, -, written⟩
  · refine ⟨?_, written ▸ isAddressChar_joinGroups each⟩
    rw [written]
    obtain ⟨group, rest, rfl⟩ := List.exists_cons_of_ne_nil
      (List.ne_nil_of_length_eq_add_one eight)
    obtain ⟨next, rest, rfl⟩ := List.exists_cons_of_ne_nil
      (List.ne_nil_of_length_eq_add_one (Nat.succ.inj eight))
    exact List.mem_append_right _ List.mem_cons_self
  · rw [written]
    refine ⟨List.mem_append_right _ List.mem_cons_self, fun c member => ?_⟩
    rcases List.mem_append.mp member with front | back
    · exact isAddressChar_joinGroups (fun group listed => each group (by simp [listed])) c front
    · rcases List.mem_cons.mp back with rfl | back
      · rfl
      rcases List.mem_cons.mp back with rfl | back
      · rfl
      exact isAddressChar_joinGroups (fun group listed => each group (by simp [listed])) c back

end Six

/-! ## Addresses of version 4 -/

theorem octet_toDigits : ∀ byte < 256, octet (Nat.toDigits 10 byte) = some byte := by
  decide +kernel

theorem splitOn_appendTo4 {ip : List ℕ} (sized : ip.length = 4) :
    (appendTo4 ip).splitOn '.' = ip.map (Nat.toDigits 10) := by
  refine List.splitOn_intercalate _ (fun field listed dot => ?_) fun none => ?_
  · obtain ⟨byte, -, rfl⟩ := List.mem_map.mp listed
    cases Nat.isDigit_of_mem_toDigits (by decide) (by decide) dot
  · rw [List.map_eq_nil_iff.mp none] at sized
    cases sized

/-- **An address of version 4 is read as it was written.** -/
theorem parseIPv4_appendTo4 {ip : List ℕ} (sized : ip.length = 4) (small : ∀ byte ∈ ip, byte < 256) :
    parseIPv4 (appendTo4 ip) = some ip := by
  have read {bytes : List ℕ} (each : ∀ byte ∈ bytes, byte < 256) :
      (bytes.map (Nat.toDigits 10)).mapM octet = some bytes := by
    induction bytes with
    | nil => rfl
    | cons byte rest ih =>
        rw [List.map_cons, List.mapM_cons, octet_toDigits byte (each byte List.mem_cons_self),
          ih fun byte member => each byte (List.mem_cons_of_mem _ member)]
        rfl
  unfold parseIPv4
  simp only [splitOn_appendTo4 sized]
  rw [List.length_map, if_pos sized, read small]

/-- The characters of an address of version 4. -/
theorem appendTo4_chars {ip : List ℕ} (sized : ip.length = 4) :
    '.' ∈ appendTo4 ip ∧ ∀ c ∈ appendTo4 ip, c = '.' ∨ c.isDigit = true := by
  constructor
  · obtain ⟨a, b, rest, rfl⟩ : ∃ a b rest, ip = a :: b :: rest := by
      match ip with
      | a :: b :: rest => exact ⟨a, b, rest, rfl⟩
    exact List.mem_append_right _ List.mem_cons_self
  · intro c member
    rcases @mem_splitOn c '.' _ member with dot | ⟨field, listed, inside⟩
    · exact Or.inl dot
    · rw [splitOn_appendTo4 sized] at listed
      obtain ⟨byte, -, rfl⟩ := List.mem_map.mp listed
      exact Or.inr (Nat.isDigit_of_mem_toDigits (by decide) (by decide) inside)

/-! ## The text of any address -/

theorem find?_eq_of_unique {chars : List Char} {c : Char} {p : Char → Bool} (member : c ∈ chars)
    (holds : p c = true) (only : ∀ other ∈ chars, p other = true → other = c) : chars.find? p = some c := by
  cases found : chars.find? p with
  | none => exact absurd holds (List.find?_eq_none.mp found c member)
  | some other =>
      rw [only other (List.mem_of_find?_eq_some found) (List.find?_some found)]

section Text

variable {ip : List ℕ}

/-- What can be said of the text of an address. -/
theorem ipString_cases (sized : ip.length = 4 ∨ ip.length = 16) :
    (∃ four, four.length = 4 ∧ to16 ip = v4InV6Prefix ++ four ∧ (∀ byte ∈ four, byte ∈ ip) ∧
        ipString ip = String.ofList (appendTo4 four)) ∨
      ip.length = 16 ∧ to16 ip = ip ∧ ipString ip = String.ofList (appendTo6 ip) := by
  have some : ip ≠ [] := by
    rintro rfl
    rcases sized with none | none <;> cases none
  have length : ¬ (ip.length ≠ 4 ∧ ip.length ≠ 16) := by
    rintro ⟨other, others⟩
    exact sized.elim other others
  unfold ipString
  rw [if_neg some, if_neg length]
  unfold to4 to16
  rcases sized with four | sixteen
  · rw [if_pos four, if_pos four]
    exact Or.inl ⟨ip, four, rfl, fun byte member => member, rfl⟩
  · rw [if_neg (by omega), if_neg (by omega)]
    by_cases mapped : ip.take 12 = v4InV6Prefix
    · rw [if_pos ⟨sixteen, mapped⟩]
      refine Or.inl ⟨ip.drop 12, by rw [List.length_drop]; omega, ?_, fun byte => List.mem_of_mem_drop, rfl⟩
      rw [← mapped, List.take_append_drop]
    · rw [if_neg fun both => mapped both.2]
      exact Or.inr ⟨sixteen, rfl, rfl⟩

/-- **What is read is what was written**, with sixteen bytes. -/
theorem parseIP_ipString (sized : ip.length = 4 ∨ ip.length = 16) (small : ∀ byte ∈ ip, byte < 256) :
    parseIP (ipString ip) = some (to16 ip) := by
  unfold parseIP
  rcases ipString_cases sized with ⟨four, length, same, sub, text⟩ | ⟨sixteen, same, text⟩
  · obtain ⟨dot, digits⟩ := appendTo4_chars length
    have first : (appendTo4 four).find? (fun c => c = '.' || c = ':' || c = '%') = some '.' := by
      refine find?_eq_of_unique dot rfl fun c member special => ?_
      rcases digits c member with rfl | digit
      · rfl
      · simp only [Bool.or_eq_true, decide_eq_true_eq] at special
        rcases special with (rfl | rfl) | rfl
        · rfl
        all_goals cases digit
    rw [text, String.toList_ofList, first, same]
    simp only [parseIPv4_appendTo4 length fun byte member => small byte (sub byte member)]
    rfl
  · obtain ⟨colon, chars⟩ := appendTo6_chars sixteen small
    have first : (appendTo6 ip).find? (fun c => c = '.' || c = ':' || c = '%') = some ':' := by
      refine find?_eq_of_unique colon rfl fun c member special => ?_
      have allowed := chars c member
      simp only [Bool.or_eq_true, decide_eq_true_eq] at special
      rcases special with (rfl | rfl) | rfl
      · cases allowed
      · rfl
      · cases allowed
    have zone : '%' ∉ appendTo6 ip := fun member => by cases chars '%' member
    rw [text, String.toList_ofList, first, same]
    simp only [if_neg zone]
    exact parseIPv6_appendTo6 sixteen small

end Text

/-! ## Hosts and ports -/

section Ports

variable {host port : List Char}

theorem idxOf?_append_cons {front rest : List Char} {c : Char} (absent : c ∉ front) :
    (front ++ c :: rest).idxOf? c = some front.length := by
  rw [List.idxOf?_eq_some_iff]
  refine ⟨by simp, by simp, fun j before same => absent ?_⟩
  rw [List.getElem_append_left before] at same
  exact same ▸ List.getElem_mem before

/-- The place of the last colon. -/
theorem last_colon (digits : ∀ c ∈ port, c ≠ ':') :
    (host ++ ':' :: port).reverse.idxOf? ':' = some port.length ∧
      (host ++ ':' :: port).length - 1 - port.length = host.length := by
  constructor
  · rw [List.reverse_append, List.reverse_cons, List.append_assoc, List.singleton_append,
      idxOf?_append_cons fun member => digits ':' (List.mem_reverse.mp member) rfl, List.length_reverse]
  · rw [List.length_append, List.length_cons]
    omega

theorem drop_colon : (host ++ ':' :: port).drop (host.length + 1) = port := by
  rw [List.drop_append]
  simp

/-- The brackets are in the host. -/
theorem mem_host_of_bracket (digits : ∀ c ∈ port, c ∉ [':', '[', ']']) {c : Char} (bracket : c ∈ ['[', ']'])
    (member : c ∈ host ++ ':' :: port) : c ∈ host := by
  rcases List.mem_append.mp member with front | back
  · exact front
  · rcases List.mem_cons.mp back with rfl | back
    · exact absurd bracket (by decide)
    · exact absurd (List.mem_cons_of_mem _ bracket) (digits c back)

/-- A port is taken off; only brackets can be in the way. -/
theorem splitHostPort_plain (digits : ∀ c ∈ port, c ∉ [':', '[', ']']) (colon : ':' ∉ host)
    (first : host.head? ≠ some '[') :
    splitHostPort (String.ofList (host ++ ':' :: port)) = .ok (String.ofList host, String.ofList port) ∨
      ('[' ∈ host ∨ ']' ∈ host) ∧
        ∃ message, splitHostPort (String.ofList (host ++ ':' :: port)) = .error message := by
  obtain ⟨last, place⟩ := @last_colon host port fun c member same => digits c member (by simp [same])
  have bare : (host ++ ':' :: port).head? ≠ some '[' := by
    cases host with
    | nil => exact fun same => absurd (Option.some.inj same) (by decide)
    | cons c rest => exact first
  unfold splitHostPort
  rw [String.toList_ofList]
  simp only [last, place, if_neg bare, List.take_left, if_neg colon, List.drop_zero, drop_colon]
  by_cases opening : '[' ∈ host ++ ':' :: port
  · rw [if_pos opening]
    exact Or.inr ⟨Or.inl (mem_host_of_bracket digits (by decide) opening), _, rfl⟩
  rw [if_neg opening]
  by_cases closing : ']' ∈ host ++ ':' :: port
  · rw [if_pos closing]
    exact Or.inr ⟨Or.inr (mem_host_of_bracket digits (by decide) closing), _, rfl⟩
  · rw [if_neg closing]
    exact Or.inl rfl

/-- The same for a host in brackets. -/
theorem splitHostPort_brackets (digits : ∀ c ∈ port, c ∉ [':', '[', ']']) :
    splitHostPort (String.ofList (('[' :: host ++ [']']) ++ ':' :: port)) =
        .ok (String.ofList host, String.ofList port) ∨
      ('[' ∈ host ∨ ']' ∈ host) ∧
        ∃ message, splitHostPort (String.ofList (('[' :: host ++ [']']) ++ ':' :: port)) =
          .error message := by
  obtain ⟨last, place⟩ := @last_colon ('[' :: host ++ [']']) port fun c member same =>
    digits c member (by simp [same])
  have bare : (('[' :: host ++ [']']) ++ ':' :: port).head? = some '[' := rfl
  have length : ('[' :: host ++ [']']).length = host.length + 2 := by simp
  unfold splitHostPort
  rw [String.toList_ofList]
  simp only [last, place, if_pos bare, drop_colon]
  by_cases closing : ']' ∈ host
  · -- the host ends too early
    obtain ⟨k, inside, at_k⟩ := List.getElem_of_mem closing
    cases found : (('[' :: host ++ [']']) ++ ':' :: port).idxOf? ']' with
    | none => exact absurd (by simp) (List.idxOf?_eq_none_iff.mp found)
    | some close =>
        obtain ⟨bound, here, before⟩ := List.idxOf?_eq_some_iff.mp found
        have early : close ≤ k + 1 := by
          by_contra later
          refine before (k + 1) (by omega) ?_
          simpa [List.getElem_append, inside] using at_k
        simp only [length]
        rw [if_neg (by simp; omega), if_neg (by omega)]
        refine Or.inr ⟨Or.inr closing, ?_⟩
        split_ifs <;> exact ⟨_, rfl⟩
  · have close : (('[' :: host ++ [']']) ++ ':' :: port).idxOf? ']' = some (host.length + 1) := by
      rw [List.append_assoc, List.singleton_append, idxOf?_append_cons (by simp [closing])]
      rfl
    have front : ((('[' :: host ++ [']']) ++ ':' :: port).take (host.length + 1)).drop 1 = host := by
      simp
    have back : ((('[' :: host ++ [']']) ++ ':' :: port).drop (host.length + 1 + 1)) = ':' :: port := by
      simp
    have plain : ']' ∉ ':' :: port := by
      intro member
      rcases List.mem_cons.mp member with same | member
      · exact absurd same (by decide)
      · exact digits ']' member (by simp)
    simp only [close, length, front, back, if_neg plain]
    rw [if_neg (by simp), if_pos trivial]
    by_cases opening : '[' ∈ (('[' :: host ++ [']']) ++ ':' :: port).drop 1
    · rw [if_pos opening]
      refine Or.inr ⟨Or.inl ?_, _, rfl⟩
      have inner : '[' ∈ (host ++ [']']) ++ ':' :: port := opening
      have closed := mem_host_of_bracket digits (by decide) inner
      simpa using closed
    · rw [if_neg opening]
      exact Or.inl rfl

/-- `SplitHostPort` after `JoinHostPort`; only brackets can be in the way. -/
theorem splitHostPort_joinHostPort {host : String} (port : ℕ) (first : host.toList.head? ≠ some '[') :
    splitHostPort (joinHostPort host port) = .ok (host, toString port) ∨
      ('[' ∈ host.toList ∨ ']' ∈ host.toList) ∧
        ∃ message, splitHostPort (joinHostPort host port) = .error message := by
  have digits : ∀ c ∈ (toString port).toList, c ∉ [':', '[', ']'] := by
    intro c member special
    rw [Nat.toString_eq_repr, Nat.toList_repr] at member
    have digit := Nat.isDigit_of_mem_toDigits (by decide) (by decide) member
    simp only [List.mem_cons, List.not_mem_nil, or_false] at special
    rcases special with rfl | rfl | rfl <;> cases digit
  unfold joinHostPort
  by_cases colon : ':' ∈ host.toList
  · rw [if_pos colon]
    have joined : s!"[{host}]:{port}" =
        String.ofList (('[' :: host.toList ++ [']']) ++ ':' :: (toString port).toList) := by
      apply String.toList_injective
      simp only [String.toList_append, String.toList_ofList, List.append_assoc]
      rfl
    have split := @splitHostPort_brackets host.toList _ digits
    rw [String.ofList_toList, String.ofList_toList, ← joined] at split
    exact split
  · rw [if_neg colon]
    have joined : s!"{host}:{port}" = String.ofList (host.toList ++ ':' :: (toString port).toList) := by
      apply String.toList_injective
      simp only [String.toList_append, String.toList_ofList, List.append_assoc]
      rfl
    have split := splitHostPort_plain digits colon first
    rw [String.ofList_toList, String.ofList_toList, ← joined] at split
    exact split

theorem atoi_toString {port : ℕ} (small : port < 2 ^ 63) : atoi (toString port) = some (port : ℤ) := by
  have digits := fun c => Nat.isDigit_of_mem_toDigits (b := 10) (n := port) (c := c) (by decide) (by decide)
  have value : (Nat.toDigits 10 port).foldl
      (fun value digit => value * 10 + (digit.toNat - '0'.toNat)) 0 = port := by
    have read := Nat.ofDigitChars_ten_toDigits (n := port)
    rw [Nat.ofDigitChars_eq_foldl] at read
    simpa only [Nat.mul_comm] using read
  unfold atoi
  rw [Nat.toString_eq_repr, Nat.toList_repr]
  split
  · rename_i minus
    cases digits '-' (minus ▸ List.mem_cons_self)
  · rename_i plus
    cases digits '+' (plus ▸ List.mem_cons_self)
  · have all : (Nat.toDigits 10 port).all Char.isDigit = true := List.all_eq_true.mpr digits
    simp only [value, all, Nat.toDigits_ne_nil]
    rw [if_neg (by simp), if_neg (by omega)]
    rfl

end Ports

/-! ## The address of a peer -/

/-- The address of the other end of a connection. -/
structure PeerAddr extends TCPAddr where
  sized : ip.length = 4 ∨ ip.length = 16
  small : ∀ byte ∈ ip, byte < 256
  connected : 1 ≤ port ∧ port ≤ 65535

/-- A text with a zone in it is no address. -/
theorem parseIP_of_percent {text : String} (zone : '%' ∈ text.toList) : parseIP text = none := by
  unfold parseIP
  split
  · have nowhere : parseIPv4 text.toList = none := by
      unfold parseIPv4
      simp only
      split
      · rw [← Option.not_isSome_iff_eq_none, isSome_mapM_octet, List.all_eq_true]
        intro all
        rcases @mem_splitOn '%' '.' _ zone with dot | ⟨field, listed, inside⟩
        · exact absurd dot (by decide)
        · have digits : field.all Char.isDigit = true := by
            by_contra other
            have read := all field listed
            unfold octet at read
            rw [if_pos (by simp [other])] at read
            cases read
          exact absurd (List.all_eq_true.mp digits '%' inside) (by decide)
      · rfl
    rw [nowhere]
    rfl
  · rw [if_pos zone]
  · rfl

theorem length_to16 {ip : List ℕ} (sized : ip.length = 4 ∨ ip.length = 16) : (to16 ip).length = 16 := by
  unfold to16
  rcases sized with four | sixteen
  · rw [if_pos four, List.length_append, four]
    rfl
  · rw [if_neg (by omega), sixteen]

theorem to16_lt {ip : List ℕ} (small : ∀ byte ∈ ip, byte < 256) : ∀ byte ∈ to16 ip, byte < 256 := by
  unfold to16
  split
  · intro byte member
    rcases List.mem_append.mp member with front | back
    · have each : ∀ byte ∈ v4InV6Prefix, byte < 256 := by decide
      exact each byte front
    · exact small byte back
  · exact small

theorem to16_to16 {ip : List ℕ} (sized : ip.length = 4 ∨ ip.length = 16) : to16 (to16 ip) = to16 ip := by
  have sixteen := length_to16 sized
  conv_lhs => rw [to16]
  exact if_neg (by omega)

section Peer

variable {peer : PeerAddr}

/-- The text of an address has no brackets in it. -/
theorem ipString_chars {ip : List ℕ} (sized : ip.length = 4 ∨ ip.length = 16)
    (small : ∀ byte ∈ ip, byte < 256) :
    ∀ c ∈ (ipString ip).toList, c = '.' ∨ c.isDigit = true ∨ isAddressChar c = true := by
  intro c member
  rcases ipString_cases sized with ⟨four, length, -, -, text⟩ | ⟨sixteen, -, text⟩
  · rw [text, String.toList_ofList] at member
    exact ((appendTo4_chars length).2 c member).imp_right Or.inl
  · rw [text, String.toList_ofList] at member
    exact Or.inr (Or.inr ((appendTo6_chars sixteen small).2 c member))

theorem ipString_bracket {ip : List ℕ} (sized : ip.length = 4 ∨ ip.length = 16)
    (small : ∀ byte ∈ ip, byte < 256) {c : Char} (bracket : c ∈ ['[', ']']) :
    c ∉ (ipString ip).toList := by
  intro member
  have allowed := ipString_chars sized small c member
  simp only [List.mem_cons, List.not_mem_nil, or_false] at bracket
  rcases bracket with rfl | rfl <;> exact absurd allowed (by decide)

theorem PeerAddr.host_eq (peer : PeerAddr) :
    peer.host = if peer.zone ≠ "" then ipString peer.ip ++ "%" ++ peer.zone else ipString peer.ip := by
  have some : peer.ip ≠ [] := by
    intro none
    have sized := peer.sized
    rw [none] at sized
    rcases sized with four | sixteen
    · cases four
    · cases sixteen
  unfold TCPAddr.host
  simp only [if_neg some]

/-- The text of an address does not begin with a bracket. -/
theorem PeerAddr.head_host (peer : PeerAddr) : peer.host.toList.head? ≠ some '[' := by
  have plain := ipString_bracket peer.sized peer.small (c := '[') (by decide)
  rw [peer.host_eq]
  split
  · rw [String.toList_append, String.toList_append]
    cases chars : (ipString peer.ip).toList with
    | nil => exact fun same => absurd (Option.some.inj same) (by decide)
    | cons c rest =>
        rintro same
        rw [chars, Option.some.inj same] at plain
        exact plain List.mem_cons_self
  · exact fun same => plain (List.mem_of_head? same)

/-- The host and the port of a peer without a zone are read as they were written. -/
theorem PeerAddr.splitHostPort_string (plain : peer.zone = "") :
    splitHostPort peer.string = .ok (ipString peer.ip, toString peer.port) := by
  have host : peer.host = ipString peer.ip := by
    rw [peer.host_eq, if_neg (by simp [plain])]
  unfold TCPAddr.string
  rcases splitHostPort_joinHostPort peer.port peer.head_host with split | ⟨bracket, -⟩
  · rw [split, host]
  · rw [host] at bracket
    rcases bracket with opening | closing
    · exact absurd opening (ipString_bracket peer.sized peer.small (by decide))
    · exact absurd closing (ipString_bracket peer.sized peer.small (by decide))

/-- The text of a peer with a zone has no address in it. -/
theorem PeerAddr.parseIP_of_zone (zoned : peer.zone ≠ "") {parts : String × String}
    (split : splitHostPort peer.string = .ok parts) : parseIP parts.1 = none := by
  unfold TCPAddr.string at split
  rcases splitHostPort_joinHostPort peer.port peer.head_host with read | ⟨-, message, failed⟩
  · rw [read] at split
    rw [← Except.ok.inj split]
    refine parseIP_of_percent ?_
    rw [peer.host_eq, if_pos zoned, String.toList_append, String.toList_append]
    exact List.mem_append_left _ (List.mem_append_right _ (by decide))
  · rw [failed] at split
    cases split

end Peer

end GoText
