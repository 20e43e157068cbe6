import NryNet.Lib.Slices
import Mathlib.Data.List.Nodup

/-!
# The server name of a TLS connection (`parseServerName` of `server/gateway/sniff.go`)

The gateway routes a TLS connection by the host name that the visitor's first message, the ClientHello,
asks for.  `parseServerName` walks over that message: a fixed part, three vectors that it skips, and the
extensions, which it searches for the server name.  All lengths are the visitor's.

Below is the parser, in the monad of functions that may panic, and then the format, from the sender's
side: `ClientHello` with its `encode`.  The loop of `findServerName` gets a number of rounds, and running
out of them counts as a panic, so that "it does not panic" includes "it terminates".
-/

namespace NryNet.Gateway

open ByteStream Sliced

/-! ## The parser -/

/-- `skipVector`. -/
def skipVector (data : Bytes) (position lengthBytes : ℕ) : Sliced String ℕ :=
  if data.length < position + lengthBytes then fail "truncated TLS vector"
  else do
    let first ← index data position
    let length ← (if lengthBytes = 2 then do uint 2 (← slice data position (position + 2))
      else pure first.toNat)
    let position := position + (lengthBytes + length)
    if data.length < position then fail "truncated TLS vector" else pure position

/-- `decodeServerName`. -/
def decodeServerName (data : Bytes) : Sliced String Bytes :=
  if data.length < 5 then fail "invalid SNI extension"
  else do
    let nameLength ← uint 2 (← slice data 3 5)
    let nameType ← index data 2
    if nameType ≠ 0 ∨ data.length < 5 + nameLength then fail "invalid SNI host name"
    else slice data 5 (5 + nameLength)

/-- The loop of `findServerName`. -/
def findServerNameLoop : ℕ → Bytes → Sliced String Bytes
  | 0, _ => none
  | rounds + 1, extensions =>
      if 4 ≤ extensions.length then do
        let kind ← uint 2 (← slice extensions 0 2)
        let length ← uint 2 (← slice extensions 2 4)
        if extensions.length < 4 + length then fail "TLS ClientHello has no SNI"
        else if kind = 0 then do decodeServerName (← slice extensions 4 (4 + length))
        else do findServerNameLoop rounds (← slice extensions (4 + length) extensions.length)
      else fail "TLS ClientHello has no SNI"

/-- `findServerName`.  A round takes at least four bytes. -/
def findServerName (extensions : Bytes) : Sliced String Bytes :=
  findServerNameLoop (extensions.length + 1) extensions

/-- `parseServerName`. -/
def parseServerName (handshake : Bytes) : Sliced String Bytes :=
  if handshake.length < 4 then fail "TLS record is not a ClientHello"
  else do
    if (← index handshake 0) ≠ 0x01 then fail "TLS record is not a ClientHello"
    else do
      let body ← slice handshake 4 handshake.length
      if body.length < 34 then fail "truncated TLS ClientHello"
      else do
        let position ← skipVector body 34 1
        let position ← skipVector body position 2
        -- the error of the third vector is replaced
        let position ← (skipVector body position 1).reporting fun _ => "truncated TLS extensions"
        if body.length < position + 2 then fail "truncated TLS extensions"
        else do
          let extensionsLength ← uint 2 (← slice body position (position + 2))
          let position := position + 2
          if body.length < position + extensionsLength then fail "truncated TLS extensions"
          else do findServerName (← slice body position (position + extensionsLength))

/-! ## Every byte string -/

/-- A position that `skipVector` returns is one of the data. -/
theorem returns_skipVector (data : Bytes) (position : ℕ) {lengthBytes : ℕ}
    (proper : lengthBytes = 1 ∨ lengthBytes = 2) :
    Returns (skipVector data position lengthBytes) (· ≤ data.length) := by
  refine returns_ite (fun _ => returns_fail _) fun room => ?_
  refine (returns_index (by omega)).bind fun first _ => ?_
  refine (?_ : Returns _ fun _ => True).bind fun length _ => ?_
  · refine returns_ite (fun two => ?_) fun _ => returns_pure trivial
    refine (returns_slice (by omega) (by omega)).bind fun digits exact => ?_
    exact returns_uint (by omega)
  · exact returns_ite (fun _ => returns_fail _) fun bound => returns_pure (Nat.le_of_not_lt bound)

theorem returns_decodeServerName (data : Bytes) :
    Returns (decodeServerName data) fun _ => True := by
  refine returns_ite (fun _ => returns_fail _) fun room => ?_
  refine (returns_slice (by omega) (by omega)).bind fun digits exact => ?_
  refine (returns_uint (by omega)).bind fun nameLength _ => ?_
  refine (returns_index (by omega)).bind fun nameType _ => ?_
  refine returns_ite (fun _ => returns_fail _) fun bound => ?_
  exact (returns_slice (by omega) (by omega)).imp fun _ _ => trivial

theorem returns_findServerNameLoop {rounds : ℕ} {extensions : Bytes}
    (enough : extensions.length < rounds) :
    Returns (findServerNameLoop rounds extensions) fun _ => True := by
  -- by induction on the rounds: what is left becomes shorter
  induction rounds generalizing extensions with
  | zero => exact absurd enough (Nat.not_lt_zero _)
  | succ rounds ih =>
      refine returns_ite (fun room => ?_) fun _ => returns_fail _
      refine (returns_slice (by omega) (by omega)).bind fun digits exact => ?_
      refine (returns_uint (by omega)).bind fun kind _ => ?_
      refine (returns_slice (by omega) (by omega)).bind fun digits exact => ?_
      refine (returns_uint (by omega)).bind fun length _ => ?_
      refine returns_ite (fun _ => returns_fail _) fun bound => ?_
      refine returns_ite (fun _ => ?_) fun _ => ?_
      · refine (returns_slice (by omega) (by omega)).bind fun data _ => ?_
        exact returns_decodeServerName data
      · refine (returns_slice (by omega) (by omega)).bind fun rest shorter => ?_
        exact ih (by omega)

theorem returns_findServerName (extensions : Bytes) :
    Returns (findServerName extensions) fun _ => True :=
  returns_findServerNameLoop (Nat.lt_succ_self _)

theorem returns_parseServerName (handshake : Bytes) :
    Returns (parseServerName handshake) fun _ => True := by
  refine returns_ite (fun _ => returns_fail _) fun room => ?_
  refine (returns_index (by omega)).bind fun kind _ => ?_
  refine returns_ite (fun _ => returns_fail _) fun _ => ?_
  refine (returns_slice (by omega) (by omega)).bind fun body _ => ?_
  refine returns_ite (fun _ => returns_fail _) fun _ => ?_
  refine (returns_skipVector body 34 (.inl rfl)).bind fun first _ => ?_
  refine (returns_skipVector body first (.inr rfl)).bind fun second _ => ?_
  refine ((returns_skipVector body second (.inl rfl)).reporting _).bind fun third _ => ?_
  refine returns_ite (fun _ => returns_fail _) fun _ => ?_
  refine (returns_slice (by omega) (by omega)).bind fun digits exact => ?_
  refine (returns_uint (by omega)).bind fun extensionsLength _ => ?_
  refine returns_ite (fun _ => returns_fail _) fun bound => ?_
  refine (returns_slice (by omega) (by omega)).bind fun extensions _ => ?_
  exact returns_findServerName extensions

/-! ## The format -/

/-- A vector: the length of its content in `width` bytes, and the content. -/
def vector (width : ℕ) (content : Bytes) : Bytes :=
  bigEndian width content.length ++ content

/-- An extension of a ClientHello. -/
structure Extension where
  kind : UInt16
  data : Bytes
  fits : data.length < 2 ^ 16

def Extension.encode (extension : Extension) : Bytes :=
  bigEndian 2 extension.kind.toNat ++ vector 2 extension.data

/-- An entry of a server_name extension.  Type 0 is host_name. -/
structure ServerName where
  nameType : UInt8
  name : Bytes
  fits : name.length < 2 ^ 16

def ServerName.encode (entry : ServerName) : Bytes :=
  entry.nameType :: vector 2 entry.name

/-- The data of a server_name extension. -/
def serverNameList (entries : List ServerName) : Bytes :=
  vector 2 (entries.flatMap ServerName.encode)

/-- A ClientHello.  A message of an old visitor has no block of extensions at all, and no message has
two extensions of one kind. -/
structure ClientHello where
  version : UInt16
  random : Bytes
  sessionID : Bytes
  cipherSuites : List UInt16
  compressionMethods : Bytes
  extensions : Option (List Extension)
  random_length : random.length = 32
  sessionID_fits : sessionID.length < 2 ^ 8
  cipherSuites_fit : 2 * cipherSuites.length < 2 ^ 16
  compressionMethods_fit : compressionMethods.length < 2 ^ 8
  extensions_fit : ((extensions.getD []).flatMap Extension.encode).length < 2 ^ 16
  distinct : ((extensions.getD []).map Extension.kind).Nodup

namespace ClientHello

/-- The cipher suites, two bytes each. -/
def cipherSuiteBytes (hello : ClientHello) : Bytes :=
  hello.cipherSuites.flatMap fun suite => bigEndian 2 suite.toNat

/-- What stands before the block of extensions. -/
def front (hello : ClientHello) : Bytes :=
  (bigEndian 2 hello.version.toNat ++ hello.random) ++ vector 1 hello.sessionID ++
    vector 2 hello.cipherSuiteBytes ++ vector 1 hello.compressionMethods

/-- The block of extensions. -/
def extensionBlock (hello : ClientHello) : Bytes :=
  match hello.extensions with
  | none => []
  | some extensions => vector 2 (extensions.flatMap Extension.encode)

/-- The handshake message: its type, the length of its body in three bytes, and the body. -/
def encode (hello : ClientHello) : Bytes :=
  0x01 :: vector 3 (hello.front ++ hello.extensionBlock)

end ClientHello

/-! ## Well-formed messages -/

section Vectors

variable {before content after : Bytes} {width : ℕ}

theorem length_vector (width : ℕ) (content : Bytes) :
    (vector width content).length = width + content.length := by
  rw [vector, List.length_append, length_bigEndian]

theorem uint_bigEndian {value : ℕ} (bound : value < 2 ^ 16) :
    (uint 2 (bigEndian 2 value) : Sliced String ℕ) = pure value := by
  rw [uint_eq (length_bigEndian 2 value).ge, List.take_of_length_le (length_bigEndian 2 value).le,
    ofBigEndian_bigEndian]
  exact congrArg pure (Nat.mod_eq_of_lt bound)

/-- A number of two bytes, where it stands. -/
theorem slice_bigEndian {low high : ℕ} (before after : Bytes) (value : ℕ)
    (low_eq : low = before.length) (high_eq : high = before.length + 2) :
    (slice (before ++ bigEndian 2 value ++ after) low high : Sliced String Bytes) =
      pure (bigEndian 2 value) :=
  slice_append before _ after low_eq (by rw [high_eq, length_bigEndian])

/-- The first byte of the length of a vector; a length of one byte is that byte. -/
theorem index_vector {position : ℕ} (proper : width = 1 ∨ width = 2)
    (fits : content.length < 256 ^ width) (here : position = before.length) :
    ∃ first : UInt8, (index (before ++ vector width content ++ after) position : Sliced String UInt8) =
      pure first ∧ (width = 1 → first.toNat = content.length) := by
  obtain ⟨last, rfl⟩ : ∃ last, width = last + 1 := ⟨width - 1, by omega⟩
  refine ⟨UInt8.ofNat (content.length / 256 ^ last), index_eq ?_, fun one => ?_⟩
  · rw [here, List.append_assoc, List.getElem?_append_right (Nat.le_refl _), Nat.sub_self]
    rfl
  · obtain rfl : last = 0 := Nat.succ.inj one
    rw [UInt8.toNat_ofNat', pow_zero, Nat.div_one]
    exact Nat.mod_eq_of_lt fits

/-- **A vector is skipped.** -/
theorem skipVector_vector {position : ℕ} (proper : width = 1 ∨ width = 2)
    (fits : content.length < 256 ^ width) (here : position = before.length) :
    skipVector (before ++ vector width content ++ after) position width =
      pure (before ++ vector width content).length := by
  have length := length_vector width content
  have total : position + (width + content.length) = (before ++ vector width content).length := by
    rw [List.length_append, length, here]
  have bound : (before ++ vector width content).length ≤
      (before ++ vector width content ++ after).length := by
    generalize before ++ vector width content = front
    rw [List.length_append]
    exact Nat.le_add_right _ _
  obtain ⟨first, first_eq, one⟩ : ∃ first : UInt8,
      (index (before ++ vector width content ++ after) position : Sliced String UInt8) = pure first ∧
        (width = 1 → first.toNat = content.length) := index_vector proper fits here
  have length_eq : (if width = 2 then
      (do uint 2 (← slice (before ++ vector width content ++ after) position (position + 2)))
      else pure first.toNat : Sliced String ℕ) = pure content.length := by
    split
    · rename_i two
      subst two
      rw [vector, ← List.append_assoc, List.append_assoc _ content after,
        slice_bigEndian _ _ _ here (by rw [here]), return_bind]
      exact uint_bigEndian fits
    · rename_i different
      rw [one (proper.resolve_right different)]
  rw [skipVector, if_neg (by omega), first_eq, return_bind, length_eq, return_bind, total]
  exact if_neg (Nat.not_lt.mpr bound)

end Vectors

/-! ## Well-formed messages -/

theorem Extension.length_encode (extension : Extension) :
    extension.encode.length = 4 + extension.data.length := by
  rw [encode, List.length_append, length_bigEndian, length_vector, ← Nat.add_assoc]

/-- What a round of the loop does with an extension. -/
theorem findServerNameLoop_cons (rounds : ℕ) (extension : Extension) (rest : Bytes) :
    findServerNameLoop (rounds + 1) (extension.encode ++ rest) =
      if extension.kind = 0 then decodeServerName extension.data
      else findServerNameLoop rounds rest := by
  have length := extension.length_encode
  have kind : (slice (extension.encode ++ rest) 0 2 : Sliced String Bytes) =
      pure (bigEndian 2 extension.kind.toNat) := by
    rw [Extension.encode, List.append_assoc]
    exact slice_bigEndian [] _ _ rfl rfl
  have size : (slice (extension.encode ++ rest) 2 4 : Sliced String Bytes) =
      pure (bigEndian 2 extension.data.length) := by
    rw [Extension.encode, vector, ← List.append_assoc, List.append_assoc _ extension.data rest]
    exact slice_bigEndian (bigEndian 2 _) _ _ (length_bigEndian 2 _).symm rfl
  have data : (slice (extension.encode ++ rest) 4 (4 + extension.data.length) : Sliced String Bytes) =
      pure extension.data := by
    rw [Extension.encode, vector, ← List.append_assoc]
    exact slice_append _ _ _ rfl rfl
  have tail : (slice (extension.encode ++ rest) (4 + extension.data.length)
      (extension.encode ++ rest).length : Sliced String Bytes) = pure rest := by
    rw [← length, slice_eq (by rw [List.length_append]; exact Nat.le_add_right _ _) (Nat.le_refl _),
      List.take_length, List.drop_left' rfl]
  have zero : (extension.kind.toNat = 0) = (extension.kind = 0) := by
    rw [← UInt16.toNat_inj]
    rfl
  have long : (extension.encode ++ rest).length = 4 + extension.data.length + rest.length := by
    rw [List.length_append, length]
  rw [findServerNameLoop, if_pos (by omega)]
  simp only [kind, size, data, tail, return_bind, uint_bigEndian extension.kind.toNat_lt,
    uint_bigEndian extension.fits, zero]
  exact if_neg (by omega)

/-- The first server_name extension decides. -/
theorem findServerNameLoop_find {rounds : ℕ} (extensions : List Extension)
    (enough : extensions.length < rounds) :
    findServerNameLoop rounds (extensions.flatMap Extension.encode) =
      match extensions.find? (·.kind = 0) with
      | none => fail "TLS ClientHello has no SNI"
      | some extension => decodeServerName extension.data := by
  induction extensions generalizing rounds with
  | nil =>
      obtain ⟨rounds, rfl⟩ := Nat.exists_eq_add_of_lt enough
      rfl
  | cons extension extensions ih =>
      obtain ⟨rounds, rfl⟩ : ∃ before, rounds = before + 1 := ⟨rounds - 1, by omega⟩
      rw [List.flatMap_cons, findServerNameLoop_cons, List.find?_cons]
      split
      · rename_i named
        simp only [named, decide_true]
      · rename_i other
        simp only [other, decide_false]
        exact ih (Nat.lt_of_succ_lt_succ enough)

/-- **The server name of a list of extensions.** -/
theorem findServerName_encode (extensions : List Extension) :
    findServerName (extensions.flatMap Extension.encode) =
      match extensions.find? (·.kind = 0) with
      | none => fail "TLS ClientHello has no SNI"
      | some extension => decodeServerName extension.data := by
  refine findServerNameLoop_find extensions (Nat.lt_succ_of_le ?_)
  induction extensions with
  | nil => exact Nat.zero_le _
  | cons extension extensions ih =>
      rw [List.flatMap_cons, List.length_append, extension.length_encode, List.length_cons]
      omega

/-- The host name that comes first. -/
theorem decodeServerName_list {entry : ServerName} (host : entry.nameType = 0)
    (entries : List ServerName) : decodeServerName (serverNameList (entry :: entries)) =
      pure entry.name := by
  have split : ∃ after size, serverNameList (entry :: entries) =
      (bigEndian 2 size ++ [0]) ++ bigEndian 2 entry.name.length ++ (entry.name ++ after) := by
    refine ⟨entries.flatMap ServerName.encode, ((entry :: entries).flatMap ServerName.encode).length, ?_⟩
    simp [serverNameList, vector, ServerName.encode, host]
  obtain ⟨after, size, split⟩ := split
  have front : (bigEndian 2 size ++ [(0 : UInt8)]).length = 3 := by
    rw [List.length_append, length_bigEndian]
    rfl
  have digits : (slice (serverNameList (entry :: entries)) 3 5 : Sliced String Bytes) =
      pure (bigEndian 2 entry.name.length) := by
    rw [split]
    exact slice_bigEndian _ _ _ front.symm (by rw [front])
  have kind : (index (serverNameList (entry :: entries)) 2 : Sliced String UInt8) = pure 0 := by
    rw [split]
    rfl
  have name : (slice (serverNameList (entry :: entries)) 5 (5 + entry.name.length) :
      Sliced String Bytes) = pure entry.name := by
    rw [split, ← List.append_assoc]
    have front' : ((bigEndian 2 size ++ [(0 : UInt8)]) ++ bigEndian 2 entry.name.length).length = 5 := by
      rw [List.length_append, front, length_bigEndian]
    exact slice_append _ _ _ front'.symm (by rw [front'])
  have long : (serverNameList (entry :: entries)).length = 5 + entry.name.length + after.length := by
    simp only [split, List.length_append, front, length_bigEndian]
    omega
  rw [decodeServerName, if_neg (by omega)]
  simp only [digits, kind, name, return_bind, uint_bigEndian entry.fits]
  refine if_neg ?_
  rintro (impossible | short)
  · exact impossible rfl
  · omega

namespace ClientHello

variable (hello : ClientHello)

theorem length_cipherSuiteBytes : hello.cipherSuiteBytes.length = 2 * hello.cipherSuites.length := by
  rw [cipherSuiteBytes]
  induction hello.cipherSuites with
  | nil => rfl
  | cons suite suites ih =>
      rw [List.flatMap_cons, List.length_append, ih, length_bigEndian, List.length_cons]
      omega

/-- The three vectors are skipped. -/
theorem skip_front (block : Bytes) :
    34 ≤ hello.front.length ∧ ∃ first second,
      skipVector (hello.front ++ block) 34 1 = pure first ∧
      skipVector (hello.front ++ block) first 2 = pure second ∧
      skipVector (hello.front ++ block) second 1 = pure hello.front.length := by
  have fixed : (bigEndian 2 hello.version.toNat ++ hello.random).length = 34 := by
    rw [List.length_append, length_bigEndian, hello.random_length]
  have suites : hello.cipherSuiteBytes.length < 256 ^ 2 := by
    rw [hello.length_cipherSuiteBytes]
    exact hello.cipherSuites_fit
  let upToSession := (bigEndian 2 hello.version.toNat ++ hello.random) ++ vector 1 hello.sessionID
  let upToSuites := upToSession ++ vector 2 hello.cipherSuiteBytes
  rw [front]
  refine ⟨?_, upToSession.length, upToSuites.length, ?_, ?_,
    skipVector_vector (.inl rfl) hello.compressionMethods_fit rfl⟩
  · simp only [List.length_append] at fixed ⊢
    omega
  · rw [List.append_assoc, List.append_assoc]
    exact skipVector_vector (.inl rfl) hello.sessionID_fits fixed.symm
  · rw [List.append_assoc]
    exact skipVector_vector (.inr rfl) suites rfl

/-- A message is read up to its extensions; `block` is what stands there, and what follows. -/
theorem parseServerName_block {length : Bytes} (three : length.length = 3) (block : Bytes) :
    parseServerName (0x01 :: (length ++ (hello.front ++ block))) =
      (if (hello.front ++ block).length < hello.front.length + 2 then fail "truncated TLS extensions"
      else do
        let extensionsLength ← uint 2 (← slice (hello.front ++ block) hello.front.length
          (hello.front.length + 2))
        let position := hello.front.length + 2
        if (hello.front ++ block).length < position + extensionsLength then
          fail "truncated TLS extensions"
        else do
          findServerName (← slice (hello.front ++ block) position (position + extensionsLength))) := by
  obtain ⟨fixed, first, second, skip_first, skip_second, skip_third⟩ := hello.skip_front block
  have body : (slice (0x01 :: (length ++ (hello.front ++ block))) 4
      (0x01 :: (length ++ (hello.front ++ block))).length : Sliced String Bytes) =
      pure (hello.front ++ block) := by
    rw [slice_eq (by simp [three]) (Nat.le_refl _), List.take_length, List.drop_succ_cons,
      List.drop_left' three]
  have kind : (index (0x01 :: (length ++ (hello.front ++ block))) 0 : Sliced String UInt8) =
      pure 0x01 := rfl
  have long : (0x01 :: (length ++ (hello.front ++ block))).length =
      4 + (hello.front ++ block).length := by
    rw [List.length_cons, List.length_append, three]
    omega
  have total : (hello.front ++ block).length = hello.front.length + block.length :=
    List.length_append
  rw [parseServerName, if_neg (by omega), kind, return_bind, if_neg (not_not.mpr rfl), body,
    return_bind, if_neg (by omega), skip_first, return_bind, skip_second, return_bind, skip_third,
    reporting_return, return_bind]

/-- **What is made of a ClientHello**, with anything after it in the record. -/
theorem parseServerName_encode {extensions : List Extension}
    (present : hello.extensions = some extensions) (rest : Bytes) :
    parseServerName (hello.encode ++ rest) =
      match extensions.find? (·.kind = 0) with
      | none => fail "TLS ClientHello has no SNI"
      | some extension => decodeServerName extension.data := by
  have fits := hello.extensions_fit
  rw [present, Option.getD_some] at fits
  rw [← findServerName_encode]
  generalize extensions_eq : extensions.flatMap Extension.encode = content at fits ⊢
  have block : hello.extensionBlock = vector 2 content := by
    rw [extensionBlock, present, ← extensions_eq]
  have digits : (slice (hello.front ++ (vector 2 content ++ rest)) hello.front.length
      (hello.front.length + 2) : Sliced String Bytes) = pure (bigEndian 2 content.length) := by
    rw [vector, ← List.append_assoc, ← List.append_assoc, List.append_assoc _ content rest]
    exact slice_bigEndian _ _ _ rfl rfl
  have data : (slice (hello.front ++ (vector 2 content ++ rest)) (hello.front.length + 2)
      (hello.front.length + 2 + content.length) : Sliced String Bytes) = pure content := by
    rw [vector, ← List.append_assoc, ← List.append_assoc]
    have front : (hello.front ++ bigEndian 2 content.length).length = hello.front.length + 2 := by
      rw [List.length_append, length_bigEndian]
    exact slice_append _ _ _ front.symm (by rw [front])
  have long : (hello.front ++ (vector 2 content ++ rest)).length =
      hello.front.length + 2 + content.length + rest.length := by
    simp only [List.length_append, length_vector]
    omega
  rw [encode, block, vector, List.cons_append, List.append_assoc, List.append_assoc,
    hello.parseServerName_block (length_bigEndian 3 _), if_neg (by omega), digits, return_bind,
    uint_bigEndian fits, return_bind, if_neg (by omega), data, return_bind]

/-- A ClientHello without extensions. -/
theorem parseServerName_encode_none (absent : hello.extensions = none) :
    parseServerName hello.encode = fail "truncated TLS extensions" := by
  have block : hello.extensionBlock = [] := by
    rw [extensionBlock, absent]
  rw [encode, block, vector, hello.parseServerName_block (length_bigEndian 3 _), List.append_nil]
  exact if_pos (Nat.lt_add_of_pos_right (by decide))

end ClientHello

/-- The extension of a kind that a message has is the one that is found. -/
theorem find?_of_nodup {extensions : List Extension} {extension : Extension}
    (distinct : (extensions.map Extension.kind).Nodup) (member : extension ∈ extensions)
    (named : extension.kind = 0) : extensions.find? (·.kind = 0) = some extension := by
  cases found_eq : extensions.find? (·.kind = 0) with
  | none =>
      exact absurd (decide_eq_true named) (List.find?_eq_none.mp found_eq extension member)
  | some found =>
      have zero := List.find?_some found_eq
      have same : found.kind = extension.kind := (of_decide_eq_true zero).trans named.symm
      exact congrArg some
        (List.inj_on_of_nodup_map distinct (List.mem_of_find?_eq_some found_eq) member same)

/-- **The server name of a connection.**  On no byte string does the parser loop or reach out of a
slice.  From a ClientHello in a record, whatever else it says and in whatever order, it takes the host
name that stands first in the server_name extension; if there is no such extension, it fails.

More may follow in the record, but nothing may follow a message that ends before its extensions:
`parseServerName` ignores the length of the handshake message, and would read what follows as extensions. -/
theorem server_name_parsed :
    (∀ handshake, parseServerName handshake ≠ none) ∧
    ∀ (hello : ClientHello) (rest : Bytes), (hello.extensions = none → rest = []) →
      (∀ extension ∈ hello.extensions.getD [], extension.kind = 0 →
        ∀ (entry : ServerName) (entries : List ServerName), entry.nameType = 0 →
          extension.data = serverNameList (entry :: entries) →
          parseServerName (hello.encode ++ rest) = some (.ok entry.name)) ∧
      ((∀ extension ∈ hello.extensions.getD [], extension.kind ≠ 0) →
        ∃ error, parseServerName (hello.encode ++ rest) = some (.error error)) := by
  refine ⟨fun handshake => (returns_parseServerName handshake).ne_none, fun hello rest ends => ?_⟩
  have distinct := hello.distinct
  cases present : hello.extensions with
  | none =>
      rw [ends present, List.append_nil]
      refine ⟨fun _ impossible => (nomatch impossible), fun _ => ⟨"truncated TLS extensions", ?_⟩⟩
      exact hello.parseServerName_encode_none present
  | some extensions =>
      have parsed := hello.parseServerName_encode present rest
      rw [present, Option.getD_some] at distinct
      refine ⟨fun extension member named entry entries host data => ?_,
        fun other => ⟨"TLS ClientHello has no SNI", ?_⟩⟩
      · rw [find?_of_nodup distinct member named] at parsed
        have decoded := decodeServerName_list host entries
        rw [← data] at decoded
        exact parsed.trans decoded
      · have missing : extensions.find? (·.kind = 0) = none :=
          List.find?_eq_none.mpr fun extension member named =>
            other extension member (of_decide_eq_true named)
        rw [missing] at parsed
        exact parsed

/-! ## A message -/

/-- The name that a visitor asks for. -/
def sampleName : ServerName where
  nameType := 0
  name := utf8 "secure.example"
  fits := by decide +kernel

/-- It comes after an extension of another kind. -/
def sampleExtensions : List Extension :=
  [⟨10, [0, 2, 0, 29], by decide⟩, ⟨0, serverNameList [sampleName], by decide +kernel⟩]

def sampleHello : ClientHello where
  version := 0x0303
  random := List.replicate 32 7
  sessionID := [1, 2, 3]
  cipherSuites := [0x1301, 0xc02f]
  compressionMethods := [0]
  extensions := some sampleExtensions
  random_length := rfl
  sessionID_fits := by decide
  cipherSuites_fit := by decide
  compressionMethods_fit := by decide
  extensions_fit := by decide +kernel
  distinct := by decide +kernel

theorem server_name_parsed_secure :
    parseServerName sampleHello.encode = some (.ok (utf8 "secure.example")) := by
  have parsed := (server_name_parsed.2 sampleHello [] fun _ => rfl).1
    ⟨0, serverNameList [sampleName], by decide +kernel⟩ (List.mem_of_getElem? (i := 1) rfl) rfl
    sampleName [] rfl rfl
  rw [List.append_nil] at parsed
  exact parsed

end NryNet.Gateway
