import Mathlib.Algebra.Group.Int.Defs
import Mathlib.Algebra.Group.Nat.Defs
import Mathlib.Data.List.Basic
import Mathlib.Data.List.DropRight
import Mathlib.Data.List.Infix

/-!
# Texts of Go

Some functions of the packages `strings`, `unicode` and `net`.  A text is handled as the list of its
characters; the characters that these functions look for are all ASCII, so it does not matter that Go
counts bytes.

The case tables of Unicode are a parameter, `CaseTable`, for the characters outside ASCII.  What
`url.Parse` finds behind the scheme of a URL and what `time.ParseDuration` returns are parameters as well.
-/

namespace GoText

/-! ## `strings` -/

/-- What `unicode.ToLower` does to the characters outside ASCII. -/
class CaseTable where
  toLower : Char → Char

/-- The table for texts without letters outside ASCII. -/
@[reducible] def CaseTable.ascii : CaseTable := ⟨fun c => c⟩

/-- `unicode.ToLower`. -/
def lower [CaseTable] (c : Char) : Char :=
  if c.toNat < 128 then c.toLower else CaseTable.toLower c

/-- `strings.ToLower`. -/
def toLower [CaseTable] (text : String) : String :=
  String.ofList (text.toList.map lower)

/-- `unicode.IsSpace`. -/
def isSpace (c : Char) : Bool :=
  ['\t', '\n', '\x0b', '\x0c', '\r', ' ', '\u0085', '\u00a0', '\u1680', '\u2028', '\u2029', '\u202f',
    '\u205f', '\u3000'].contains c || (0x2000 ≤ c.toNat && c.toNat ≤ 0x200a)

/-- `strings.TrimSpace`. -/
def trimSpace (text : String) : String :=
  String.ofList ((text.toList.dropWhile isSpace).rdropWhile isSpace)

/-- `strings.TrimSuffix`, for a suffix of one character. -/
def trimSuffix (text : String) (c : Char) : String :=
  if text.toList.getLast? = some c then String.ofList text.toList.dropLast else text

/-- `strings.ContainsAny`. -/
def containsAny (text : String) (chars : List Char) : Bool :=
  text.toList.any chars.contains

/-- `strings.Contains`. -/
def contains (text part : String) : Bool :=
  decide (part.toList <:+: text.toList)

/-- `strings.HasPrefix`. -/
def startsWith (text head : String) : Bool :=
  head.toList.isPrefixOf text.toList

/-- `strings.Trim`. -/
def trim (text : String) (cutset : List Char) : String :=
  String.ofList ((text.toList.dropWhile cutset.contains).rdropWhile cutset.contains)

/-- The characters that `strings.EqualFold` takes for a small letter of ASCII. -/
def foldsTo (letter c : Char) : Bool :=
  c = letter || c = letter.toUpper || (letter = 's' && c = '\u017f') || (letter = 'k' && c = '\u212a')

/-- `strings.EqualFold` with a word in small letters of ASCII. -/
def equalFold (text word : String) : Bool :=
  text.toList.length = word.toList.length && (List.zipWith foldsTo word.toList text.toList).all id

/-! ## Addresses (`net`) -/

/-- `net.SplitHostPort`. -/
def splitHostPort (hostport : String) : Except String (String × String) :=
  let chars := hostport.toList
  let addrErr (reason : String) : Except String (String × String) :=
    .error (if hostport = "" then reason else "address " ++ hostport ++ ": " ++ reason)
  match chars.reverse.idxOf? ':' with
  | none => addrErr "missing port in address"
  | some back =>
      -- the last colon
      let i := chars.length - 1 - back
      let split (host : List Char) (j k : ℕ) : Except String (String × String) :=
        if '[' ∈ chars.drop j then addrErr "unexpected '[' in address"
        else if ']' ∈ chars.drop k then addrErr "unexpected ']' in address"
        else .ok (String.ofList host, String.ofList (chars.drop (i + 1)))
      if chars.head? = some '[' then
        match chars.idxOf? ']' with
        | none => addrErr "missing ']' in address"
        | some close =>
            if close + 1 = chars.length then addrErr "missing port in address"
            else if close + 1 = i then split ((chars.take close).drop 1) 1 (close + 1)
            else if chars[close + 1]? = some ':' then addrErr "too many colons in address"
            else addrErr "missing port in address"
      else if ':' ∈ chars.take i then addrErr "too many colons in address"
      else split (chars.take i) 0 0

/-- `net.JoinHostPort`, with the port as a number. -/
def joinHostPort (host : String) (port : ℕ) : String :=
  if ':' ∈ host.toList then s!"[{host}]:{port}" else s!"{host}:{port}"

/-- One field of a dotted address: no leading zeros, and at most 255. -/
def octet (digits : List Char) : Option ℕ :=
  if digits = [] || !digits.all Char.isDigit then none
  else if digits.head? = some '0' && digits ≠ ['0'] then none
  else
    let value := digits.foldl (fun value digit => value * 10 + (digit.toNat - '0'.toNat)) 0
    if 255 < value then none else some value

/-- `parseIPv4Fields`. -/
def parseIPv4 (chars : List Char) : Option (List ℕ) :=
  let fields := chars.splitOn '.'
  if fields.length = 4 then fields.mapM octet else none

/-- The value of a hexadecimal digit. -/
def hexDigit (c : Char) : Option ℕ :=
  if c.isDigit then some (c.toNat - '0'.toNat)
  else if 'a' ≤ c ∧ c ≤ 'f' then some (c.toNat - 'a'.toNat + 10)
  else if 'A' ≤ c ∧ c ≤ 'F' then some (c.toNat - 'A'.toNat + 10)
  else none

/-- The loop of `parseIPv6`: `ip` are the bytes so far, and `ellipsis` is where `::` stood. -/
def readGroups : ℕ → List ℕ → Option ℕ → List Char → Option (List ℕ × Option ℕ × List Char)
  | 0, ip, ellipsis, chars => some (ip, ellipsis, chars)
  | rounds + 1, ip, ellipsis, chars =>
      let digits := chars.takeWhile fun c => (hexDigit c).isSome
      if digits = [] || 4 < digits.length then none
      else
        let rest := chars.drop digits.length
        if rest.head? = some '.' then
          -- an address of four bytes at the end
          if (ellipsis = none && ip.length ≠ 12) || 16 < ip.length + 4 then none
          else (parseIPv4 chars).map fun bytes => (ip ++ bytes, ellipsis, [])
        else
          let value := digits.foldl (fun value digit => value * 16 + (hexDigit digit).getD 0) 0
          let ip := ip ++ [value / 256, value % 256]
          match rest with
          | [] => some (ip, ellipsis, [])
          | ':' :: ':' :: [] => if ellipsis = none then some (ip, some ip.length, []) else none
          | ':' :: ':' :: more =>
              if ellipsis = none then readGroups rounds ip (some ip.length) more else none
          | ':' :: [] => none
          | ':' :: more => readGroups rounds ip ellipsis more
          | _ => none

/-- `parseIPv6`, for an address without a zone. -/
def parseIPv6 (chars : List Char) : Option (List ℕ) :=
  let leading := chars.take 2 = [':', ':']
  let rest := if leading then chars.drop 2 else chars
  if leading ∧ rest = [] then some (List.replicate 16 0)
  else
    (readGroups 8 [] (if leading then some 0 else none) rest).bind fun (ip, ellipsis, rest) =>
      if rest ≠ [] then none
      else if ip.length < 16 then
        ellipsis.map fun place =>
          ip.take place ++ List.replicate (16 - ip.length) 0 ++ ip.drop place
      else if ellipsis = none then some ip
      else none

/-- `net.ParseIP`: the sixteen bytes of the address. -/
def parseIP (text : String) : Option (List ℕ) :=
  match text.toList.find? fun c => c = '.' || c = ':' || c = '%' with
  | some '.' => (parseIPv4 text.toList).map fun bytes => List.replicate 10 0 ++ [255, 255] ++ bytes
  | some ':' => if '%' ∈ text.toList then none else parseIPv6 text.toList
  | _ => none

/-- `IP.IsLoopback`. -/
def isLoopback (ip : List ℕ) : Bool :=
  if ip.take 12 = List.replicate 10 0 ++ [255, 255] then ip[12]? = some 127
  else ip = List.replicate 15 0 ++ [1]

/-! ## `net/url` -/

/-- The characters of a scheme. -/
def isSchemeChar (c : Char) : Bool :=
  c.isAlphanum || c = '+' || c = '-' || c = '.'

/-- `getScheme`: the text in front of the first colon; `none` is an error. -/
def getScheme (rawURL : String) : Option String :=
  let scheme := rawURL.toList.takeWhile isSchemeChar
  match rawURL.toList.dropWhile isSchemeChar with
  | ':' :: _ =>
      match scheme with
      | [] => none
      | first :: _ => if first.isAlpha then some (String.ofList scheme) else some ""
  | _ => some ""

/-- `url.Parse` behind the scheme: the `Hostname` of the URL, or `none` for an error, and whether the
URL names a user. -/
class URLTable where
  hostname : String → Option String
  user : String → Bool

/-- The table for a scheme and a name, with or without a port and a path. -/
@[reducible] def URLTable.plain : URLTable where
  hostname rawURL :=
    some (String.ofList (((rawURL.toList.dropWhile isSchemeChar).drop 3).takeWhile fun c =>
      c ≠ '/' && c ≠ ':'))
  user _ := false

/-- `url.Parse`: the scheme and the `Hostname`. -/
def parseURL [CaseTable] [URLTable] (rawURL : String) : Option (String × String) :=
  (getScheme rawURL).bind fun scheme =>
    (URLTable.hostname rawURL).map fun host => (toLower scheme, host)

/-! ## `strconv` and `time` -/

/-- `strconv.ParseBool`. -/
def parseBool (text : String) : Except String Bool :=
  if text ∈ ["1", "t", "T", "TRUE", "true", "True"] then .ok true
  else if text ∈ ["0", "f", "F", "FALSE", "false", "False"] then .ok false
  else .error ("strconv.ParseBool: parsing \"" ++ text ++ "\": invalid syntax")

/-- `strconv.FormatBool`. -/
def formatBool (value : Bool) : String :=
  if value then "true" else "false"

/-- `time.ParseDuration`, in nanoseconds. -/
class DurationTable where
  parse : String → Except String ℤ

/-- The table for a whole number of seconds. -/
@[reducible] def DurationTable.seconds : DurationTable where
  parse text :=
    match text.toList.reverse with
    | 's' :: digits =>
        if digits = [] || !digits.all Char.isDigit then .error "time: invalid duration"
        else .ok (digits.foldr (fun digit value => value * 10 + (digit.toNat - '0'.toNat)) 0 * 10 ^ 9)
    | _ => .error "time: invalid duration"

/-! ## Lemmas -/

theorem parseBool_formatBool (value : Bool) : parseBool (formatBool value) = .ok value := by
  cases value <;> decide

/-- A text with a character that is no space is not blank. -/
theorem trimSpace_ne_empty {text : String} {c : Char} (member : c ∈ text.toList)
    (solid : isSpace c = false) : trimSpace text ≠ "" := by
  intro blank
  have nothing : (text.toList.dropWhile isSpace).rdropWhile isSpace = [] := by
    rw [← String.toList_ofList (l := List.rdropWhile _ _)]
    exact congrArg String.toList blank
  rw [List.rdropWhile_eq_nil_iff] at nothing
  -- what is left begins with something else than a space
  cases left : text.toList.dropWhile isSpace with
  | nil =>
      rw [List.dropWhile_eq_nil_iff] at left
      rw [left c member] at solid
      cases solid
  | cons head tail =>
      have first := List.head?_dropWhile_not isSpace text.toList
      rw [left, List.head?_cons] at first
      simp only at first
      rw [nothing head (left ▸ List.mem_cons_self)] at first
      cases first

/-- A text without spaces is left alone. -/
theorem trimSpace_of_solid {text : String} (solid : ∀ c ∈ text.toList, isSpace c = false) :
    trimSpace text = text := by
  have front : text.toList.dropWhile isSpace = text.toList := by
    rw [List.dropWhile_eq_self_iff]
    intro bound
    simp [solid _ (List.getElem_mem bound)]
  have back : text.toList.rdropWhile isSpace = text.toList := by
    rw [List.rdropWhile_eq_self_iff]
    intro nonempty
    simp [solid _ (List.getLast_mem nonempty)]
  rw [trimSpace, front, back, String.ofList_toList]

theorem trimSuffix_of_ne {text : String} {c : Char} (other : text.toList.getLast? ≠ some c) :
    trimSuffix text c = text :=
  if_neg other

theorem toLower_of_fixed [CaseTable] {text : String} (fixed : ∀ c ∈ text.toList, lower c = c) :
    toLower text = text := by
  rw [toLower, List.map_congr_left fixed, List.map_id', String.ofList_toList]

/-- A character of a text is a separator or part of a piece. -/
theorem mem_splitOn {c separator : Char} {chars : List Char} (member : c ∈ chars) :
    c = separator ∨ ∃ piece ∈ chars.splitOn separator, c ∈ piece := by
  induction chars with
  | nil => cases member
  | cons head tail ih =>
      rw [List.splitOn_cons_eq_if_modifyHead]
      obtain ⟨first, others, pieces⟩ :=
        List.exists_cons_of_ne_nil (List.splitOn_ne_nil separator tail)
      rw [pieces] at ih ⊢
      split
      · rename_i here
        rcases List.mem_cons.mp member with rfl | later
        · exact Or.inl (by simpa using here)
        · rcases ih later with same | ⟨piece, listed, inside⟩
          · exact Or.inl same
          · exact Or.inr ⟨piece, List.mem_cons_of_mem _ listed, inside⟩
      · rcases List.mem_cons.mp member with rfl | later
        · exact Or.inr ⟨_, List.mem_cons_self, List.mem_cons_self⟩
        · rcases ih later with same | ⟨piece, listed, inside⟩
          · exact Or.inl same
          · rcases List.mem_cons.mp listed with rfl | rest
            · exact Or.inr ⟨_, List.mem_cons_self, List.mem_cons_of_mem _ inside⟩
            · exact Or.inr ⟨piece, List.mem_cons_of_mem _ rest, inside⟩

/-- There is no separator in a piece. -/
theorem not_mem_of_mem_splitOn {separator : Char} {chars piece : List Char}
    (listed : piece ∈ chars.splitOn separator) : separator ∉ piece := by
  induction chars generalizing piece with
  | nil =>
      rw [List.splitOn_nil, List.mem_singleton] at listed
      rw [listed]
      exact List.not_mem_nil
  | cons head tail ih =>
      rw [List.splitOn_cons_eq_if_modifyHead] at listed
      obtain ⟨first, others, pieces⟩ :=
        List.exists_cons_of_ne_nil (List.splitOn_ne_nil separator tail)
      rw [pieces] at ih listed
      split at listed
      · rcases List.mem_cons.mp listed with rfl | later
        · exact List.not_mem_nil
        · exact ih later
      · rename_i other
        rcases List.mem_cons.mp listed with rfl | later
        · intro member
          rcases List.mem_cons.mp member with rfl | inside
          · exact other (by simp)
          · exact ih List.mem_cons_self inside
        · exact ih (List.mem_cons_of_mem _ later)

/-- A text that ends with a separator ends with an empty piece. -/
theorem nil_mem_splitOn {separator : Char} {chars : List Char}
    (last : chars.getLast? = some separator) : [] ∈ chars.splitOn separator := by
  obtain ⟨front, rfl⟩ := List.getLast?_eq_some_iff.mp last
  rw [List.splitOn_append_cons_self]
  exact List.mem_append_right _ (by simp)

theorem isSome_mapM_octet (fields : List (List Char)) :
    (fields.mapM octet).isSome = fields.all fun field => (octet field).isSome := by
  induction fields with
  | nil => rfl
  | cons field rest ih =>
      rw [List.mapM_cons, List.all_cons, ← ih]
      cases octet field with
      | none => rfl
      | some byte => cases rest.mapM octet <;> rfl

/-- An address has a colon in it. -/
theorem colon_mem_of_splitHostPort {hostport : String} {parts : String × String}
    (split : splitHostPort hostport = .ok parts) : ':' ∈ hostport.toList := by
  unfold splitHostPort at split
  simp only at split
  split at split
  · cases split
  · rename_i found
    obtain ⟨bound, here, -⟩ := List.idxOf?_eq_some_iff.mp found
    rw [← List.mem_reverse, ← here]
    exact List.getElem_mem bound

theorem toList_toLower [CaseTable] (text : String) :
    (toLower text).toList = text.toList.map lower := by
  rw [toLower, String.toList_ofList]

/-- A URL has one scheme: what begins with `ws:` does not begin with `wss:`. -/
theorem not_startsWith_of_scheme [CaseTable] {rawURL scheme : String}
    (parsed : getScheme rawURL = some scheme) (plain : toLower scheme = "ws") :
    startsWith (toLower rawURL) "wss://" = false := by
  have named : (scheme.toList.map lower) = ['w', 's'] := by
    rw [← toList_toLower, plain]
    rfl
  unfold getScheme at parsed
  simp only at parsed
  split at parsed
  · rename_i rest found
    have front : rawURL.toList.takeWhile isSchemeChar = scheme.toList := by
      split at parsed
      · cases parsed
      · split at parsed
        · rename_i chars _ _ same _
          rw [← Option.some.inj parsed, String.toList_ofList, same]
        · rw [← Option.some.inj parsed] at named
          cases named
    have whole : rawURL.toList = scheme.toList ++ ':' :: rest := by
      rw [← front, ← found, List.takeWhile_append_dropWhile]
    unfold startsWith
    rw [toList_toLower, whole, List.map_append, named]
    rfl
  · rw [← Option.some.inj parsed] at named
    cases named

example : DurationTable.seconds.parse "45s" = .ok 45000000000 := by decide +kernel
example : splitHostPort "[::1]:7001" = .ok ("::1", "7001") := by decide +kernel
example : (parseIP "::ffff:127.3.2.1").map isLoopback = some true := by decide +kernel
example : (parseIP "2001:db8::7").map isLoopback = some false := by decide +kernel

end GoText
