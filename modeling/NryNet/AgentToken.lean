import Mathlib.Data.List.Basic

/-!
# Agent token texts (`internal/agenttoken/token.go`)

A token text is `id.secret`, optionally followed by a third segment that pins the server's
certificate.  `parse` splits the text at the dots and checks the pin; it says nothing about whether
the token exists.
-/

namespace NryNet.AgentToken

/-- `certificatePinPrefix`. -/
def certificatePinMark : String := "spki-sha256-"

/-- `Parts`. -/
structure Parts where
  id : String
  secret : String
  certificatePin : String
  deriving DecidableEq, Repr

/-- The value of one character of the URL-safe base64 alphabet. -/
def base64Digit (c : Char) : Option ℕ :=
  if 'A' ≤ c ∧ c ≤ 'Z' then some (c.toNat - 'A'.toNat)
  else if 'a' ≤ c ∧ c ≤ 'z' then some (c.toNat - 'a'.toNat + 26)
  else if '0' ≤ c ∧ c ≤ '9' then some (c.toNat - '0'.toNat + 52)
  else if c = '-' then some 62
  else if c = '_' then some 63
  else none

/-- The bytes a list of base64 digits stands for without padding.  A last group of one digit is
corrupt; the unused low bits of a last group of two or three are ignored, as the decoder is not
strict. -/
def base64Bytes : List ℕ → Option (List ℕ)
  | a :: b :: c :: d :: rest =>
      (base64Bytes rest).map fun bytes =>
        [a * 4 + b / 16, b % 16 * 16 + c / 4, c % 4 * 64 + d] ++ bytes
  | [a, b, c] => some [a * 4 + b / 16, b % 16 * 16 + c / 4]
  | [a, b] => some [a * 4 + b / 16]
  | [_] => none
  | [] => some []

/-- `base64.RawURLEncoding.DecodeString`: line breaks are skipped, every other character outside
the alphabet is an error. -/
def decodeRawURL (text : String) : Option (List ℕ) :=
  ((text.toList.filter fun c => c ≠ '\n' ∧ c ≠ '\r').mapM base64Digit).bind base64Bytes

/-- `ValidCertificatePin`. -/
def validCertificatePin (pin : String) : Bool :=
  (decodeRawURL pin).any fun bytes => bytes.length == 32

/-- `Parse`. -/
def parse (value : String) : Except String Parts :=
  match (value.toList.splitOn '.').map String.ofList with
  | [id, secret] =>
      if id = "" ∨ secret = "" then .error "invalid agent token"
      else .ok { id, secret, certificatePin := "" }
  | [id, secret, pin] =>
      if id = "" ∨ secret = "" then .error "invalid agent token"
      else if certificatePinMark.toList.isPrefixOf pin.toList then
        let certificatePin := String.ofList (pin.toList.drop certificatePinMark.toList.length)
        if validCertificatePin certificatePin then .ok { id, secret, certificatePin }
        else .error "invalid agent token certificate pin"
      else .error "invalid agent token certificate pin"
  | _ => .error "invalid agent token"

end NryNet.AgentToken
