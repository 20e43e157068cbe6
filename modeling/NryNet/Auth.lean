import NryNet.AgentToken
import NryNet.Storage
import NryNet.Lib.Sha256

/-!
# Agent authentication (`internal/auth`)

`authenticateAgent` is the check every other path trusts: the text parses, the token row exists
and is enabled, and the presented secret hashes to the stored hash.  It reads the row in one
statement and records the use in a second one whose failure is ignored; the second statement is
`Store.touchToken`, and the two are kept apart because another connection may write in between.
-/

namespace NryNet.Auth

/-- `HashToken`. -/
def hashToken (value : String) : String := Sha256.hexDigest value

/-- `TokenParts`. -/
def tokenParts (value : String) : Except String (String × String) :=
  match AgentToken.parse value with
  | .error message => .error message
  | .ok parts => .ok (parts.id, parts.secret)

/-- The one message for an unknown, disabled or mistyped token. -/
def errInvalidToken : String := "agent token is invalid or disabled"

/-- `AuthenticateAgent` up to and including its `SELECT`; the token is returned with the time of
this use. -/
def authenticateAgent (s : Store) (value : String) (now : Time) : Except String Token :=
  match tokenParts value with
  | .error message => .error message
  | .ok (id, secret) =>
      match Table.select s.tokens (fun row => row.id) id with
      | none => .error errInvalidToken
      | some row =>
          if row.disabled then .error errInvalidToken
          else if hashToken secret = row.secretHash then
            .ok { row.toToken with lastUsed := some now }
          else .error errInvalidToken

/-- The row `CreateAgentToken` inserts. -/
def tokenRow (id name secret : String) (now : Time) : TokenRow where
  id := id
  name := name
  tokenPrefix := String.ofList (secret.toList.take 8)
  disabled := false
  lastUsed := none
  createdAt := now
  secretHash := hashToken secret

/-- `CreateAgentToken`, with the identifier and the secret that were drawn.  The result is the
token and its cleartext. -/
def createAgentToken (s : Store) (id name secret : String) (now : Time) :
    Except String (Store × Token × String) :=
  if name = "" then .error "token name is required"
  else
    match s.insertToken (tokenRow id name secret now) with
    | .error message => .error message
    | .ok s' => .ok (s', (tokenRow id name secret now).toToken, id ++ "." ++ secret)

variable {s : Store} {value : String} {now : Time} {token : Token}

/-- What a successful authentication says about the stored row. -/
theorem authenticateAgent_ok (accepted : authenticateAgent s value now = .ok token) :
    ∃ id secret row, tokenParts value = .ok (id, secret) ∧ row ∈ s.tokens ∧ row.id = id ∧
      row.disabled = false ∧ hashToken secret = row.secretHash ∧
      token = { row.toToken with lastUsed := some now } := by
  unfold authenticateAgent at accepted
  cases parts : tokenParts value with
  | error message => simp [parts] at accepted
  | ok pair =>
      obtain ⟨id, secret⟩ := pair
      cases found : Table.select s.tokens (fun row => row.id) id with
      | none => simp [parts, found] at accepted
      | some row =>
          obtain ⟨member, same⟩ := (Table.select_eq_some s.tokens_primary).mp found
          simp only [parts, found] at accepted
          split at accepted
          · cases accepted
          · rename_i enabled
            split at accepted
            · rename_i matches'
              refine ⟨id, secret, row, rfl, member, same, by simpa using enabled, matches', ?_⟩
              exact (Except.ok.inj accepted).symm
            · cases accepted

/-- Authentication as a statement about rows. -/
theorem authenticateAgent_eq_ok {id secret : String} {row : TokenRow}
    (parts : tokenParts value = .ok (id, secret)) (member : row ∈ s.tokens) (same : row.id = id)
    (enabled : row.disabled = false) (matches' : hashToken secret = row.secretHash) :
    authenticateAgent s value now = .ok { row.toToken with lastUsed := some now } := by
  have found : Table.select s.tokens (fun row => row.id) id = some row :=
    (Table.select_eq_some s.tokens_primary).mpr ⟨member, same⟩
  simp [authenticateAgent, parts, found, enabled, matches']

/-! ## A small database for concrete runs -/

/-- The cleartext of the token in `office`. -/
def officeToken : String := "token-1.office-secret"

/-- The client in `office`. -/
def officeClient : Client :=
  Store.helloRow "client-1" "token-1" ⟨"gateway", "device-1", "192.0.2.1", "linux", "1.0"⟩ 0

/-- One enabled token, and one enabled client that uses it. -/
def office : Store where
  tokens := [tokenRow "token-1" "office" "office-secret" 0]
  clients := [officeClient]
  revokedDevices := []
  tunnels := []
  tokens_primary := by simp
  clients_primary := by simp
  clients_device := by simp
  clients_token := by simp [officeClient, Store.helloRow, tokenRow]
  tunnels_client := by simp

/-- A tunnel of that client. -/
def officeTunnel : Tunnel where
  id := "tunnel-1"
  clientID := "client-1"
  name := "web"
  protocol := "tcp"
  visitorToken := ""
  localHost := "127.0.0.1"
  localPort := 80
  remotePort := 8080
  domain := ""
  status := .running
  ipAllowlist := []
  createdAt := 0
  updatedAt := 0

end NryNet.Auth
