import NryNet.Lib.ByteStream
import NryNet.Lib.GoTrim
import NryNet.Storage.Domains

/-!
# The requests of the certificate helper (`server/certbothelper`)

The helper runs with more rights than the server.  It reads a request that the server has written, or the
state it keeps about the certificate it manages, and takes the domain from there: as arguments of
`certbot`, and as a directory that the certificate is copied from.

Both readers bring the domain into the form of `normalizeDomain`; `ValidateDomain` then checks what comes
out of `normalizeDomain` when that is applied once more.  A text that ends in two dots loses one of them
each time (`canonical_iff`).

What `json.Unmarshal` and `mail.ParseAddress` return are parameters.
-/

namespace NryNet.Certbot

open GoText ByteStream

/-! ## The data -/

/-- `Request`. -/
structure Request where
  action : String
  domain : String
  email : String
  staging : Bool
  deriving DecidableEq, Repr

/-- `ManagedState`, without the time that nobody reads. -/
structure ManagedState where
  domain : String
  email : String
  deriving DecidableEq, Repr

/-- `json.Unmarshal`. -/
class Unmarshal where
  request : Bytes → Except String Request
  managedState : Bytes → Except String ManagedState

/-- The `Address` that `mail.ParseAddress` returns. -/
class AddressTable where
  parse : String → Option String

/-- `Options`, as far as the commands go. -/
structure Options where
  letsEncryptDir : String
  workDir : String
  logsDir : String
  fullchainPath : String
  privateKeyPath : String

/-! ## Validation -/

section Validation

variable [CaseTable]

/-- `normalizeDomain`, which the readers and `ValidateDomain` write out. -/
def normalizeDomain (domain : String) : String :=
  trimSpace (trimSuffix (toLower domain) '.')

/-- `labelPattern`. -/
def labelPattern (label : String) : Bool :=
  let edge (c : Char) : Bool := isSlugChar c && c ≠ '-'
  match label.toList with
  | [] => false
  | first :: rest =>
      edge first && (rest = [] ||
        rest.length ≤ 62 && rest.all isSlugChar && rest.getLast?.any edge)

/-- The characters that a shell might take for more than they are. -/
def shellChars : List Char :=
  ['\x27', '\x22', '\x60', '$', ';', '&', '|', '<', '>', '(', ')', '[', ']', '\x7b', '\x7d']

/-- `ValidateDomain`. -/
def validateDomain (domain : String) : Except String Unit :=
  let value := normalizeDomain domain
  if value = "" then .error "domain is required"
  else if startsWith value "-" = true ∨ containsAny value ([' ', '/', '*', '\\'] ++ shellChars) = true then
    .error "domain contains unsafe characters"
  else if startsWith value "*." = true ∨ (parseIP value).isSome = true then
    .error "domain must be a DNS name, not an IP or wildcard"
  else
    let labels := (value.toList.splitOn '.').map String.ofList
    if labels.length < 2 ∨ 253 < value.utf8ByteSize then
      .error "domain must be a fully qualified DNS name"
    else if labels.all labelPattern = true then .ok ()
    else .error "domain contains an invalid label"

variable [AddressTable]

/-- `ValidateEmail`. -/
def validateEmail (email : String) : Except String Unit :=
  let value := trimSpace email
  if value = "" then .error "email is required"
  else if containsAny value ([' ', '\t', '\r', '\n'] ++ shellChars) = true then
    .error "email contains unsafe characters"
  else if AddressTable.parse value = some value then .ok ()
  else .error "email is invalid"

/-- `ValidateRequest`. -/
def validateRequest (request : Request) : Except String Unit :=
  if request.action = "issue" then do
    validateDomain request.domain
    validateEmail request.email
  else if request.action = "renew" then
    if trimSpace request.domain ≠ "" ∨ trimSpace request.email ≠ "" then
      .error "renew request must not include domain or email"
    else .ok ()
  else .error "invalid certbot action"

/-! ## The files -/

variable [Unmarshal]

/-- `readRequest`; `file` is the content of the request file, or why it cannot be read. -/
def readRequest (file : Except String Bytes) : Except String Request :=
  match file with
  | .error err => .error ("read request: " ++ err)
  | .ok data =>
      if 65536 < data.length then .error "read request: file is too large"
      else
        match Unmarshal.request data with
        | .error err => .error ("parse request: " ++ err)
        | .ok request =>
            .ok { request with
              domain := normalizeDomain request.domain
              email := trimSpace request.email }

/-- `readManagedState`, behind `json.Unmarshal`. -/
def ManagedState.check (raw : ManagedState) : Except String ManagedState :=
  let state : ManagedState := { domain := normalizeDomain raw.domain, email := trimSpace raw.email }
  match validateDomain state.domain with
  | .error err => .error ("managed domain: " ++ err)
  | .ok () =>
      if state.email = "" then .ok state
      else
        match validateEmail state.email with
        | .error err => .error ("managed email: " ++ err)
        | .ok () => .ok state

/-- `readManagedState`. -/
def readManagedState (file : Except String Bytes) : Except String ManagedState :=
  match file with
  | .error err => .error err
  | .ok data =>
      match Unmarshal.managedState data with
      | .error err => .error ("parse managed certbot state: " ++ err)
      | .ok raw => raw.check

/-- The request to renew the certificate of a state. -/
def ManagedState.renewal (state : ManagedState) : Request :=
  { action := "renew", domain := state.domain, email := state.email, staging := false }

/-- `renewRequestFromManagedState`. -/
def renewRequestFromManagedState (file : Except String Bytes) : Except String Request :=
  (readManagedState file).map ManagedState.renewal

end Validation

/-! ## What the helper does with a request -/

/-- Arguments of a command: a word, or the name of an option and its value. -/
inductive Argument where
  | word (text : String)
  | option (name value : String)
  deriving DecidableEq, Repr

/-- `runCertbot`, up to the call: the arguments of `certbot`. -/
def certbotArgs (request : Request) (options : Options) : List Argument :=
  let args :=
    [.word (if request.action = "renew" then "renew" else "certonly"), .word "--standalone",
      .word "--non-interactive", .word "--agree-tos", .word "--reuse-key",
      .option "--preferred-challenges" "http", .option "--http-01-port" "80",
      .option "--config-dir" options.letsEncryptDir, .option "--work-dir" options.workDir,
      .option "--logs-dir" options.logsDir] ++
    if request.staging = true then [.word "--staging"] else []
  if request.action = "renew" then
    args ++ if request.domain ≠ "" then [.option "--cert-name" request.domain] else []
  else
    args ++ [.option "--cert-name" request.domain, .option "-d" request.domain,
      .option "-m" request.email]

/-- What the helper does outside: it calls `certbot`, or copies a file, which it finds in a directory under
`live`. -/
inductive Act where
  | certbot (args : List Argument)
  | copy (directory file target : String)
  deriving DecidableEq, Repr

/-- What the helper meets with. -/
structure Outcome where
  certbotFails : Bool
  fullchainFails : Bool

/-- `installCertificate`. -/
def installCertificate (domain : String) (options : Options) (outcome : Outcome) : List Act :=
  .copy domain "fullchain.pem" options.fullchainPath ::
    if outcome.fullchainFails = true then []
    else [.copy domain "privkey.pem" options.privateKeyPath]

/-- What `RunHelperWithOptions` and `RunRenewWithOptions` do with a request. -/
def serve (request : Request) (options : Options) (outcome : Outcome) : List Act :=
  .certbot (certbotArgs request options) ::
    if outcome.certbotFails = true then []
    else installCertificate request.domain options outcome

/-- The files. -/
structure Files where
  request : Except String Bytes
  managed : Except String Bytes

section Runs

variable [CaseTable] [AddressTable] [Unmarshal]

/-- The request that `RunHelperWithOptions` serves. -/
def Files.helperRequest (files : Files) : Except String Request := do
  let request ← readRequest files.request
  validateRequest request
  if request.action = "renew" then renewRequestFromManagedState files.managed else .ok request

/-- `RunHelperWithOptions`, once it has the lock. -/
def runHelper (files : Files) (options : Options) (outcome : Outcome) : List Act :=
  match files.helperRequest with
  | .error _ => []
  | .ok request => serve request options outcome

/-- `RunRenewWithOptions`, if it gets the lock. -/
def runRenew (files : Files) (options : Options) (outcome : Outcome) : List Act :=
  match renewRequestFromManagedState files.managed with
  | .error _ => []
  | .ok request => serve request options outcome

end Runs

/-! ## Canonical names -/

/-- A DNS name in its canonical form. -/
structure Canonical (domain : String) : Prop where
  qualified : 2 ≤ (domain.toList.splitOn '.').length
  labels : ∀ label ∈ domain.toList.splitOn '.', labelPattern (String.ofList label) = true
  short : domain.utf8ByteSize ≤ 253
  noHyphen : domain.toList.head? ≠ some '-'
  noEmpty : [] ∉ domain.toList.splitOn '.'
  noDot : domain.toList.getLast? ≠ some '.'

/-- The names that an act is about: a domain that `certbot` is told, or a directory under `live`. -/
def Act.names : Act → List String
  | .certbot args =>
      args.filterMap fun
        | .option "--cert-name" name => some name
        | .option "-d" name => some name
        | _ => none
  | .copy directory _ _ => [directory]

/-- Every name that the helper uses is canonical. -/
def OnlyCanonical (acts : List Act) : Prop :=
  ∀ act ∈ acts, ∀ name ∈ act.names, Canonical name

theorem names_certbotArgs (request : Request) (options : Options) :
    (Act.certbot (certbotArgs request options)).names =
      if request.action = "renew" then (if request.domain ≠ "" then [request.domain] else [])
      else [request.domain, request.domain] := by
  unfold Act.names certbotArgs
  by_cases staging : request.staging = true <;> by_cases renew : request.action = "renew" <;>
    by_cases named : request.domain = "" <;> simp [staging, renew, named]

/-- Every act is about the domain of the request, and `certbot` is always called. -/
theorem onlyCanonical_serve_iff {request : Request} (named : request.domain ≠ "") (options : Options)
    (outcome : Outcome) :
    OnlyCanonical (serve request options outcome) ↔ Canonical request.domain := by
  have told : request.domain ∈ (Act.certbot (certbotArgs request options)).names := by
    rw [names_certbotArgs]
    split <;> exact List.mem_cons_self
  constructor
  · intro every
    exact every _ List.mem_cons_self _ told
  · rintro canonical act member name listed
    suffices same : name = request.domain by
      rw [same]
      exact canonical
    rcases List.mem_cons.mp member with rfl | later
    · rw [names_certbotArgs] at listed
      split at listed
      · exact List.mem_singleton.mp listed
      · simpa using listed
    · split at later
      · cases later
      · unfold installCertificate at later
        split at later <;> simp only [List.mem_cons, List.not_mem_nil, or_false] at later
        · rw [later] at listed
          exact List.mem_singleton.mp listed
        · rcases later with rfl | rfl <;> exact List.mem_singleton.mp listed

section Names

variable [CaseTable] {domain : String}

omit [CaseTable] in
theorem labelPattern_chars {label : List Char} (matched : labelPattern (String.ofList label) = true) :
    label ≠ [] ∧ ∀ c ∈ label, isSlugChar c = true := by
  cases label with
  | nil => cases matched
  | cons first rest =>
      simp only [labelPattern, String.toList_ofList, Bool.and_eq_true, Bool.or_eq_true,
        decide_eq_true_eq] at matched
      obtain ⟨⟨edge, -⟩, rfl | ⟨⟨-, inner⟩, -⟩⟩ := matched
      · refine ⟨List.cons_ne_nil _ _, fun c member => ?_⟩
        rw [List.mem_singleton.mp member]
        exact edge
      · refine ⟨List.cons_ne_nil _ _, fun c member => ?_⟩
        rcases List.mem_cons.mp member with rfl | later
        · exact edge
        · exact List.all_eq_true.mp inner c later

theorem Canonical.normalizeDomain (canonical : Canonical domain) : normalizeDomain domain = domain := by
  obtain ⟨trimmed, lowered⟩ := fixed_of_plain
    (plain_of_labels fun label listed => (labelPattern_chars (canonical.labels label listed)).2)
  rw [Certbot.normalizeDomain, lowered, trimSuffix_of_ne canonical.noDot, trimmed]

/-- What `ValidateDomain` finds out, about the text it has made of the domain. -/
theorem canonical_of_validateDomain (valid : validateDomain domain = .ok ()) :
    Canonical (normalizeDomain domain) := by
  unfold validateDomain at valid
  simp only at valid
  split at valid
  · cases valid
  · split at valid
    · cases valid
    · rename_i clean
      split at valid
      · cases valid
      · split at valid
        · cases valid
        · rename_i size
          split at valid
          · rename_i each
            rw [List.length_map] at size
            have labels : ∀ label ∈ (normalizeDomain domain).toList.splitOn '.',
                labelPattern (String.ofList label) = true := fun label listed =>
              List.all_eq_true.mp each _ (List.mem_map_of_mem listed)
            have noEmpty : [] ∉ (normalizeDomain domain).toList.splitOn '.' := fun listed =>
              (labelPattern_chars (labels [] listed)).1 rfl
            refine ⟨by omega, labels, by omega, ?_, noEmpty, fun last => noEmpty (nil_mem_splitOn last)⟩
            intro first
            refine clean (Or.inl ?_)
            unfold startsWith
            obtain ⟨rest, chars⟩ := List.head?_eq_some_iff.mp first
            rw [chars]
            rfl
          · cases valid

theorem lower_of_normalized (stable : ∀ c, lower (lower c) = lower c) {text : String} {c : Char}
    (member : c ∈ (normalizeDomain text).toList) : lower c = c := by
  have before := mem_trimSuffix (mem_trimSpace member)
  rw [toList_toLower] at before
  obtain ⟨source, -, rfl⟩ := List.mem_map.mp before
  exact stable source

/-- **A domain that passes both readings is canonical, unless a dot is left at its end.** -/
theorem canonical_iff (stable : ∀ c, lower (lower c) = lower c) {text : String}
    (valid : validateDomain (normalizeDomain text) = .ok ()) :
    Canonical (normalizeDomain text) ↔ (normalizeDomain text).toList.getLast? ≠ some '.' := by
  refine ⟨Canonical.noDot, fun ended => ?_⟩
  have lowered : toLower (normalizeDomain text) = normalizeDomain text :=
    toLower_of_fixed fun c member => lower_of_normalized stable member
  have again : normalizeDomain (normalizeDomain text) = normalizeDomain text := by
    rw [normalizeDomain, lowered, trimSuffix_of_ne ended]
    exact trimSpace_idem _
  rw [← again]
  exact canonical_of_validateDomain valid

end Names

/-! ## The helper -/

section Helper

variable [CaseTable] [AddressTable] [Unmarshal] {files : Files}

/-- The state names a domain that is accepted although a dot is left at its end. -/
def Files.DottedState (files : Files) : Prop :=
  ∃ state, readManagedState files.managed = .ok state ∧ state.domain.toList.getLast? = some '.'

/-- The request asks for such a domain, or for the domain of such a state. -/
def Files.DottedRequest (files : Files) : Prop :=
  ∃ request, readRequest files.request = .ok request ∧ validateRequest request = .ok () ∧
    if request.action = "renew" then files.DottedState
    else request.domain.toList.getLast? = some '.'

omit [Unmarshal] in
theorem ManagedState.check_ok {raw state : ManagedState} (checked : raw.check = .ok state) :
    validateDomain state.domain = .ok () ∧ state.domain = normalizeDomain raw.domain := by
  unfold ManagedState.check at checked
  simp only at checked
  split at checked
  · cases checked
  · rename_i valid
    split at checked
    · rw [← Except.ok.inj checked]
      exact ⟨valid, rfl⟩
    · split at checked
      · cases checked
      · rw [← Except.ok.inj checked]
        exact ⟨valid, rfl⟩

theorem readManagedState_ok {file : Except String Bytes} {state : ManagedState}
    (read : readManagedState file = .ok state) :
    validateDomain state.domain = .ok () ∧ ∃ text, state.domain = normalizeDomain text := by
  unfold readManagedState at read
  split at read
  · cases read
  · split at read
    · cases read
    · rename_i raw _
      exact ⟨(ManagedState.check_ok read).1, raw.domain, (ManagedState.check_ok read).2⟩

omit [AddressTable] in
theorem readRequest_ok {file : Except String Bytes} {request : Request}
    (read : readRequest file = .ok request) : ∃ text, request.domain = normalizeDomain text := by
  unfold readRequest at read
  split at read
  · cases read
  · split at read
    · cases read
    · split at read
      · cases read
      · rename_i raw _
        rw [← Except.ok.inj read]
        exact ⟨raw.domain, rfl⟩

omit [Unmarshal] in
theorem validateDomain_of_validateRequest {request : Request} (valid : validateRequest request = .ok ())
    (other : request.action ≠ "renew") : validateDomain request.domain = .ok () := by
  unfold validateRequest at valid
  rw [if_neg other] at valid
  split at valid
  · cases checked : validateDomain request.domain with
    | error err =>
        rw [checked] at valid
        cases valid
    | ok => rfl
  · cases valid

omit [AddressTable] [Unmarshal] in
theorem ne_empty_of_validateDomain {domain : String} (valid : validateDomain domain = .ok ()) :
    domain ≠ "" := by
  rintro rfl
  rw [validateDomain, if_pos (show normalizeDomain "" = "" from rfl)] at valid
  cases valid

omit [AddressTable] [Unmarshal] in
/-- A request that is served is accepted, and its domain has been brought into form. -/
theorem onlyCanonical_accepted (stable : ∀ c, lower (lower c) = lower c) (request : Request)
    (valid : validateDomain request.domain = .ok ()) (formed : ∃ text, request.domain = normalizeDomain text)
    (options : Options) (outcome : Outcome) :
    OnlyCanonical (serve request options outcome) ↔ request.domain.toList.getLast? ≠ some '.' := by
  rw [onlyCanonical_serve_iff (ne_empty_of_validateDomain valid)]
  obtain ⟨text, same⟩ := formed
  rw [same] at valid ⊢
  exact canonical_iff stable valid

omit [CaseTable] [AddressTable] [Unmarshal] in
theorem onlyCanonical_nothing : OnlyCanonical [] := List.forall_mem_nil _

theorem runRenew_canonical_iff (stable : ∀ c, lower (lower c) = lower c) (files : Files)
    (options : Options) (outcome : Outcome) :
    OnlyCanonical (runRenew files options outcome) ↔ ¬ files.DottedState := by
  unfold runRenew renewRequestFromManagedState
  cases read : readManagedState files.managed with
  | error err =>
      refine ⟨fun _ => ?_, fun _ => onlyCanonical_nothing⟩
      rintro ⟨state, found, -⟩
      rw [read] at found
      cases found
  | ok state =>
      obtain ⟨valid, formed⟩ := readManagedState_ok read
      have accepted : OnlyCanonical (serve state.renewal options outcome) ↔ _ :=
        onlyCanonical_accepted stable state.renewal valid formed options outcome
      refine accepted.trans (not_congr ?_)
      refine ⟨fun dotted => ⟨state, read, dotted⟩, ?_⟩
      rintro ⟨other, found, dotted⟩
      rw [read] at found
      obtain rfl := Except.ok.inj found
      exact dotted

theorem runHelper_canonical_iff (stable : ∀ c, lower (lower c) = lower c) (files : Files)
    (options : Options) (outcome : Outcome) :
    OnlyCanonical (runHelper files options outcome) ↔ ¬ files.DottedRequest := by
  have same (request : Request) (read : readRequest files.request = .ok request) :
      files.DottedRequest ↔ validateRequest request = .ok () ∧
        if request.action = "renew" then files.DottedState
        else request.domain.toList.getLast? = some '.' := by
    constructor
    · rintro ⟨other, found, dotted⟩
      rw [read] at found
      rw [Except.ok.inj found]
      exact dotted
    · exact fun dotted => ⟨request, read, dotted⟩
  cases read : readRequest files.request with
  | error err =>
      have nothing : files.helperRequest = .error err := by
        simp only [Files.helperRequest, read]
        rfl
      simp only [runHelper, nothing]
      refine ⟨fun _ => ?_, fun _ => onlyCanonical_nothing⟩
      rintro ⟨request, found, -⟩
      rw [read] at found
      cases found
  | ok request =>
      rw [same request read]
      cases valid : validateRequest request with
      | error err =>
          have nothing : files.helperRequest = .error err := by
            simp only [Files.helperRequest, read, bind, Except.bind, valid]
          simp only [runHelper, nothing]
          exact ⟨fun _ => nofun, fun _ => onlyCanonical_nothing⟩
      | ok =>
          have served : files.helperRequest =
              if request.action = "renew" then renewRequestFromManagedState files.managed
              else .ok request := by
            simp only [Files.helperRequest, read, bind, Except.bind, valid]
          by_cases renew : request.action = "renew"
          · rw [if_pos renew] at served
            have renewal : runHelper files options outcome = runRenew files options outcome := by
              simp only [runHelper, runRenew, served]
            rw [renewal, runRenew_canonical_iff stable, if_pos renew]
            simp only [true_and]
          · rw [if_neg renew] at served
            have issue := validateDomain_of_validateRequest valid renew
            simp only [runHelper, served]
            rw [onlyCanonical_accepted stable request issue (readRequest_ok read), if_neg renew]
            simp only [true_and]

/-- **The helper acts on canonical names, unless a dot is left at the end of a domain that was
accepted.** -/
theorem acts_on_canonical_names_iff (stable : ∀ c, lower (lower c) = lower c) (files : Files)
    (options : Options) (outcome : Outcome) :
    (OnlyCanonical (runHelper files options outcome) ↔ ¬ files.DottedRequest) ∧
      (OnlyCanonical (runRenew files options outcome) ↔ ¬ files.DottedState) :=
  ⟨runHelper_canonical_iff stable files options outcome,
    runRenew_canonical_iff stable files options outcome⟩

end Helper

/-! ## Two requests -/

/-- The request for a certificate. -/
def issueFile (domain : String) : Bytes :=
  ("\x7b\"action\":\"issue\",\"domain\":\"" ++ domain ++
    "\",\"email\":\"admin@example.com\"\x7d").toUTF8.toList

/-- `json.Unmarshal`, for requests of this form about three domains. -/
@[reducible] def Unmarshal.issue : Unmarshal where
  request data :=
    match ["nrynet.example.com", "www.example.com", "example.com.."].find? fun domain => data = issueFile domain with
    | some domain =>
        .ok { action := "issue", domain, email := "admin@example.com", staging := false }
    | none => .error "invalid character"
  managedState _ := .error "unexpected end of JSON input"

/-- `mail.ParseAddress`, for addresses without a name. -/
@[reducible] def AddressTable.plain : AddressTable := ⟨some⟩

/-- The request, before there is a managed state. -/
def Files.issue (domain : String) : Files where
  request := .ok (issueFile domain)
  managed := .error "file does not exist"

/-- `DefaultOptions`. -/
def Options.default : Options where
  letsEncryptDir := "/etc/letsencrypt"
  workDir := "/var/lib/nrynet/certbot/work"
  logsDir := "/var/log/nrynet/certbot"
  fullchainPath := "/opt/nrynet/tls/fullchain.pem"
  privateKeyPath := "/opt/nrynet/tls/privkey.pem"

/-- The helper acts on a name without a dot at its end. -/
theorem canonical_name_used :
    let _ := CaseTable.ascii
    let _ := AddressTable.plain
    let _ := Unmarshal.issue
    OnlyCanonical (runHelper (.issue "nrynet.example.com") .default
      { certbotFails := false, fullchainFails := false }) := by
  intro _ _ _
  refine (acts_on_canonical_names_iff lower_lower_ascii _ _ _).1.mpr ?_
  rintro ⟨request, read, -, dotted⟩
  have named : readRequest (Files.issue "nrynet.example.com").request =
      .ok { action := "issue", domain := "nrynet.example.com", email := "admin@example.com"
            staging := false } := by
    decide +kernel
  rw [named] at read
  rw [← Except.ok.inj read, if_neg (by decide)] at dotted
  revert dotted
  decide +kernel

/-- `certbot` is told `example.com.`, and the certificate is copied from the directory of this name. -/
theorem dotted_name_used :
    let _ := CaseTable.ascii
    let _ := AddressTable.plain
    let _ := Unmarshal.issue
    let acts := runHelper (.issue "example.com..") .default
      { certbotFails := false, fullchainFails := false }
    (∃ act ∈ acts, "example.com." ∈ act.names) ∧ ¬ OnlyCanonical acts := by
  intro _ _ _ acts
  have used : ∃ act ∈ acts, "example.com." ∈ act.names := by decide +kernel
  refine ⟨used, fun every => ?_⟩
  obtain ⟨act, member, listed⟩ := used
  exact (every act member _ listed).noDot (by decide +kernel)

end NryNet.Certbot
