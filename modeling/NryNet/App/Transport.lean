import NryNet.App.BootSettings

/-!
# Changing the transport of a running server (`server/api/settings.go`, `server/app/transport_controller.go`)

Two writers change the settings of a running server.  The handler of the settings API stores the value of
a setting for the next start and keeps a copy of all values for its checks.  `TransportController` turns
TLS, the listeners for plain connections and automatic subdomains on and off at once, and stores the new
state of the switch; it does not tell the handler.

## The model

`Server` is everything these calls read or write.  Whether the database, `net.Listen` and `Close` succeed
is part of the call.  A listener is the address it is bound to, and `Close` frees the address also where
it returns an error.  `TransportStatus`, which the controller returns in every case, is left out.

## The result

A call that fails leaves nothing behind, with one exception: `SetPlainEnabled(false)`, when a listener
cannot be closed, or when the new state cannot be stored and the listeners cannot be opened again
(`failed_unchanged_iff`).
-/

namespace NryNet.App

open GoText Checks

/-! ## The settings API -/

/-- A value of JSON, as far as the settings tell values apart. -/
inductive SettingValue where
  | bool (value : Bool)
  | text (value : String)
  | other
  deriving DecidableEq, Repr

/-- `SettingItem`. -/
structure SettingItem where
  key : String
  value : SettingValue
  isMutable : Bool := true
  deriving DecidableEq, Repr

/-- The map of the handler. -/
abbrev Items := String → Option SettingItem

/-- `safeSettings`. -/
def safeSettings (cfg : ServerConfig) : List SettingItem :=
  [{ key := "server.p2p_enabled", value := .bool cfg.p2pEnabled },
   { key := "server.plain_enabled", value := .bool cfg.plainEnabled },
   { key := "server.listen", value := .text cfg.listen },
   { key := "server.plain_listen", value := .text cfg.plainListen },
   { key := "server.data_listen", value := .text cfg.dataListen },
   { key := "server.plain_data_listen", value := .text cfg.plainDataListen },
   { key := "server.public_data_address", value := .text cfg.publicDataAddress },
   { key := "server.quic_listen", value := .text cfg.quicListen },
   { key := "server.public_quic_address", value := .text cfg.publicQUICAddress },
   { key := "server.rendezvous_listen", value := .text cfg.rendezvousListen },
   { key := "server.public_rendezvous_address", value := .text cfg.publicRendezvous },
   { key := "server.http_listen", value := .text cfg.httpListen },
   { key := "server.tls.enabled", value := .bool cfg.tls.enabled },
   { key := "server.tls.cert_file", value := .text cfg.tls.certFile },
   { key := "server.tls.key_file", value := .text cfg.tls.keyFile },
   { key := "server.heartbeat_timeout", value := .text cfg.heartbeatText }]

/-- The map that `newSettingsHandler` makes. -/
def Items.index (items : List SettingItem) : Items :=
  items.foldl (fun indexed item => Function.update indexed item.key (some item)) fun _ => none

/-- `settingText`. -/
def settingText : SettingValue → String
  | .text value => value
  | .bool true => "true"
  | .bool false => "false"
  | .other => ""

/-- The value that the handler remembers: for a string, the text that was stored. -/
def SettingValue.shown (value : SettingValue) (text : String) : SettingValue :=
  match value with
  | .text _ => .text text
  | value => value

/-- `currentTextSetting`; a key that is missing has no value. -/
def Items.currentText (items : Items) (key : String) : String :=
  match items key with
  | some item => settingText item.value
  | none => ""

/-- `currentBoolSetting`. -/
def Items.currentBool (items : Items) (key : String) : Bool :=
  match items key with
  | some item => item.value = .bool true
  | none => false

/-- `isOptionalAddressSetting`. -/
def isOptionalAddressSetting (key : String) : Prop :=
  key = "server.plain_listen" ∨ key = "server.plain_data_listen"

instance (key : String) : Decidable (isOptionalAddressSetting key) :=
  inferInstanceAs (Decidable (_ ∨ _))

/-- The settings that have to be addresses. -/
def addressSettings : List String :=
  ["server.listen", "server.plain_listen", "server.data_listen", "server.plain_data_listen",
    "server.quic_listen", "server.rendezvous_listen", "server.http_listen",
    "server.public_data_address", "server.public_quic_address", "server.public_rendezvous_address"]

section Handler

variable [CaseTable] [DurationTable]

/-- `validateSetting`. -/
def validateSetting (key : String) (value : SettingValue) : Except String String :=
  let text := settingText value
  if text = "" ∧ isOptionalAddressSetting key then .ok ""
  else if text = "" ∧ key = "server.auto_subdomain.base_domain" then .ok ""
  else if text = "" then .error "setting value cannot be empty"
  else if key ∈ flagSettings then
    match value with
    | .bool _ => .ok text
    | _ => .error "setting value must be a boolean"
  else if key = "server.auto_subdomain.base_domain" then normalizeDomain text
  else if key ∈ addressSettings then
    (checkAddress "setting must be a host:port address: " text).map fun _ => text
  else if key = "server.heartbeat_timeout" then
    match DurationTable.parse text with
    | .ok duration =>
        if duration ≤ 0 then .error "heartbeat timeout must be a positive duration" else .ok text
    | .error _ => .error "heartbeat timeout must be a positive duration"
  else .ok text

/-- `validatePlaintextState`. -/
def Items.validatePlaintextState (items : Items) (key text : String) : Except String Unit :=
  let plainEnabled :=
    if key = "server.plain_enabled" then decide (text = "true")
    else items.currentBool "server.plain_enabled"
  let plainListen :=
    if key = "server.plain_listen" then text else items.currentText "server.plain_listen"
  let plainDataListen :=
    if key = "server.plain_data_listen" then text else items.currentText "server.plain_data_listen"
  if key ∉ ["server.plain_enabled", "server.plain_listen", "server.plain_data_listen"] then .ok ()
  else if plainEnabled = false then .ok ()
  else do
    reject (plainListen = "" ∨ plainDataListen = "")
      "server.plain_listen and server.plain_data_listen are required when server.plain_enabled is true"
    (validateSetting "server.plain_listen" (.text plainListen)).map fun _ => ()
    (validateSetting "server.plain_data_listen" (.text plainDataListen)).map fun _ => ()

/-- `validateAutoSubdomainState`. -/
def Items.validateAutoSubdomainState (items : Items) (key text : String) : Except String Unit :=
  let enabled :=
    if key = "server.auto_subdomain.enabled" then decide (text = "true")
    else items.currentBool "server.auto_subdomain.enabled"
  let baseDomain :=
    if key = "server.auto_subdomain.base_domain" then text
    else items.currentText "server.auto_subdomain.base_domain"
  if key ∉ ["server.auto_subdomain.enabled", "server.auto_subdomain.base_domain"] then .ok ()
  else if enabled = false then .ok ()
  else do
    reject (baseDomain = "")
      "server.auto_subdomain.base_domain is required when auto subdomain is enabled"
    (normalizeDomain baseDomain).map fun _ => ()

end Handler

/-! ## The server -/

/-- What the calls read and write. -/
@[ext] structure Server where
  settings : Settings
  /-- the map of the settings API -/
  items : Items
  /-- the flag of the tunnel manager -/
  p2pEnabled : Bool
  config : ServerConfig
  /-- `DynamicTLSStore.Enabled` -/
  tlsEnabled : Bool
  /-- `DynamicTLSStore.CertificateLoaded` -/
  certificateLoaded : Bool
  /-- whether there is a server for plain connections -/
  plain : Bool
  plainCtrl : Option String
  plainData : Option String

/-- `plaintextPairEnabled`. -/
def plaintextPairEnabled (plainEnabled : Bool) (cfg : ServerConfig) : Prop :=
  plainEnabled = true ∧ ¬ blank cfg.plainListen ∧ ¬ blank cfg.plainDataListen

instance (plainEnabled : Bool) (cfg : ServerConfig) :
    Decidable (plaintextPairEnabled plainEnabled cfg) :=
  inferInstanceAs (Decidable (_ ∧ _ ∧ _))

namespace Server

/-- A server that was started; the addresses are those the listeners are bound to. -/
def started (settings : Settings) (cfg : ServerConfig) (loaded : Bool) (plainCtrl plainData : String) :
    Server where
  settings := settings.setAutoSubdomainConfig cfg.autoSubdomain
  items := .index (safeSettings cfg)
  p2pEnabled := cfg.p2pEnabled
  config := cfg
  tlsEnabled := cfg.tls.enabled
  -- with TLS the server does not start without a certificate
  certificateLoaded := cfg.tls.enabled || loaded
  plain := plaintextPairEnabled cfg.plainEnabled cfg
  plainCtrl := if plaintextPairEnabled cfg.plainEnabled cfg then some plainCtrl else none
  plainData := if plaintextPairEnabled cfg.plainEnabled cfg then some plainData else none

/-- `Manager.ApplySetting`. -/
def applySetting (s : Server) (key value : String) : Except String Server :=
  if key ≠ "server.p2p_enabled" then .ok s
  else (parseBool value).map fun enabled => { s with p2pEnabled := enabled }

/-- `persistSetting`; `failure` is what the database returns. -/
def persistSetting (key value : String) (failure : Option String) : Fallible Server String Unit :=
  fun s =>
    match failure with
    | some err => (s, .error err)
    | none => ({ s with settings := s.settings.set key value }, .ok ())

/-! ### `settingsHandler.update` -/

/-- The checks of `update`: the item, and the text to be stored. -/
def checkUpdate [CaseTable] [DurationTable] (s : Server) (key : String)
    (request : Option SettingValue) : Except String (SettingItem × SettingValue × String) := do
  let item ← (s.items key).elim (.error "setting is not mutable") .ok
  reject (item.isMutable = false) "setting is not mutable"
  let value ← request.elim (.error "value is required") .ok
  let text ← validateSetting item.key value
  s.items.validatePlaintextState item.key text
  s.items.validateAutoSubdomainState item.key text
  return (item, value, text)

/-- `settingsHandler.update`: the status and the error, or the item as it is afterwards. -/
def update [CaseTable] [DurationTable] (key : String) (request : Option SettingValue)
    (failure : Option String) : Fallible Server (ℕ × String) SettingItem := fun s =>
  match s.checkUpdate key request with
  | .error err => (s, .error (400, err))
  | .ok (item, value, text) =>
      match persistSetting item.key text failure s with
      | (s, .error err) => (s, .error (500, err))
      | (s, .ok ()) =>
          match s.applySetting item.key text with
          | .error err => (s, .error (500, err))
          | .ok s =>
              let item := { item with value := value.shown text }
              ({ s with items := Function.update s.items item.key (some item) }, .ok item)

/-! ### TLS -/

/-- `DynamicTLSStore.SetEnabled`. -/
def setEnabled (enabled : Bool) : Fallible Server String Unit := fun s =>
  if enabled = true ∧ s.certificateLoaded = false then (s, .error "TLS certificate is not loaded")
  else ({ s with tlsEnabled := enabled }, .ok ())

/-- `c.app.config.Server.TLS.Enabled = enabled`. -/
def withTLSFlag (s : Server) (enabled : Bool) : Server :=
  { s with config := { s.config with tls := { s.config.tls with enabled := enabled } } }

/-- `SetTLSEnabled`. -/
def setTLSEnabled (enabled : Bool) (failure : Option String) : Fallible Server String Unit := fun s =>
  let previous := s.tlsEnabled
  match setEnabled enabled s with
  | (s, .error err) => (s, .error err)
  | (s, .ok ()) =>
      match persistSetting "server.tls.enabled" (formatBool enabled) failure (s.withTLSFlag enabled) with
      | (s, .error err) => ((setEnabled previous s).1.withTLSFlag previous, .error err)
      | (s, .ok ()) => (s, .ok ())

/-! ### Listeners for plain connections -/

/-- What the network does: the addresses that new listeners are bound to, and the errors of `Close`. -/
structure Network where
  control : Except String String
  data : Except String String
  closeControl : Option String := none
  closeData : Option String := none

/-- `net.Listen`. -/
def listen (address : String) (bound : Except String String) : Except String String :=
  match splitHostPort address with
  | .error err => .error ("listen tcp: " ++ err)
  | .ok _ => bound

/-- `c.app.config.Server.PlainEnabled = enabled`. -/
def withPlainFlag (s : Server) (enabled : Bool) : Server :=
  { s with config := { s.config with plainEnabled := enabled } }

/-- The server with the two listeners. -/
def opened (s : Server) (control data : String) : Server :=
  { s.withPlainFlag true with plain := true, plainCtrl := some control, plainData := some data }

/-- The server without them. -/
def closed (s : Server) : Server :=
  { s.withPlainFlag false with plain := false, plainCtrl := none, plainData := none }

/-- `startPlainLocked`. -/
def startPlainLocked (network : Network) : Fallible Server String Unit := fun s =>
  if s.plain = true ∨ s.plainData.isSome then (s.withPlainFlag true, .ok ())
  else if ¬ plaintextPairEnabled true s.config then
    (s, .error "plaintext control and data addresses are required")
  else
    match listen s.config.plainDataListen network.data with
    | .error err => (s, .error ("listen for plaintext data connections: " ++ err))
    | .ok data =>
        match listen s.config.plainListen network.control with
        | .error err => (s, .error ("listen for plaintext control connections: " ++ err))
        | .ok control => (s.opened control data, .ok ())

/-- `closeOptionalListener`; a listener that is closed already is no error. -/
def closeOptionalListener (listener failure : Option String) : Option String :=
  if listener.isSome then failure else none

/-- `stopPlainLocked`. -/
def stopPlainLocked (network : Network) : Fallible Server String Unit := fun s =>
  let errs :=
    (closeOptionalListener s.plainCtrl network.closeControl).toList ++
      (closeOptionalListener s.plainData network.closeData).toList
  (s.closed, if errs = [] then .ok () else .error (String.intercalate "\n" errs))

/-- `SetPlainEnabled`. -/
def setPlainEnabled (enabled : Bool) (network : Network) (failure : Option String) :
    Fallible Server String Unit := fun s =>
  let previous := s.config.plainEnabled
  match (if enabled then startPlainLocked network else stopPlainLocked network) s with
  | (s, .error err) => (s, .error err)
  | (s, .ok ()) =>
      match persistSetting "server.plain_enabled" (formatBool enabled) failure s with
      | (s, .ok ()) => (s, .ok ())
      | (s, .error err) =>
          if previous = enabled then (s, .error err)
          else if previous then ((startPlainLocked network s).1, .error err)
          else ((stopPlainLocked network s).1, .error err)

/-! ### Automatic subdomains -/

/-- `normalizeAutoSubdomainBase`. -/
def normalizeAutoSubdomainBase [CaseTable] (value : String) : Except String String :=
  if blank value then .ok "" else normalizeDomain (trimSpace value)

/-- `SetAutoSubdomain`. -/
def setAutoSubdomain [CaseTable] (enabled : Option Bool) (baseDomain : String)
    (failure : Option String) : Fallible Server String Unit := fun s =>
  match enabled, normalizeAutoSubdomainBase baseDomain, failure with
  | none, _, _ => (s, .error "enabled is required")
  | some _, .error err, _ => (s, .error err)
  | some enabled, .ok baseDomain, failure =>
      if enabled = true ∧ baseDomain = "" then
        (s, .error "server.auto_subdomain.base_domain is required")
      else
        match failure with
        | some err => (s, .error err)
        | none =>
            let next : AutoSubdomainConfig := { enabled, baseDomain }
            ({ s with
                settings := s.settings.setAutoSubdomainConfig next
                config := { s.config with autoSubdomain := next } }, .ok ())

/-! ### Certificates (`transport_certificates.go`) -/

/-- `ReloadCertificate`; `failure` is why the pair cannot be loaded. -/
def reloadCertificate (certFile keyFile : String) (failure : Option String) :
    Fallible Server String Unit := fun s =>
  match failure with
  | some err => (s, .error ("load TLS certificate: " ++ err))
  | none =>
      ({ s with
          certificateLoaded := true
          config := { s.config with tls := { s.config.tls with certFile, keyFile } } }, .ok ())

/-- What the helper reports about a job. -/
structure CertificateJob where
  certFile : String
  keyFile : String
  domain : String
  email : String
  activate : Bool
  appliedAt : String
  deriving DecidableEq, Repr

/-- The configuration after `reloadCertificateJobLocked`. -/
def CertificateJob.tls (job : CertificateJob) (cfg : TLSConfig) : TLSConfig where
  enabled := job.activate
  certFile := job.certFile
  keyFile := job.keyFile
  domain := if job.domain = "" then cfg.domain else job.domain
  email := if job.email = "" then cfg.email else job.email

/-- The rows that `reloadCertificateJobLocked` writes. -/
def CertificateJob.rows (job : CertificateJob) (cfg : TLSConfig) : List (String × String) :=
  [("server.tls.enabled", formatBool job.activate), ("server.tls.cert_file", job.certFile),
    ("server.tls.key_file", job.keyFile), ("server.tls.domain", (job.tls cfg).domain),
    ("server.tls.email", (job.tls cfg).email), ("server.tls.certbot_applied_at", job.appliedAt)]

/-- `reloadCertificateJobLocked`, in `applyCertificateUpdates`.  `written` are the rows that are written
before the database fails, in the order in which Go takes them from the map. -/
def reloadCertificateJobLocked (job : CertificateJob) (failure : Option String)
    (written : List String) : Fallible Server String Unit := fun s =>
  match failure with
  | some err => (s, .error ("load TLS certificate: " ++ err))
  | none =>
      let rows := (job.rows s.config.tls).filter fun row => row.1 ∈ written
      ({ s with
          settings := rows.foldl (fun settings row => settings.set row.1 row.2) s.settings
          certificateLoaded := true
          tlsEnabled := job.activate
          config := { s.config with tls := job.tls s.config.tls } },
        if rows = job.rows s.config.tls then .ok () else .error "write setting")

end Server

/-! ## Calls -/

/-- The calls that change the transport, each with what it meets with. -/
inductive Call where
  | update (key : String) (request : Option SettingValue) (failure : Option String)
  | setTLSEnabled (enabled : Bool) (failure : Option String)
  | setPlainEnabled (enabled : Bool) (network : Server.Network) (failure : Option String)
  | setAutoSubdomain (enabled : Option Bool) (baseDomain : String) (failure : Option String)

namespace Server

section Calls

variable [CaseTable] [DurationTable]

/-- The server after a call, and the error if there is one. -/
def perform (call : Call) : Fallible Server String Unit := fun s =>
  match call with
  | .update key request failure =>
      match update key request failure s with
      | (s, .ok _) => (s, .ok ())
      | (s, .error (_, err)) => (s, .error err)
  | .setTLSEnabled enabled failure => setTLSEnabled enabled failure s
  | .setPlainEnabled enabled network failure => setPlainEnabled enabled network failure s
  | .setAutoSubdomain enabled baseDomain failure => setAutoSubdomain enabled baseDomain failure s

/-- The servers there can be: started, and changed by calls and by certificates that arrive. -/
inductive Reachable : Server → Prop
  | started {settings : Settings} {base cfg : ServerConfig} (loaded : Bool)
      (plainCtrl plainData : String) (booted : boot settings base = .ok cfg) :
      Reachable (started settings cfg loaded plainCtrl plainData)
  | call {s : Server} (earlier : Reachable s) (call : Call) : Reachable (perform call s).1
  | reload {s : Server} (earlier : Reachable s) (certFile keyFile : String)
      (failure : Option String) : Reachable (reloadCertificate certFile keyFile failure s).1
  | job {s : Server} (earlier : Reachable s) (job : CertificateJob) (failure : Option String)
      (written : List String) : Reachable (reloadCertificateJobLocked job failure written s).1

/-! ## The switches agree with what they switch -/

/-- The configuration, the TLS store and the listeners say the same. -/
structure Consistent (s : Server) : Prop where
  tls : s.config.tls.enabled = s.tlsEnabled
  loaded : s.tlsEnabled = true → s.certificateLoaded = true
  flag : s.config.plainEnabled = s.plain
  control : s.plainCtrl.isSome = s.plain
  data : s.plainData.isSome = s.plain
  addresses : s.plain = true → IsAddress s.config.plainListen ∧ IsAddress s.config.plainDataListen

variable {s : Server}

/-! ## What a call does -/

omit [CaseTable] [DurationTable] in
theorem persistSetting_eq (s : Server) (key value : String) (failure : Option String) :
    (∃ err, failure = some err ∧ persistSetting key value failure s = (s, .error err)) ∨
      (failure = none ∧ persistSetting key value failure s =
        ({ s with settings := s.settings.set key value }, .ok ())) := by
  cases failure with
  | some err => exact Or.inl ⟨err, rfl, rfl⟩
  | none => exact Or.inr ⟨rfl, rfl⟩

/-- A flag is stored in the form of `FormatBool`. -/
theorem validateSetting_flag {key text : String} {value : SettingValue} (member : key ∈ flagSettings)
    (valid : validateSetting key value = .ok text) : ∃ flag, value = .bool flag ∧ text = formatBool flag := by
  have other : ¬ isOptionalAddressSetting key ∧ key ≠ "server.auto_subdomain.base_domain" := by
    simp only [flagSettings, List.mem_cons, List.not_mem_nil, or_false] at member
    rcases member with rfl | rfl | rfl | rfl <;> decide
  unfold validateSetting at valid
  simp only [other, and_false, if_false, member, if_true] at valid
  split at valid
  · cases valid
  · cases value with
    | bool flag =>
        refine ⟨flag, rfl, ?_⟩
        rw [← Except.ok.inj valid]
        cases flag <;> rfl
    | text _ => cases valid
    | other => cases valid

/-- What the checks establish. -/
theorem checkUpdate_ok {key : String} {request : Option SettingValue} {item : SettingItem}
    {value : SettingValue} {text : String}
    (checked : s.checkUpdate key request = .ok (item, value, text)) :
    s.items key = some item ∧ request = some value ∧ validateSetting item.key value = .ok text ∧
      s.items.validatePlaintextState item.key text = .ok () := by
  unfold checkUpdate at checked
  simp only [bind_eq_ok] at checked
  obtain ⟨found, listed, _, -, given, bound, written, valid, _, plain, _, -, built⟩ := checked
  obtain ⟨rfl, rfl, rfl⟩ : found = item ∧ given = value ∧ written = text := by
    have same := Except.ok.inj built
    exact ⟨congrArg Prod.fst same, congrArg (·.2.1) same, congrArg (·.2.2) same⟩
  refine ⟨?_, ?_, valid, plain⟩
  · cases lookup : s.items key with
    | none => rw [lookup] at listed; cases listed
    | some entry =>
        rw [lookup] at listed
        rw [Except.ok.inj listed]
  · cases request with
    | none => cases bound
    | some sent => rw [Except.ok.inj bound]

/-- An update that passes its checks and is stored is carried out. -/
theorem update_cases (s : Server) (key : String) (request : Option SettingValue)
    (failure : Option String) :
    (∃ refusal, update key request failure s = (s, .error refusal)) ∨
      (failure = none ∧ ∃ item value text p2p, s.checkUpdate key request = .ok (item, value, text) ∧
        update key request failure s =
          ({ s with
              settings := s.settings.set item.key text
              p2pEnabled := p2p
              items := Function.update s.items item.key
                (some { item with value := value.shown text }) },
            .ok { item with value := value.shown text })) := by
  unfold update
  cases checked : s.checkUpdate key request with
  | error err => exact Or.inl ⟨_, rfl⟩
  | ok result =>
      obtain ⟨item, value, text⟩ := result
      simp only
      rcases persistSetting_eq s item.key text failure with ⟨err, -, failed⟩ | ⟨none, stored⟩
      · rw [failed]
        exact Or.inl ⟨_, rfl⟩
      · rw [stored]
        refine Or.inr ⟨none, item, value, text, ?_⟩
        simp only
        by_cases p2p : item.key = "server.p2p_enabled"
        · have valid := (checkUpdate_ok checked).2.2.1
          rw [p2p] at valid
          obtain ⟨flag, -, rfl⟩ := validateSetting_flag (by decide) valid
          refine ⟨flag, trivial, ?_⟩
          simp only [applySetting, p2p, ne_eq, not_true, if_false, parseBool_formatBool, Except.map]
        · refine ⟨s.p2pEnabled, trivial, ?_⟩
          simp only [applySetting, p2p, ne_eq, not_false_eq_true, if_true]

omit [CaseTable] [DurationTable] in
theorem setTLSEnabled_cases (consistent : s.Consistent) (enabled : Bool) (failure : Option String) :
    (∃ err, setTLSEnabled enabled failure s = (s, .error err)) ∨
      (failure = none ∧ (enabled = true → s.certificateLoaded = true) ∧
        setTLSEnabled enabled failure s =
          ({ s.withTLSFlag enabled with
              tlsEnabled := enabled
              settings := s.settings.set "server.tls.enabled" (formatBool enabled) }, .ok ())) := by
  have same : s.withTLSFlag s.tlsEnabled = s := by
    rw [← consistent.tls]
    rfl
  unfold setTLSEnabled
  simp only
  by_cases refused : enabled = true ∧ s.certificateLoaded = false
  · have failed : setEnabled enabled s = (s, .error "TLS certificate is not loaded") := if_pos refused
    rw [failed]
    exact Or.inl ⟨_, rfl⟩
  · have switched : setEnabled enabled s = ({ s with tlsEnabled := enabled }, .ok ()) := if_neg refused
    rw [switched]
    simp only
    cases failure with
    | none =>
        refine Or.inr ⟨rfl, fun on => ?_, rfl⟩
        by_contra missing
        exact refused ⟨on, eq_false_of_ne_true missing⟩
    | some err =>
        refine Or.inl ⟨err, ?_⟩
        -- the certificate that was used before is still loaded
        have back : ¬ (s.tlsEnabled = true ∧ s.certificateLoaded = false) := by
          rintro ⟨on, missing⟩
          rw [consistent.loaded on] at missing
          cases missing
        simp only [persistSetting, setEnabled, Server.withTLSFlag, back, if_false]
        exact congrArg (·, Except.error err) same

omit [CaseTable] [DurationTable] in
theorem withPlainFlag_eq {enabled : Bool} (flag : s.config.plainEnabled = enabled) :
    s.withPlainFlag enabled = s := by
  rw [← flag]
  rfl

omit [CaseTable] [DurationTable] in
/-- To open the listeners that are open already changes nothing. -/
theorem Consistent.opened_eq_iff (consistent : s.Consistent) (on : s.plain = true)
    {control data : String} :
    s.opened control data = s ↔ s.plainCtrl = some control ∧ s.plainData = some data := by
  constructor
  · intro same
    exact ⟨(congrArg Server.plainCtrl same).symm, (congrArg Server.plainData same).symm⟩
  · rintro ⟨ctrl, dat⟩
    have flag : (s.withPlainFlag true).config = s.config :=
      congrArg Server.config (withPlainFlag_eq (consistent.flag.trans on))
    exact Server.ext rfl rfl rfl flag rfl rfl on.symm ctrl.symm dat.symm

omit [CaseTable] [DurationTable] in
/-- To close the listeners changes something exactly when they are open. -/
theorem Consistent.closed_eq_iff (consistent : s.Consistent) : s.closed = s ↔ s.plain = false := by
  constructor
  · intro same
    exact (congrArg Server.plain same).symm
  · intro off
    have flag : (s.withPlainFlag false).config = s.config :=
      congrArg Server.config (withPlainFlag_eq (consistent.flag.trans off))
    have ctrl := consistent.control.trans off
    have dat := consistent.data.trans off
    rw [Option.isSome_eq_false_iff, Option.isNone_iff_eq_none] at ctrl dat
    exact Server.ext rfl rfl rfl flag rfl rfl off.symm ctrl.symm dat.symm

omit [CaseTable] [DurationTable] in
theorem startPlainLocked_open (consistent : s.Consistent) (on : s.plain = true) (network : Network) :
    startPlainLocked network s = (s, .ok ()) := by
  unfold startPlainLocked
  rw [if_pos (Or.inl on), withPlainFlag_eq (consistent.flag.trans on)]

omit [CaseTable] [DurationTable] in
theorem listen_eq_ok {address bound : String} {outcome : Except String String} :
    listen address outcome = .ok bound ↔ IsAddress address ∧ outcome = .ok bound := by
  unfold listen IsAddress
  cases splitHostPort address with
  | error err => exact ⟨nofun, fun ⟨⟨_, split⟩, _⟩ => nomatch split⟩
  | ok parts => exact ⟨fun same => ⟨⟨parts, rfl⟩, same⟩, fun both => both.2⟩

omit [CaseTable] [DurationTable] in
/-- Without listeners: both are opened, or neither. -/
theorem startPlainLocked_cases (off : s.plain = false) (none : s.plainData = none)
    (network : Network) :
    (∃ err, startPlainLocked network s = (s, .error err)) ∨
      ∃ control data, startPlainLocked network s = (s.opened control data, .ok ()) ∧
        IsAddress s.config.plainListen ∧ IsAddress s.config.plainDataListen ∧
        network.control = .ok control ∧ network.data = .ok data := by
  unfold startPlainLocked
  rw [if_neg (by rw [off, none]; decide)]
  split
  · exact Or.inl ⟨_, rfl⟩
  · cases data : listen s.config.plainDataListen network.data with
    | error err => exact Or.inl ⟨_, rfl⟩
    | ok first =>
        cases control : listen s.config.plainListen network.control with
        | error err => exact Or.inl ⟨_, rfl⟩
        | ok second =>
            have dataOpen := listen_eq_ok.mp data
            have controlOpen := listen_eq_ok.mp control
            exact Or.inr ⟨second, first, rfl, controlOpen.1, dataOpen.1, controlOpen.2, dataOpen.2⟩

omit [CaseTable] [DurationTable] in
theorem startPlainLocked_works (off : s.plain = false) (none : s.plainData = none)
    (addresses : IsAddress s.config.plainListen ∧ IsAddress s.config.plainDataListen)
    {network : Network} {control data : String} (bound : network.control = .ok control)
    (taken : network.data = .ok data) :
    startPlainLocked network s = (s.opened control data, .ok ()) := by
  have pair : plaintextPairEnabled true s.config :=
    ⟨rfl, not_blank_of_isAddress addresses.1, not_blank_of_isAddress addresses.2⟩
  unfold startPlainLocked
  rw [if_neg (by rw [off, none]; decide), if_neg (not_not_intro pair),
    listen_eq_ok.mpr ⟨addresses.2, taken⟩, listen_eq_ok.mpr ⟨addresses.1, bound⟩]

omit [CaseTable] [DurationTable] in
/-- The listeners that are there. -/
theorem Consistent.listeners (consistent : s.Consistent) (on : s.plain = true) :
    ∃ control data, s.plainCtrl = some control ∧ s.plainData = some data := by
  have ctrl := consistent.control.trans on
  have dat := consistent.data.trans on
  exact ⟨_, _, (Option.some_get ctrl).symm, (Option.some_get dat).symm⟩

omit [CaseTable] [DurationTable] in
/-- To turn plain connections on succeeds or leaves no trace. -/
theorem setPlainEnabled_on (consistent : s.Consistent) (network : Network)
    (failure : Option String) :
    (∃ err, setPlainEnabled true network failure s = (s, .error err)) ∨
      (failure = none ∧ IsAddress s.config.plainListen ∧ IsAddress s.config.plainDataListen ∧
        (s.plain = true ∨ network.control.isOk = true ∧ network.data.isOk = true) ∧
        ∃ control data, setPlainEnabled true network failure s =
          ({ s.opened control data with
              settings := s.settings.set "server.plain_enabled" "true" }, .ok ())) := by
  unfold setPlainEnabled
  simp only [if_true]
  cases plain : s.plain with
  | true =>
      obtain ⟨control, data, ctrl, dat⟩ := consistent.listeners plain
      have same := (consistent.opened_eq_iff plain).mpr ⟨ctrl, dat⟩
      rw [startPlainLocked_open consistent plain]
      cases failure with
      | some err =>
          refine Or.inl ⟨err, ?_⟩
          simp only [persistSetting, consistent.flag.trans plain, if_true]
      | none =>
          refine Or.inr ⟨rfl, (consistent.addresses plain).1, (consistent.addresses plain).2,
            Or.inl rfl, control, data, ?_⟩
          rw [same]
          rfl
  | false =>
      have flag := consistent.flag.trans plain
      have dat := consistent.data.trans plain
      rw [Option.isSome_eq_false_iff, Option.isNone_iff_eq_none] at dat
      rcases startPlainLocked_cases plain dat network with
        ⟨err, failed⟩ | ⟨control, data, opened, first, second, bound, taken⟩
      · rw [failed]
        exact Or.inl ⟨err, rfl⟩
      · rw [opened]
        cases failure with
        | none =>
            refine Or.inr ⟨rfl, first, second, Or.inr ?_, control, data, rfl⟩
            rw [bound, taken]
            exact ⟨rfl, rfl⟩
        | some err =>
            refine Or.inl ⟨err, ?_⟩
            simp only [persistSetting, flag, Bool.false_eq_true, if_false]
            -- the rollback closes what has just been opened
            have back : (s.opened control data).closed = s := consistent.closed_eq_iff.mpr plain
            exact congrArg (·, Except.error err) back

omit [CaseTable] [DurationTable] in
/-- To turn plain connections off when they are off. -/
theorem setPlainEnabled_off (consistent : s.Consistent) (off : s.plain = false) (network : Network)
    (failure : Option String) :
    (∃ err, setPlainEnabled false network failure s = (s, .error err)) ∨
      (failure = none ∧ setPlainEnabled false network failure s =
        ({ s with settings := s.settings.set "server.plain_enabled" "false" }, .ok ())) := by
  have ctrl := consistent.control.trans off
  have dat := consistent.data.trans off
  have stopped : stopPlainLocked network s = (s, .ok ()) := by
    unfold stopPlainLocked closeOptionalListener
    simp only [ctrl, dat, Bool.false_eq_true, if_false, Option.toList_none, List.append_nil, if_true]
    rw [consistent.closed_eq_iff.mpr off]
  unfold setPlainEnabled
  simp only [Bool.false_eq_true, if_false, stopped]
  cases failure with
  | none => exact Or.inr ⟨rfl, rfl⟩
  | some err =>
      refine Or.inl ⟨err, ?_⟩
      simp only [persistSetting, consistent.flag.trans off, if_true]

omit [CaseTable] [DurationTable] in
/-- To turn plain connections off when they are on: the listeners are closed in any case. -/
theorem setPlainEnabled_stop (consistent : s.Consistent) (on : s.plain = true) (network : Network)
    (failure : Option String) :
    ((network.closeControl ≠ none ∨ network.closeData ≠ none) ∧
        ∃ err, setPlainEnabled false network failure s = (s.closed, .error err)) ∨
      ((network.closeControl = none ∧ network.closeData = none) ∧ failure = none ∧
        setPlainEnabled false network failure s =
          ({ s.closed with settings := s.settings.set "server.plain_enabled" "false" }, .ok ())) ∨
      ((network.closeControl = none ∧ network.closeData = none) ∧ ∃ err, failure = some err ∧
        setPlainEnabled false network failure s =
          ((startPlainLocked network s.closed).1, .error err)) := by
  have ctrl := consistent.control.trans on
  have dat := consistent.data.trans on
  unfold setPlainEnabled
  simp only [Bool.false_eq_true, if_false, stopPlainLocked, closeOptionalListener, ctrl, dat, if_true]
  by_cases closes : network.closeControl = none ∧ network.closeData = none
  · refine Or.inr ?_
    simp only [closes, Option.toList_none, List.append_nil, if_true, and_self, true_and]
    cases failure with
    | none => exact Or.inl ⟨rfl, rfl⟩
    | some err =>
        refine Or.inr ⟨err, rfl, ?_⟩
        simp only [persistSetting, consistent.flag.trans on, Bool.true_eq_false, if_false, if_true]
  · refine Or.inl ⟨not_and_or.mp closes, ?_⟩
    have errs : network.closeControl.toList ++ network.closeData.toList ≠ [] := by
      intro none
      obtain ⟨first, second⟩ := List.append_eq_nil_iff.mp none
      exact closes ⟨Option.toList_eq_nil_iff.mp first, Option.toList_eq_nil_iff.mp second⟩
    rw [if_neg errs]
    exact ⟨_, rfl⟩

omit [DurationTable] in
theorem setAutoSubdomain_cases (s : Server) (enabled : Option Bool) (baseDomain : String)
    (failure : Option String) :
    (∃ err, setAutoSubdomain enabled baseDomain failure s = (s, .error err)) ∨
      ∃ next : AutoSubdomainConfig, (next.enabled = true → next.baseDomain ≠ "") ∧
        (next.baseDomain = "" ∨ ∃ text, normalizeDomain text = .ok next.baseDomain) ∧
        setAutoSubdomain enabled baseDomain failure s =
          ({ s with
              settings := s.settings.setAutoSubdomainConfig next
              config := { s.config with autoSubdomain := next } }, .ok ()) := by
  unfold setAutoSubdomain
  cases enabled with
  | none => exact Or.inl ⟨_, rfl⟩
  | some flag =>
      cases normal : normalizeAutoSubdomainBase baseDomain with
      | error err => exact Or.inl ⟨_, rfl⟩
      | ok domain =>
          simp only
          split
          · exact Or.inl ⟨_, rfl⟩
          · rename_i allowed
            cases failure with
            | some err => exact Or.inl ⟨_, rfl⟩
            | none =>
                refine Or.inr ⟨⟨flag, domain⟩, fun on empty => allowed ⟨on, empty⟩, ?_, rfl⟩
                unfold normalizeAutoSubdomainBase at normal
                split at normal
                · exact Or.inl (Except.ok.inj normal).symm
                · exact Or.inr ⟨_, normal⟩

/-! ## The switches stay in agreement -/

omit [CaseTable] [DurationTable] in
theorem Consistent.closed (consistent : s.Consistent) : s.closed.Consistent :=
  ⟨consistent.tls, consistent.loaded, rfl, rfl, rfl, nofun⟩

omit [CaseTable] [DurationTable] in
theorem Consistent.opened (consistent : s.Consistent)
    (addresses : IsAddress s.config.plainListen ∧ IsAddress s.config.plainDataListen)
    (control data : String) : (s.opened control data).Consistent :=
  ⟨consistent.tls, consistent.loaded, rfl, rfl, rfl, fun _ => addresses⟩

omit [CaseTable] [DurationTable] in
theorem Consistent.withSettings (consistent : s.Consistent) (settings : Settings) :
    Consistent { s with settings := settings } :=
  ⟨consistent.tls, consistent.loaded, consistent.flag, consistent.control, consistent.data,
    consistent.addresses⟩

/-- What a call comes to. -/
inductive Performed (s : Server) : Call → Server → Except String Unit → Prop
  /-- nothing has changed, and the call fails -/
  | refused {call : Call} (err : String)
      (other : s.plain = true → ∀ network failure, call ≠ .setPlainEnabled false network failure) :
      Performed s call s (.error err)
  | updated {key : String} {request : Option SettingValue} {item : SettingItem} {value : SettingValue}
      {text : String} (p2p : Bool) (checked : s.checkUpdate key request = .ok (item, value, text)) :
      Performed s (.update key request none)
        { s with
          settings := s.settings.set item.key text
          p2pEnabled := p2p
          items := Function.update s.items item.key (some { item with value := value.shown text }) }
        (.ok ())
  | tlsSwitched {enabled : Bool} (loaded : enabled = true → s.certificateLoaded = true) :
      Performed s (.setTLSEnabled enabled none)
        { s.withTLSFlag enabled with
          tlsEnabled := enabled
          settings := s.settings.set "server.tls.enabled" (formatBool enabled) }
        (.ok ())
  | plainOpened {network : Network} (control data : String)
      (addresses : IsAddress s.config.plainListen ∧ IsAddress s.config.plainDataListen)
      (opens : s.plain = true ∨ network.control.isOk = true ∧ network.data.isOk = true) :
      Performed s (.setPlainEnabled true network none)
        { s.opened control data with settings := s.settings.set "server.plain_enabled" "true" }
        (.ok ())
  | plainClosed {network : Network}
      (closes : s.plain = true → network.closeControl = none ∧ network.closeData = none) :
      Performed s (.setPlainEnabled false network none)
        { s.closed with settings := s.settings.set "server.plain_enabled" "false" } (.ok ())
  /-- a listener could not be closed -/
  | notClosed {network : Network} {failure : Option String} (err : String) (on : s.plain = true)
      (fails : network.closeControl ≠ none ∨ network.closeData ≠ none) :
      Performed s (.setPlainEnabled false network failure) s.closed (.error err)
  /-- the new state could not be stored, and the listeners are opened again -/
  | reopened {network : Network} (err : String) (on : s.plain = true)
      (closes : network.closeControl = none ∧ network.closeData = none) :
      Performed s (.setPlainEnabled false network (some err)) (startPlainLocked network s.closed).1
        (.error err)
  | subdomainsSet {enabled : Option Bool} {baseDomain : String} {failure : Option String}
      (next : AutoSubdomainConfig) (required : next.enabled = true → next.baseDomain ≠ "")
      (normal : next.baseDomain = "" ∨ ∃ text, normalizeDomain text = .ok next.baseDomain) :
      Performed s (.setAutoSubdomain enabled baseDomain failure)
        { s with
          settings := s.settings.setAutoSubdomainConfig next
          config := { s.config with autoSubdomain := next } }
        (.ok ())

theorem performed_setPlainEnabled (consistent : s.Consistent) (enabled : Bool) (network : Network)
    (failure : Option String) :
    Performed s (.setPlainEnabled enabled network failure)
      (setPlainEnabled enabled network failure s).1 (setPlainEnabled enabled network failure s).2 := by
  cases enabled with
  | true =>
      rcases setPlainEnabled_on consistent network failure with
        ⟨err, failed⟩ | ⟨rfl, first, second, opens, control, data, done⟩
      · rw [failed]
        exact .refused err fun _ _ _ => nofun
      · rw [done]
        exact .plainOpened control data ⟨first, second⟩ opens
  | false =>
      cases plain : s.plain with
      | false =>
          rcases setPlainEnabled_off consistent plain network failure with ⟨err, failed⟩ | ⟨rfl, done⟩
          · rw [failed]
            refine .refused err fun on => ?_
            rw [plain] at on
            cases on
          · rw [done]
            have closed : Performed s (.setPlainEnabled false network none)
                { s.closed with settings := s.settings.set "server.plain_enabled" "false" } (.ok ()) :=
              .plainClosed fun on => by
                rw [plain] at on
                cases on
            rw [consistent.closed_eq_iff.mpr plain] at closed
            exact closed
      | true =>
          rcases setPlainEnabled_stop consistent plain network failure with
            ⟨fails, err, failed⟩ | ⟨closes, rfl, done⟩ | ⟨closes, err, rfl, failed⟩
          · rw [failed]
            exact .notClosed err plain fails
          · rw [done]
            exact .plainClosed fun _ => closes
          · rw [failed]
            exact .reopened err plain closes

theorem performed_perform (consistent : s.Consistent) (call : Call) :
    Performed s call (perform call s).1 (perform call s).2 := by
  cases call with
  | update key request failure =>
      rcases update_cases s key request failure with
        ⟨⟨status, err⟩, failed⟩ | ⟨rfl, item, value, text, p2p, checked, done⟩
      · simp only [perform, failed]
        exact .refused err fun _ _ _ => nofun
      · simp only [perform, done]
        exact .updated p2p checked
  | setTLSEnabled enabled failure =>
      rcases setTLSEnabled_cases consistent enabled failure with ⟨err, failed⟩ | ⟨rfl, loaded, done⟩
      · simp only [perform, failed]
        exact .refused err fun _ _ _ => nofun
      · simp only [perform, done]
        exact .tlsSwitched loaded
  | setPlainEnabled enabled network failure =>
      exact performed_setPlainEnabled consistent enabled network failure
  | setAutoSubdomain enabled baseDomain failure =>
      rcases setAutoSubdomain_cases s enabled baseDomain failure with
        ⟨err, failed⟩ | ⟨next, required, normal, done⟩
      · simp only [perform, failed]
        exact .refused err fun _ _ _ => nofun
      · simp only [perform, done]
        exact .subdomainsSet next required normal

/-- **The switches stay in agreement with what they switch.** -/
theorem Performed.consistent {call : Call} {s' : Server} {result : Except String Unit}
    (performed : Performed s call s' result) (consistent : s.Consistent) : s'.Consistent := by
  cases performed with
  | refused => exact consistent
  | updated =>
      exact ⟨consistent.tls, consistent.loaded, consistent.flag, consistent.control, consistent.data,
        consistent.addresses⟩
  | tlsSwitched loaded =>
      exact ⟨rfl, loaded, consistent.flag, consistent.control, consistent.data, consistent.addresses⟩
  | plainOpened control data addresses opens => exact (consistent.opened addresses control data).withSettings _
  | plainClosed => exact consistent.closed.withSettings _
  | notClosed => exact consistent.closed
  | @reopened network _ _ _ =>
      rcases startPlainLocked_cases (s := s.closed) rfl rfl network with
        ⟨_, again⟩ | ⟨control, data, again, first, second, -, -⟩
      · rw [again]
        exact consistent.closed
      · rw [again]
        exact consistent.closed.opened ⟨first, second⟩ control data
  | subdomainsSet =>
      exact ⟨consistent.tls, consistent.loaded, consistent.flag, consistent.control, consistent.data,
        consistent.addresses⟩

theorem consistent_started {settings : Settings} {base cfg : ServerConfig} (loaded : Bool)
    (plainCtrl plainData : String) (booted : boot settings base = .ok cfg) :
    (started settings cfg loaded plainCtrl plainData).Consistent := by
  have addresses := (validateServerTransport_eq_ok.mp (boot_eq_ok.mp booted).2).2.2
  have pair : plaintextPairEnabled cfg.plainEnabled cfg ↔ cfg.plainEnabled = true :=
    ⟨fun pair => pair.1, fun on => ⟨on, not_blank_of_isAddress (addresses on).1,
      not_blank_of_isAddress (addresses on).2⟩⟩
  refine ⟨rfl, fun on => ?_, ?_, ?_, ?_, fun on => ?_⟩
  · simp only [started] at on ⊢
    rw [on]
    rfl
  · simp [started, pair]
  · by_cases listening : plaintextPairEnabled cfg.plainEnabled cfg <;> simp [started, listening]
  · by_cases listening : plaintextPairEnabled cfg.plainEnabled cfg <;> simp [started, listening]
  · simp only [started, pair, decide_eq_true_eq] at on
    exact addresses on

theorem Reachable.consistent (reachable : Reachable s) : s.Consistent := by
  induction reachable with
  | started loaded plainCtrl plainData booted =>
      exact consistent_started loaded plainCtrl plainData booted
  | call earlier call ih => exact (performed_perform ih call).consistent ih
  | reload earlier certFile keyFile failure ih =>
      cases failure with
      | some err => exact ih
      | none => exact ⟨ih.tls, fun _ => rfl, ih.flag, ih.control, ih.data, ih.addresses⟩
  | job earlier job failure written ih =>
      cases failure with
      | some err => exact ih
      | none => exact ⟨rfl, fun _ => rfl, ih.flag, ih.control, ih.data, ih.addresses⟩

/-! ## Failed calls -/

/-- What a failed call may not change. -/
def SameTransport (before after : Server) : Prop :=
  after.settings = before.settings ∧ after.config = before.config ∧
    after.tlsEnabled = before.tlsEnabled ∧ after.plainCtrl = before.plainCtrl ∧
    after.plainData = before.plainData

/-- Plain connections are turned off, but the call fails when the listeners are closed, and they are not
opened again. -/
def TracesLeft (s : Server) : Call → Prop
  | .setPlainEnabled false network failure =>
      s.plain = true ∧ (network.closeControl ≠ none ∨ network.closeData ≠ none ∨
        failure ≠ none ∧ ¬ (network.control.toOption = s.plainCtrl ∧
          network.data.toOption = s.plainData))
  | _ => False

omit [CaseTable] [DurationTable] in
theorem Consistent.closed_differs (consistent : s.Consistent) (on : s.plain = true) :
    ¬ SameTransport s s.closed := by
  rintro ⟨-, -, -, control, -⟩
  obtain ⟨_, _, ctrl, -⟩ := consistent.listeners on
  rw [ctrl] at control
  cases control

omit [CaseTable] [DurationTable] in
theorem eq_ok_of_toOption {outcome : Except String String} {value : String}
    (found : outcome.toOption = some value) : outcome = .ok value := by
  cases outcome with
  | error err => cases found
  | ok other => rw [Option.some.inj found]

omit [CaseTable] [DurationTable] in
/-- The listeners are there again exactly when they can be bound to their addresses. -/
theorem Consistent.reopened_same (consistent : s.Consistent) (on : s.plain = true)
    (network : Network) :
    SameTransport s (startPlainLocked network s.closed).1 ↔
      network.control.toOption = s.plainCtrl ∧ network.data.toOption = s.plainData := by
  constructor
  · intro same
    rcases startPlainLocked_cases (s := s.closed) rfl rfl network with
      ⟨err, again⟩ | ⟨control, data, again, -, -, bound, taken⟩
    · rw [again] at same
      exact absurd same (consistent.closed_differs on)
    · rw [again] at same
      rw [bound, taken]
      exact ⟨same.2.2.2.1, same.2.2.2.2⟩
  · rintro ⟨control, data⟩
    obtain ⟨ctrl, dat, listens, takes⟩ := consistent.listeners on
    rw [listens] at control
    rw [takes] at data
    have again := startPlainLocked_works (s := s.closed) rfl rfl (consistent.addresses on)
      (eq_ok_of_toOption control) (eq_ok_of_toOption data)
    have back : s.closed.opened ctrl dat = s :=
      (consistent.opened_eq_iff on).mpr ⟨listens, takes⟩
    rw [again, back]
    exact ⟨rfl, rfl, rfl, rfl, rfl⟩

/-- **A call that fails leaves no trace, unless plain connections are turned off and a listener cannot be
closed, or opened again.** -/
theorem failed_unchanged_iff (reachable : Reachable s) (call : Call) :
    ((∃ err, (perform call s).2 = .error err) → SameTransport s (perform call s).1) ↔
      ¬ TracesLeft s call := by
  have consistent := reachable.consistent
  have performed := performed_perform consistent call
  generalize (perform call s).1 = after, (perform call s).2 = result at performed
  have same : SameTransport s s := ⟨rfl, rfl, rfl, rfl, rfl⟩
  cases performed with
  | refused err other =>
      refine ⟨fun _ traces => ?_, fun _ _ => same⟩
      cases call with
      | setPlainEnabled enabled network failure =>
          cases enabled with
          | true => exact traces
          | false => exact other traces.1 network failure rfl
      | update => exact traces
      | setTLSEnabled => exact traces
      | setAutoSubdomain => exact traces
  | updated => exact ⟨fun _ traces => traces, fun _ ⟨_, failed⟩ => nomatch failed⟩
  | tlsSwitched => exact ⟨fun _ traces => traces, fun _ ⟨_, failed⟩ => nomatch failed⟩
  | plainOpened => exact ⟨fun _ traces => traces, fun _ ⟨_, failed⟩ => nomatch failed⟩
  | plainClosed closes =>
      refine ⟨fun _ traces => ?_, fun _ ⟨_, failed⟩ => nomatch failed⟩
      obtain ⟨on, control | data | ⟨stored, -⟩⟩ := traces
      · exact control (closes on).1
      · exact data (closes on).2
      · exact stored rfl
  | notClosed err on fails =>
      refine ⟨fun kept => absurd (kept ⟨err, rfl⟩) (consistent.closed_differs on), fun clean => ?_⟩
      refine absurd ⟨on, ?_⟩ clean
      rcases fails with control | data
      · exact Or.inl control
      · exact Or.inr (Or.inl data)
  | @reopened network err on closes =>
      have again := consistent.reopened_same on network
      constructor
      · rintro kept ⟨-, control | data | ⟨-, differs⟩⟩
        · exact control closes.1
        · exact data closes.2
        · exact differs (again.mp (kept ⟨err, rfl⟩))
      · intro clean _
        refine again.mpr ?_
        by_contra differs
        exact clean ⟨on, Or.inr (Or.inr ⟨nofun, differs⟩)⟩
  | subdomainsSet => exact ⟨fun _ traces => traces, fun _ ⟨_, failed⟩ => nomatch failed⟩

end Calls

/-! ## A server with plain listeners -/

/-- The default configuration, and listeners for plain connections. -/
def plainConfig : ServerConfig :=
  { ServerConfig.defaults with
    plainEnabled := true, plainListen := "127.0.0.1:7004", plainDataListen := "127.0.0.1:7005"
    heartbeatTimeout := 45000000000 }

/-- A server that was just started with it. -/
def plainServer : Server :=
  started (fun _ => none) plainConfig false "127.0.0.1:7004" "127.0.0.1:7005"

/-- TLS cannot be turned on without a certificate, and nothing has changed. -/
theorem failed_unchanged_tls :
    let _ := CaseTable.ascii
    let _ := DurationTable.seconds
    Reachable plainServer ∧
      (perform (.setTLSEnabled true none) plainServer).2 = .error "TLS certificate is not loaded" ∧
      SameTransport plainServer (perform (.setTLSEnabled true none) plainServer).1 := by
  intro _ _
  have booted : boot (fun _ => none) plainConfig = .ok plainConfig := by decide +kernel
  have reachable : Reachable plainServer := .started false _ _ booted
  exact ⟨reachable, rfl, (failed_unchanged_iff reachable (.setTLSEnabled true none)).mpr nofun ⟨_, rfl⟩⟩

/-- The new state cannot be stored, somebody else has taken the port meanwhile, and the listeners are
gone. -/
theorem failed_call_leaves_traces :
    let _ := CaseTable.ascii
    let _ := DurationTable.seconds
    let call : Call := .setPlainEnabled false
      { control := .error "bind: address already in use", data := .ok "127.0.0.1:7005" }
      (some "database is locked")
    Reachable plainServer ∧ (perform call plainServer).2 = .error "database is locked" ∧
      ¬ SameTransport plainServer (perform call plainServer).1 := by
  intro _ _ call
  have booted : boot (fun _ => none) plainConfig = .ok plainConfig := by decide +kernel
  refine ⟨.started false _ _ booted, by decide +kernel, ?_⟩
  rintro ⟨-, flags, -⟩
  have flag : (perform call plainServer).1.config.plainEnabled = true :=
    congrArg ServerConfig.plainEnabled flags
  revert flag
  decide +kernel

end Server
end NryNet.App
