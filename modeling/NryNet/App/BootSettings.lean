import NryNet.Lib.Fallible
import NryNet.Storage.Domains

/-!
# Booting from stored settings (`server/app/settings_runtime.go`, `internal/config/transport_security.go`)

The server reads its configuration file and lays the settings of the database over it
(`applyStoredSettings`).  What comes out has to pass `ValidateServerTransport`, or the server does not
start.  `boots_iff` says what the settings have to be like.

A row of the table `settings` has a key `config.` followed by the name of the setting.
-/

namespace NryNet.App

open GoText Checks

/-! ## The configuration -/

/-- `TLSConfig`. -/
structure TLSConfig where
  enabled : Bool
  certFile : String
  keyFile : String
  domain : String
  email : String
  deriving DecidableEq, Repr

/-- `AutoSubdomainConfig`. -/
structure AutoSubdomainConfig where
  enabled : Bool
  baseDomain : String
  deriving DecidableEq, Repr

/-- `ServerConfig`, as far as it can be set. -/
structure ServerConfig where
  listen : String
  plainEnabled : Bool
  plainListen : String
  dataListen : String
  plainDataListen : String
  publicDataAddress : String
  quicListen : String
  publicQUICAddress : String
  rendezvousListen : String
  publicRendezvous : String
  p2pEnabled : Bool
  httpListen : String
  heartbeatTimeout : ℤ
  heartbeatText : String
  tls : TLSConfig
  autoSubdomain : AutoSubdomainConfig
  deriving DecidableEq, Repr

/-- `defaults`. -/
def ServerConfig.defaults : ServerConfig where
  listen := "127.0.0.1:7000"
  plainEnabled := false
  plainListen := ""
  dataListen := "127.0.0.1:7001"
  plainDataListen := ""
  publicDataAddress := "127.0.0.1:7001"
  quicListen := "127.0.0.1:7002"
  publicQUICAddress := "127.0.0.1:7002"
  rendezvousListen := "127.0.0.1:7003"
  publicRendezvous := "127.0.0.1:7003"
  p2pEnabled := true
  httpListen := "127.0.0.1:8080"
  heartbeatTimeout := 0
  heartbeatText := "45s"
  tls := { enabled := false, certFile := "", keyFile := "", domain := "", email := "" }
  autoSubdomain := { enabled := false, baseDomain := "" }

/-- The table `settings`. -/
abbrev Settings := String → Option String

/-- The key of a setting in the table. -/
def settingKey (name : String) : String := "config." ++ name

/-- `SetSetting`, for a setting. -/
def Settings.set (settings : Settings) (name value : String) : Settings :=
  Function.update settings (settingKey name) (some value)

/-- `GetSetting`, with what is used where there is no row. -/
def Settings.text (settings : Settings) (name default : String) : String :=
  (settings (settingKey name)).getD default

/-- A flag of the settings, with what is used where there is no row. -/
def Settings.flag (settings : Settings) (name : String) (default : Bool) : Except String Bool :=
  match settings (settingKey name) with
  | some value => parseBool value
  | none => .ok default

/-! ## `ValidateServerTransport` -/

/-- `strings.TrimSpace(text) == ""`. -/
def blank (text : String) : Prop := trimSpace text = ""

instance (text : String) : Decidable (blank text) :=
  inferInstanceAs (Decidable (_ = _))

/-- `hasPlaintextListeners`. -/
def ServerConfig.hasPlaintextListeners (cfg : ServerConfig) : Prop :=
  ¬ blank cfg.listen ∧ ¬ blank cfg.dataListen

instance (cfg : ServerConfig) : Decidable cfg.hasPlaintextListeners :=
  inferInstanceAs (Decidable (_ ∧ _))

/-- `net.SplitHostPort`, for its error alone. -/
def checkAddress (report : String) (address : String) : Except String Unit :=
  match splitHostPort address with
  | .error err => .error (report ++ err)
  | .ok _ => .ok ()

/-- `validatePlaintextListeners`. -/
def ServerConfig.validatePlaintextListeners (cfg : ServerConfig) : Except String Unit :=
  if cfg.plainEnabled = false then .ok ()
  else do
    reject (blank cfg.plainListen ∨ blank cfg.plainDataListen)
      "server.plain_listen and server.plain_data_listen are required when server.plain_enabled is true"
    checkAddress "server.plain_listen must be a host:port address: " cfg.plainListen
    checkAddress "server.plain_data_listen must be a host:port address: " cfg.plainDataListen

/-- `ValidateServerTransport`. -/
def ServerConfig.validateServerTransport (cfg : ServerConfig) : Except String Unit := do
  reject (blank cfg.listen ∨ blank cfg.dataListen)
    "server.listen and server.data_listen are required"
  reject (cfg.tls.enabled = true ∧ (blank cfg.tls.certFile ∨ blank cfg.tls.keyFile))
    "server TLS certificate and key are required"
  cfg.validatePlaintextListeners
  reject (¬ (cfg.tls.enabled = true ∨ cfg.hasPlaintextListeners))
    "server must expose TLS listeners or plaintext listeners"

/-! ## `applyStoredSettings` -/

/-- An entry of `stringSettings`: the field that its pointer points to, to be read and to be written. -/
structure StringSetting where
  name : String
  get : ServerConfig → String
  set : ServerConfig → String → ServerConfig

/-- `stringSettings`. -/
def stringSettings : List StringSetting :=
  [⟨"server.listen", (·.listen), fun cfg value => { cfg with listen := value }⟩,
   ⟨"server.plain_listen", (·.plainListen), fun cfg value => { cfg with plainListen := value }⟩,
   ⟨"server.data_listen", (·.dataListen), fun cfg value => { cfg with dataListen := value }⟩,
   ⟨"server.plain_data_listen", (·.plainDataListen),
    fun cfg value => { cfg with plainDataListen := value }⟩,
   ⟨"server.public_data_address", (·.publicDataAddress),
    fun cfg value => { cfg with publicDataAddress := value }⟩,
   ⟨"server.quic_listen", (·.quicListen), fun cfg value => { cfg with quicListen := value }⟩,
   ⟨"server.public_quic_address", (·.publicQUICAddress),
    fun cfg value => { cfg with publicQUICAddress := value }⟩,
   ⟨"server.rendezvous_listen", (·.rendezvousListen),
    fun cfg value => { cfg with rendezvousListen := value }⟩,
   ⟨"server.public_rendezvous_address", (·.publicRendezvous),
    fun cfg value => { cfg with publicRendezvous := value }⟩,
   ⟨"server.http_listen", (·.httpListen), fun cfg value => { cfg with httpListen := value }⟩,
   ⟨"server.tls.cert_file", (·.tls.certFile),
    fun cfg value => { cfg with tls := { cfg.tls with certFile := value } }⟩,
   ⟨"server.tls.key_file", (·.tls.keyFile),
    fun cfg value => { cfg with tls := { cfg.tls with keyFile := value } }⟩,
   ⟨"server.tls.domain", (·.tls.domain),
    fun cfg value => { cfg with tls := { cfg.tls with domain := value } }⟩,
   ⟨"server.tls.email", (·.tls.email),
    fun cfg value => { cfg with tls := { cfg.tls with email := value } }⟩,
   ⟨"server.auto_subdomain.base_domain", (·.autoSubdomain.baseDomain),
    fun cfg value => { cfg with autoSubdomain := { cfg.autoSubdomain with baseDomain := value } }⟩,
   ⟨"server.heartbeat_timeout", (·.heartbeatText),
    fun cfg value => { cfg with heartbeatText := value }⟩]

/-- The loop over `stringSettings`. -/
def applyStringSettings (settings : Settings) (cfg : ServerConfig) : ServerConfig :=
  stringSettings.foldl
    (fun cfg setting => setting.set cfg (settings.text setting.name (setting.get cfg))) cfg

section Boot

variable [CaseTable] [DurationTable]

/-- `applyStoredSettings`, up to `seedAutoSubdomainSettings`. -/
def applyStoredSettings (settings : Settings) (base : ServerConfig) : Except String ServerConfig := do
  let cfg := applyStringSettings settings base
  let baseDomain ←
    (if cfg.autoSubdomain.baseDomain = "" then .ok ""
      else normalizeDomain cfg.autoSubdomain.baseDomain)
  let heartbeatTimeout ←
    (DurationTable.parse cfg.heartbeatText).mapError ("stored heartbeat timeout: " ++ ·)
  let plainEnabled ← settings.flag "server.plain_enabled" cfg.plainEnabled
  let p2pEnabled ← settings.flag "server.p2p_enabled" cfg.p2pEnabled
  let tlsEnabled ← settings.flag "server.tls.enabled" cfg.tls.enabled
  let autoSubdomain ← settings.flag "server.auto_subdomain.enabled" cfg.autoSubdomain.enabled
  reject (autoSubdomain = true ∧ baseDomain = "") "server.auto_subdomain.base_domain is required"
  return { cfg with
    heartbeatTimeout, plainEnabled, p2pEnabled
    tls := { cfg.tls with enabled := tlsEnabled }
    autoSubdomain := { enabled := autoSubdomain, baseDomain } }

/-- `SetAutoSubdomainConfig`, when the transaction commits. -/
def Settings.setAutoSubdomainConfig (settings : Settings) (cfg : AutoSubdomainConfig) : Settings :=
  (settings.set "server.auto_subdomain.enabled" (formatBool cfg.enabled)).set
    "server.auto_subdomain.base_domain" cfg.baseDomain

/-- The start of the server, as far as the configuration goes. -/
def boot (settings : Settings) (base : ServerConfig) : Except String ServerConfig := do
  let cfg ← applyStoredSettings settings base
  cfg.validateServerTransport
  return cfg

/-! ## When the server boots -/

/-- The settings that are flags. -/
def flagSettings : List String :=
  ["server.plain_enabled", "server.p2p_enabled", "server.tls.enabled",
    "server.auto_subdomain.enabled"]

/-- A text that `net.SplitHostPort` takes apart. -/
def IsAddress (text : String) : Prop := ∃ parts, splitHostPort text = .ok parts

/-- What is asked of the settings. -/
structure Bootable (settings : Settings) (base : ServerConfig) : Prop where
  baseDomain :
    let text := settings.text "server.auto_subdomain.base_domain" base.autoSubdomain.baseDomain
    text = "" ∨ ∃ domain, normalizeDomain text = .ok domain
  heartbeat :
    ∃ timeout, DurationTable.parse
      (settings.text "server.heartbeat_timeout" base.heartbeatText) = .ok timeout
  flags :
    ∀ name ∈ flagSettings, ∀ value, settings (settingKey name) = some value →
      ∃ flag, parseBool value = .ok flag
  autoSubdomain :
    settings.flag "server.auto_subdomain.enabled" base.autoSubdomain.enabled = .ok true →
      settings.text "server.auto_subdomain.base_domain" base.autoSubdomain.baseDomain ≠ ""
  listen :
    ¬ blank (settings.text "server.listen" base.listen) ∧
      ¬ blank (settings.text "server.data_listen" base.dataListen)
  certificate :
    settings.flag "server.tls.enabled" base.tls.enabled = .ok true →
      ¬ blank (settings.text "server.tls.cert_file" base.tls.certFile) ∧
        ¬ blank (settings.text "server.tls.key_file" base.tls.keyFile)
  plain :
    settings.flag "server.plain_enabled" base.plainEnabled = .ok true →
      IsAddress (settings.text "server.plain_listen" base.plainListen) ∧
        IsAddress (settings.text "server.plain_data_listen" base.plainDataListen)

/-- What `applyStoredSettings` makes of the settings. -/
structure Applied (settings : Settings) (base cfg : ServerConfig) : Prop where
  listen : cfg.listen = settings.text "server.listen" base.listen
  dataListen : cfg.dataListen = settings.text "server.data_listen" base.dataListen
  plainListen : cfg.plainListen = settings.text "server.plain_listen" base.plainListen
  plainDataListen :
    cfg.plainDataListen = settings.text "server.plain_data_listen" base.plainDataListen
  certFile : cfg.tls.certFile = settings.text "server.tls.cert_file" base.tls.certFile
  keyFile : cfg.tls.keyFile = settings.text "server.tls.key_file" base.tls.keyFile
  heartbeat :
    DurationTable.parse (settings.text "server.heartbeat_timeout" base.heartbeatText) =
      .ok cfg.heartbeatTimeout
  plainEnabled : settings.flag "server.plain_enabled" base.plainEnabled = .ok cfg.plainEnabled
  p2pEnabled : settings.flag "server.p2p_enabled" base.p2pEnabled = .ok cfg.p2pEnabled
  tlsEnabled : settings.flag "server.tls.enabled" base.tls.enabled = .ok cfg.tls.enabled
  autoSubdomain :
    settings.flag "server.auto_subdomain.enabled" base.autoSubdomain.enabled =
      .ok cfg.autoSubdomain.enabled
  baseDomain :
    let text := settings.text "server.auto_subdomain.base_domain" base.autoSubdomain.baseDomain
    (text = "" ∧ cfg.autoSubdomain.baseDomain = "") ∨
      normalizeDomain text = .ok cfg.autoSubdomain.baseDomain
  required : cfg.autoSubdomain.enabled = true → cfg.autoSubdomain.baseDomain ≠ ""

variable {settings : Settings} {base cfg : ServerConfig}

theorem Applied.of_applyStoredSettings (applied : applyStoredSettings settings base = .ok cfg) :
    Applied settings base cfg := by
  unfold applyStoredSettings at applied
  simp only [bind_eq_ok] at applied
  obtain ⟨baseDomain, domain, timeout, heartbeat, plain, plainFlag, p2p, p2pFlag, tls, tlsFlag, auto,
    autoFlag, _, required, built⟩ := applied
  rw [mapError_eq_ok] at heartbeat
  rw [reject_eq_ok] at required
  have normal : (settings.text "server.auto_subdomain.base_domain" base.autoSubdomain.baseDomain = ""
      ∧ baseDomain = "") ∨ normalizeDomain
        (settings.text "server.auto_subdomain.base_domain" base.autoSubdomain.baseDomain) =
          .ok baseDomain := by
    split at domain
    · rename_i empty
      exact Or.inl ⟨empty, (Except.ok.inj domain).symm⟩
    · exact Or.inr domain
  obtain rfl := Except.ok.inj built
  exact
    { listen := rfl, dataListen := rfl, plainListen := rfl, plainDataListen := rfl, certFile := rfl
      keyFile := rfl, heartbeat := heartbeat, plainEnabled := plainFlag, p2pEnabled := p2pFlag
      tlsEnabled := tlsFlag, autoSubdomain := autoFlag, baseDomain := normal
      required := fun enabled empty => required ⟨enabled, empty⟩ }

omit [CaseTable] [DurationTable] in
theorem not_blank_of_isAddress {text : String} (address : IsAddress text) : ¬ blank text := by
  obtain ⟨parts, split⟩ := address
  exact trimSpace_ne_empty (colon_mem_of_splitHostPort split) (by decide)

omit [CaseTable] [DurationTable] in
theorem checkAddress_eq_ok {report address : String} :
    checkAddress report address = .ok () ↔ IsAddress address := by
  unfold checkAddress IsAddress
  cases splitHostPort address with
  | error err => exact ⟨nofun, fun ⟨_, split⟩ => nomatch split⟩
  | ok parts => exact ⟨fun _ => ⟨parts, rfl⟩, fun _ => rfl⟩

omit [CaseTable] [DurationTable] in
theorem validatePlaintextListeners_eq_ok :
    cfg.validatePlaintextListeners = .ok () ↔
      (cfg.plainEnabled = true → IsAddress cfg.plainListen ∧ IsAddress cfg.plainDataListen) := by
  unfold ServerConfig.validatePlaintextListeners
  split
  · rename_i off
    simp [off]
  · rename_i on
    rw [Bool.not_eq_false] at on
    simp only [seq_eq_ok, reject_eq_ok, checkAddress_eq_ok, on, true_implies]
    constructor
    · rintro ⟨-, both⟩
      exact both
    · intro both
      refine ⟨?_, both⟩
      rintro (empty | empty)
      · exact not_blank_of_isAddress both.1 empty
      · exact not_blank_of_isAddress both.2 empty

omit [CaseTable] [DurationTable] in
theorem validateServerTransport_eq_ok :
    cfg.validateServerTransport = .ok () ↔
      (¬ blank cfg.listen ∧ ¬ blank cfg.dataListen) ∧
      (cfg.tls.enabled = true → ¬ blank cfg.tls.certFile ∧ ¬ blank cfg.tls.keyFile) ∧
      (cfg.plainEnabled = true → IsAddress cfg.plainListen ∧ IsAddress cfg.plainDataListen) := by
  unfold ServerConfig.validateServerTransport ServerConfig.hasPlaintextListeners
  simp only [seq_eq_ok, reject_eq_ok, validatePlaintextListeners_eq_ok, not_or, not_and, not_not]
  -- the last check adds nothing to the first
  constructor
  · rintro ⟨listen, certificate, plain, -⟩
    exact ⟨listen, certificate, plain⟩
  · rintro ⟨listen, certificate, plain⟩
    exact ⟨listen, certificate, plain, fun _ neither => listen.2 (neither listen.1)⟩

omit [CaseTable] [DurationTable] in
theorem Settings.flag_eq_ok (name : String) (default : Bool)
    (parses : ∀ value, settings (settingKey name) = some value → ∃ flag, parseBool value = .ok flag) :
    ∃ flag, settings.flag name default = .ok flag := by
  unfold Settings.flag
  cases stored : settings (settingKey name) with
  | none => exact ⟨default, rfl⟩
  | some value => exact parses value stored

omit [CaseTable] [DurationTable] in
theorem Settings.parses_of_flag {name : String} {default flag : Bool}
    (read : settings.flag name default = .ok flag) {value : String}
    (stored : settings (settingKey name) = some value) : ∃ flag, parseBool value = .ok flag := by
  unfold Settings.flag at read
  rw [stored] at read
  exact ⟨flag, read⟩

theorem boot_eq_ok :
    boot settings base = .ok cfg ↔
      applyStoredSettings settings base = .ok cfg ∧ cfg.validateServerTransport = .ok () := by
  unfold boot
  simp only [bind_eq_ok]
  constructor
  · rintro ⟨_, applied, _, valid, same⟩
    obtain rfl := Except.ok.inj same
    exact ⟨applied, valid⟩
  · rintro ⟨applied, valid⟩
    exact ⟨cfg, applied, (), valid, rfl⟩

theorem Bootable.of_boot (booted : boot settings base = .ok cfg) : Bootable settings base := by
  obtain ⟨applied, valid⟩ := boot_eq_ok.mp booted
  have fields := Applied.of_applyStoredSettings applied
  obtain ⟨listen, certificate, plain⟩ := validateServerTransport_eq_ok.mp valid
  rw [fields.listen, fields.dataListen] at listen
  rw [fields.certFile, fields.keyFile] at certificate
  rw [fields.plainListen, fields.plainDataListen] at plain
  refine ⟨?_, ⟨_, fields.heartbeat⟩, ?_, ?_, listen, ?_, ?_⟩
  · rcases fields.baseDomain with ⟨empty, _⟩ | normal
    · exact Or.inl empty
    · exact Or.inr ⟨_, normal⟩
  · intro name member value stored
    simp only [flagSettings, List.mem_cons, List.not_mem_nil, or_false] at member
    rcases member with rfl | rfl | rfl | rfl
    · exact Settings.parses_of_flag fields.plainEnabled stored
    · exact Settings.parses_of_flag fields.p2pEnabled stored
    · exact Settings.parses_of_flag fields.tlsEnabled stored
    · exact Settings.parses_of_flag fields.autoSubdomain stored
  · intro enabled empty
    rw [fields.autoSubdomain] at enabled
    rcases fields.baseDomain with ⟨_, none⟩ | normal
    · exact fields.required (Except.ok.inj enabled) none
    · exact (ne_empty_of_normalizeDomain normal).1 empty
  · intro enabled
    rw [fields.tlsEnabled] at enabled
    exact certificate (Except.ok.inj enabled)
  · intro enabled
    rw [fields.plainEnabled] at enabled
    exact plain (Except.ok.inj enabled)

theorem Bootable.boot_ok (bootable : Bootable settings base) :
    ∃ cfg, boot settings base = .ok cfg := by
  have flag (name : String) (member : name ∈ flagSettings) (default : Bool) :=
    Settings.flag_eq_ok name default (bootable.flags name member)
  obtain ⟨plain, plainFlag⟩ := flag "server.plain_enabled" (by decide) base.plainEnabled
  obtain ⟨p2p, p2pFlag⟩ := flag "server.p2p_enabled" (by decide) base.p2pEnabled
  obtain ⟨tls, tlsFlag⟩ := flag "server.tls.enabled" (by decide) base.tls.enabled
  obtain ⟨auto, autoFlag⟩ :=
    flag "server.auto_subdomain.enabled" (by decide) base.autoSubdomain.enabled
  obtain ⟨timeout, heartbeat⟩ := bootable.heartbeat
  obtain ⟨baseDomain, domain, required⟩ : ∃ baseDomain,
      (if (applyStringSettings settings base).autoSubdomain.baseDomain = "" then .ok ""
        else normalizeDomain (applyStringSettings settings base).autoSubdomain.baseDomain) =
          Except.ok baseDomain ∧ ¬ (auto = true ∧ baseDomain = "") := by
    split
    · rename_i empty
      exact ⟨"", rfl, fun both => bootable.autoSubdomain (both.1 ▸ autoFlag) empty⟩
    · rename_i present
      rcases bootable.baseDomain with empty | ⟨found, normal⟩
      · exact absurd empty present
      · exact ⟨found, normal, fun both => (ne_empty_of_normalizeDomain normal).2 both.2⟩
  have applied : ∃ cfg, applyStoredSettings settings base = .ok cfg := by
    unfold applyStoredSettings
    simp only [bind_eq_ok, mapError_eq_ok]
    exact ⟨_, baseDomain, domain, timeout, heartbeat, plain, plainFlag, p2p, p2pFlag, tls, tlsFlag,
      auto, autoFlag, (), reject_eq_ok.mpr required, rfl⟩
  obtain ⟨cfg, applied⟩ := applied
  have fields := Applied.of_applyStoredSettings applied
  refine ⟨cfg, boot_eq_ok.mpr ⟨applied, ?_⟩⟩
  rw [validateServerTransport_eq_ok, fields.listen, fields.dataListen, fields.certFile,
    fields.keyFile, fields.plainListen, fields.plainDataListen]
  refine ⟨bootable.listen, fun enabled => bootable.certificate ?_, fun enabled => bootable.plain ?_⟩
  · rw [fields.tlsEnabled, enabled]
  · rw [fields.plainEnabled, enabled]

/-- **When the server boots.** -/
theorem boots_iff : (∃ cfg, boot settings base = .ok cfg) ↔ Bootable settings base :=
  ⟨fun ⟨_, booted⟩ => .of_boot booted, fun bootable => bootable.boot_ok⟩

end Boot
end NryNet.App
