import NryNet.App.Transport

/-!
# Booting again

Whatever was stored while the server ran, it has to boot again.  Both writers check what they store, but
neither looks at everything: the settings API turns TLS on without a look at the certificate files, and
takes an empty address for plain connections that `TransportController` has turned on behind its back;
`TransportController` looks at the addresses and the certificate the running server uses, which need not
be those that are stored.  `boots_again` is what remains true.
-/

namespace NryNet.App

open GoText Checks

/-! ## One setting -/

theorem settingKey_inj {name other : String} : settingKey name = settingKey other ↔ name = other :=
  String.append_right_inj "config."

namespace Settings

theorem set_apply (settings : Settings) (name value other : String) :
    settings.set name value (settingKey other) =
      if other = name then some value else settings (settingKey other) := by
  unfold Settings.set
  by_cases same : other = name
  · rw [if_pos same, same, Function.update_self]
  · rw [if_neg same, Function.update_of_ne fun keys => same (settingKey_inj.mp keys)]

theorem text_set (settings : Settings) (name value other default : String) :
    (settings.set name value).text other default =
      if other = name then value else settings.text other default := by
  unfold Settings.text
  rw [set_apply]
  split <;> rfl

theorem flag_set (settings : Settings) (name value other : String) (default : Bool) :
    (settings.set name value).flag other default =
      if other = name then parseBool value else settings.flag other default := by
  unfold Settings.flag
  rw [set_apply]
  by_cases same : other = name
  · rw [if_pos same, if_pos same]
  · rw [if_neg same, if_neg same]

end Settings

section Reboot

variable [CaseTable] [DurationTable] {settings : Settings} {base : ServerConfig}

/-- A setting is stored, and what is asked of it is met. -/
theorem Bootable.set (bootable : Bootable settings base) {name value : String}
    (other : name ≠ "server.auto_subdomain.base_domain" ∧ name ≠ "server.auto_subdomain.enabled")
    (heartbeat : name = "server.heartbeat_timeout" →
      ∃ timeout, DurationTable.parse value = .ok timeout)
    (flags : name ∈ flagSettings → ∃ flag, parseBool value = .ok flag)
    (listen : name = "server.listen" ∨ name = "server.data_listen" → ¬ blank value)
    (certificate :
      (settings.set name value).flag "server.tls.enabled" base.tls.enabled = .ok true →
        ¬ blank ((settings.set name value).text "server.tls.cert_file" base.tls.certFile) ∧
          ¬ blank ((settings.set name value).text "server.tls.key_file" base.tls.keyFile))
    (plain :
      (settings.set name value).flag "server.plain_enabled" base.plainEnabled = .ok true →
        IsAddress ((settings.set name value).text "server.plain_listen" base.plainListen) ∧
          IsAddress ((settings.set name value).text "server.plain_data_listen" base.plainDataListen)) :
    Bootable (settings.set name value) base := by
  refine ⟨?_, ?_, ?_, ?_, ?_, certificate, plain⟩
  · rw [Settings.text_set, if_neg other.1.symm]
    exact bootable.baseDomain
  · rw [Settings.text_set]
    split
    · rename_i same
      exact heartbeat same.symm
    · exact bootable.heartbeat
  · intro known member text stored
    rw [Settings.set_apply] at stored
    split at stored
    · rename_i same
      rw [← Option.some.inj stored]
      exact flags (same ▸ member)
    · exact bootable.flags known member text stored
  · rw [Settings.flag_set, if_neg other.2.symm, Settings.text_set, if_neg other.1.symm]
    exact bootable.autoSubdomain
  · rw [Settings.text_set, Settings.text_set]
    constructor
    · split
      · rename_i same
        exact listen (Or.inl same.symm)
      · exact bootable.listen.1
    · split
      · rename_i same
        exact listen (Or.inr same.symm)
      · exact bootable.listen.2

/-- The base domain that is stored is in normal form. -/
theorem Bootable.setAutoSubdomainConfig (bootable : Bootable settings base)
    {next : AutoSubdomainConfig} (required : next.enabled = true → next.baseDomain ≠ "")
    (normal : next.baseDomain = "" ∨ ∃ text, normalizeDomain text = .ok next.baseDomain) :
    Bootable (settings.setAutoSubdomainConfig next) base := by
  have text (name default : String) (other : name ≠ "server.auto_subdomain.enabled")
      (another : name ≠ "server.auto_subdomain.base_domain") :
      (settings.setAutoSubdomainConfig next).text name default = settings.text name default := by
    rw [Settings.setAutoSubdomainConfig, Settings.text_set, if_neg another, Settings.text_set,
      if_neg other]
  have flag (name : String) (default : Bool) (other : name ≠ "server.auto_subdomain.enabled")
      (another : name ≠ "server.auto_subdomain.base_domain") :
      (settings.setAutoSubdomainConfig next).flag name default = settings.flag name default := by
    rw [Settings.setAutoSubdomainConfig, Settings.flag_set, if_neg another, Settings.flag_set,
      if_neg other]
  have domain : (settings.setAutoSubdomainConfig next).text "server.auto_subdomain.base_domain"
      base.autoSubdomain.baseDomain = next.baseDomain := by
    rw [Settings.setAutoSubdomainConfig, Settings.text_set, if_pos rfl]
  have enabled : (settings.setAutoSubdomainConfig next).flag "server.auto_subdomain.enabled"
      base.autoSubdomain.enabled = .ok next.enabled := by
    rw [Settings.setAutoSubdomainConfig, Settings.flag_set, if_neg (by decide), Settings.flag_set,
      if_pos rfl, parseBool_formatBool]
  refine ⟨?_, ?_, ?_, ?_, ?_, ?_, ?_⟩
  · rw [domain]
    rcases normal with empty | ⟨given, normal⟩
    · exact Or.inl empty
    · exact Or.inr ⟨_, normalizeDomain_idem normal⟩
  · rw [text _ _ (by decide) (by decide)]
    exact bootable.heartbeat
  · intro known member value stored
    rw [Settings.setAutoSubdomainConfig, Settings.set_apply] at stored
    split at stored
    · rename_i same
      rw [same] at member
      exact absurd member (by decide)
    · rw [Settings.set_apply] at stored
      split at stored
      · rw [← Option.some.inj stored]
        exact ⟨_, parseBool_formatBool next.enabled⟩
      · exact bootable.flags known member value stored
  · rw [domain, enabled]
    intro on
    exact required (Except.ok.inj on)
  · rw [text _ _ (by decide) (by decide), text _ _ (by decide) (by decide)]
    exact bootable.listen
  · rw [flag _ _ (by decide) (by decide), text _ _ (by decide) (by decide),
      text _ _ (by decide) (by decide)]
    exact bootable.certificate
  · rw [flag _ _ (by decide) (by decide), text _ _ (by decide) (by decide),
      text _ _ (by decide) (by decide)]
    exact bootable.plain

/-! ## What `validateSetting` lets through -/

section Validated

variable {key text : String} {value : SettingValue}

/-- The text is stored as it was given, but for the base domain. -/
theorem validateSetting_text (other : key ≠ "server.auto_subdomain.base_domain")
    (valid : validateSetting key value = .ok text) : text = settingText value := by
  unfold validateSetting at valid
  simp only [other, and_false, if_false] at valid
  split at valid
  · rename_i empty
    rw [empty.1]
    exact (Except.ok.inj valid).symm
  split at valid
  · cases valid
  split at valid
  · split at valid
    · exact (Except.ok.inj valid).symm
    · cases valid
  split at valid
  · unfold checkAddress at valid
    split at valid
    · cases valid
    · exact (Except.ok.inj valid).symm
  split at valid
  · split at valid
    · split at valid
      · cases valid
      · exact (Except.ok.inj valid).symm
    · cases valid
  · exact (Except.ok.inj valid).symm

/-- Only the two addresses for plain connections may be empty. -/
theorem validateSetting_ne_empty (optional : ¬ isOptionalAddressSetting key)
    (other : key ≠ "server.auto_subdomain.base_domain") (valid : validateSetting key value = .ok text) :
    text ≠ "" := by
  rw [validateSetting_text other valid]
  intro empty
  unfold validateSetting at valid
  simp only [empty, optional, other, and_false, if_false, if_true] at valid
  cases valid

theorem validateSetting_address (member : key ∈ addressSettings)
    (valid : validateSetting key value = .ok text) (present : text ≠ "") : IsAddress text := by
  have other : key ≠ "server.auto_subdomain.base_domain" ∧ key ∉ flagSettings := by
    simp only [addressSettings, List.mem_cons, List.not_mem_nil, or_false] at member
    rcases member with rfl | rfl | rfl | rfl | rfl | rfl | rfl | rfl | rfl | rfl <;> decide
  have given := validateSetting_text other.1 valid
  rw [given] at present ⊢
  unfold validateSetting at valid
  simp only [present, other, member, false_and, if_false, if_true] at valid
  unfold checkAddress at valid
  split at valid
  · cases valid
  · rename_i parts split
    exact ⟨parts, split⟩

theorem validateSetting_heartbeat (valid : validateSetting "server.heartbeat_timeout" value = .ok text) :
    ∃ timeout, DurationTable.parse text = .ok timeout := by
  have given := validateSetting_text (by decide) valid
  have present := validateSetting_ne_empty (by decide) (by decide) valid
  rw [given] at present ⊢
  have names : "server.heartbeat_timeout" ∉ flagSettings ∧
      "server.heartbeat_timeout" ∉ addressSettings ∧
      "server.heartbeat_timeout" ≠ "server.auto_subdomain.base_domain" := by decide
  unfold validateSetting at valid
  simp only [present, names, false_and, if_false, if_true] at valid
  split at valid
  · rename_i timeout parsed
    exact ⟨timeout, parsed⟩
  · cases valid

end Validated

/-! ## What the two writers know -/

namespace Server

variable {s : Server}

/-- The names that the settings API knows. -/
def settingNames : List String := (safeSettings ServerConfig.defaults).map SettingItem.key

/-- The addresses that the handler remembers are those that are stored; and they are those of the running
server, unless they have been changed since. -/
structure Tracked (base : ServerConfig) (s : Server) : Prop where
  consistent : s.Consistent
  names : ∀ key item, s.items key = some item → item.key = key ∧ key ∈ settingNames
  plainListen :
    s.items.currentText "server.plain_listen" =
      s.settings.text "server.plain_listen" base.plainListen
  plainDataListen :
    s.items.currentText "server.plain_data_listen" =
      s.settings.text "server.plain_data_listen" base.plainDataListen
  control :
    let stored := s.settings.text "server.plain_listen" base.plainListen
    stored = s.config.plainListen ∨ stored = "" ∨ IsAddress stored
  data :
    let stored := s.settings.text "server.plain_data_listen" base.plainDataListen
    stored = s.config.plainDataListen ∨ stored = "" ∨ IsAddress stored

omit [CaseTable] [DurationTable] in
/-- A call that touches neither the items nor the addresses. -/
theorem Tracked.frame {s' : Server} (tracked : Tracked base s) (consistent : s'.Consistent)
    (items : s'.items = s.items)
    (listen : s'.config.plainListen = s.config.plainListen ∧
      s'.config.plainDataListen = s.config.plainDataListen)
    (control : s'.settings.text "server.plain_listen" base.plainListen =
      s.settings.text "server.plain_listen" base.plainListen)
    (data : s'.settings.text "server.plain_data_listen" base.plainDataListen =
      s.settings.text "server.plain_data_listen" base.plainDataListen) : Tracked base s' where
  consistent := consistent
  names := by rw [items]; exact tracked.names
  plainListen := by rw [items, control]; exact tracked.plainListen
  plainDataListen := by rw [items, data]; exact tracked.plainDataListen
  control := by rw [control, listen.1]; exact tracked.control
  data := by rw [data, listen.2]; exact tracked.data

omit [CaseTable] [DurationTable] in
theorem currentText_update (items : Items) (item : SettingItem) (key : String) :
    Items.currentText (Function.update items item.key (some item)) key =
      if key = item.key then settingText item.value else items.currentText key := by
  unfold Items.currentText
  by_cases same : key = item.key
  · rw [if_pos same, same, Function.update_self]
  · rw [if_neg same, Function.update_of_ne same]

omit [CaseTable] [DurationTable] in
/-- The names of the settings API are not those of automatic subdomains. -/
theorem not_auto_of_mem {key : String} (member : key ∈ settingNames) :
    key ≠ "server.auto_subdomain.base_domain" ∧ key ≠ "server.auto_subdomain.enabled" := by
  constructor
  · rintro rfl
    exact absurd member (by decide)
  · rintro rfl
    exact absurd member (by decide)

theorem Tracked.updated (tracked : Tracked base s) {key : String} {request : Option SettingValue}
    {item : SettingItem} {value : SettingValue} {text : String} (p2p : Bool)
    (checked : s.checkUpdate key request = .ok (item, value, text)) :
    Tracked base
      { s with
        settings := s.settings.set item.key text
        p2pEnabled := p2p
        items := Function.update s.items item.key (some { item with value := value.shown text }) } := by
  obtain ⟨listed, -, valid, -⟩ := checkUpdate_ok checked
  obtain ⟨named, member⟩ := tracked.names key item listed
  have other := (not_auto_of_mem member).1
  rw [← named] at member other
  have given := validateSetting_text other valid
  have shown : settingText (value.shown text) = text := by
    cases value with
    | text _ => rfl
    | bool flag => exact given.symm
    | other => exact given.symm
  have address (optional : item.key ∈ addressSettings) : text = "" ∨ IsAddress text := by
    by_cases empty : text = ""
    · exact Or.inl empty
    · exact Or.inr (validateSetting_address optional valid empty)
  have texts (name default : String) (same : s.items.currentText name = s.settings.text name default) :
      Items.currentText (Function.update s.items item.key
        (some { item with value := value.shown text })) name =
      (s.settings.set item.key text).text name default := by
    rw [currentText_update s.items { item with value := value.shown text }, Settings.text_set, same,
      shown]
  refine ⟨?_, ?_, texts _ _ tracked.plainListen, texts _ _ tracked.plainDataListen, ?_, ?_⟩
  · exact ⟨tracked.consistent.tls, tracked.consistent.loaded, tracked.consistent.flag,
      tracked.consistent.control, tracked.consistent.data, tracked.consistent.addresses⟩
  · intro other found lookup
    by_cases same : other = item.key
    · rw [same] at lookup ⊢
      simp only [Function.update_self, Option.some.injEq] at lookup
      rw [← lookup]
      exact ⟨rfl, member⟩
    · simp only [Function.update_of_ne same] at lookup
      exact tracked.names other found lookup
  · simp only [Settings.text_set]
    split
    · rename_i same
      exact Or.inr (address (same ▸ by decide))
    · exact tracked.control
  · simp only [Settings.text_set]
    split
    · rename_i same
      exact Or.inr (address (same ▸ by decide))
    · exact tracked.data

omit [CaseTable] [DurationTable] in
/-- Opening the listeners again changes nothing else. -/
theorem startPlainLocked_frame (network : Network) :
    (startPlainLocked network s.closed).1.settings = s.settings ∧
      (startPlainLocked network s.closed).1.items = s.items ∧
      (startPlainLocked network s.closed).1.config.plainListen = s.config.plainListen ∧
      (startPlainLocked network s.closed).1.config.plainDataListen = s.config.plainDataListen := by
  rcases startPlainLocked_cases (s := s.closed) rfl rfl network with ⟨_, again⟩ | ⟨_, _, again, -⟩
  · rw [again]
    exact ⟨rfl, rfl, rfl, rfl⟩
  · rw [again]
    exact ⟨rfl, rfl, rfl, rfl⟩

theorem Tracked.performed (tracked : Tracked base s) {call : Call} {s' : Server}
    {result : Except String Unit} (performed : Performed s call s' result) : Tracked base s' := by
  have consistent := performed.consistent tracked.consistent
  cases performed with
  | refused => exact tracked
  | updated p2p checked => exact tracked.updated p2p checked
  | tlsSwitched =>
      exact tracked.frame consistent rfl ⟨rfl, rfl⟩ (by simp [Settings.text_set])
        (by simp [Settings.text_set])
  | plainOpened =>
      exact tracked.frame consistent rfl ⟨rfl, rfl⟩ (by simp [Settings.text_set])
        (by simp [Settings.text_set])
  | plainClosed =>
      exact tracked.frame consistent rfl ⟨rfl, rfl⟩ (by simp [Settings.text_set])
        (by simp [Settings.text_set])
  | notClosed => exact tracked.frame consistent rfl ⟨rfl, rfl⟩ rfl rfl
  | @reopened network _ _ _ =>
      obtain ⟨settings, items, listen⟩ := startPlainLocked_frame (s := s) network
      exact tracked.frame consistent items listen (by rw [settings]) (by rw [settings])
  | subdomainsSet =>
      exact tracked.frame consistent rfl ⟨rfl, rfl⟩
        (by simp [Settings.setAutoSubdomainConfig, Settings.text_set])
        (by simp [Settings.setAutoSubdomainConfig, Settings.text_set])

/-! ## A server that was just started -/

omit [CaseTable] [DurationTable] in
theorem mem_of_index {items : List SettingItem} {key : String} {item : SettingItem}
    (found : Items.index items key = some item) : item ∈ items ∧ item.key = key := by
  -- the map only ever holds what was put into it
  have held (init : Items) : items.foldl
      (fun (indexed : Items) item => Function.update indexed item.key (some item)) init key =
        some item →
      (item ∈ items ∧ item.key = key) ∨ init key = some item := by
    clear found
    induction items generalizing init with
    | nil => exact Or.inr
    | cons head tail ih =>
        intro found
        rcases ih _ found with ⟨member, named⟩ | earlier
        · exact Or.inl ⟨List.mem_cons_of_mem _ member, named⟩
        · by_cases same : key = head.key
          · simp only [same, Function.update_self, Option.some.injEq] at earlier
            exact Or.inl ⟨earlier ▸ List.mem_cons_self, earlier ▸ same.symm⟩
          · simp only [Function.update_of_ne same] at earlier
            exact Or.inr earlier
  rcases held _ found with listed | impossible
  · exact listed
  · cases impossible

theorem tracked_started {cfg : ServerConfig} (booted : boot settings base = .ok cfg) (loaded : Bool)
    (plainCtrl plainData : String) :
    Tracked base (started settings cfg loaded plainCtrl plainData) := by
  have fields := Applied.of_applyStoredSettings (boot_eq_ok.mp booted).1
  have control : (settings.setAutoSubdomainConfig cfg.autoSubdomain).text "server.plain_listen"
      base.plainListen = cfg.plainListen := by
    simp [Settings.setAutoSubdomainConfig, Settings.text_set, fields.plainListen]
  have data : (settings.setAutoSubdomainConfig cfg.autoSubdomain).text "server.plain_data_listen"
      base.plainDataListen = cfg.plainDataListen := by
    simp [Settings.setAutoSubdomainConfig, Settings.text_set, fields.plainDataListen]
  refine ⟨consistent_started loaded plainCtrl plainData booted, ?_, ?_, ?_, Or.inl control,
    Or.inl data⟩
  · intro key item found
    obtain ⟨member, named⟩ := mem_of_index found
    have names : settingNames = (safeSettings cfg).map SettingItem.key := rfl
    rw [names, ← named]
    exact ⟨rfl, List.mem_map_of_mem member⟩
  · exact control.symm
  · exact data.symm

theorem bootable_started {cfg : ServerConfig} (booted : boot settings base = .ok cfg) (loaded : Bool)
    (plainCtrl plainData : String) :
    Bootable (started settings cfg loaded plainCtrl plainData).settings base := by
  have fields := Applied.of_applyStoredSettings (boot_eq_ok.mp booted).1
  refine (Bootable.of_boot booted).setAutoSubdomainConfig fields.required ?_
  rcases fields.baseDomain with ⟨-, empty⟩ | normal
  · exact Or.inl empty
  · exact Or.inr ⟨_, normal⟩

/-! ## Harmful calls -/

/-- A certificate file that is stored, or its key, has a blank name. -/
def CertificateMissing (base : ServerConfig) (s : Server) : Prop :=
  blank (s.settings.text "server.tls.cert_file" base.tls.certFile) ∨
    blank (s.settings.text "server.tls.key_file" base.tls.keyFile)

/-- The listeners for plain connections are open, or both can be opened. -/
def PlainOpens (s : Server) (network : Network) : Prop :=
  s.plain = true ∨ IsAddress s.config.plainListen ∧ IsAddress s.config.plainDataListen ∧
    network.control.isOk = true ∧ network.data.isOk = true

/-- The calls that a server does not survive: what they store is refused when it starts again. -/
def Harmful (base : ServerConfig) (s : Server) : Call → Prop
  | .update key request failure =>
      failure = none ∧ ∃ value, request = some value ∧
        (key = "server.tls.enabled" ∧ value = .bool true ∧ CertificateMissing base s ∨
          (key = "server.tls.cert_file" ∨ key = "server.tls.key_file") ∧
            settingText value ≠ "" ∧ blank (settingText value) ∧
            s.settings.flag "server.tls.enabled" base.tls.enabled = .ok true ∨
          isOptionalAddressSetting key ∧ settingText value = "" ∧
            s.items.currentBool "server.plain_enabled" = false ∧
            s.settings.flag "server.plain_enabled" base.plainEnabled = .ok true)
  | .setTLSEnabled enabled failure =>
      failure = none ∧ enabled = true ∧ s.certificateLoaded = true ∧ CertificateMissing base s
  | .setPlainEnabled enabled network failure =>
      failure = none ∧ enabled = true ∧ PlainOpens s network ∧
        (s.settings.text "server.plain_listen" base.plainListen = "" ∨
          s.settings.text "server.plain_data_listen" base.plainDataListen = "")
  | .setAutoSubdomain _ _ _ => False

/-- The copy of the handler decides whether an address may be empty. -/
theorem validatePlaintextState_address {key : String} (optional : isOptionalAddressSetting key)
    (valid : s.items.validatePlaintextState key "" = .ok ()) :
    s.items.currentBool "server.plain_enabled" = false := by
  unfold Items.validatePlaintextState at valid
  by_contra on
  rcases optional with rfl | rfl
  · simp [on, reject] at valid
  · simp [on, reject] at valid

theorem isAddress_of_validated {name text : String} (member : name ∈ addressSettings)
    (valid : (validateSetting name (.text text)).map (fun _ => ()) = .ok ()) (present : text ≠ "") :
    IsAddress text := by
  cases result : validateSetting name (.text text) with
  | error err => rw [result] at valid; cases valid
  | ok found =>
      have other : name ≠ "server.auto_subdomain.base_domain" := by
        rintro rfl
        exact absurd member (by decide)
      have same : found = text := validateSetting_text other result
      exact validateSetting_address member (same ▸ result) present

/-- Plain connections are turned on for addresses that the handler knows. -/
theorem validatePlaintextState_enabled
    (valid : s.items.validatePlaintextState "server.plain_enabled" "true" = .ok ()) :
    IsAddress (s.items.currentText "server.plain_listen") ∧
      IsAddress (s.items.currentText "server.plain_data_listen") := by
  unfold Items.validatePlaintextState at valid
  simp only [List.mem_cons, true_or, not_true, if_false, if_true, decide_true, Bool.true_eq_false,
    seq_eq_ok, reject_eq_ok, not_or] at valid
  obtain ⟨present, control, data⟩ := valid
  exact ⟨isAddress_of_validated (by decide) control present.1,
    isAddress_of_validated (by decide) data present.2⟩

theorem Tracked.bootable_updated (tracked : Tracked base s) (bootable : Bootable s.settings base)
    {key : String} {request : Option SettingValue} {item : SettingItem} {value : SettingValue}
    {text : String} (checked : s.checkUpdate key request = .ok (item, value, text))
    (harmless : ¬ Harmful base s (.update key request none)) :
    Bootable (s.settings.set item.key text) base := by
  obtain ⟨listed, rfl, valid, plainState⟩ := checkUpdate_ok checked
  obtain ⟨rfl, member⟩ := tracked.names key item listed
  have other := not_auto_of_mem member
  have given := validateSetting_text other.1 valid
  refine bootable.set other ?_ ?_ ?_ ?_ ?_
  · intro same
    rw [same] at valid
    exact validateSetting_heartbeat valid
  · intro flag
    obtain ⟨on, -, rfl⟩ := validateSetting_flag flag valid
    exact ⟨on, parseBool_formatBool on⟩
  · intro listens
    have required : ¬ isOptionalAddressSetting item.key ∧ item.key ∈ addressSettings := by
      rcases listens with same | same <;> rw [same] <;> decide
    exact not_blank_of_isAddress (validateSetting_address required.2 valid
      (validateSetting_ne_empty required.1 other.1 valid))
  · -- TLS: the flag, a file, or something else was stored
    rw [Settings.flag_set, Settings.text_set, Settings.text_set]
    intro on
    have file (named : item.key = "server.tls.cert_file" ∨ item.key = "server.tls.key_file")
        (enabled : s.settings.flag "server.tls.enabled" base.tls.enabled = .ok true) :
        ¬ blank text := by
      have required : ¬ isOptionalAddressSetting item.key := by
        rcases named with same | same <;> rw [same] <;> decide
      have present := validateSetting_ne_empty required other.1 valid
      rw [given] at present ⊢
      exact fun missing => harmless ⟨rfl, value, rfl, Or.inr (Or.inl ⟨named, present, missing, enabled⟩)⟩
    by_cases flag : "server.tls.enabled" = item.key
    · rw [← flag] at valid ⊢
      obtain ⟨enabled, rfl, rfl⟩ := validateSetting_flag (by decide) valid
      rw [if_pos flag, parseBool_formatBool] at on
      obtain rfl := Except.ok.inj on
      have present := fun missing => harmless ⟨rfl, _, rfl, Or.inl ⟨flag.symm, rfl, missing⟩⟩
      exact not_or.mp present
    · rw [if_neg flag] at on
      have old := bootable.certificate on
      constructor
      · split
        · rename_i same
          exact file (Or.inl same.symm) on
        · exact old.1
      · split
        · rename_i same
          exact file (Or.inr same.symm) on
        · exact old.2
  · -- plain connections: the flag, an address, or something else was stored
    rw [Settings.flag_set, Settings.text_set, Settings.text_set]
    intro on
    have address (named : isOptionalAddressSetting item.key)
        (enabled : s.settings.flag "server.plain_enabled" base.plainEnabled = .ok true) :
        IsAddress text := by
      have known : item.key ∈ addressSettings := by
        rcases named with same | same <;> rw [same] <;> decide
      refine validateSetting_address known valid fun empty => ?_
      rw [empty] at plainState given
      exact harmless ⟨rfl, value, rfl, Or.inr (Or.inr ⟨named, given.symm,
        validatePlaintextState_address named plainState, enabled⟩)⟩
    by_cases flag : "server.plain_enabled" = item.key
    · rw [← flag] at valid plainState ⊢
      obtain ⟨enabled, rfl, rfl⟩ := validateSetting_flag (by decide) valid
      rw [if_pos flag, parseBool_formatBool] at on
      obtain rfl := Except.ok.inj on
      have addresses := validatePlaintextState_enabled plainState
      rw [tracked.plainListen, tracked.plainDataListen] at addresses
      exact addresses
    · rw [if_neg flag] at on
      have old := bootable.plain on
      constructor
      · split
        · rename_i same
          exact address (Or.inl same.symm) on
        · exact old.1
      · split
        · rename_i same
          exact address (Or.inr same.symm) on
        · exact old.2

theorem Tracked.bootable_performed (tracked : Tracked base s) (bootable : Bootable s.settings base)
    {call : Call} (harmless : ¬ Harmful base s call) {s' : Server} {result : Except String Unit}
    (performed : Performed s call s' result) : Bootable s'.settings base := by
  cases performed with
  | refused => exact bootable
  | updated p2p checked => exact tracked.bootable_updated bootable checked harmless
  | @tlsSwitched enabled loaded =>
      refine bootable.set ⟨by decide, by decide⟩ (fun same => absurd same (by decide))
        (fun _ => ⟨_, parseBool_formatBool enabled⟩)
        (by rintro (same | same) <;> exact absurd same (by decide)) ?_ ?_
      · simp only [Settings.flag_set, Settings.text_set, if_true, parseBool_formatBool]
        intro on
        obtain rfl := Except.ok.inj on
        have present := fun missing => harmless ⟨rfl, rfl, loaded rfl, missing⟩
        exact not_or.mp present
      · simpa [Settings.flag_set, Settings.text_set] using bootable.plain
  | @plainOpened network control data addresses opens =>
      have possible : PlainOpens s network := opens.imp_right fun both =>
        ⟨addresses.1, addresses.2, both⟩
      refine bootable.set ⟨by decide, by decide⟩ (fun same => absurd same (by decide))
        (fun _ => ⟨_, parseBool_formatBool true⟩)
        (by rintro (same | same) <;> exact absurd same (by decide)) ?_ ?_
      · simpa [Settings.flag_set, Settings.text_set] using bootable.certificate
      · intro _
        rw [Settings.text_set, Settings.text_set, if_neg (by decide), if_neg (by decide)]
        have present := not_or.mp fun empty => harmless ⟨rfl, rfl, possible, empty⟩
        constructor
        · rcases tracked.control with same | empty | address
          · rw [same]
            exact addresses.1
          · exact absurd empty present.1
          · exact address
        · rcases tracked.data with same | empty | address
          · rw [same]
            exact addresses.2
          · exact absurd empty present.2
          · exact address
  | plainClosed =>
      refine bootable.set ⟨by decide, by decide⟩ (fun same => absurd same (by decide))
        (fun _ => ⟨_, parseBool_formatBool false⟩)
        (by rintro (same | same) <;> exact absurd same (by decide)) ?_ ?_
      · simpa [Settings.flag_set, Settings.text_set] using bootable.certificate
      · rw [Settings.flag_set, if_pos rfl]
        exact fun on => absurd on (by decide)
  | notClosed => exact bootable
  | @reopened network _ _ _ =>
      rw [(startPlainLocked_frame network).1]
      exact bootable
  | subdomainsSet next required normal => exact bootable.setAutoSubdomainConfig required normal

/-! ## Runs -/

/-- The servers that come about without a harmful call. -/
inductive Unharmed (base : ServerConfig) : Server → Prop
  | started {settings : Settings} {cfg : ServerConfig} (booted : boot settings base = .ok cfg)
      (loaded : Bool) (plainCtrl plainData : String) :
      Unharmed base (started settings cfg loaded plainCtrl plainData)
  | call {s : Server} (earlier : Unharmed base s) (call : Call) (harmless : ¬ Harmful base s call) :
      Unharmed base (perform call s).1

theorem Unharmed.tracked (unharmed : Unharmed base s) :
    Tracked base s ∧ Bootable s.settings base := by
  induction unharmed with
  | started booted loaded plainCtrl plainData =>
      exact ⟨tracked_started booted loaded plainCtrl plainData,
        bootable_started booted loaded plainCtrl plainData⟩
  | call earlier call harmless ih =>
      obtain ⟨tracked, bootable⟩ := ih
      have performed := performed_perform tracked.consistent call
      exact ⟨tracked.performed performed, tracked.bootable_performed bootable harmless performed⟩

/-- **A server boots again, whatever it was told, unless a call was harmful.** -/
theorem boots_again (unharmed : Unharmed base s) : ∃ cfg, boot s.settings base = .ok cfg :=
  boots_iff.mpr unharmed.tracked.2

end Server

end Reboot

/-! ## Servers that do and do not boot again -/

namespace Server

/-- Plain connections may be turned off. -/
theorem boots_again_plain :
    let _ := CaseTable.ascii
    let _ := DurationTable.seconds
    let network : Network := { control := .error "", data := .error "" }
    boot (fun _ => none) plainConfig = .ok plainConfig ∧
      ∃ cfg, boot (perform (.setPlainEnabled false network none) plainServer).1.settings plainConfig =
        .ok cfg := by
  intro _ _ network
  have booted : boot (fun _ => none) plainConfig = .ok plainConfig := by decide +kernel
  have harmless : ¬ Harmful plainConfig plainServer (.setPlainEnabled false network none) :=
    fun harmful => nomatch harmful.2.1
  exact ⟨booted, boots_again (.call (.started booted false _ _) _ harmless)⟩

/-- TLS is turned on without a certificate; and plain connections are turned on by one writer before the
other one, which does not know, takes their address away. -/
theorem not_booting_again :
    let _ := CaseTable.ascii
    let _ := DurationTable.seconds
    let network : Network := { control := .ok "127.0.0.1:7004", data := .ok "127.0.0.1:7005" }
    let off := { plainConfig with plainEnabled := false }
    let server := started (fun _ => none) off false "" ""
    let withTLS := (perform (.update "server.tls.enabled" (some (.bool true)) none) server).1
    let enabled := (perform (.setPlainEnabled true network none) server).1
    let emptied := (perform (.update "server.plain_listen" (some (.text "")) none) enabled).1
    boot (fun _ => none) off = .ok off ∧
      boot withTLS.settings off = .error "server TLS certificate and key are required" ∧
      boot emptied.settings off = .error ("server.plain_listen and server.plain_data_listen are " ++
        "required when server.plain_enabled is true") := by
  decide +kernel

end Server
end NryNet.App
