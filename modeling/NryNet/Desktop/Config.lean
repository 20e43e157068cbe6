import NryNet.AgentToken

/-!
# The settings of the desktop client (`desktop/models.go`, `desktop/store.go`)

A patch names the settings that are to change; the others are kept.  After every change the trust in
certificates is put in order: a token with a pin makes a CA file and skipping the verification pointless,
so both are reset.
-/

namespace NryNet.Desktop

/-- `AppConfig`. -/
structure AppConfig where
  serverURL : String := ""
  dataAddress : String := ""
  transport : String := ""
  quicAddress : String := ""
  caFile : String := ""
  token : String := ""
  name : String := ""
  deviceID : String := ""
  insecureSkipVerify : Bool := false
  autoStart : Bool := false
  deriving DecidableEq, Repr

/-- `AppConfigPatch`. -/
structure AppConfigPatch where
  serverURL : Option String := none
  dataAddress : Option String := none
  transport : Option String := none
  quicAddress : Option String := none
  caFile : Option String := none
  token : Option String := none
  name : Option String := none
  deviceID : Option String := none
  insecureSkipVerify : Option Bool := none
  autoStart : Option Bool := none
  deriving DecidableEq, Repr

/-- `normalizeCertificateTrust`. -/
def normalizeCertificateTrust (cfg : AppConfig) : AppConfig :=
  match AgentToken.parse cfg.token with
  | .ok parts =>
      if parts.certificatePin ≠ "" then { cfg with caFile := "", insecureSkipVerify := false } else cfg
  | .error _ => cfg

/-- `applyPatchValue`. -/
def applyPatchValue {α : Type} (target : α) (value : Option α) : α :=
  value.getD target

/-- `AppConfigPatch.Apply`. -/
def AppConfigPatch.apply (p : AppConfigPatch) (base : AppConfig) : AppConfig :=
  normalizeCertificateTrust
    { serverURL := applyPatchValue base.serverURL p.serverURL
      dataAddress := applyPatchValue base.dataAddress p.dataAddress
      transport := applyPatchValue base.transport p.transport
      quicAddress := applyPatchValue base.quicAddress p.quicAddress
      caFile := applyPatchValue base.caFile p.caFile
      token := applyPatchValue base.token p.token
      name := applyPatchValue base.name p.name
      deviceID := applyPatchValue base.deviceID p.deviceID
      insecureSkipVerify := applyPatchValue base.insecureSkipVerify p.insecureSkipVerify
      autoStart := applyPatchValue base.autoStart p.autoStart }

/-- `config.ClientConfig`, as far as the desktop client fills it in. -/
structure ClientConfig where
  serverURL : String
  dataAddress : String
  transport : String
  quicAddress : String
  caFile : String
  token : String
  name : String
  deviceID : String
  insecureSkipVerify : Bool
  deriving DecidableEq, Repr

/-- `AppConfig.toClientConfig`. -/
def AppConfig.toClientConfig (c : AppConfig) : ClientConfig where
  serverURL := c.serverURL
  dataAddress := c.dataAddress
  transport := c.transport
  quicAddress := c.quicAddress
  caFile := c.caFile
  token := c.token
  name := c.name
  deviceID := c.deviceID
  insecureSkipVerify := c.insecureSkipVerify

/-- `configFromClient`. -/
def configFromClient (c : ClientConfig) : AppConfig :=
  normalizeCertificateTrust
    { serverURL := c.serverURL
      dataAddress := c.dataAddress
      transport := c.transport
      quicAddress := c.quicAddress
      caFile := c.caFile
      token := c.token
      name := c.name
      deviceID := c.deviceID
      insecureSkipVerify := c.insecureSkipVerify }

/-- `diskConfig`, which is what the file holds. -/
structure DiskConfig where
  client : ClientConfig
  autoStart : Bool
  deriving DecidableEq, Repr

/-- What `fileStore.Save` writes. -/
def AppConfig.toDisk (cfg : AppConfig) : DiskConfig :=
  ⟨cfg.toClientConfig, cfg.autoStart⟩

/-- What `fileStore.Load` makes of it. -/
def DiskConfig.load (cfg : DiskConfig) : AppConfig :=
  { configFromClient cfg.client with autoStart := cfg.autoStart }

/-- `connectionConfigChanged`. -/
def connectionConfigChanged (previous next : AppConfig) : Bool :=
  decide (previous.serverURL ≠ next.serverURL ∨ previous.dataAddress ≠ next.dataAddress ∨
    previous.transport ≠ next.transport ∨ previous.quicAddress ≠ next.quicAddress ∨
    previous.caFile ≠ next.caFile ∨ previous.token ≠ next.token ∨ previous.name ≠ next.name ∨
    previous.deviceID ≠ next.deviceID ∨ previous.insecureSkipVerify ≠ next.insecureSkipVerify)

/-! ## Saving and loading -/

theorem normalizeCertificateTrust_idem (cfg : AppConfig) :
    normalizeCertificateTrust (normalizeCertificateTrust cfg) = normalizeCertificateTrust cfg := by
  cases parsed : AgentToken.parse cfg.token with
  | error reason =>
      have kept : normalizeCertificateTrust cfg = cfg := by
        rw [normalizeCertificateTrust, parsed]
      rw [kept, kept]
  | ok parts =>
      by_cases pinned : parts.certificatePin ≠ ""
      · have reset : normalizeCertificateTrust cfg =
            { cfg with caFile := "", insecureSkipVerify := false } := by
          simp only [normalizeCertificateTrust, parsed, if_pos pinned]
        rw [reset]
        simp only [normalizeCertificateTrust, parsed, if_pos pinned]
      · have kept : normalizeCertificateTrust cfg = cfg := by
          simp only [normalizeCertificateTrust, parsed, if_neg pinned]
        rw [kept, kept]

/-- Starting with the system has nothing to do with the trust in certificates. -/
theorem normalizeCertificateTrust_autoStart (cfg : AppConfig) (autoStart : Bool) :
    { normalizeCertificateTrust cfg with autoStart := autoStart } =
      normalizeCertificateTrust { cfg with autoStart := autoStart } := by
  simp only [normalizeCertificateTrust]
  split
  · split <;> rfl
  · rfl

/-- **A configuration that came out of a patch is read back as it was written.** -/
theorem load_toDisk (p : AppConfigPatch) (base : AppConfig) :
    (p.apply base).toDisk.load = p.apply base := by
  have whole : (p.apply base).toDisk.load = normalizeCertificateTrust (p.apply base) := by
    rw [DiskConfig.load, configFromClient, normalizeCertificateTrust_autoStart]
    rfl
  rw [whole, AppConfigPatch.apply, normalizeCertificateTrust_idem]

end NryNet.Desktop
