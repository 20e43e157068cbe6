import NryNet.Desktop.Config
import NryNet.Lib.GoMap
import NryNet.Lib.GoText
import NryNet.Lib.ThreadPool
import NryNet.Storage

/-!
# The service of the desktop client (`desktop/service.go`, `desktop/connection_service.go`)

The window calls `Connect`, `Disconnect` and `SaveConfig`; each run of the agent has its own goroutine,
and the agent reports to the service under the number of its run.

## The model

A goroutine is a `Task`, which is the place in the source where it stands.  Everything between `mu.Lock`
and `mu.Unlock` is one step, since nothing in between waits; what happens outside the lock (saving the
file, cancelling a context, making and running an agent) is a step of its own.  A cancel function is the
number of the run whose context it cancels, `cancelled` lists the runs whose contexts have been.

A `Choice` is what the outside decides: the time, and whether and how a call fails.  A callback may come
at any time with the number of any run.  The number of a run is a `uint64`, counted here without a bound.
The version in the status and the log are left out.
-/

namespace NryNet.Desktop

open ThreadPool GoText

/-- The values of `RuntimeStatus.State`. -/
inductive ConnectionState where
  | disconnected
  | connecting
  | connected
  | reconnecting
  deriving DecidableEq, Repr

/-- `RuntimeStatus`. -/
structure RuntimeStatus where
  connected : Bool
  state : ConnectionState
  message : String
  uploadBytes : Int64
  downloadBytes : Int64
  lastStartedAt : Option Time
  lastStoppedAt : Option Time
  deriving DecidableEq

/-- `DesktopService`, with the file of its store. -/
structure Service where
  cfg : AppConfig
  file : DiskConfig
  status : RuntimeStatus
  cancel : Option ℕ
  runID : ℕ
  tunnels : List Tunnel
  tunnelPaths : GoMap String String
  cancelled : List ℕ

/-- `connectionErrorRules`. -/
def connectionErrorRules : List (String × String) :=
  [("client.server_url is required", "尚未配置控制服务器，请前往“设置 > 网络设置”填写后重试。"),
    ("client.server_url must be a valid", "控制服务器地址格式不正确，请填写完整的 ws:// 或 wss:// 地址。"),
    ("client.data_address is required", "尚未配置数据通道，请前往“设置 > 网络设置”填写后重试。"),
    ("client.quic_address is required", "已选择 QUIC 传输，但尚未填写 QUIC 地址。"),
    ("client.token is required", "尚未配置 Agent Token，请前往“设置 > 连接设置”填写后重试。"),
    ("client.transport must be", "传输协议配置无效，请在网络设置中选择 WebSocket 或 QUIC。"),
    ("remote agent connections require wss",
      "当前核心仍拒绝该控制地址。Nrynet 桌面端支持 ws:// 和 wss://，请确认服务端与核心配置已更新后重试。"),
    ("insecure_skip_verify", "TLS 证书校验跳过设置无效，请关闭该选项或改用 wss:// 后重试。"),
    ("agent token is invalid or disabled", "Agent Token 无效或已停用，请在服务端重新生成后更新连接设置。"),
    ("invalid agent token", "Agent Token 无效，请检查是否复制完整或在服务端重新生成。"),
    ("bound to another token", "当前设备身份已绑定其他 Token，请联系管理员重置设备凭证。"),
    ("has been revoked", "当前设备已被服务端撤销，请联系管理员重新授权。"),
    ("bad handshake", "服务器拒绝了连接，请检查 Agent Token、控制服务器地址和服务端状态。"),
    ("certificate pin does not match",
      "服务器证书已发生变化。为确保连接安全，请确认服务端未被替换，然后在 Dashboard 重新生成 Agent Token。"),
    ("unknown authority",
      "无法验证服务器证书。请在新版 Nrynet Dashboard 重新生成 Agent Token，新 Token 无需配置 CA 文件。"),
    ("expired or not yet valid", "服务器证书已过期或尚未生效，请检查服务端证书和系统时间。"),
    ("certificate has expired", "服务器证书已过期，请联系管理员更新证书。"),
    ("certificate is valid for", "服务器证书与访问地址不匹配，请检查服务器域名或证书配置。"),
    ("no such host", "找不到服务器域名，请检查地址拼写和 DNS 网络设置。"),
    ("connection refused", "服务器拒绝连接，请确认服务端已启动且端口可访问。"),
    ("actively refused it", "服务器拒绝连接，请确认服务端已启动且端口可访问。"),
    ("quic control unavailable",
      "QUIC 控制通道暂不可用，客户端将自动改用 WebSocket 重连；请确认服务端 TCP 7000 可访问。"),
    ("read quic control frame", "QUIC 控制连接已断开，客户端正在自动改用 WebSocket 重连。"),
    ("write quic control frame", "QUIC 控制连接已断开，客户端正在自动改用 WebSocket 重连。"),
    ("read control message", "控制连接已断开，客户端正在自动重连。"),
    ("send heartbeat", "控制连接心跳失败，客户端正在自动重连。"),
    ("i/o timeout", "连接服务器超时，请检查网络、防火墙和服务器端口。"),
    ("deadline exceeded", "连接服务器超时，请检查网络、防火墙和服务器端口。")]

/-- `connectionErrorMessage`. -/
def connectionErrorMessage [CaseTable] (err : Option String) : String :=
  match err with
  | none => "连接已中断，客户端正在尝试重新连接。"
  | some err =>
      match connectionErrorRules.find? fun rule => contains (toLower err) rule.1 with
      | some rule => rule.2
      | none => "无法连接到服务器，请检查服务器地址、网络连接和服务端运行状态。"

/-- `agent.DirectionUpload`. -/
def directionUpload : String := "upload"

/-- `agent.DirectionDownload`. -/
def directionDownload : String := "download"

namespace Service

/-- `NewDesktopService`, with what has been loaded from the file. -/
def new (file : DiskConfig) (cfg : AppConfig) : Service where
  cfg := cfg
  file := file
  status := ⟨false, .disconnected, "", 0, 0, none, none⟩
  cancel := none
  runID := 0
  tunnels := []
  tunnelPaths := ∅
  cancelled := []

/-- `setStoppedLocked`. -/
def setStoppedLocked (s : Service) (now : Time) (message : String) : Service :=
  { s with
    tunnelPaths := ∅
    status := ⟨false, .disconnected, message, s.status.uploadBytes, s.status.downloadBytes, none,
      some now⟩ }

/-- `setStopped`. -/
def setStopped (s : Service) (now : Time) (runID : ℕ) (message : String) : Service :=
  if runID ≠ s.runID then s else { s with cancel := none }.setStoppedLocked now message

/-- `onSessionStarted`. -/
def onSessionStarted (s : Service) (runID : ℕ) : Service :=
  if runID ≠ s.runID ∨ s.cancel = none then s
  else
    { s with
      status := { s.status with
        connected := true
        state := .connected
        message := "已连接并通过身份验证。" }
      tunnelPaths := ∅ }

/-- `onSessionEnded`. -/
def onSessionEnded [CaseTable] (s : Service) (runID : ℕ) (err : Option String) : Service :=
  if runID ≠ s.runID ∨ s.cancel = none then s
  else
    { s with
      status := { s.status with
        connected := false
        state := .reconnecting
        message := connectionErrorMessage err }
      tunnelPaths := ∅ }

/-- `onTunnelSnapshot`. -/
def onTunnelSnapshot (s : Service) (runID : ℕ) (tunnels : List Tunnel) : Service :=
  if runID ≠ s.runID ∨ s.cancel = none then s
  else
    { s with
      tunnels := tunnels
      tunnelPaths := s.tunnelPaths.deleteWhere fun tunnelID _ =>
        decide (tunnelID ∉ tunnels.map Tunnel.id) }

/-- `onTunnelPath`. -/
def onTunnelPath (s : Service) (runID : ℕ) (tunnelID path : String) : Service :=
  if runID ≠ s.runID ∨ s.cancel = none ∨ tunnelID = "" ∨ path = "" then s
  else { s with tunnelPaths := s.tunnelPaths.insert tunnelID path }

/-- `onTransfer`. -/
def onTransfer (s : Service) (runID : ℕ) (direction : String) (bytes : Int64) : Service :=
  if runID ≠ s.runID ∨ s.cancel = none then s
  else if direction = directionUpload then
    { s with status := { s.status with uploadBytes := s.status.uploadBytes + bytes } }
  else if direction = directionDownload then
    { s with status := { s.status with downloadBytes := s.status.downloadBytes + bytes } }
  else s

end Service

/-- What an agent reports: `desktopObserver`. -/
inductive Callback where
  | sessionStarted
  | sessionEnded (err : Option String)
  | tunnelSnapshot (tunnels : List Tunnel)
  | tunnelPath (tunnelID path : String)
  | transfer (direction : String) (bytes : Int64)
  deriving DecidableEq

/-- The service after a report. -/
def Callback.run [CaseTable] (call : Callback) (s : Service) (runID : ℕ) : Service :=
  match call with
  | .sessionStarted => s.onSessionStarted runID
  | .sessionEnded err => s.onSessionEnded runID err
  | .tunnelSnapshot tunnels => s.onTunnelSnapshot runID tunnels
  | .tunnelPath tunnelID path => s.onTunnelPath runID tunnelID path
  | .transfer direction bytes => s.onTransfer runID direction bytes

/-- The calls of the window. -/
inductive Caller where
  | connect
  | disconnect
  | saveConfig (patch : AppConfigPatch)
  deriving DecidableEq

/-- Where a goroutine stands. -/
inductive Task where
  /-- `SaveConfig`: it reads the configuration, writes the file, sets the start with the system, and
  assigns the configuration -/
  | saveConfig (patch : AppConfigPatch)
  | saveFile (patch : AppConfigPatch) (previous : AppConfig)
  | setAutoStart (patch : AppConfigPatch) (previous : AppConfig)
  | assign (patch : AppConfigPatch) (previous : AppConfig)
  /-- `startConnection`: it installs a new run, cancels the one before, and makes an agent -/
  | startConnection (caller : Caller) (restart : Bool)
  | cancelPrevious (caller : Caller) (run : ℕ) (previous : Option ℕ)
  | newAgent (caller : Caller) (run : ℕ) (previous : Option ℕ)
  /-- the agent could not be made -/
  | cancelFailed (caller : Caller) (run : ℕ) (previous : Option ℕ) (err : String)
  | stopFailed (caller : Caller) (run : ℕ) (previous : Option ℕ) (message : String)
  /-- `Disconnect` -/
  | disconnect
  | cancelDisconnected (previous : Option ℕ)
  /-- the call has returned; it has superseded a run, if there was one -/
  | returned (caller : Caller) (superseded : Option ℕ)
  /-- `SaveConfig` has returned an error -/
  | failed (patch : AppConfigPatch)
  /-- `runAgent` -/
  | runAgent (run : ℕ)
  | agentReturned (run : ℕ) (err : Option String)
  | setStopped (run : ℕ) (message : String)
  | stopped (run : ℕ)
  /-- a report of an agent -/
  | callback (runID : ℕ) (call : Callback)
  | reported
  deriving DecidableEq

/-- What the outside decides in a step. -/
structure Choice where
  now : Time
  failure : Option String
  deriving DecidableEq

/-- What may come from outside. -/
def Task.arrives : Task → Bool
  | .saveConfig _ => true
  | .startConnection .connect false => true
  | .disconnect => true
  | .callback _ _ => true
  | _ => false

/-- One step of a goroutine. -/
def Task.step [CaseTable] (s : Service) (task : Task) (choice : Choice) :
    Option (Service × Task × List Task) :=
  match task with
  | .saveConfig patch => some (s, .saveFile patch s.cfg, [])
  | .saveFile patch previous =>
      match choice.failure with
      | some _ => some (s, .failed patch, [])
      | none => some ({ s with file := (patch.apply previous).toDisk }, .setAutoStart patch previous, [])
  | .setAutoStart patch previous =>
      match choice.failure with
      | some _ => some (s, .failed patch, [])
      | none => some (s, .assign patch previous, [])
  | .assign patch previous =>
      let cfg := patch.apply previous
      let restart := s.cancel ≠ none ∧ connectionConfigChanged previous cfg = true
      some ({ s with cfg := cfg },
        if restart then .startConnection (.saveConfig patch) true
        else .returned (.saveConfig patch) none, [])
  | .startConnection caller restart =>
      if s.cancel ≠ none ∧ ¬ restart then some (s, .returned caller none, [])
      else if restart ∧ s.cancel = none then some (s, .returned caller none, [])
      else
        let runID := s.runID + 1
        some ({ s with
            runID := runID
            cancel := some runID
            status := ⟨false, .connecting, "", 0, 0, some choice.now, none⟩ },
          .cancelPrevious caller runID s.cancel, [])
  | .cancelPrevious caller run previous =>
      some ({ s with cancelled := previous.toList ++ s.cancelled }, .newAgent caller run previous, [])
  | .newAgent caller run previous =>
      match choice.failure with
      | some err => some (s, .cancelFailed caller run previous err, [])
      | none => some (s, .returned caller previous, [.runAgent run])
  | .cancelFailed caller run previous err =>
      some ({ s with cancelled := run :: s.cancelled },
        .stopFailed caller run previous (connectionErrorMessage (some err)), [])
  | .stopFailed caller run previous message =>
      some (s.setStopped choice.now run message, .returned caller previous, [])
  | .disconnect =>
      some ({ s with runID := s.runID + 1, cancel := none }.setStoppedLocked choice.now
        "已由用户断开连接。", .cancelDisconnected s.cancel, [])
  | .cancelDisconnected previous =>
      some ({ s with cancelled := previous.toList ++ s.cancelled }, .returned .disconnect previous, [])
  | .runAgent run => some (s, .agentReturned run choice.failure, [])
  | .agentReturned run err =>
      if run ∈ s.cancelled then some (s, .stopped run, [])
      else some (s, .setStopped run (err.getD "connected"), [])
  | .setStopped run message => some (s.setStopped choice.now run message, .stopped run, [])
  | .callback runID call => some (call.run s runID, .reported, [])
  | .returned _ _ | .failed _ | .stopped _ | .reported => none

/-- The desktop client. -/
def desktop [CaseTable] : Machine Service Task Choice where
  entry := Task.arrives
  step := Task.step

end NryNet.Desktop
