import NryNet.Storage
import NryNet.Storage.Domains

/-!
# What is stored of a tunnel (`internal/storage/tunnels.go`)

The checks that `CreateTunnel` and `UpdateTunnel` make before they touch the database, and the rows
they write.  A request is a `Tunnel` as well; of its status it only matters whether it is `running`.
-/

namespace NryNet

open GoText

variable [CaseTable]

/-- `validateTunnel`. -/
def validateTunnel (tunnel : Tunnel) : Except String Unit :=
  if tunnel.name = "" ∨ tunnel.clientID = "" ∨ tunnel.localHost = "" then
    .error "name, client_id, and local_host are required"
  else if tunnel.localPort < 1 ∨ 65535 < tunnel.localPort then
    .error "local_port must be between 1 and 65535"
  else
    let protocol := toLower tunnel.protocol
    if protocol ∉ ["tcp", "p2p", "http", "https", "udp", "visitor_webrtc"] then
      .error "protocol must be tcp, p2p, http, https, udp, or visitor_webrtc"
    else if protocol ∈ ["tcp", "p2p", "udp"] ∧ (tunnel.remotePort < 1 ∨ 65535 < tunnel.remotePort) then
      .error "remote_port must be between 1 and 65535"
    else if protocol = "visitor_webrtc" ∧ tunnel.remotePort ≠ 0 then
      .error "remote_port must be empty for visitor_webrtc tunnels"
    else if protocol ∈ ["http", "https"] then
      if tunnel.domain = "" then .error "domain is required for HTTP and HTTPS tunnels"
      else
        match normalizeDomain tunnel.domain with
        | .error message => .error message
        | .ok _ => .ok ()
    else .ok ()

/-- `newVisitorToken`, with the identifier that `uuid.NewString` would return. -/
def newVisitorToken (value uuid : String) : String :=
  if value ≠ "" then value else uuid

/-- The domain as it is stored. -/
def storedDomain (domain : String) : String :=
  toLower (trimSuffix (trimSpace domain) '.')

/-- The row that `CreateTunnel` inserts. -/
def Tunnel.created (tunnel : Tunnel) (id uuid : String) (now : Time) : Tunnel :=
  let protocol := toLower tunnel.protocol
  { tunnel with
    id := id
    protocol := protocol
    visitorToken :=
      if protocol = "visitor_webrtc" then newVisitorToken tunnel.visitorToken uuid
      else tunnel.visitorToken
    domain := storedDomain tunnel.domain
    status := .stopped
    createdAt := now
    updatedAt := now }

/-- The visitor token that `UpdateTunnel` writes: the one of the request, else the one of the row, else a
new one. -/
def Tunnel.nextVisitorToken (request row : Tunnel) (uuid : String) : String :=
  if toLower request.protocol = "visitor_webrtc" then
    newVisitorToken (if request.visitorToken = "" then row.visitorToken else request.visitorToken) uuid
  else request.visitorToken

/-- The columns that `UpdateTunnel` assigns, in the row of the tunnel. -/
def Tunnel.updated (request row : Tunnel) (visitorToken : String) (now : Time) : Tunnel :=
  { row with
    clientID := request.clientID
    name := request.name
    protocol := toLower request.protocol
    localHost := request.localHost
    localPort := request.localPort
    remotePort := request.remotePort
    domain := storedDomain request.domain
    visitorToken := visitorToken
    ipAllowlist := request.ipAllowlist
    updatedAt := now }

end NryNet
