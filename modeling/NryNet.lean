import NryNet.Lib.ThreadPool
import NryNet.Lib.GoMap
import NryNet.Relay.ClientConnections
import NryNet.AgentToken
import NryNet.Lib.Sha256
import NryNet.Lib.Table
import NryNet.Storage
import NryNet.Auth
import NryNet.Relay.AuthCache
import NryNet.Relay.WorkConnectionPool
import NryNet.Relay.AuthInvalidation
import NryNet.Relay.Broker
import NryNet.Relay.DataPlane
import NryNet.Relay.PendingLifecycle
import NryNet.Relay.Generations
import NryNet.Relay.ClientShutdown
import NryNet.Control.ControlPlane
import NryNet.Control.DisabledClient
import NryNet.Control.RevokedToken
import NryNet.Authority
import NryNet.Lib.Fallible
import NryNet.Api.Handlers
import NryNet.Api.Server
import NryNet.Api.CacheAgreement
import NryNet.Api.RevocationFailures
import NryNet.Control.WriteQueue
import NryNet.Control.Delivery
import NryNet.Agent.WriteQueue
import NryNet.BoundedBypass
import NryNet.Agent.Heartbeat
import NryNet.Control.Sessions
import NryNet.Control.SessionTables
import NryNet.Control.OpenConnection
import NryNet.Control.ClientStatus
import NryNet.Relay.Attempts
import NryNet.Advanced.RelayRegistry
import NryNet.Tunnels.Manager
import NryNet.Tunnels.StoppedTunnel
import NryNet.Tunnels.RunningTunnel
import NryNet.Advanced.RelayLoad
import NryNet.Advanced.RendezvousServer
import NryNet.Advanced.RendezvousPairing
import NryNet.Advanced.PunchHandshake
import NryNet.Tunnels.ReconnectCleanup
import NryNet.Advanced.Frame
import NryNet.Lib.Bufio
import NryNet.Relay.Handshake
import NryNet.Advanced.P2PAuth
import NryNet.Tunnels.UDPRuntime
import NryNet.Tunnels.UDPForwarding
import NryNet.Tunnels.UDPSessions
import NryNet.Lib.GoText
import NryNet.Storage.Domains
import NryNet.Storage.Tunnels
import NryNet.Storage.Database
import NryNet.Storage.Devices
import NryNet.Storage.Integrity
import NryNet.Tunnels.TrafficRecorder
import NryNet.Relay.BandwidthMeter
import NryNet.Advanced.PunchExchange
import NryNet.Agent.Dial
import NryNet.App.BootSettings
import NryNet.App.Transport
import NryNet.App.Reboot
import NryNet.Api.TunnelHandlers
import NryNet.Api.Snapshots
import NryNet.Gateway.ServerName
import NryNet.Advanced.P2PFrame
import NryNet.Lib.Tee
import NryNet.Gateway.Sniff
import NryNet.Desktop.Config
import NryNet.Desktop.Service
import NryNet.Desktop.Settings
import NryNet.Desktop.Runs
import NryNet.Lib.Base64
import NryNet.Agent.VisitorMessage
import NryNet.Agent.VisitorAssembly
import NryNet.Agent.VisitorSlots
import NryNet.Agent.VisitorResponses
import NryNet.App.Certificates
import NryNet.Certbot.Request
import NryNet.Certbot.Install
import NryNet.Advanced.RelayChoice
import NryNet.Storage.Joined
import NryNet.Api.AutoDomains
import NryNet.Api.DomainCreators
import NryNet.Gateway.DomainRouting
import NryNet.Lib.GoNet
import NryNet.Tunnels.RelayAdmission
import NryNet.RelayNode.Bindings
import NryNet.RelayNode.BrokerTransport
import NryNet.TokenPins
import NryNet.Agent.OpenRequests
import NryNet.Lib.GoSlice
import NryNet.Relay.SingleFlight
import NryNet.Relay.WorkerHistory
import NryNet.Agent.TransferObserver
import NryNet.Visitor.Page
import NryNet.Visitor.Requests
import NryNet.Visitor.Responses
import NryNet.Visitor.Visit
import NryNet.Visitor.Signalling
