import Mathlib.Init

/-!
# Control messages (`internal/protocol`)

The messages of the control channel.  A type is a string on the wire; the constants of the package
have a constructor each and every other string is `other`.  Of the payload only its bytes are kept:
nothing modelled here decodes it.
-/

namespace NryNet

/-- `ControlMessage.Type`. -/
inductive MessageType where
  | hello
  | heartbeat
  | heartbeatAck
  | tunnelSnapshot
  | tunnelPath
  | openConnection
  | requestWorkConn
  | udpPacket
  | p2pConnect
  | visitorWebRTC
  | connectionFailed
  | error
  | other (type : String)
  deriving DecidableEq, Repr

/-- `ControlMessage`. -/
structure ControlMessage where
  type : MessageType
  requestID : String
  tunnelID : String
  payload : List UInt8
  deriving DecidableEq, Repr

end NryNet
