import MeshWatch.Data.Reader
import MeshWatch.Event.Entry
import MeshWatch.Measure
import MeshWatch.Text.Upper

/-!
# Kinds of events

The engine writes an event as a tag and a payload. Ten tags are known; an event of any other tag
keeps its payload and is shown as it is.
-/
namespace MeshWatch

inductive Event
  | connected (peerId : UInt64) (tunnel url : String)
  | disconnected (peerId : UInt64)
  | peerFound (peerId : UInt64)
  | peerLost (peerId : UInt64)
  | accepted (remote : String)
  | failed (cause : String)
  | listening (url : String)
  | connecting (url : String)
  | deviceReady
  | addressChanged (old new : Option String)
  | unlisted (tag : String) (payload : Data)

inductive EventError
  | notJson
  | invalidTime (time : String)
  | noEvent
  | payload (tag reason : String)

def EventError.message : EventError → String
  | .notJson => "Event record is not valid JSON"
  | .invalidTime time => "Invalid event timestamp: " ++ time
  | .noEvent => "Event union has no variant"
  | .payload tag reason => "Unexpected payload for `" ++ tag ++ "`: " ++ reason

namespace Event

open Data (Reader)
open Data.Fields (required)

def readUrl : Reader String := .record "struct WireUrl" (id <$> required "url" Reader.text)

def readTunnel : Reader (String × String) :=
  .record "struct WireTunnel" ((fun kind url => (kind, url)) <$>
    required "tunnel_type" Reader.text <*> required "remote_addr" readUrl)

def readConnected : Reader Event :=
  .record "struct WireConnAdded" ((fun peerId tunnel => connected peerId tunnel.1 tunnel.2) <$>
    required "peer_id" Reader.u64 <*> required "tunnel" readTunnel)

def readDisconnected : Reader Event :=
  .record "struct WireConnPeer" (disconnected <$> required "peer_id" Reader.u64)

/-- A text as it is, null as nothing, any other value as JSON. -/
def loose : Data → Option String
  | .text s => some s
  | .null => none
  | other => some (Json.compact other)

def typed (tag : String) (read : Reader Event) (payload : Data) : Except EventError Event :=
  match read payload with
  | .ok e => .ok e
  | .error cause => .error (.payload tag cause.message)

def items : Data → List Data
  | .list ds => ds
  | _ => []

def itemAt (tag : String) (place : Nat) (payload : Data) : Except EventError String :=
  match (items payload)[place]?.bind loose with
  | some s => .ok s
  | none => .error (.payload tag ("missing element " ++ toString place))

/-- The event of a tag and its payload. -/
def ofTagged (tag : String) (payload : Data) : Except EventError Event :=
  match tag with
  | "PeerConnAdded" => typed tag readConnected payload
  | "PeerConnRemoved" => typed tag readDisconnected payload
  | "PeerAdded" => typed tag (fun d => (Reader.u64 d).map peerFound) payload
  | "PeerRemoved" => typed tag (fun d => (Reader.u64 d).map peerLost) payload
  | "ConnectionAccepted" => (itemAt tag 1 payload).map accepted
  | "ConnectionError" => (itemAt tag 2 payload).map failed
  | "ListenerAdded" => typed tag (fun d => (Reader.text d).map listening) payload
  | "Connecting" => typed tag (fun d => (Reader.text d).map connecting) payload
  | "TunDeviceReady" => .ok deviceReady
  | "DhcpIpv4Changed" =>
    match payload with
    | .list ds => .ok (addressChanged (ds[0]?.bind loose) (ds[1]?.bind loose))
    | _ => .error (.payload tag "expected an array")
  | _ => .ok (unlisted tag payload)

def level : Event → Level
  | connected .. | accepted _ | deviceReady => .success
  | disconnected _ | peerLost _ => .warning
  | failed _ => .error
  | peerFound _ | listening _ | connecting _ | addressChanged .. | unlisted .. => .info

def message : Event → String
  | connected peerId tunnel url =>
    "[" ++ Text.upper tunnel ++ "] peer (" ++ Measure.shortPeerId peerId ++ ") connected: " ++ url
  | disconnected peerId => "peer (" ++ Measure.shortPeerId peerId ++ ") disconnected"
  | peerFound peerId => "discovered peer (" ++ Measure.shortPeerId peerId ++ ")"
  | peerLost peerId => "peer (" ++ Measure.shortPeerId peerId ++ ") removed"
  | accepted remote => "accepted connection from " ++ remote
  | failed cause => "connection error: " ++ cause
  | listening url => "listening on " ++ url
  | connecting url => "connecting to " ++ url
  | deviceReady => "virtual device ready"
  | addressChanged old new =>
    "DHCP address changed: " ++ old.getD "none" ++ " -> " ++ new.getD "N/A"
  | unlisted tag payload =>
    match payload with
    | .text s => tag ++ ": " ++ s
    | payload => tag ++ ": " ++ Json.compact payload

end Event

end MeshWatch
