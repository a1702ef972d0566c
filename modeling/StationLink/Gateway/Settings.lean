import StationLink.Filter
import StationLink.LinkSettings

namespace StationLink

/-!
# Gateway settings

What a gateway is told about itself: the transport, the interfaces behind it,
who may send what, and a text to greet stations with.
-/

/-- The kind of socket on the message bus. -/
inductive SocketKind where
  | dealer
  | pair
  | pub
  | sub
  deriving Repr, DecidableEq

namespace SocketKind

/-- Every kind, in the order of presentation. -/
def all : List SocketKind := [.dealer, .pair, .pub, .sub]

/-- The name of a kind in settings. -/
def name : SocketKind → String
  | .dealer => "dealer"
  | .pair => "pair"
  | .pub => "pub"
  | .sub => "sub"

end SocketKind

/-- Where the switching core is reached. -/
structure BusSettings where
  connect : String := ""
  socket : SocketKind := .dealer
  deriving Repr, DecidableEq

/-- One interface that a gateway brings up. -/
structure InterfaceSettings where
  id : InterfaceId
  channel : UInt8 := 1
  hardwareName? : Option String := none
  deriving Repr, DecidableEq

/-- What is chosen about the interface when it is registered. -/
def InterfaceSettings.params (settings : InterfaceSettings) : InterfaceParams where
  channel := settings.channel
  hardwareName? := settings.hardwareName?

/-- The settings of a gateway. -/
structure GatewaySettings where
  name : String
  /-- The connect string of the transport. -/
  transport : String
  bus : BusSettings := {}
  /-- How much is logged. -/
  debugLevel : UInt8 := 1
  /-- What is written on the display of a station whose link comes up. -/
  greeting? : Option String := none
  interfaces : List InterfaceSettings := []
  filter? : Option FilterSettings := none
  link : LinkSettings := {}
  deriving Repr, DecidableEq

/-- Why settings are refused although they could be read. -/
inductive SettingsError where
  | repeatedInterface (id : InterfaceId)
  | link (error : LinkError)
  deriving Repr, DecidableEq

/-- The wording of a settings error. -/
def SettingsError.text : SettingsError → String
  | .repeatedInterface id => s!"interface {id} configured twice"
  | .link error => "mux settings: " ++ error.text

namespace GatewaySettings

/-- The settings of a gateway about which nothing was chosen. -/
def standard : GatewaySettings where
  name := "dcp-gateway"
  transport := "loopback"
  greeting? := some "DCP gateway ready"
  interfaces := [{ id := 1 }, { id := 2 }]

/-- The first number that is followed by its equal. -/
def firstTwin? : List InterfaceId → Option InterfaceId
  | id :: next :: rest => if id = next then some id else firstTwin? (next :: rest)
  | _ => none

/-- The number that is named if some occur more than once: the first twin in growing order. -/
def repeated? (ids : List InterfaceId) : Option InterfaceId :=
  firstTwin? (ids.mergeSort fun id other => decide (id ≤ other))

/-- Refuse settings that name an interface twice or have an interval of zero. -/
def validate (settings : GatewaySettings) : Except SettingsError Unit :=
  match repeated? (settings.interfaces.map (·.id)) with
  | some id => .error (.repeatedInterface id)
  | none =>
      match settings.link.validate with
      | .error error => .error (.link error)
      | .ok () => .ok ()

/-- The name of the log level that a debug level stands for. -/
def logLevel (settings : GatewaySettings) : String :=
  if settings.debugLevel = 0 then
    "warn"
  else if settings.debugLevel = 1 then
    "info"
  else if settings.debugLevel = 2 then
    "debug"
  else
    "trace"

/-- What the log is told about the parts of the gateway. -/
def logDirective (settings : GatewaySettings) : String :=
  ",".intercalate
    (["dcp_gateway", "dcp_protocol", "dcp_mux", "dcp_sim"].map fun part =>
      part ++ "=" ++ settings.logLevel)

end GatewaySettings

end StationLink
