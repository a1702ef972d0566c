import StationLink.Gateway.Settings
import StationLink.Json.Parser
import StationLink.Json.Record
import StationLink.Keyset

namespace StationLink.Json

/-!
# Settings as JSON

How the settings of filters, interfaces, keysets, links and gateways are read
and written. `readGateway` reads the settings of a gateway from text and checks
them.
-/

/-! ## Reading -/

/-- An entry of a filter. -/
def asFilterEntry : Decoder FilterEntry :=
  record ["hwname", "alias", "send_events", "receive_commands"] do
    let hardwareName ← required asText
    let aliasName ← withDefault "" asText
    let sendEvents ← required asFlag
    let receiveCommands ← required asFlag
    pure { hardwareName, «alias» := aliasName, sendEvents, receiveCommands }

/-- A filter. -/
def asFilterSettings : Decoder FilterSettings :=
  record ["name", "send_events", "receive_commands", "entries"] do
    let name ← required asText
    let sendEvents ← withDefault false asFlag
    let receiveCommands ← withDefault false asFlag
    let entries ← withDefault [] (asList asFilterEntry)
    pure { name, sendEvents, receiveCommands, entries }

/-- The number of an interface. -/
def asInterfaceId : Decoder InterfaceId :=
  asWord

/-- The state of an interface. -/
def asInterfaceState : Decoder InterfaceState :=
  asNamed InterfaceState.all InterfaceState.name

/-- What is chosen about an interface when it is registered. -/
def asInterfaceParams : Decoder InterfaceParams :=
  record ["lcn", "hwname"] do
    let channel ← required asByte
    let hardwareName? ← withDefault none (asOptional asText)
    pure { channel, hardwareName? }

/-- The set-up of a keyset. -/
def asKeysetSettings : Decoder KeysetSettings :=
  record ["id", "name", "lcn", "answer_probes"] do
    let id ← required asInterfaceId
    let name ← required asText
    let channel ← required asByte
    let answerProbes ← required asFlag
    pure { id, name, channel, answerProbes }

/-- Times and sizes of a multiplexer. -/
def asLinkSettings : Decoder LinkSettings :=
  let standard : LinkSettings := {}
  record
    [Interval.retry.settingName, Interval.keepalive.settingName, Interval.dead.settingName,
      "event_buffer", "default_lcn", "name_buckets"]
    do
      let retryInterval ← withDefault standard.retryInterval asSize
      let keepaliveInterval ← withDefault standard.keepaliveInterval asSize
      let deadInterval ← withDefault standard.deadInterval asSize
      let reportBuffer ← withDefault standard.reportBuffer asSize
      let defaultChannel ← withDefault standard.defaultChannel asByte
      let nameBuckets ← withDefault standard.nameBuckets asSize
      pure {
        retryInterval, keepaliveInterval, deadInterval, reportBuffer, defaultChannel, nameBuckets }

/-- Where the switching core is reached. -/
def asBusSettings : Decoder BusSettings :=
  record ["connect", "socket"] do
    let connect ← withDefault "" asText
    let socket ← withDefault .dealer (asNamed SocketKind.all SocketKind.name)
    pure { connect, socket }

/-- One interface that a gateway brings up. -/
def asInterfaceSettings : Decoder InterfaceSettings :=
  record ["id", "lcn", "hwname"] do
    let id ← required asInterfaceId
    let channel ← withDefault 1 asByte
    let hardwareName? ← withDefault none (asOptional asText)
    pure { id, channel, hardwareName? }

/-- The settings of a gateway. -/
def asGatewaySettings : Decoder GatewaySettings :=
  record
    ["name", "transport", "bus", "debug_level", "greeting", "interfaces", "filter", "mux"]
    do
      let name ← required asText
      let transport ← required asText
      let bus ← withDefault {} asBusSettings
      let debugLevel ← withDefault 1 asByte
      let greeting? ← withDefault none (asOptional asText)
      let interfaces ← withDefault [] (asList asInterfaceSettings)
      let filter? ← withDefault none (asOptional asFilterSettings)
      let link ← withDefault {} asLinkSettings
      pure { name, transport, bus, debugLevel, greeting?, interfaces, filter?, link }

/-- Why a text does not give the settings of a gateway. -/
inductive ReadError where
  /-- It is not JSON, or not of the right shape. -/
  | malformed
  | refused (error : SettingsError)
  deriving Repr, DecidableEq

/-- The checked settings of a gateway that a text gives. -/
def readGateway (text : String) : Except ReadError GatewaySettings :=
  match (parse? text).bind asGatewaySettings with
  | none => .error .malformed
  | some settings =>
      match settings.validate with
      | .error error => .error (.refused error)
      | .ok () => .ok settings

/-! ## Writing -/

/-- An entry of a filter. -/
def ofFilterEntry (entry : FilterEntry) : Json :=
  ofMembers
    [("hwname", ofText entry.hardwareName), ("alias", ofText entry.alias),
      ("send_events", .boolean entry.sendEvents),
      ("receive_commands", .boolean entry.receiveCommands)]

/-- A filter. -/
def ofFilterSettings (settings : FilterSettings) : Json :=
  ofMembers
    [("name", ofText settings.name), ("send_events", .boolean settings.sendEvents),
      ("receive_commands", .boolean settings.receiveCommands),
      ("entries", ofList ofFilterEntry settings.entries)]

/-- What is chosen about an interface when it is registered. -/
def ofInterfaceParams (params : InterfaceParams) : Json :=
  ofMembers [("lcn", ofByte params.channel), ("hwname", ofOptional ofText params.hardwareName?)]

/-- The set-up of a keyset. -/
def ofKeysetSettings (settings : KeysetSettings) : Json :=
  ofMembers
    [("id", ofWord settings.id), ("name", ofText settings.name), ("lcn", ofByte settings.channel),
      ("answer_probes", .boolean settings.answerProbes)]

/-- Times and sizes of a multiplexer. -/
def ofLinkSettings (settings : LinkSettings) : Json :=
  ofMembers
    [(Interval.retry.settingName, ofNat settings.retryInterval),
      (Interval.keepalive.settingName, ofNat settings.keepaliveInterval),
      (Interval.dead.settingName, ofNat settings.deadInterval),
      ("event_buffer", ofNat settings.reportBuffer),
      ("default_lcn", ofByte settings.defaultChannel),
      ("name_buckets", ofNat settings.nameBuckets)]

/-- Where the switching core is reached. -/
def ofBusSettings (settings : BusSettings) : Json :=
  ofMembers [("connect", ofText settings.connect), ("socket", ofText settings.socket.name)]

/-- One interface that a gateway brings up. -/
def ofInterfaceSettings (settings : InterfaceSettings) : Json :=
  ofMembers
    [("id", ofWord settings.id), ("lcn", ofByte settings.channel),
      ("hwname", ofOptional ofText settings.hardwareName?)]

/-- The settings of a gateway. -/
def ofGatewaySettings (settings : GatewaySettings) : Json :=
  ofMembers
    [("name", ofText settings.name), ("transport", ofText settings.transport),
      ("bus", ofBusSettings settings.bus), ("debug_level", ofByte settings.debugLevel),
      ("greeting", ofOptional ofText settings.greeting?),
      ("interfaces", ofList ofInterfaceSettings settings.interfaces),
      ("filter", ofOptional ofFilterSettings settings.filter?),
      ("mux", ofLinkSettings settings.link)]

end StationLink.Json
