import StationLink.Command
import StationLink.Event
import StationLink.Interface

namespace StationLink

/-!
# Reports

A multiplexer reports to its owner what arrives on its interfaces: events of
stations, commands that a peer sends, and changes of link status, which are
events of their own kinds.
-/

/-- What a multiplexer reports about an interface. -/
inductive Report where
  | event (id : InterfaceId) (observed : Event)
  | command (id : InterfaceId) (received : Command)
  deriving Repr, DecidableEq

namespace Report

/-- The interface that a report is about. -/
def id : Report → InterfaceId
  | .event id _ => id
  | .command id _ => id

/-- Whether a report hands on a command. -/
def isCommand : Report → Bool
  | .event .. => false
  | .command .. => true

/-- The link status that a report announces, if it does. -/
def linkStatus? : Report → Option LinkStatus
  | .event _ observed => observed.kind.linkStatus?
  | .command .. => none

/-- The report that the link of an interface changed. -/
def ofLinkStatus (id : InterfaceId) (hardwareName : String) (status : LinkStatus) : Report :=
  .event id (Event.ofLinkStatus status hardwareName)

end Report

end StationLink
