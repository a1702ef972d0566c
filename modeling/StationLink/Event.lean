import StationLink.Vocabulary

namespace StationLink

/-!
# Events

An event is what a keyset reports to the switching core. `up` and `lost` tell
that a link changed state: they are produced on this side of the link and never
travel on it. A station message that makes no sense is kept as `unknown`, with
its two leading bytes apart.
-/

/-- What happened at a keyset. -/
inductive EventKind where
  /-- The handset was lifted. -/
  | offHook
  /-- The handset was replaced. -/
  | onHook
  /-- A feature button was pressed. -/
  | keyPress
  /-- A feature button was released. -/
  | keyRelease
  /-- A keypad digit was pressed. -/
  | padPress (digit : UInt8)
  /-- A keypad digit was released. -/
  | padRelease (digit : UInt8)
  /-- The menu was left. -/
  | menuExit
  /-- A menu item was chosen. -/
  | menuItem (item : UInt8)
  /-- A soft key was labelled, or could not be. -/
  | programResult (slot : UInt8) (ok : Bool)
  /-- A message that is none of the above. -/
  | unknown (first second : UInt8) (data : List UInt8)
  /-- The link to the station came up. -/
  | up
  /-- The link to the station was lost. -/
  | lost
  deriving Repr, DecidableEq

/-- An event at one control of one station. -/
structure Event where
  station : String
  control : String
  kind : EventKind
  deriving Repr, DecidableEq

/-- Whether a link came up or was lost. -/
inductive LinkStatus where
  | up
  | lost
  deriving Repr, DecidableEq

/-- The number that stands for a link status in reports. -/
def LinkStatus.number : LinkStatus → Int
  | .up => 0
  | .lost => -1

namespace EventKind

/-- The short name of an event kind. -/
def shortName : EventKind → String
  | .offHook => "offhook"
  | .onHook => "onhook"
  | .keyPress => "keypress"
  | .keyRelease => "keyrelease"
  | .padPress .. => "padpress"
  | .padRelease .. => "padrelease"
  | .menuExit => "menuexit"
  | .menuItem .. => "menuitem"
  | .programResult .. => "program"
  | .unknown .. => "unknown"
  | .up => "up"
  | .lost => "lost"

/-- The link status that an event kind announces, if it does. -/
def linkStatus? : EventKind → Option LinkStatus
  | .up => some .up
  | .lost => some .lost
  | _ => none

/-- Whether the message behind the event made no sense. -/
def isUnknown : EventKind → Bool
  | .unknown .. => true
  | _ => false

end EventKind

namespace Event

/-- The same event at another station. -/
def withStation (event : Event) (station : String) : Event :=
  { event with station }

/-- The event that announces a link status at a station. -/
def ofLinkStatus (status : LinkStatus) (station : String) : Event where
  station
  control := ""
  kind :=
    match status with
    | .up => .up
    | .lost => .lost

/-- The event that names nothing and stands for a lost link. -/
def blank : Event :=
  ofLinkStatus .lost ""

end Event

end StationLink
