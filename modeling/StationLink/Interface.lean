namespace StationLink

/-!
# Interfaces

Every station is reached through an interface of its own. Interfaces are
numbered; each also has a hardware name and a logical channel.
-/

/-- The number of an interface. -/
abbrev InterfaceId : Type := UInt16

/-- The hardware name of an interface that was given none. -/
def defaultHardwareName (id : InterfaceId) : String :=
  s!"dcp{id}"

/-- The state of an interface as seen from outside. -/
inductive InterfaceState where
  | notFound
  | inactive
  | running
  deriving Repr, DecidableEq

namespace InterfaceState

/-- Every state, in the order of presentation. -/
def all : List InterfaceState := [.notFound, .inactive, .running]

/-- The name of a state in settings. -/
def name : InterfaceState → String
  | .notFound => "NotFound"
  | .inactive => "Inactive"
  | .running => "Running"

/-- The name of a state as shown to people. -/
def displayName : InterfaceState → String
  | .notFound => "not found"
  | .inactive => "inactive"
  | .running => "running"

end InterfaceState

/-- What is chosen about an interface when it is registered. -/
structure InterfaceParams where
  /-- The logical channel named in probes. -/
  channel : UInt8
  /-- The hardware name, if it is not the default one. -/
  hardwareName? : Option String := none
  deriving Repr, DecidableEq

end StationLink
