import StationLink.BucketMap

namespace StationLink

/-!
# Station filters

A filter says for each hardware name whether the station's events are handed on
and whether commands for it are accepted. A name without an entry falls under
the defaults. An entry can also be found by its alias; where several entries
claimed one alias, it leads to the one that claimed it last, as long as that
entry is neither replaced nor removed.
-/

/-- What a filter says about one station. -/
structure FilterEntry where
  hardwareName : String
  /-- Another name the entry can be found by; empty if it has none. -/
  «alias» : String
  sendEvents : Bool
  receiveCommands : Bool
  deriving Repr, DecidableEq

/-- A filter as described in settings. -/
structure FilterSettings where
  name : String
  sendEvents : Bool := false
  receiveCommands : Bool := false
  entries : List FilterEntry := []
  deriving Repr, DecidableEq

/-- A policy for every station. -/
structure Filter where
  name : String
  defaultSendEvents : Bool
  defaultReceiveCommands : Bool
  /-- The entries by hardware name. -/
  byName : BucketMap FilterEntry
  /-- The hardware names by alias. -/
  byAlias : BucketMap String

namespace Filter

/-- A filter without entries. -/
def withDefaults (name : String) (sendEvents receiveCommands : Bool) : Filter where
  name
  defaultSendEvents := sendEvents
  defaultReceiveCommands := receiveCommands
  byName := .empty
  byAlias := .empty

/-- Forget an alias if it leads to the given hardware name. -/
def forgetAlias (filter : Filter) (aliasName hardwareName : String) : Filter :=
  if aliasName ≠ "" ∧ filter.byAlias.get? (Text.utf8 aliasName) = some hardwareName then
    { filter with byAlias := filter.byAlias.erase (Text.utf8 aliasName) }
  else
    filter

/-- Let an alias lead to a hardware name. -/
def claimAlias (filter : Filter) (aliasName hardwareName : String) : Filter :=
  if aliasName = "" then
    filter
  else
    { filter with byAlias := filter.byAlias.insert (Text.utf8 aliasName) hardwareName }

/-- Add an entry, or replace the one of the same hardware name. -/
def insert (filter : Filter) (entry : FilterEntry) : Filter :=
  let (byName, old?) := filter.byName.put (Text.utf8 entry.hardwareName) (some entry)
  let filter := { filter with byName }
  let filter :=
    match old? with
    | some old =>
        if old.alias = entry.alias then
          filter
        else
          filter.forgetAlias old.alias entry.hardwareName
    | none => filter
  filter.claimAlias entry.alias entry.hardwareName

/-- Remove the entry of a hardware name and hand it back. -/
def remove (filter : Filter) (hardwareName : String) : Filter × Option FilterEntry :=
  let (byName, old?) := filter.byName.put (Text.utf8 hardwareName) none
  match old? with
  | some old => ({ filter with byName }.forgetAlias old.alias hardwareName, some old)
  | none => (filter, none)

/-- The entry of a hardware name. -/
def findName? (filter : Filter) (hardwareName : String) : Option FilterEntry :=
  filter.byName.get? (Text.utf8 hardwareName)

/-- The entry that an alias leads to. -/
def findAlias? (filter : Filter) (aliasName : String) : Option FilterEntry := do
  let hardwareName ← filter.byAlias.get? (Text.utf8 aliasName)
  filter.findName? hardwareName

/-- Whether the events of a station are handed on. -/
def sendsEvents (filter : Filter) (hardwareName : String) : Bool :=
  match filter.findName? hardwareName with
  | some entry => entry.sendEvents
  | none => filter.defaultSendEvents

/-- Whether commands for a station are accepted. -/
def receivesCommands (filter : Filter) (hardwareName : String) : Bool :=
  match filter.findName? hardwareName with
  | some entry => entry.receiveCommands
  | none => filter.defaultReceiveCommands

/-- The number of entries. -/
def size (filter : Filter) : Nat :=
  filter.byName.size

/-- The filter that settings describe. -/
def ofSettings (settings : FilterSettings) : Filter :=
  settings.entries.foldl insert
    (withDefaults settings.name settings.sendEvents settings.receiveCommands)

end Filter

end StationLink
