import StationLink.ConnectString
import StationLink.Gateway.Location
import StationLink.Gateway.Loopback
import StationLink.Json.Journal
import StationLink.Json.Printer

/-!
# Command line

`gateway [FILE]` loads settings, opens the transport and brings the configured
interfaces up. Only the loopback transport can be opened here; what is observed
of it at once is printed, one JSON object a line.
-/

namespace StationLink.CommandLine

/-- Look at a path of the file system. -/
def lookAt (path : String) : IO PathContent := do
  try
    let bytes ← IO.FS.readBinFile path
    pure (.file bytes.data.toList)
  catch _ =>
    pure .missing

/-- The settings that the arguments and the environment lead to. -/
def loadSettings (arguments : List String) : IO (Except LoadError GatewaySettings) := do
  let home := (← IO.getEnv "HOME").getD ""
  let standardPath := Location.standardPath home (← IO.getEnv "XDG_CONFIG_HOME")
  let path? := arguments.head?
  let content ← lookAt (path?.getD standardPath)
  pure (Location.load (fun _ => content) standardPath path?)

/-- Bring the interfaces of a loopback up. -/
def raiseAll (loopback : Loopback) (interfaces : List InterfaceSettings) : Loopback :=
  let session := interfaces.foldl
    (fun session each => ((session.addInterface each.id (some each.params)).raise each.id).2)
    loopback.session
  { loopback with session }.settle

/-- Show what a gateway with these settings does in loopback. -/
def runLoopback (settings : GatewaySettings) : IO Unit := do
  let loopback := raiseAll (Loopback.ofSettings settings) settings.interfaces
  for entry in loopback.journal.reverse do
    IO.println (Json.ofEntry Json.reportMembers entry).render

/-- Load the settings and run the gateway; the result is the exit code. -/
def run (arguments : List String) : IO UInt32 := do
  match ← loadSettings arguments with
  | .error error =>
      IO.eprintln ("Error: " ++ error.text)
      pure 1
  | .ok settings =>
      match Transport.parse settings.transport with
      | .error error =>
          IO.eprintln ("Error: transport " ++ Text.quote settings.transport ++ ": " ++ error.text)
          pure 1
      | .ok .loopback =>
          runLoopback settings
          pure 0
      | .ok _ =>
          IO.eprintln ("Error: opening transport " ++ Text.quote settings.transport)
          pure 1

end StationLink.CommandLine

/-- Run the gateway that the arguments ask for. -/
def main (arguments : List String) : IO UInt32 :=
  StationLink.CommandLine.run arguments
