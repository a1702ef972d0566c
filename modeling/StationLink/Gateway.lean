import StationLink.Gateway.Settings
import StationLink.Session

namespace StationLink

/-!
# Gateways

A gateway owns a session: it brings the configured interfaces up, takes every
report, and greets a station on its display when the link to it comes up.

The worker of the session and the gateway take turns. Each goes on until it has
nothing left to do, its stint is over, or the line is not free. The line is
claimed for one frame at a time, and who claimed it first gets it first. A claim
stands when the stint ends with it, so that the frame in question is the next
one on the line.

A greeting whose loss cannot be reported because the channel is full leaves the
gateway waiting for itself; it is then stuck.
-/

/-- Who writes on the line of a gateway. -/
inductive Writer where
  | worker
  | gateway
  deriving Repr, DecidableEq

/-- A greeting on its way to a station. -/
structure Greeting where
  id : InterfaceId
  /-- It is the turn of this message on its interface. -/
  begun : Bool := false
  /-- What has not been written. -/
  frames : List Frame
  deriving Repr, DecidableEq

/-- A session and the gateway that owns it. -/
structure Gateway where
  session : Session
  /-- The text that stations are greeted with. -/
  text? : Option String
  /-- The greeting that the gateway is sending. -/
  greeting? : Option Greeting := none
  /-- Who has claimed the line, in order. -/
  claims : List Writer := []
  /-- It waits for room in the channel that only it could make. -/
  stuck : Bool := false
  /-- Its work is done. -/
  stopped : Bool := false

/-- Why a gateway did not start: an interface could not be made eligible. -/
structure StartError where
  id : InterfaceId
  cause : LinkError
  deriving Repr, DecidableEq

/-- The wording of a start error. -/
def StartError.text (error : StartError) : String :=
  s!"enabling interface {error.id}: " ++ error.cause.text

namespace Gateway

/-- How many operations the worker or the gateway carries out in one turn. -/
def stintLength : Nat := 128

/-- The multiplexer that settings ask for. -/
def multiplexer (settings : GatewaySettings) : Multiplexer :=
  (Multiplexer.ofSettings settings.link).setFilter (settings.filter?.map Filter.ofSettings)

/-- A gateway that has not started. -/
def ofSettings (settings : GatewaySettings) : Gateway where
  session := (Session.ofMultiplexer (multiplexer settings)).hold
  text? := settings.greeting?

/-! ## The line -/

/-- Whether a writer may write now. -/
def mayWrite (gateway : Gateway) (writer : Writer) : Bool :=
  gateway.claims.head?.all (· = writer)

/-- A writer claims the line, unless it has already. -/
def claim (gateway : Gateway) (writer : Writer) : Gateway :=
  if writer ∈ gateway.claims then
    gateway
  else
    { gateway with claims := gateway.claims ++ [writer] }

/-- A writer is done with the line. -/
def release (gateway : Gateway) (writer : Writer) : Gateway :=
  { gateway with claims := gateway.claims.erase writer }

/-! ## Turns of the worker -/

/-- What the worker may do in a turn: one frame if the gateway waits for the line. -/
def workerStint (gateway : Gateway) : Stint where
  left := stintLength
  frames? :=
    if ¬ gateway.mayWrite .worker then
      some 0
    else if .gateway ∈ gateway.claims then
      some 1
    else
      none

/-- The worker has its turn. -/
def workerTurn (gateway : Gateway) : Gateway :=
  let session := { gateway.session with stint? := some gateway.workerStint }.settle
  let gateway := if gateway.mayWrite .worker then gateway.release .worker else gateway
  let gateway := { gateway with session }
  if session.wantsLine then gateway.claim .worker else gateway

/-- Whether the worker has a report for which there was no room. -/
def workerBlocked (gateway : Gateway) : Bool :=
  match gateway.session.worker with
  | .blocked (.emit _ :: _) _ => !gateway.session.isSpent
  | _ => false

/-- Whether the worker can go on. -/
def workerReady (gateway : Gateway) : Bool :=
  let session := gateway.session
  let reports := session.mux.reports
  match session.worker with
  | .blocked (.transmit _ :: _) _ => gateway.mayWrite .worker
  | .blocked _ _ => session.isSpent || reports.waiting.length < reports.capacity
  | .waiting _ => session.isSpent
  | .stopped => false

/-! ## Turns of the gateway -/

/-- The command that greets a station. -/
def greetingCommand (station text : String) : Command :=
  Command.display station "display" 0 0 .display text

/-- Prepare to greet the station of an interface, if there is a text for it. -/
def greet (gateway : Gateway) (id : InterfaceId) (station : String) : Gateway :=
  match gateway.text?.map (greetingCommand station) with
  | none => gateway
  | some command =>
      match gateway.session.mux.commandFrames id command with
      | .ok frames => { gateway with greeting? := some { id, frames } }
      | .error _ => gateway

/-- React to a report. -/
def handle (gateway : Gateway) (report : Report) : Gateway :=
  match report with
  | .event id event =>
      if event.kind = .up then gateway.greet id event.station else gateway
  | .command .. => gateway

/-- Take the next report; its place goes to the worker if the worker waits for one. -/
def take? (gateway : Gateway) : Option (Report × Gateway) :=
  let session := gateway.session
  let reports := session.mux.reports
  match reports.waiting with
  | [] => none
  | report :: waiting =>
      let reports :=
        { reports with waiting, promised := reports.promised || gateway.workerBlocked }
      let mux := { session.mux with reports }
      some (report, { gateway with session := { session with mux } })

/-- Begin a greeting, unless the link has been lost. -/
def begin (gateway : Gateway) (greeting : Greeting) : Gateway :=
  match gateway.session.mux.table.checkRunning greeting.id with
  | .ok () => { gateway with greeting? := some { greeting with begun := true } }
  | .error _ => { gateway with greeting? := none }

/-- Write one frame of a greeting; the rest is given up if that fails. -/
def write (gateway : Gateway) (greeting : Greeting) (frame : Frame) (rest : List Frame) :
    Gateway :=
  let (result, execution) := gateway.session.mux.sendFrames greeting.id [frame]
  let rest :=
    match result with
    | .ok () => rest
    | .error _ => []
  { gateway.release .gateway with
    session := gateway.session.absorb execution
    greeting? := if rest.isEmpty then none else some { greeting with frames := rest }
    stuck := ¬ execution.backlog.isEmpty }

/-- The gateway does the next thing that it can do. -/
def step? (gateway : Gateway) : Option Gateway :=
  if gateway.stuck then
    none
  else
    match gateway.greeting? with
    | none => gateway.take?.map fun (report, gateway) => gateway.handle report
    | some greeting =>
        match greeting.begun, greeting.frames with
        | false, _ => some (gateway.begin greeting)
        | true, [] => some { gateway with greeting? := none }
        | true, frame :: rest =>
            if gateway.mayWrite .gateway then
              some (gateway.write greeting frame rest)
            else
              none

/-- The gateway does a number of things at most. -/
def steps : Nat → Gateway → Gateway
  | 0, gateway => gateway
  | count + 1, gateway =>
      match gateway.step? with
      | some gateway => steps count gateway
      | none => gateway

/-- Whether the gateway has a frame to write. -/
def wantsLine (gateway : Gateway) : Bool :=
  !gateway.stuck && gateway.greeting?.any fun greeting => greeting.begun && !greeting.frames.isEmpty

/-- The gateway has its turn. -/
def turn (gateway : Gateway) : Gateway :=
  let gateway := gateway.steps stintLength
  if gateway.wantsLine then gateway.claim .gateway else gateway

/-! ## Both -/

/-- The worker and the gateway take turns, a number of times at most. -/
def rounds : Nat → Gateway → Gateway
  | 0, gateway => gateway
  | count + 1, gateway =>
      let gateway := gateway.workerTurn.turn
      if gateway.workerReady || gateway.step?.isSome then
        rounds count gateway
      else
        gateway

/-- A number of rounds in which everything that has come in can be dealt with. -/
def roundBound (gateway : Gateway) : Nat :=
  let session := gateway.session
  (maxTrainBlocks + 4)
    * (session.turnBound + session.mux.reports.waiting.length
      + 4 * session.mux.table.records.keys.length)

/-- Everything happens that can happen without time passing. -/
def settle (gateway : Gateway) : Gateway :=
  rounds gateway.roundBound gateway

/-- Bring interfaces up one after another. -/
def raiseAll (gateway : Gateway) : List InterfaceSettings → Option StartError × Gateway
  | [] => (none, gateway)
  | each :: rest =>
      let session := gateway.session
      let mux := session.mux.addInterface each.id (some each.params) session.now
      match mux.raise each.id session.now with
      | .ok (mux, started) =>
          let session := { session with mux }
          let session := if started then session.wake else session
          { gateway with session }.raiseAll rest
      | .error cause =>
          (some { id := each.id, cause }, { gateway with session := { session with mux } })

/-- Close the session, taking the reports that this brings. -/
def close (gateway : Gateway) : Gateway :=
  { gateway with session := gateway.session.resume.close, stopped := true }

/--
Bring the configured interfaces up and begin to work. The work is done at once
if an interface cannot be brought up or if no reports will come.
-/
def start
    (gateway : Gateway)
    (interfaces : List InterfaceSettings) :
    Option StartError × Gateway :=
  match gateway.raiseAll interfaces with
  | (some error, gateway) => (some error, { gateway with stopped := true })
  | (none, gateway) =>
      (none, if gateway.session.mux.reports.isOpen then gateway.settle else gateway.close)

/-- How time passes for a gateway. -/
def clock : Clock Gateway where
  alarm? gateway := gateway.session.alarm?
  runAt now gateway := { gateway with session := { gateway.session with now } }.settle

/-- Time passes and everything happens when it is due. -/
def advance (gateway : Gateway) (milliseconds : Nat) : Gateway :=
  let now := gateway.session.now
  clock.advance now (now + milliseconds) gateway

/-- Time leaps and what became due meanwhile happens late. -/
def jump (gateway : Gateway) (milliseconds : Nat) : Gateway :=
  clock.runAt (gateway.session.now + milliseconds) gateway

/-- Bytes come in. -/
def receive (gateway : Gateway) (bytes : List UInt8) : Gateway :=
  let session := gateway.session
  { gateway with session := { session with inbound := session.inbound.push bytes } }.settle

/-- Nothing more comes in. -/
def finish (gateway : Gateway) (ending : Ending) : Gateway :=
  let session := gateway.session
  { gateway with session := { session with inbound := session.inbound.finish ending } }.settle

/-- Something happens from outside; reports are taken by the gateway itself. -/
def undergo (gateway : Gateway) : Stimulus → Gateway
  | .receive bytes => gateway.receive bytes
  | .finish ending => gateway.finish ending
  | .limitWrites limit? =>
      { gateway with session := gateway.session.undergo (.limitWrites limit?) }
  | .advance milliseconds => gateway.advance milliseconds
  | .jump milliseconds => gateway.jump milliseconds
  | .hold => gateway
  | .resume => gateway
  | .abandonReports => gateway

/-- Shut down, unless it is stuck or has been shut down. -/
def shutdown (gateway : Gateway) : Gateway :=
  if gateway.stuck ∨ gateway.stopped then gateway else gateway.close

end Gateway

end StationLink
