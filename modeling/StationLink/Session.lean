import StationLink.Clock
import StationLink.Frame.Decoder
import StationLink.Multiplexer
import StationLink.Stimulus

namespace StationLink

/-!
# Sessions

A session is a multiplexer at work in time: frames come in as bytes, timers
fire, the owner calls operations and takes reports or does not. One worker
serves the transport. At each turn it handles the timers that are due, or reads
once and handles the frames found, and then waits for bytes, for the next timer
or for a call that wakes it. Calls that wake a busy worker are remembered, so
that it looks at the timers once for each, even when nobody is left who could
call it.

A worker that has a report for a full channel does nothing else until there is
room. Closing gives it half a second for that, and as long again for the
reports of the teardown; after that, reports that find no room are dropped.

A worker may be given a stint: when that is over it leaves off and does not go
on before it was given another, so that an owner who also writes is not kept
waiting.
-/

/-- The milliseconds that closing waits for room in the channel. -/
def closeGrace : Nat := 500

/-- How many calls that wake the worker are remembered. -/
def wakeLimit : Nat := 8

/-- What a worker does when it is done with what it is doing. -/
inductive Next where
  /-- Handle the timers that are due. -/
  | sweep
  /-- Wait; the next timer was found to be due after so long, zero meaning none. -/
  | pause (delay : Nat)
  /-- Nothing more. -/
  | stop
  deriving Repr, DecidableEq

/-- What the worker of a session is doing. -/
inductive Worker where
  /-- It waits, for a given instant at most. -/
  | waiting (wake? : Option Nat)
  /-- It has actions to carry out and no room for a report, or has to leave the line to others. -/
  | blocked (backlog : List Action) (next : Next)
  /-- It has ended. -/
  | stopped
  deriving Repr, DecidableEq

/-- A multiplexer at work in time. -/
structure Session where
  now : Nat := 0
  mux : Multiplexer
  inbound : Inbound := {}
  decoder : FrameDecoder := .empty
  worker : Worker := .waiting none
  /-- How many times the worker was asked to look at the timers again. -/
  wakes : Nat := 0
  /-- Actions of calls that have no room for a report. -/
  callers : List Action := []
  /-- Somebody can still call operations. -/
  hasCallers : Bool := true
  /-- What is left of the worker's stint, if it has to stop for others. -/
  stint? : Option Stint := none
  /-- What was observed, latest first. -/
  journal : List (Entry Report) := []

namespace Session

/-- A session that starts with a given multiplexer. -/
def ofMultiplexer (mux : Multiplexer) : Session := { mux }

/-- Note what was observed at this instant. -/
def observe (session : Session) (occurrences : List (Occurrence Report)) : Session :=
  { session with
    journal := occurrences.foldl (fun journal occurrence => ⟨session.now, occurrence⟩ :: journal)
      session.journal }

/-- Take over the outcome of an execution. -/
def absorb (session : Session) (execution : Multiplexer.Execution) : Session :=
  { session with mux := execution.mux }.observe execution.journal

/-! ## The worker -/

/-- Ask the worker to look at the timers again; too many requests at once are forgotten. -/
def wake (session : Session) : Session :=
  { session with wakes := min (session.wakes + 1) wakeLimit }

/-- The worker waits; a timer was found to be due after a delay. -/
def pause (session : Session) (delay : Nat) : Session :=
  let wake? :=
    if delay = 0 then
      if session.mux.table.timers.isEmpty then none else some session.now
    else
      some (session.now + delay)
  { session with worker := .waiting wake? }

/-- Take over the outcome of an execution by the worker. -/
def absorbWork (session : Session) (execution : Multiplexer.Execution) : Session :=
  { session with stint? := execution.stint? }.absorb execution

/-- The worker handles the timers that are due and waits. -/
def sweep (session : Session) (patient : Bool) : Session :=
  let (execution, delay) := session.mux.sweep patient session.stint? session.now
  let session := session.absorbWork execution
  if execution.backlog.isEmpty then
    session.pause delay
  else
    { session with worker := .blocked execution.backlog (.pause delay) }

/-- The worker carried out actions and goes on if it could finish them. -/
def proceed (session : Session) (execution : Multiplexer.Execution) (next : Next) : Session :=
  let session := session.absorbWork execution
  if execution.backlog.isEmpty then
    match next with
    | .sweep => session.sweep true
    | .pause delay => session.pause delay
    | .stop => { session with worker := .stopped }
  else
    { session with worker := .blocked execution.backlog next }

/-- Whether the worker's stint is over. -/
def isSpent (session : Session) : Bool :=
  session.stint?.any (·.left = 0)

/-- Whether the worker has a frame to write for which its stint did not suffice. -/
def wantsLine (session : Session) : Bool :=
  match session.worker with
  | .blocked (.transmit _ :: _) _ => true
  | _ => false

/-- Forget that a place in the channel was promised. -/
def redeem (session : Session) : Multiplexer :=
  { session.mux with reports := { session.mux.reports with promised := false } }

/-- The worker reads once, if there is anything to read. -/
def read? (session : Session) : Option Session :=
  match session.inbound.read with
  | (.nothing, _) => none
  | (.bytes bytes, inbound) =>
      let (frames, decoder) := (session.decoder.push bytes).drain
      let session := { session with inbound, decoder }
      let execution := session.mux.receive session.stint? frames session.now
      some (session.proceed execution .sweep)
  | (.ended _, _) => some (session.proceed (session.mux.loseTransport session.stint?) .stop)

/-- Calls that were waiting for room in the channel go on, if there is some. -/
def resumeCallers? (session : Session) : Option Session :=
  if session.callers.isEmpty then
    none
  else
    let execution := session.mux.execute true session.callers
    if execution.backlog = session.callers then
      none
    else
      some ({ session with callers := execution.backlog }.absorb execution)

/-- The session ends when its worker has ended and nobody can call it. -/
def expire? (session : Session) : Option Session :=
  if session.mux.reports.isOpen ∧ ¬ session.hasCallers then
    let (reports, ended) := session.mux.reports.close
    let mux := { session.mux with reports, line := { session.mux.line with attached := false } }
    some ({ session with mux }.observe ended)
  else
    none

/-- The worker does the next thing that can be done without time passing. -/
def turn? (session : Session) : Option Session :=
  match session.worker with
  | .blocked backlog next =>
      let execution := session.redeem.executeFor true session.stint? backlog
      if execution.backlog = backlog then
        none
      else
        some (session.proceed execution next)
  | .stopped =>
      match session.expire? with
      | some session => some session
      | none => session.resumeCallers?
  | .waiting wake? =>
      match session.isSpent, session.wakes with
      | true, _ => none
      | false, wakes + 1 => some ({ session with wakes }.sweep true)
      | false, 0 =>
          if ¬ session.hasCallers then
            some { session with worker := .stopped }
          else if wake?.any (· ≤ session.now) then
            some (session.sweep true)
          else
            match session.read? with
            | some session => some session
            | none => session.resumeCallers?

/-- Take a number of turns at most. -/
def turns : Nat → Session → Session
  | 0, session => session
  | count + 1, session =>
      match session.turn? with
      | some session => turns count session
      | none => session

/-- A number of turns in which everything that has come in can be dealt with. -/
def turnBound (session : Session) : Nat :=
  let backlog :=
    match session.worker with
    | .blocked backlog _ => backlog.length
    | _ => 0
  session.inbound.bytes.length + session.callers.length + session.wakes + backlog + 6

/-- Everything happens that can happen without time passing. -/
def settle (session : Session) : Session :=
  turns session.turnBound session

/-- The instant is over. -/
def endInstant (session : Session) : Session :=
  { session with mux := { session.mux with reports := session.mux.reports.endInstant } }

/-- When the worker wants to be run again. -/
def alarm? (session : Session) : Option Nat :=
  match session.worker with
  | .waiting wake? => wake?
  | _ => none

/-- How time passes in a session. -/
def clock : Clock Session where
  alarm? := alarm?
  runAt now session := { session with now }.settle.endInstant

/-- Time leaps and what became due meanwhile happens late. -/
def jump (session : Session) (milliseconds : Nat) : Session :=
  clock.runAt (session.now + milliseconds) session

/-! ## The transport -/

/-- Bytes come in. -/
def receive (session : Session) (bytes : List UInt8) : Session :=
  { session with inbound := session.inbound.push bytes }.settle

/-- Nothing more comes in. -/
def finish (session : Session) (ending : Ending) : Session :=
  { session with inbound := session.inbound.finish ending }.settle

/-- Change which writes succeed. -/
def setLine (session : Session) (change : Line → Line) : Session :=
  { session with mux := { session.mux with line := change session.mux.line } }

/-! ## Reports -/

/-- Change how the owner takes reports. -/
def setReports
    (session : Session)
    (change : ReportChannel → ReportChannel × List (Occurrence Report)) :
    Session :=
  let (reports, occurrences) := change session.mux.reports
  ({ session with mux := { session.mux with reports } }.observe occurrences).settle

/-- The owner stops taking reports as they come. -/
def hold (session : Session) : Session :=
  session.setReports fun reports => (reports.hold, [])

/-- The owner takes all reports again. -/
def resume (session : Session) : Session :=
  session.setReports ReportChannel.resume

/-- The owner does not want reports any more. -/
def abandonReports (session : Session) : Session :=
  session.setReports fun reports => (reports.abandon, [])

/--
Time passes and everything happens when it is due. An owner who takes reports
watches meanwhile and takes what is waiting at the end.
-/
def advance (session : Session) (milliseconds : Nat) : Session :=
  let pass (session : Session) : Session :=
    clock.advance session.now (session.now + milliseconds) session
  if session.mux.reports.attention = .prompt then
    (pass (session.setReports fun reports => (reports.watch, []))).resume
  else
    pass session

/-- Something happens from outside. -/
def undergo (session : Session) : Stimulus → Session
  | .receive bytes => session.receive bytes
  | .finish ending => session.finish ending
  | .limitWrites limit? => session.setLine (·.limit limit?)
  | .advance milliseconds => session.advance milliseconds
  | .jump milliseconds => session.jump milliseconds
  | .hold => session.hold
  | .resume => session.resume
  | .abandonReports => session.abandonReports

/-! ## Operations of the owner -/

/-- Register an interface, or choose anew what was chosen about it. -/
def addInterface
    (session : Session)
    (id : InterfaceId)
    (params? : Option InterfaceParams) :
    Session :=
  { session with mux := session.mux.addInterface id params? session.now }.settle

/-- Make an interface eligible. -/
def raise (session : Session) (id : InterfaceId) : Except LinkError Unit × Session :=
  match session.mux.raise id session.now with
  | .ok (mux, started) =>
      let session := { session with mux }
      (.ok (), (if started then session.wake else session).settle)
  | .error error => (.error error, session)

/-- Take over the outcome of an operation. -/
def call
    (session : Session)
    (outcome : Except LinkError Unit × Multiplexer.Execution) :
    Except LinkError Unit × Session :=
  let (result, execution) := outcome
  (result,
    ({ session with callers := session.callers ++ execution.backlog }.absorb execution).settle)

/-- Make an interface ineligible. -/
def lower (session : Session) (id : InterfaceId) : Except LinkError Unit × Session :=
  session.call (session.mux.lower id)

/-- Forget an interface. -/
def removeInterface (session : Session) (id : InterfaceId) : Except LinkError Unit × Session :=
  session.call (session.mux.removeInterface id)

/-- Install a filter, or remove it. -/
def setFilter (session : Session) (filter? : Option Filter) : Session :=
  { session with mux := session.mux.setFilter filter? }

/-- Send a message. -/
def send
    (session : Session)
    (id : InterfaceId)
    (command : Bool)
    (message : List UInt8) :
    Except LinkError Unit × Session :=
  session.call (session.mux.send id command message)

/-- Send a command. -/
def sendCommand
    (session : Session)
    (id : InterfaceId)
    (command : Command) :
    Except LinkError Unit × Session :=
  session.call (session.mux.sendCommand id command)

/-- Send an event. -/
def sendEvent
    (session : Session)
    (id : InterfaceId)
    (event : Event) :
    Except LinkError Unit × Session :=
  session.call (session.mux.sendEvent id event)

/-- Nobody can call operations any more. -/
def dropCallers (session : Session) : Session :=
  { session with hasCallers := false }.settle

/-! ## Closing -/

/-- Let the grace period pass and drop the reports that still have no room. -/
def lapse (session : Session) (backlog : List Action) : Session :=
  let session := { session with now := session.now + closeGrace }
  session.absorb (session.redeem.execute false backlog)

/-- The worker ends, after what it is doing. -/
def dismiss (session : Session) : Session :=
  match session.worker with
  | .blocked backlog next =>
      let session := session.lapse (backlog ++ session.callers)
      let session := if next = .sweep then session.sweep false else session
      { session with worker := .stopped, callers := [] }
  | _ => { session with worker := .stopped }

/-- Remove every interface. -/
def teardown (session : Session) : Session :=
  let execution := session.mux.teardown
  let session := session.absorb execution
  if execution.backlog.isEmpty then session else session.lapse execution.backlog

/-- Give up the transport and end the reports. -/
def release (session : Session) : Session :=
  let (mux, occurrences) := session.mux.release
  { session with mux }.observe occurrences

/-- Stop the worker, remove every interface and give up the transport; once only. -/
def close (session : Session) : Session :=
  if session.mux.closed then
    session
  else
    let session := { session with mux := { session.mux with closed := true }, stint? := none }
    session.dismiss.teardown.release

end Session

end StationLink
