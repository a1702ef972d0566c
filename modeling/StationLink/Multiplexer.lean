import StationLink.Line
import StationLink.LinkTable

namespace StationLink

/-!
# The multiplexer

A multiplexer puts a link table to work on a line and reports to an owner
through a channel of bounded capacity. `Multiplexer.execute` carries out the
actions of the table: a frame that cannot be written takes its interface down,
and the loss is reported after everything else.

A report that finds the channel full has to wait. What then remains to be done
is the backlog of the execution; it is empty whenever the owner takes reports
as they come. An impatient execution drops such reports instead. Where others
use the line as well, a stint says how far an execution goes before it stops for
them.
-/

/--
When the owner takes reports. An owner who lets time pass is alert at first and
takes a report as it comes. If something is written at an instant and no report
came before, the owner's attention is with the line: from then on waiting
reports are taken whenever something is written.
-/
inductive Attention where
  /-- As they come. -/
  | prompt
  /-- As they come, unless something is written first. -/
  | alert
  /-- As they come until the instant is over, because one came. -/
  | called
  /-- Whenever something is written. -/
  | atWrites
  /-- Not at all. -/
  | away
  deriving Repr, DecidableEq

namespace Attention

/-- Whether a report is taken as it comes. -/
def takes : Attention → Bool
  | .prompt => true
  | .alert => true
  | .called => true
  | .atWrites => false
  | .away => false

/-- A report has come. -/
def afterReport : Attention → Attention
  | .alert => .called
  | attention => attention

/-- Something has been written. -/
def afterWrite : Attention → Attention
  | .alert => .atWrites
  | attention => attention

/-- The instant is over. -/
def afterInstant : Attention → Attention
  | .called => .alert
  | attention => attention

end Attention

/-- The way of reports to the owner. -/
structure ReportChannel where
  /-- How many reports may wait. -/
  capacity : Nat
  /-- Reports that the owner has not taken. -/
  waiting : List Report := []
  /-- A free place is kept for a report that has been waiting for one. -/
  promised : Bool := false
  /-- When the owner takes reports. -/
  attention : Attention := .prompt
  /-- The owner still wants reports. -/
  hasOwner : Bool := true
  /-- More reports may come. -/
  isOpen : Bool := true
  deriving Repr, DecidableEq

namespace ReportChannel

/-- What becomes of a report. -/
inductive Offer where
  /-- The owner takes it at once. -/
  | taken (channel : ReportChannel)
  /-- It waits in the channel. -/
  | stored (channel : ReportChannel)
  /-- Nobody wants it. -/
  | discarded
  /-- There is no room for it. -/
  | full
  deriving Repr, DecidableEq

/-- Offer a report to the channel. -/
def offer (channel : ReportChannel) (report : Report) : Offer :=
  if ¬ channel.isOpen ∨ ¬ channel.hasOwner then
    .discarded
  else if channel.attention.takes then
    .taken { channel with attention := channel.attention.afterReport }
  else if channel.waiting.length + (if channel.promised then 1 else 0) < channel.capacity then
    .stored { channel with waiting := channel.waiting ++ [report] }
  else
    .full

/-- No more reports will come; an owner who takes them as they come learns it at once. -/
def close (channel : ReportChannel) : ReportChannel × List (Occurrence Report) :=
  if channel.isOpen ∧ channel.hasOwner ∧ channel.attention = .prompt then
    ({ channel with isOpen := false, hasOwner := false }, [.ended])
  else
    ({ channel with isOpen := false }, [])

/-- The owner does not take reports for now. -/
def hold (channel : ReportChannel) : ReportChannel :=
  { channel with attention := .away }

/-- The owner lets time pass. -/
def watch (channel : ReportChannel) : ReportChannel :=
  { channel with attention := .alert }

/-- The instant is over. -/
def endInstant (channel : ReportChannel) : ReportChannel :=
  { channel with attention := channel.attention.afterInstant }

/-- Something is written: an owner whose attention is with the line takes the waiting reports. -/
def collect (channel : ReportChannel) : ReportChannel × List (Occurrence Report) :=
  if channel.attention = .atWrites then
    ({ channel with waiting := [] }, channel.waiting.map .reported)
  else
    ({ channel with attention := channel.attention.afterWrite }, [])

/-- The owner takes the waiting reports and from now on all others as they come. -/
def resume (channel : ReportChannel) : ReportChannel × List (Occurrence Report) :=
  let taken := channel.waiting.map .reported
  let resumed := { channel with waiting := [], attention := .prompt }
  if channel.attention = .prompt ∨ ¬ channel.hasOwner then
    ({ channel with attention := .prompt }, [])
  else if channel.isOpen then
    (resumed, taken)
  else
    ({ resumed with hasOwner := false }, taken ++ [.ended])

/-- The owner goes away. -/
def abandon (channel : ReportChannel) : ReportChannel :=
  { channel with waiting := [], hasOwner := false }

end ReportChannel

/-- How much may be done before others have their turn. -/
structure Stint where
  /-- How many actions. -/
  left : Nat
  /-- How many frames, if others wait for the line. -/
  frames? : Option Nat := none
  deriving Repr, DecidableEq

namespace Stint

/-- What is left after a report. -/
def afterReport? (stint : Stint) : Option Stint :=
  if 0 < stint.left then some { stint with left := stint.left - 1 } else none

/-- What is left after a frame. -/
def afterFrame? (stint : Stint) : Option Stint :=
  if 0 < stint.left ∧ stint.frames? ≠ some 0 then
    some { left := stint.left - 1, frames? := stint.frames?.map (· - 1) }
  else
    none

end Stint

/-- A link table at work. -/
structure Multiplexer where
  table : LinkTable
  line : Line := {}
  reports : ReportChannel
  /-- The transport can still be used. -/
  isOpen : Bool := true
  /-- Closing has begun. -/
  closed : Bool := false

namespace Multiplexer

/-- A multiplexer without interfaces. -/
def ofSettings (settings : LinkSettings) : Multiplexer where
  table := .ofSettings settings
  reports := { capacity := max settings.reportBuffer 1 }

/--
A multiplexer on a transport. Its settings have to be valid, and it needs
something that runs its worker.
-/
def attach (settings : LinkSettings) (hasRuntime : Bool) : Except LinkError Multiplexer :=
  match settings.validate with
  | .error error => .error error
  | .ok () => if hasRuntime then .ok (ofSettings settings) else .error .noRuntime

/-- The outcome of carrying out actions. -/
structure Execution where
  mux : Multiplexer
  /-- What could be observed, in order. -/
  journal : List (Occurrence Report) := []
  /-- What has to wait for room in the channel or for the next stint. -/
  backlog : List Action := []
  /-- What is left of the stint, if there was one. -/
  stint? : Option Stint := none

namespace Execution

/-- The same outcome after something else was observed. -/
def after (journal : List (Occurrence Report)) (execution : Execution) : Execution :=
  { execution with journal := journal ++ execution.journal }

end Execution

/-! ## Carrying out actions -/

/-- Report to the owner; none if the report has to wait. -/
def emit?
    (mux : Multiplexer)
    (patient : Bool)
    (report : Report) :
    Option (Multiplexer × List (Occurrence Report)) :=
  match mux.reports.offer report with
  | .taken reports => some ({ mux with reports }, [.reported report])
  | .stored reports => some ({ mux with reports }, [])
  | .discarded => some (mux, [])
  | .full => if patient then none else some (mux, [])

/-- Report to the owner one after another. -/
def emitAll (mux : Multiplexer) (patient : Bool) : List Report → Execution
  | [] => { mux }
  | report :: rest =>
      match mux.emit? patient report with
      | some (mux, journal) => (mux.emitAll patient rest).after journal
      | none => { mux, backlog := (report :: rest).map .emit }

/-- Take an interface down because a frame of it could not be written. -/
def writeFailed (mux : Multiplexer) (id : InterfaceId) : Multiplexer × Option Report :=
  let (table, report?) := mux.table.shut id
  ({ mux with table }, report?)

/-- Try to write a frame. -/
def transmit
    (mux : Multiplexer)
    (frame : Frame) :
    Multiplexer × List (Occurrence Report) × Line.Attempt :=
  let (line, attempt) := mux.line.write
  match attempt.occurrence? frame with
  | some occurrence =>
      let (reports, taken) := mux.reports.collect
      ({ mux with line, reports }, taken ++ [occurrence], attempt)
  | none => ({ mux with line }, [], attempt)

/--
Carry out actions in order, then report the links that were lost because of
failed writes.
-/
def executeWith
    (mux : Multiplexer)
    (patient : Bool)
    (lost : List Report) :
    List Action → Execution
  | [] => mux.emitAll patient lost
  | .emit report :: rest =>
      match mux.emit? patient report with
      | some (mux, journal) => (mux.executeWith patient lost rest).after journal
      | none => { mux, backlog := .emit report :: rest ++ lost.map .emit }
  | .transmit frame :: rest =>
      match mux.transmit frame with
      | (mux, journal, .sent) => (mux.executeWith patient lost rest).after journal
      | (mux, journal, _) =>
          let (mux, report?) := mux.writeFailed frame.id
          (mux.executeWith patient (lost ++ report?.toList) rest).after journal

/-- Carry out actions in order. -/
def execute (mux : Multiplexer) (patient : Bool) (actions : List Action) : Execution :=
  mux.executeWith patient [] actions

/-- Report to the owner one after another while the stint lasts. -/
def emitWithin (mux : Multiplexer) (patient : Bool) (stint : Stint) : List Report → Execution
  | [] => { mux, stint? := some stint }
  | report :: rest =>
      match stint.afterReport?, mux.emit? patient report with
      | some left, some (mux, journal) => (mux.emitWithin patient left rest).after journal
      | _, _ => { mux, backlog := (report :: rest).map .emit, stint? := some stint }

/--
Carry out actions in order while the stint lasts, then report the links that
were lost because of failed writes.
-/
def executeWithin
    (mux : Multiplexer)
    (patient : Bool)
    (stint : Stint)
    (lost : List Report) :
    List Action → Execution
  | [] => mux.emitWithin patient stint lost
  | .emit report :: rest =>
      match stint.afterReport?, mux.emit? patient report with
      | some left, some (mux, journal) =>
          (mux.executeWithin patient left lost rest).after journal
      | _, _ =>
          { mux, backlog := .emit report :: rest ++ lost.map .emit, stint? := some stint }
  | .transmit frame :: rest =>
      match stint.afterFrame? with
      | none =>
          { mux, backlog := .transmit frame :: rest ++ lost.map .emit, stint? := some stint }
      | some left =>
          match mux.transmit frame with
          | (mux, journal, .sent) =>
              (mux.executeWithin patient left lost rest).after journal
          | (mux, journal, _) =>
              let (mux, report?) := mux.writeFailed frame.id
              (mux.executeWithin patient left (lost ++ report?.toList) rest).after journal

/-- Carry out actions in order, within a stint if there is one. -/
def executeFor
    (mux : Multiplexer)
    (patient : Bool)
    (stint? : Option Stint)
    (actions : List Action) :
    Execution :=
  match stint? with
  | none => mux.execute patient actions
  | some stint => mux.executeWithin patient stint [] actions

/-! ## Operations of the owner -/

/-- Register an interface, or choose anew what was chosen about it. -/
def addInterface
    (mux : Multiplexer)
    (id : InterfaceId)
    (params? : Option InterfaceParams)
    (now : Nat) :
    Multiplexer :=
  { mux with table := mux.table.add id params? now }

/-- Make an interface eligible; says whether its training begins. -/
def raise
    (mux : Multiplexer)
    (id : InterfaceId)
    (now : Nat) :
    Except LinkError (Multiplexer × Bool) :=
  if mux.isOpen then
    (mux.table.up id now).map fun (table, started) => ({ mux with table }, started)
  else
    .error .transportClosed

/-- Carry out what an operation of the table asks for. -/
def carryOut
    (mux : Multiplexer)
    (step : Except LinkError (LinkTable × List Action)) :
    Except LinkError Unit × Execution :=
  match step with
  | .ok (table, actions) => (.ok (), { mux with table }.execute true actions)
  | .error error => (.error error, { mux })

/-- Make an interface ineligible. -/
def lower (mux : Multiplexer) (id : InterfaceId) : Except LinkError Unit × Execution :=
  mux.carryOut (mux.table.down id)

/-- Forget an interface. -/
def removeInterface (mux : Multiplexer) (id : InterfaceId) : Except LinkError Unit × Execution :=
  mux.carryOut (mux.table.remove id)

/-- Install a filter, or remove it. -/
def setFilter (mux : Multiplexer) (filter? : Option Filter) : Multiplexer :=
  { mux with table := mux.table.setFilter filter? }

/-- Write the frames of a train up to the first that cannot be written. -/
def sendFrames (mux : Multiplexer) (id : InterfaceId) :
    List Frame → Except LinkError Unit × Execution
  | [] => (.ok (), { mux })
  | frame :: rest =>
      match mux.transmit frame with
      | (mux, journal, .sent) =>
          let (result, execution) := mux.sendFrames id rest
          (result, execution.after journal)
      | (mux, journal, _) =>
          if mux.isOpen then
            let (mux, report?) := mux.writeFailed id
            (.error (.io mux.line.refusal), (mux.emitAll true report?.toList).after journal)
          else
            (.error .transportClosed, { mux, journal })

/-- The frames of a message that can be sent on an interface. -/
def messageFrames
    (mux : Multiplexer)
    (id : InterfaceId)
    (command : Bool)
    (message : List UInt8) :
    Except LinkError (List Frame) :=
  if message = [] then
    .error .emptyMessage
  else if ¬ mux.isOpen then
    .error .transportClosed
  else
    (mux.table.checkRunning id).map fun _ => Frame.ofMessage id command message

/-- The frames of a command that the filter accepts. -/
def commandFrames
    (mux : Multiplexer)
    (id : InterfaceId)
    (command : Command) :
    Except LinkError (List Frame) :=
  match mux.table.checkCommand id with
  | .error error => .error error
  | .ok () =>
      match command.encode with
      | .error error => .error (.encode error)
      | .ok message => mux.messageFrames id true message

/-- Send frames, if there are any to be sent. -/
def sendIfAllowed
    (mux : Multiplexer)
    (id : InterfaceId) :
    Except LinkError (List Frame) → Except LinkError Unit × Execution
  | .ok frames => mux.sendFrames id frames
  | .error error => (.error error, { mux })

/-- Send a message on a running interface, towards the station if it is a command. -/
def send
    (mux : Multiplexer)
    (id : InterfaceId)
    (command : Bool)
    (message : List UInt8) :
    Except LinkError Unit × Execution :=
  mux.sendIfAllowed id (mux.messageFrames id command message)

/-- Send a command that the filter accepts. -/
def sendCommand
    (mux : Multiplexer)
    (id : InterfaceId)
    (command : Command) :
    Except LinkError Unit × Execution :=
  mux.sendIfAllowed id (mux.commandFrames id command)

/-- Send an event. -/
def sendEvent
    (mux : Multiplexer)
    (id : InterfaceId)
    (event : Event) :
    Except LinkError Unit × Execution :=
  match event.encode with
  | .error error => (.error (.encode error), { mux })
  | .ok message => mux.send id false message

/-! ## Work of the worker -/

/--
Handle the timers that are due. Also says how long until the next one is due,
before anything is written.
-/
def sweep
    (mux : Multiplexer)
    (patient : Bool)
    (stint? : Option Stint)
    (now : Nat) :
    Execution × Nat :=
  let (table, actions) := mux.table.sweep now
  ({ mux with table }.executeFor patient stint? actions, table.timers.remaining now)

/-- Handle received frames. -/
def receive
    (mux : Multiplexer)
    (stint? : Option Stint)
    (frames : List Frame)
    (now : Nat) :
    Execution :=
  let (table, actions) := mux.table.onFrames now frames
  { mux with table }.executeFor true stint? actions

/-- The transport is gone. -/
def loseTransport (mux : Multiplexer) (stint? : Option Stint) : Execution :=
  let (table, actions) := mux.table.transportLost
  let line := { mux.line with attached := false }
  { mux with table, isOpen := false, line }.executeFor true stint? actions

/-! ## Closing -/

/-- Remove every interface. -/
def teardown (mux : Multiplexer) : Execution :=
  let (table, actions) := mux.table.teardown
  { mux with table }.execute true actions

/-- Give up the transport and end the reports. -/
def release (mux : Multiplexer) : Multiplexer × List (Occurrence Report) :=
  let (reports, ended) := mux.reports.close
  ({ mux with isOpen := false, line := { mux.line with attached := false }, reports },
    (if mux.line.attached then [.shutdown] else []) ++ ended)

/--
Close a multiplexer whose owner takes reports as they come. Closing again does
nothing.
-/
def close (mux : Multiplexer) : Multiplexer × List (Occurrence Report) :=
  if mux.closed then
    (mux, [])
  else
    let execution := { mux with closed := true }.teardown
    let (mux, journal) := execution.mux.release
    (mux, execution.journal ++ journal)

end Multiplexer

end StationLink
