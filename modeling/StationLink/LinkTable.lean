import StationLink.Filter
import StationLink.Frame
import StationLink.LinkSettings
import StationLink.Message.Reader
import StationLink.Report
import StationLink.SortedMap
import StationLink.TimerQueue

namespace StationLink

/-!
# The link table

The table knows every interface of a transport and decides what happens to its
link. It does no input or output itself: each operation yields the table that
results and the actions to be carried out, frames to transmit and reports to
emit, in order.

An interface that may be used is eligible. While an eligible interface is not
running it is probed at the retry interval; a probe or its answer from the peer
makes it running. A running interface is probed at the keepalive interval and
is lost when nothing was heard for longer than the dead interval.
-/

/-- Something to be done outside the table. -/
inductive Action where
  | transmit (frame : Frame)
  | emit (report : Report)
  deriving Repr, DecidableEq

/-- What the table knows about one interface. -/
structure LinkRecord where
  channel : UInt8
  hardwareName : String
  running : Bool := false
  eligible : Bool := false
  timer : TimerHandle
  reassembler : Reassembler := .empty
  /-- Whether the train being received is one of commands. -/
  receivingCommand : Bool := false
  /-- When a frame was last heard. -/
  lastHeard : Nat
  deriving Repr, DecidableEq

/-- Every interface of one transport. -/
structure LinkTable where
  settings : LinkSettings
  records : SortedMap InterfaceId LinkRecord := .empty
  /-- The interface found under each hardware name. -/
  names : BucketMap InterfaceId
  timers : TimerQueue InterfaceId := .empty
  filter? : Option Filter := none

namespace LinkTable

/-- The table without interfaces. -/
def ofSettings (settings : LinkSettings) : LinkTable where
  settings
  names := (BucketMap.ofCapacity? settings.nameBuckets).getD .empty

/-- What the table knows about an interface. -/
def get? (table : LinkTable) (id : InterfaceId) : Option LinkRecord :=
  table.records.get? id

/-- Change what the table knows about an interface. -/
def set (table : LinkTable) (id : InterfaceId) (record : LinkRecord) : LinkTable :=
  { table with records := table.records.insert id record }

/-- Link the timer of an interface for a time. -/
def setTimer (table : LinkTable) (handle : TimerHandle) (expires : Nat) : LinkTable :=
  { table with timers := (table.timers.change handle expires).1 }

/-- Detach the timer of an interface. -/
def stopTimer (table : LinkTable) (handle : TimerHandle) : LinkTable :=
  { table with timers := (table.timers.unlink handle).1 }

/-! ## Looking up -/

/-- The state of an interface. -/
def state (table : LinkTable) (id : InterfaceId) : InterfaceState :=
  match table.get? id with
  | some record => if record.running then .running else .inactive
  | none => .notFound

/-- Every interface with its state, by growing number. -/
def list (table : LinkTable) : List (InterfaceId × InterfaceState) :=
  table.records.keys.map fun id => (id, table.state id)

/-- The interface found under a hardware name. -/
def findName? (table : LinkTable) (hardwareName : String) : Option InterfaceId :=
  table.names.get? (Text.utf8 hardwareName)

/-- The hardware name of an interface. -/
def hardwareName? (table : LinkTable) (id : InterfaceId) : Option String :=
  (table.get? id).map (·.hardwareName)

/-- Refuse to send on an interface that is not running. -/
def checkRunning (table : LinkTable) (id : InterfaceId) : Except LinkError Unit :=
  match table.get? id with
  | some record => if record.running then .ok () else .error (.notRunning id)
  | none => .error (.interfaceNotFound id)

/-- Whether the filter accepts commands for a hardware name. -/
def acceptsCommands (table : LinkTable) (hardwareName : String) : Bool :=
  match table.filter? with
  | some filter => filter.receivesCommands hardwareName
  | none => true

/-- Whether the filter hands on events of a hardware name. -/
def acceptsEvents (table : LinkTable) (hardwareName : String) : Bool :=
  match table.filter? with
  | some filter => filter.sendsEvents hardwareName
  | none => true

/-- Refuse commands for an interface that the filter does not accept. -/
def checkCommand (table : LinkTable) (id : InterfaceId) : Except LinkError Unit :=
  match table.hardwareName? id with
  | some hardwareName =>
      if table.acceptsCommands hardwareName then
        .ok ()
      else
        .error (.filtered id hardwareName)
  | none => .error (.interfaceNotFound id)

/-! ## Registering -/

/-- Install a filter, or remove it. -/
def setFilter (table : LinkTable) (filter? : Option Filter) : LinkTable :=
  { table with filter? }

/--
Register an interface, or choose anew what was chosen about it. A hardware name
leads to the interface that took it last; an interface that takes another name
gives its old one up.
-/
def add
    (table : LinkTable)
    (id : InterfaceId)
    (params? : Option InterfaceParams)
    (now : Nat) :
    LinkTable :=
  let params := params?.getD { channel := table.settings.defaultChannel }
  let hardwareName := params.hardwareName?.getD (defaultHardwareName id)
  match table.get? id with
  | some record =>
      let names :=
        if record.hardwareName = hardwareName then
          table.names
        else
          (table.names.erase (Text.utf8 record.hardwareName)).insert (Text.utf8 hardwareName) id
      { table with names }.set id { record with channel := params.channel, hardwareName }
  | none =>
      let (timers, timer) := table.timers.alloc now id
      let names := table.names.insert (Text.utf8 hardwareName) id
      { table with names, timers }.set id
        { channel := params.channel, hardwareName, timer, lastHeard := now }

/--
Make an interface eligible and due for its first probe. Says whether anything
changed.
-/
def up (table : LinkTable) (id : InterfaceId) (now : Nat) : Except LinkError (LinkTable × Bool) :=
  match table.get? id with
  | some record =>
      if record.eligible then
        .ok (table, false)
      else
        .ok ((table.set id { record with eligible := true }).setTimer record.timer now, true)
  | none => .error (.interfaceNotFound id)

/-- Stop all activity of an interface; says whether its link was lost by that. -/
def shut (table : LinkTable) (id : InterfaceId) : LinkTable × Option Report :=
  match table.get? id with
  | some record =>
      ((table.set id
          { record with eligible := false, running := false, reassembler := .empty }).stopTimer
            record.timer,
        if record.running then
          some (.ofLinkStatus id record.hardwareName .lost)
        else
          none)
  | none => (table, none)

/-- Stop all activity of an interface and tell the peer if the link was running. -/
def shutPolitely (table : LinkTable) (id : InterfaceId) : LinkTable × List Action :=
  match table.shut id with
  | (table, some report) => (table, [.emit report, .transmit (.disconnect id)])
  | (table, none) => (table, [])

/-- Make an interface ineligible. -/
def down (table : LinkTable) (id : InterfaceId) : Except LinkError (LinkTable × List Action) :=
  match table.get? id with
  | some _ => .ok (table.shutPolitely id)
  | none => .error (.interfaceNotFound id)

/-- Forget an interface, its timer and its hardware name if it still leads to it. -/
def forget (table : LinkTable) (id : InterfaceId) : LinkTable :=
  match table.get? id with
  | some record =>
      let name := Text.utf8 record.hardwareName
      { table with
        records := table.records.erase id
        timers := (table.timers.cancel record.timer).1
        names := if table.names.get? name = some id then table.names.erase name else table.names }
  | none => table

/-- Make an interface ineligible and forget it. -/
def remove (table : LinkTable) (id : InterfaceId) : Except LinkError (LinkTable × List Action) :=
  match table.down id with
  | .ok (table, actions) => .ok (table.forget id, actions)
  | .error error => .error error

/-- Remove interfaces one after another. -/
def removeAll (table : LinkTable) : List InterfaceId → LinkTable × List Action
  | [] => (table, [])
  | id :: rest =>
      let (table, actions) := table.shutPolitely id
      let (table, others) := (table.forget id).removeAll rest
      (table, actions ++ others)

/--
Remove every interface, by growing numbers. That order is a choice: none is promised,
and each interface sees and is told the same in any other (`removeAll_of_perm`).
-/
def teardown (table : LinkTable) : LinkTable × List Action :=
  table.removeAll table.records.keys

/-- Stop all activity of interfaces one after another. -/
def shutAll (table : LinkTable) : List InterfaceId → LinkTable × List Report
  | [] => (table, [])
  | id :: rest =>
      let (table, report?) := table.shut id
      let (table, others) := table.shutAll rest
      (table, report?.toList ++ others)

/--
The transport is gone: every link is lost and nobody can be told. The interfaces are
taken by growing numbers, which is a choice as well (`shutAll_of_perm`).
-/
def transportLost (table : LinkTable) : LinkTable × List Action :=
  let (table, reports) := table.shutAll table.records.keys
  (table, reports.map .emit)

/-! ## Link training -/

/-- The link of an interface is up: probe it at the keepalive interval. -/
def promote
    (table : LinkTable)
    (id : InterfaceId)
    (record : LinkRecord)
    (now : Nat) :
    LinkTable × List Action :=
  ((table.set id { record with running := true, reassembler := .empty }).setTimer record.timer
      (now + table.settings.keepaliveInterval),
    [.emit (.ofLinkStatus id record.hardwareName .up)])

/-- The link of an interface is lost: train it again if it is eligible. -/
def demote
    (table : LinkTable)
    (id : InterfaceId)
    (record : LinkRecord)
    (now : Nat) :
    LinkTable × List Action :=
  let stopped := table.set id { record with running := false, reassembler := .empty }
  (if record.eligible then
      stopped.setTimer record.timer (now + table.settings.retryInterval)
    else
      stopped.stopTimer record.timer,
    [.emit (.ofLinkStatus id record.hardwareName .lost)])

/-- Link the detached timer of an interface for a time. -/
def resumeTimer (table : LinkTable) (handle : TimerHandle) (expires : Nat) : LinkTable :=
  { table with timers := (table.timers.insert handle expires).1 }

/--
The timer of an interface is due. A handle that the interface does not have any
more is ignored.
-/
def onTimer
    (table : LinkTable)
    (handle : TimerHandle)
    (id : InterfaceId)
    (now : Nat) :
    LinkTable × List Action :=
  match table.get? id with
  | none => (table, [])
  | some record =>
      if record.timer ≠ handle then
        (table, [])
      else if record.running then
        if table.settings.deadInterval < now - record.lastHeard then
          table.demote id record now
        else
          (table.resumeTimer handle (now + table.settings.keepaliveInterval),
            [.transmit (.probe id record.channel)])
      else if record.eligible then
        (table.resumeTimer handle (now + table.settings.retryInterval),
          [.transmit (.probe id record.channel)])
      else
        (table, [])

/-- Handle timers one after another. -/
def onTimers
    (table : LinkTable)
    (now : Nat) :
    List (TimerHandle × InterfaceId) → LinkTable × List Action
  | [] => (table, [])
  | (handle, id) :: rest =>
      let (table, actions) := table.onTimer handle id now
      let (table, others) := table.onTimers now rest
      (table, actions ++ others)

/-- Handle every timer that is due. -/
def sweep (table : LinkTable) (now : Nat) : LinkTable × List Action :=
  let (due, timers) := table.timers.takeDue now
  { table with timers }.onTimers now due

/-! ## Received frames -/

/-- The report of a message received on an interface, unless it is malformed or filtered. -/
def interpret
    (table : LinkTable)
    (id : InterfaceId)
    (hardwareName : String)
    (command : Bool)
    (message : List UInt8) :
    Option Report :=
  if command then
    match Command.decode message with
    | .ok command =>
        if table.acceptsCommands hardwareName then
          some (.command id (command.withStation hardwareName))
        else
          none
    | .error _ => none
  else if table.acceptsEvents hardwareName then
    some (.event id ((Event.decode message).withStation hardwareName))
  else
    none

/--
A block of a message arrived on a running interface. A train that is not
complete is given up when a block of the other direction arrives.
-/
def onBlock
    (table : LinkTable)
    (id : InterfaceId)
    (record : LinkRecord)
    (command : Bool)
    (block : Block) :
    LinkTable × List Action :=
  let reassembler :=
    if record.reassembler.isPending ∧ record.receivingCommand ≠ command then
      .empty
    else
      record.reassembler
  let (reassembler, result) := reassembler.push block
  (table.set id { record with reassembler, receivingCommand := command },
    match result with
    | .ok (some message) =>
        ((table.interpret id record.hardwareName command message).map .emit).toList
    | .ok none => []
    | .error _ => [])

/-- A frame arrived. Frames for interfaces that are not registered are dropped. -/
def onFrame (table : LinkTable) (frame : Frame) (now : Nat) : LinkTable × List Action :=
  match table.get? frame.id with
  | none => (table, [])
  | some silent =>
      let record := { silent with lastHeard := now }
      let table := table.set frame.id record
      match frame.kind with
      | .probe =>
          if ¬ record.eligible then
            (table, [])
          else if record.running then
            (table, [.transmit (.ack frame.id)])
          else
            let (table, actions) := table.promote frame.id record now
            (table, .transmit (.ack frame.id) :: actions)
      | .ack =>
          if record.eligible ∧ ¬ record.running then
            table.promote frame.id record now
          else
            (table, [])
      | .disconnect =>
          if record.running then
            table.demote frame.id record now
          else
            (table, [])
      | .data =>
          if record.running then
            table.onBlock frame.id record frame.command frame.block
          else
            (table, [])

/-- Frames arrived, one after another. -/
def onFrames (table : LinkTable) (now : Nat) : List Frame → LinkTable × List Action
  | [] => (table, [])
  | frame :: rest =>
      let (table, actions) := table.onFrame frame now
      let (table, others) := table.onFrames now rest
      (table, actions ++ others)

end LinkTable

end StationLink
