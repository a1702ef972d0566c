import StationLink.Proofs.Sending

namespace StationLink

/-!
# Commands and the filter

There are two ways to put a command on the line. `Multiplexer.sendCommand` asks
the filter first and does nothing if it does not accept commands for the station.
`Multiplexer.send` takes the message of a command as it is, and to it all filters
are the same (`Multiplexer.send_setFilter`): what one way refuses is written the
other way (`Multiplexer.filter_governs_sendCommand_only`).
-/

theorem LinkTable.shut_setFilter
    (table : LinkTable)
    (filter? : Option Filter)
    (id : InterfaceId) :
    (table.setFilter filter?).shut id =
      ((table.shut id).1.setFilter filter?, (table.shut id).2) := by
  have sameRecord : (table.setFilter filter?).get? id = table.get? id := rfl
  unfold LinkTable.shut
  rw [sameRecord]
  cases table.get? id <;> rfl

namespace Multiplexer

/-- The same outcome with another filter installed. -/
def Execution.setFilter (execution : Execution) (filter? : Option Filter) : Execution :=
  { execution with mux := execution.mux.setFilter filter? }

variable (mux : Multiplexer) (filter? : Option Filter)

theorem transmit_setFilter
    (frame : Frame) :
    (mux.setFilter filter?).transmit frame =
      ((mux.transmit frame).1.setFilter filter?, (mux.transmit frame).2) := by
  have sameLine : (mux.setFilter filter?).line = mux.line := rfl
  unfold transmit
  rw [sameLine]
  rcases mux.line.write with ⟨line, attempt⟩
  cases attempt <;> rfl

theorem writeFailed_setFilter
    (id : InterfaceId) :
    (mux.setFilter filter?).writeFailed id =
      ((mux.writeFailed id).1.setFilter filter?, (mux.writeFailed id).2) := by
  simp only [writeFailed, setFilter, LinkTable.shut_setFilter]

theorem emit?_setFilter
    (patient : Bool)
    (report : Report) :
    (mux.setFilter filter?).emit? patient report =
      (mux.emit? patient report).map fun (after, journal) =>
        (after.setFilter filter?, journal) := by
  have sameReports : (mux.setFilter filter?).reports = mux.reports := rfl
  unfold emit?
  rw [sameReports]
  cases mux.reports.offer report with
  | taken reports | stored reports | discarded =>
      rfl
  | full =>
      cases patient <;> rfl

theorem emitAll_setFilter
    (patient : Bool)
    (reports : List Report) :
    (mux.setFilter filter?).emitAll patient reports =
      (mux.emitAll patient reports).setFilter filter? := by
  induction reports generalizing mux with
  | nil =>
      rfl
  | cons report rest inductionHypothesis =>
      simp only [emitAll, emit?_setFilter]
      cases mux.emit? patient report with
      | none =>
          rfl
      | some outcome =>
          obtain ⟨after, journal⟩ := outcome
          simp only [Option.map_some, inductionHypothesis]
          rfl

/-- Sending frames does the same whatever filter is installed. -/
theorem sendFrames_setFilter
    (id : InterfaceId)
    (frames : List Frame) :
    (mux.setFilter filter?).sendFrames id frames =
      ((mux.sendFrames id frames).1, (mux.sendFrames id frames).2.setFilter filter?) := by
  induction frames generalizing mux with
  | nil =>
      rfl
  | cons frame rest inductionHypothesis =>
      simp only [sendFrames, transmit_setFilter]
      rcases mux.transmit frame with ⟨after, journal, attempt⟩
      have sameOpen : (after.setFilter filter?).isOpen = after.isOpen := rfl
      cases attempt with
      | sent =>
          simp only [inductionHypothesis]
          rfl
      | refused | detached =>
          simp only [sameOpen]
          split
          · simp only [writeFailed_setFilter, emitAll_setFilter]
            rfl
          · rfl

/-- Sending a message as it is comes to the same whichever filter is installed. -/
theorem send_setFilter
    (id : InterfaceId)
    (command : Bool)
    (message : List UInt8) :
    (mux.setFilter filter?).send id command message =
      ((mux.send id command message).1,
        (mux.send id command message).2.setFilter filter?) := by
  have sameFrames :
      (mux.setFilter filter?).messageFrames id command message =
        mux.messageFrames id command message := rfl
  unfold send
  rw [sameFrames]
  cases mux.messageFrames id command message with
  | error error =>
      rfl
  | ok frames =>
      exact sendFrames_setFilter mux filter? id frames

/-- A command that the filter does not accept is refused, and nothing happens. -/
theorem sendCommand_of_denied
    {mux : Multiplexer}
    {id : InterfaceId}
    {hardwareName : String}
    {filter : Filter}
    (installed : mux.table.filter? = some filter)
    (named : mux.table.hardwareName? id = some hardwareName)
    (denied : filter.receivesCommands hardwareName = false)
    (command : Command) :
    mux.sendCommand id command = (.error (.filtered id hardwareName), { mux }) := by
  have refused : mux.table.checkCommand id = .error (.filtered id hardwareName) := by
    simp only [LinkTable.checkCommand, named, LinkTable.acceptsCommands, installed, denied,
      Bool.false_eq_true, if_false]
  simp only [sendCommand, commandFrames, refused, sendIfAllowed]

/--
Where the filter does not accept commands for a running interface, no command is
sent by way of `sendCommand`. But the filter makes no difference to a message that
is sent as it is: as long as the transport is open and takes it, it is written,
marked as a command.
-/
theorem filter_governs_sendCommand_only
    {mux : Multiplexer}
    {id : InterfaceId}
    {hardwareName : String}
    {filter : Filter}
    (installed : mux.table.filter? = some filter)
    (running : mux.table.state id = .running)
    (named : mux.table.hardwareName? id = some hardwareName)
    (denied : filter.receivesCommands hardwareName = false) :
    (∀ command, mux.sendCommand id command = (.error (.filtered id hardwareName), { mux })) ∧
      (∀ other? command message,
        (mux.setFilter other?).send id command message =
          ((mux.send id command message).1,
            (mux.send id command message).2.setFilter other?)) ∧
      (∀ message, mux.isOpen = true → message ≠ [] →
        (∀ index < (Frame.ofMessage id true message).length, mux.line.takes index = true) →
          (mux.send id true message).1 = .ok () ∧
            written (mux.send id true message).2.journal = Frame.ofMessage id true message) :=
  ⟨sendCommand_of_denied installed named denied,
    fun other? => send_setFilter mux other? id,
    fun _ isOpen nonempty => written_send_of_taken isOpen running nonempty⟩

/-- The command to stop ringing, sent in both ways to a station that may not be commanded. -/
theorem filter_governs_sendCommand_of_ringOff :
    let filter := Filter.withDefaults "events only" true false
    let mux := ((onLine {} {}).run
      [.setFilter (some filter), .addInterface 1 none 0, .raise 1 0, .receive [.ack 1] 0]).mux
    let ringOff : Command := { station := "", control := "", kind := .ringOff }
    let message := [0x81, 0x31, 0x00]
    mux.table.filter? = some filter ∧ mux.table.state 1 = .running ∧
      mux.table.hardwareName? 1 = some "dcp1" ∧ filter.receivesCommands "dcp1" = false ∧
      ringOff.encode = .ok message ∧
      mux.sendCommand 1 ringOff = (.error (.filtered 1 "dcp1"), { mux }) ∧
      (mux.setFilter none).send 1 true message =
        ((mux.send 1 true message).1, (mux.send 1 true message).2.setFilter none) ∧
      written (mux.send 1 true message).2.journal = Frame.ofMessage 1 true message := by
  intro filter mux ringOff message
  have installed : mux.table.filter? = some filter := rfl
  have running : mux.table.state 1 = .running := by
    decide +kernel
  have named : mux.table.hardwareName? 1 = some "dcp1" := by
    decide +kernel
  have denied : filter.receivesCommands "dcp1" = false := by
    decide +kernel
  have encoded : ringOff.encode = .ok message := rfl
  have taken : ∀ index < (Frame.ofMessage 1 true message).length,
      mux.line.takes index = true := by
    decide +kernel
  rcases filter_governs_sendCommand_only installed running named denied with
    ⟨refused, independent, isWritten⟩
  exact ⟨installed, running, named, denied, encoded, refused ringOff,
    independent none true message,
    (isWritten message rfl (List.cons_ne_nil _ _) taken).2⟩

/-- The filter accepts no commands for the station, but one is written. -/
theorem command_written_past_filter :
    let filter := Filter.withDefaults "events only" true false
    let mux := ((onLine {} {}).run
      [.setFilter (some filter), .addInterface 1 none 0, .raise 1 0, .receive [.ack 1] 0]).mux
    mux.table.filter? = some filter ∧ mux.table.state 1 = .running ∧
      mux.table.hardwareName? 1 = some "dcp1" ∧ filter.receivesCommands "dcp1" = false ∧
      (mux.send 1 true [0x81, 0x31, 0x00]).1 = .ok () ∧
      written (mux.send 1 true [0x81, 0x31, 0x00]).2.journal =
        [{ id := 1, kind := .data, command := true, more := false,
           payload := [0x81, 0x31, 0x00] }] := by
  intro filter mux
  have running : mux.table.state 1 = .running := by
    decide +kernel
  have taken : ∀ index < (Frame.ofMessage 1 true [0x81, 0x31, 0x00]).length,
      mux.line.takes index = true := by
    decide +kernel
  rcases written_send_of_taken rfl running (List.cons_ne_nil _ _) taken with
    ⟨isOk, isWritten⟩
  refine ⟨rfl, running, ?_, ?_, isOk, isWritten.trans ?_⟩
  · decide +kernel
  · decide +kernel
  · decide +kernel

end Multiplexer

end StationLink
