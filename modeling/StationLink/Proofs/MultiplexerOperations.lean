import StationLink.Multiplexer
import StationLink.Proofs.LinkOperations

namespace StationLink

/-!
# Operations of a multiplexer

A run of a multiplexer is a list of operations that are taken one at a time:
calls of the owner, received frames, sweeps of the timers, the loss of the
transport and closing. The line decides which writes fail. What an operation
makes of the link table is always what a run of the table makes of it
(`Reachable.perform`).
-/

namespace ReportChannel

/-- Somebody still wants the reports. -/
def isWanted (channel : ReportChannel) : Bool :=
  channel.isOpen && channel.hasOwner

/-- Reports are wanted, but the owner takes none as it comes, and there is no free place. -/
structure IsFull (channel : ReportChannel) : Prop where
  wanted : channel.isWanted = true
  away : channel.attention.takes = false
  noRoom : channel.capacity ≤ channel.waiting.length + if channel.promised then 1 else 0

end ReportChannel

namespace Multiplexer

/-- Something that a multiplexer is asked for or that happens to it. -/
inductive Operation where
  | addInterface (id : InterfaceId) (params? : Option InterfaceParams) (now : Nat)
  | raise (id : InterfaceId) (now : Nat)
  | lower (id : InterfaceId)
  | removeInterface (id : InterfaceId)
  | setFilter (filter? : Option Filter)
  | send (id : InterfaceId) (command : Bool) (message : List UInt8)
  | sendCommand (id : InterfaceId) (command : Command)
  | sendEvent (id : InterfaceId) (event : Event)
  | receive (frames : List Frame) (now : Nat)
  | sweep (now : Nat)
  | loseTransport
  | close

/-- Perform an operation and carry out what it asks for. -/
def perform (mux : Multiplexer) : Operation → Execution
  | .addInterface id params? now => { mux := mux.addInterface id params? now }
  | .raise id now =>
      match mux.raise id now with
      | .ok (mux, _) => { mux }
      | .error _ => { mux }
  | .lower id => (mux.lower id).2
  | .removeInterface id => (mux.removeInterface id).2
  | .setFilter filter? => { mux := mux.setFilter filter? }
  | .send id command message => (mux.send id command message).2
  | .sendCommand id command => (mux.sendCommand id command).2
  | .sendEvent id event => (mux.sendEvent id event).2
  | .receive frames now => mux.receive none frames now
  | .sweep now => (mux.sweep true none now).1
  | .loseTransport => mux.loseTransport none
  | .close =>
      let (mux, journal) := mux.close
      { mux, journal }

/--
Perform operations one after another. An operation that has to wait for room in
the channel holds up the others.
-/
def run (mux : Multiplexer) : List Operation → Execution
  | [] => { mux }
  | operation :: rest =>
      let execution := mux.perform operation
      if execution.backlog = [] then
        (execution.mux.run rest).after execution.journal
      else
        execution

/-- A new multiplexer on a line; its owner takes reports as they come. -/
def onLine (settings : LinkSettings) (line : Line) : Multiplexer :=
  { ofSettings settings with line }

/-- The reports that the owner received, in order. -/
def delivered (journal : List (Occurrence Report)) : List Report :=
  journal.filterMap Occurrence.reported?

/-- The frames that were written, in order. -/
def written (journal : List (Occurrence Report)) : List Frame :=
  journal.filterMap Occurrence.sent?

@[simp] theorem delivered_append
    (first second : List (Occurrence Report)) :
    delivered (first ++ second) = delivered first ++ delivered second :=
  List.filterMap_append

@[simp] theorem written_append
    (first second : List (Occurrence Report)) :
    written (first ++ second) = written first ++ written second :=
  List.filterMap_append

/-! ## What is asked of the table -/

/-- What a call or something that happened asks of the table, if that is all it does. -/
def Operation.tableOperations? : Operation → Option (List LinkTable.Operation)
  | .addInterface id params? now => some [.add id params? now]
  | .lower id => some [.down id]
  | .removeInterface id => some [.remove id]
  | .setFilter filter? => some [.setFilter filter?]
  | .receive frames now => some (frames.map fun frame => .frame frame now)
  | .sweep now => some [.sweep now]
  | .raise .. | .send .. | .sendCommand .. | .sendEvent .. | .loseTransport | .close => none

theorem Operation.noneRaised_of_tableOperations?
    {operation : Operation}
    {operations : List LinkTable.Operation}
    (onTable : operation.tableOperations? = some operations) :
    ∀ id now, .up id now ∉ operations := by
  intro id now isRaised
  cases operation with
  | receive frames time =>
      cases onTable
      obtain ⟨_, _, isUp⟩ := List.mem_map.mp isRaised
      cases isUp
  | addInterface | lower | removeInterface | setFilter | sweep =>
      cases onTable
      cases List.mem_singleton.mp isRaised
  | raise | send | sendCommand | sendEvent | loseTransport | close =>
      cases onTable

/-- What is asked of the table is done there, and then the actions are carried out. -/
theorem perform_of_tableOperations?
    (mux : Multiplexer)
    {operation : Operation}
    {operations : List LinkTable.Operation}
    (onTable : operation.tableOperations? = some operations) :
    mux.perform operation =
      { mux with table := (mux.table.run operations).1 }.execute true
        (mux.table.run operations).2 := by
  cases operation with
  | addInterface | setFilter =>
      cases onTable
      rfl
  | lower id =>
      cases onTable
      simp only [perform, lower, carryOut, LinkTable.run_singleton, LinkTable.perform]
      cases mux.table.down id <;> rfl
  | removeInterface id =>
      cases onTable
      simp only [perform, removeInterface, carryOut, LinkTable.run_singleton, LinkTable.perform]
      cases mux.table.remove id <;> rfl
  | receive frames now =>
      cases onTable
      rw [← LinkTable.onFrames_eq_run]
      rfl
  | sweep now =>
      cases onTable
      rw [LinkTable.run_singleton]
      rfl
  | raise | send | sendCommand | sendEvent | loseTransport | close =>
      cases onTable

/-- Only while the transport can be used are interfaces made eligible. -/
theorem raise_ok
    {mux after : Multiplexer}
    {id : InterfaceId}
    {now : Nat}
    {started : Bool}
    (raised : mux.raise id now = .ok (after, started)) :
    mux.isOpen = true ∧
      ∃ table, mux.table.up id now = .ok (table, started) ∧ after = { mux with table } := by
  unfold raise at raised
  split at raised
  · next isOpen =>
      refine ⟨isOpen, ?_⟩
      cases outcome : mux.table.up id now with
      | error error =>
          rw [outcome] at raised
          cases raised
      | ok result =>
          rw [outcome] at raised
          cases raised
          exact ⟨result.1, rfl, rfl⟩
  · cases raised

/-! ## What becomes of a report -/

/-- What becomes of a report; it has to wait if there is no outcome. -/
inductive Emission (mux : Multiplexer) (patient : Bool) (report : Report) :
    Option (Multiplexer × List (Occurrence Report)) → Prop where
  | unwanted
      (unwanted : mux.reports.isWanted = false) :
      Emission mux patient report (some (mux, []))
  | taken
      (takes : mux.reports.attention.takes = true) :
      Emission mux patient report
        (some ({ mux with
          reports := { mux.reports with attention := mux.reports.attention.afterReport } },
          [.reported report]))
  | stored
      (away : mux.reports.attention.takes = false)
      (room : mux.reports.waiting.length < mux.reports.capacity) :
      Emission mux patient report
        (some ({ mux with
          reports := { mux.reports with waiting := mux.reports.waiting ++ [report] } }, []))
  | dropped
      (impatient : patient = false) :
      Emission mux patient report (some (mux, []))
  | waits
      (isPatient : patient = true)
      (full : mux.reports.IsFull) :
      Emission mux patient report none

/-- Reporting has one of these outcomes, each of which says what led to it. -/
theorem emission
    (mux : Multiplexer)
    (patient : Bool)
    (report : Report) :
    Emission mux patient report (mux.emit? patient report) := by
  unfold emit? ReportChannel.offer
  by_cases unwanted : ¬ mux.reports.isOpen ∨ ¬ mux.reports.hasOwner
  · rw [if_pos unwanted]
    exact .unwanted (by simpa [ReportChannel.isWanted, or_iff_not_imp_left] using unwanted)
  by_cases takes : mux.reports.attention.takes = true
  · rw [if_neg unwanted, if_pos takes]
    exact .taken takes
  have away := Bool.eq_false_iff.mpr takes
  rw [if_neg unwanted, if_neg takes]
  by_cases room : mux.reports.waiting.length + (if mux.reports.promised then 1 else 0) <
      mux.reports.capacity
  · rw [if_pos room]
    exact .stored away (Nat.lt_of_le_of_lt (Nat.le_add_right _ _) room)
  rw [if_neg room]
  cases patient with
  | false => exact .dropped rfl
  | true =>
      refine .waits rfl ⟨?_, away, Nat.le_of_not_lt room⟩
      simpa [ReportChannel.isWanted] using unwanted

/-! ## The table while actions are carried out -/

variable (mux : Multiplexer)

theorem table_transmit
    (frame : Frame) :
    (mux.transmit frame).1.table = mux.table := by
  rcases outcome : mux.line.write with ⟨line, attempt⟩
  cases attempt <;> simp only [transmit, outcome, Line.Attempt.occurrence?]

/-- A report makes no difference to the table. -/
theorem table_of_emit?
    {patient : Bool}
    {report : Report}
    {after : Multiplexer}
    {journal : List (Occurrence Report)}
    (emitted : mux.emit? patient report = some (after, journal)) :
    after.table = mux.table := by
  have outcome := emission mux patient report
  rw [emitted] at outcome
  cases outcome <;> rfl

theorem table_emitAll
    (patient : Bool)
    (reports : List Report) :
    (mux.emitAll patient reports).mux.table = mux.table := by
  induction reports generalizing mux with
  | nil =>
      rfl
  | cons report rest inductionHypothesis =>
      rw [emitAll]
      cases emitted : mux.emit? patient report with
      | none =>
          rfl
      | some outcome =>
          obtain ⟨after, journal⟩ := outcome
          exact (inductionHypothesis after).trans (table_of_emit? mux emitted)

/-- An interface is taken down after a failed write, and others are later. -/
theorem shutAll_writeFailed
    {after : Multiplexer}
    (sameTable : after.table = mux.table)
    (id : InterfaceId)
    (ids : List InterfaceId) :
    ((after.writeFailed id).1.table.shutAll ids).1 = (mux.table.shutAll (id :: ids)).1 := by
  simp only [writeFailed, sameTable, LinkTable.shutAll]

/-- Carrying out actions changes the table only by taking interfaces down. -/
theorem exists_shutAll_executeWith
    (patient : Bool)
    (lost : List Report)
    (actions : List Action) :
    ∃ ids, (mux.executeWith patient lost actions).mux.table =
      (mux.table.shutAll ids).1 := by
  induction actions generalizing mux lost with
  | nil =>
      exact ⟨[], table_emitAll mux patient lost⟩
  | cons action rest inductionHypothesis =>
      cases action with
      | emit report =>
          rw [executeWith]
          cases emitted : mux.emit? patient report with
          | none =>
              exact ⟨[], rfl⟩
          | some outcome =>
              obtain ⟨after, journal⟩ := outcome
              obtain ⟨ids, shut⟩ := inductionHypothesis after lost
              rw [table_of_emit? mux emitted] at shut
              exact ⟨ids, shut⟩
      | transmit frame =>
          have sameTable := table_transmit mux frame
          rw [executeWith]
          rcases written : mux.transmit frame with ⟨after, journal, attempt⟩
          rw [written] at sameTable
          have failed : ∃ ids,
              ((after.writeFailed frame.id).1.executeWith patient
                (lost ++ (after.writeFailed frame.id).2.toList) rest).mux.table =
                  (mux.table.shutAll ids).1 := by
            obtain ⟨ids, shut⟩ := inductionHypothesis (after.writeFailed frame.id).1
              (lost ++ (after.writeFailed frame.id).2.toList)
            exact ⟨frame.id :: ids, shut.trans (shutAll_writeFailed mux sameTable frame.id ids)⟩
          cases attempt with
          | sent =>
              obtain ⟨ids, shut⟩ := inductionHypothesis after lost
              simp only at sameTable
              rw [sameTable] at shut
              exact ⟨ids, shut⟩
          | refused =>
              exact failed
          | detached =>
              exact failed

theorem table_emitWithin
    (patient : Bool)
    (stint : Stint)
    (reports : List Report) :
    (mux.emitWithin patient stint reports).mux.table = mux.table := by
  induction reports generalizing mux stint with
  | nil =>
      rfl
  | cons report rest inductionHypothesis =>
      unfold emitWithin
      split
      · next emitted =>
          exact (inductionHypothesis _ _).trans (table_of_emit? mux emitted)
      · rfl

/-- Also within a stint the table changes only in that interfaces are taken down. -/
theorem exists_shutAll_executeWithin
    (patient : Bool)
    (stint : Stint)
    (lost : List Report)
    (actions : List Action) :
    ∃ ids, (mux.executeWithin patient stint lost actions).mux.table =
      (mux.table.shutAll ids).1 := by
  induction actions generalizing mux stint lost with
  | nil =>
      exact ⟨[], table_emitWithin mux patient stint lost⟩
  | cons action rest inductionHypothesis =>
      cases action with
      | emit report =>
          unfold executeWithin
          split
          · next left after journal _ emitted =>
              obtain ⟨ids, shut⟩ := inductionHypothesis after left lost
              rw [table_of_emit? mux emitted] at shut
              exact ⟨ids, shut⟩
          · exact ⟨[], rfl⟩
      | transmit frame =>
          have sameTable := table_transmit mux frame
          unfold executeWithin
          split
          · exact ⟨[], rfl⟩
          · next left _ =>
              rcases written : mux.transmit frame with ⟨after, journal, attempt⟩
              rw [written] at sameTable
              have failed : ∃ ids,
                  ((after.writeFailed frame.id).1.executeWithin patient left
                    (lost ++ (after.writeFailed frame.id).2.toList) rest).mux.table =
                      (mux.table.shutAll ids).1 := by
                obtain ⟨ids, shut⟩ := inductionHypothesis (after.writeFailed frame.id).1 left
                  (lost ++ (after.writeFailed frame.id).2.toList)
                exact ⟨frame.id :: ids,
                  shut.trans (shutAll_writeFailed mux sameTable frame.id ids)⟩
              cases attempt with
              | sent =>
                  obtain ⟨ids, shut⟩ := inductionHypothesis after left lost
                  rw [show after.table = mux.table from sameTable] at shut
                  exact ⟨ids, shut⟩
              | refused | detached =>
                  exact failed

/-- Carrying out actions changes the table only by taking down interfaces. -/
theorem exists_shutAll_executeFor
    (patient : Bool)
    (stint? : Option Stint)
    (actions : List Action) :
    ∃ ids, (mux.executeFor patient stint? actions).mux.table = (mux.table.shutAll ids).1 := by
  cases stint? with
  | none =>
      exact exists_shutAll_executeWith mux patient [] actions
  | some stint =>
      exact exists_shutAll_executeWithin mux patient stint [] actions

/-- Sending frames changes the table only by taking down interfaces. -/
theorem exists_shutAll_sendFrames
    (id : InterfaceId)
    (frames : List Frame) :
    ∃ ids, (mux.sendFrames id frames).2.mux.table = (mux.table.shutAll ids).1 := by
  induction frames generalizing mux with
  | nil =>
      exact ⟨[], rfl⟩
  | cons frame rest inductionHypothesis =>
      have sameTable := table_transmit mux frame
      rw [sendFrames]
      rcases sent : mux.transmit frame with ⟨after, journal, attempt⟩
      rw [sent] at sameTable
      simp only at sameTable
      have failed : ∃ ids,
          (if after.isOpen then
            (.error (.io (after.writeFailed id).1.line.refusal),
              ((after.writeFailed id).1.emitAll true
                (after.writeFailed id).2.toList).after journal)
          else
            (.error .transportClosed, { mux := after, journal }) :
            Except LinkError Unit × Execution).2.mux.table =
              (mux.table.shutAll ids).1 := by
        split
        · exact ⟨[id], (table_emitAll _ _ _).trans (shutAll_writeFailed mux sameTable id [])⟩
        · exact ⟨[], sameTable⟩
      cases attempt with
      | sent =>
          rcases inductionHypothesis after with ⟨ids, shut⟩
          rw [sameTable] at shut
          exact ⟨ids, shut⟩
      | refused =>
          exact failed
      | detached =>
          exact failed

/-! ## Tables that can be reached -/

/--
The table has been through operations of a table. Nothing is said about the
line, about the reports or about whether the transport is open.
-/
def Reachable : Prop :=
  ∃ settings operations, ((LinkTable.ofSettings settings).run operations).1 = mux.table

namespace Reachable

variable {mux : Multiplexer}

theorem onLine
    (settings : LinkSettings)
    (line : Line) :
    (onLine settings line).Reachable :=
  ⟨settings, [], rfl⟩

/-- What a run of the table could do to a multiplexer that is reachable leaves it so. -/
theorem of_run
    {after : Multiplexer}
    (reachable : mux.Reachable)
    (ran : ∃ operations, after.table = (mux.table.run operations).1) :
    after.Reachable := by
  rcases reachable with ⟨settings, before, reached⟩
  rcases ran with ⟨operations, isRun⟩
  refine ⟨settings, before ++ operations, ?_⟩
  rw [LinkTable.run_append, reached, isRun]

/-- After some operations of the table, failed writes may have taken interfaces down. -/
theorem of_shutAll
    {after : Multiplexer}
    (reachable : mux.Reachable)
    (operations : List LinkTable.Operation)
    (shut : ∃ ids, after.table = ((mux.table.run operations).1.shutAll ids).1) :
    after.Reachable := by
  rcases shut with ⟨ids, isShut⟩
  apply reachable.of_run
  refine ⟨operations ++ ids.map .writeFailed, ?_⟩
  rw [LinkTable.run_append, isShut, LinkTable.shutAll_eq_run]

theorem sendIfAllowed
    (reachable : mux.Reachable)
    (id : InterfaceId)
    (frames : Except LinkError (List Frame)) :
    (mux.sendIfAllowed id frames).2.mux.Reachable := by
  cases frames with
  | error error =>
      exact reachable
  | ok frames =>
      exact reachable.of_shutAll [] (exists_shutAll_sendFrames mux id frames)

/-- A multiplexer stays so by every operation, whichever writes fail. -/
theorem perform
    (reachable : mux.Reachable)
    (operation : Operation) :
    (mux.perform operation).mux.Reachable := by
  have onTable : ∀ {operations}, operation.tableOperations? = some operations →
      (mux.perform operation).mux.Reachable := by
    intro operations onTable
    rw [perform_of_tableOperations? mux onTable]
    exact reachable.of_shutAll operations (exists_shutAll_executeWith _ true [] _)
  cases operation with
  | addInterface | lower | removeInterface | setFilter | receive | sweep =>
      exact onTable rfl
  | raise id now =>
      simp only [Multiplexer.perform]
      cases raised : mux.raise id now with
      | error error =>
          exact reachable
      | ok outcome =>
          obtain ⟨after, started⟩ := outcome
          obtain ⟨_, table, isUp, isAfter⟩ := raise_ok raised
          subst isAfter
          refine reachable.of_run ⟨[.up id now], ?_⟩
          rw [LinkTable.run_singleton, LinkTable.perform, isUp]
  | send id command message =>
      exact reachable.sendIfAllowed id _
  | sendCommand id command =>
      exact reachable.sendIfAllowed id _
  | sendEvent id event =>
      simp only [Multiplexer.perform, Multiplexer.sendEvent]
      cases event.encode with
      | error error =>
          exact reachable
      | ok message =>
          exact reachable.sendIfAllowed id _
  | loseTransport =>
      exact reachable.of_shutAll [.transportLost] (exists_shutAll_executeWith _ true [] _)
  | close =>
      simp only [Multiplexer.perform, Multiplexer.close]
      split
      · exact reachable
      · exact reachable.of_shutAll [.teardown] (exists_shutAll_executeWith _ true [] _)

end Reachable

end Multiplexer

end StationLink
