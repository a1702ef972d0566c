import StationLink.Proofs.DisabledInterface
import StationLink.Proofs.LinkStatus
import StationLink.Proofs.MultiplexerOperations

namespace StationLink.Multiplexer

/-!
# Status reports and links

The owner of a multiplexer learns by reports which links are up. While actions
are carried out the reports lag behind the links: some are still among the
actions to come, and the loss of a link whose frame could not be written is
reported after all of them. `Informs` says that the reports delivered together
with those still owed tell the state of every link; each step of an execution
keeps it, and nothing is owed when an operation is over.
-/

/--
The owner takes reports as they come, and the reports delivered and those still
owed, in this order, announce the state of every link. Once the reports have
ended no link can come up any more.
-/
structure Informs (mux : Multiplexer) (given owed : List Report) : Prop where
  prompt : mux.reports.attention = .prompt
  announced :
    mux.reports.isOpen = true →
      mux.reports.hasOwner = true ∧
        ∀ id, LinkStatus.replay? false (Report.statuses id (given ++ owed)) =
          some (mux.table.isRunning id)
  ended :
    mux.reports.isOpen = false →
      mux.isOpen = false ∧ (∀ id, mux.table.Disabled id) ∧
        ∀ id, LinkStatus.replay? false (Report.statuses id given) = some false

/-- All was carried out, and the reports delivered tell the state of every link. -/
structure Settles (given : List Report) (execution : Execution) : Prop where
  complete : execution.backlog = []
  informs : Informs execution.mux (given ++ delivered execution.journal) []

namespace Settles

variable {given : List Report} {execution : Execution}

theorem after
    {journal : List (Occurrence Report)}
    (settles : Settles (given ++ delivered journal) execution) :
    Settles given (execution.after journal) := by
  constructor
  · exact settles.complete
  · have informs := settles.informs
    rw [List.append_assoc, ← delivered_append] at informs
    exact informs

/-- Nothing was to be carried out. -/
theorem idle
    {mux : Multiplexer}
    (informs : mux.Informs given []) :
    Settles given { mux } := by
  constructor
  · rfl
  · rw [← List.append_nil given] at informs
    exact informs

end Settles

namespace Informs

variable {mux : Multiplexer} {given owed : List Report}

/-- What the owner knows does not depend on what was written. -/
theorem of_same
    {after : Multiplexer}
    (informs : mux.Informs given owed)
    (sameTable : after.table = mux.table)
    (sameOpen : after.isOpen = mux.isOpen)
    (sameReports : after.reports = { mux.reports with attention := .prompt }) :
    after.Informs given owed := by
  constructor
  · rw [sameReports]
  · rw [sameReports, sameTable]
    exact informs.announced
  · rw [sameReports, sameTable, sameOpen]
    exact informs.ended

/-- The statuses that were reported end with the state of the link. -/
theorem replay?_statuses
    (informs : mux.Informs given [])
    (id : InterfaceId) :
    LinkStatus.replay? false (Report.statuses id given) =
      some (mux.table.isRunning id) := by
  cases isOpen : mux.reports.isOpen with
  | true =>
      have announced := (informs.announced isOpen).2 id
      rw [List.append_nil] at announced
      exact announced
  | false =>
      obtain ⟨_, disabled, told⟩ := informs.ended isOpen
      rw [(disabled id).isRunning_eq_false]
      exact told id

/-! ## Carrying out actions -/

/-- A report that is owed is delivered, or dropped if the reports have ended. -/
theorem emit?
    {report : Report}
    (informs : mux.Informs given (report :: owed))
    (patient : Bool) :
    ∃ after journal, mux.emit? patient report = some (after, journal) ∧
      after.Informs (given ++ delivered journal) owed ∧
        after.isOpen = mux.isOpen := by
  cases isOpen : mux.reports.isOpen with
  | true =>
      obtain ⟨hasOwner, announced⟩ := informs.announced isOpen
      refine ⟨{ mux with reports := { mux.reports with attention := .prompt } },
        [.reported report], ?_, ?_, rfl⟩
      · simp [Multiplexer.emit?, ReportChannel.offer, isOpen, hasOwner, informs.prompt,
          Attention.takes, Attention.afterReport]
      · constructor
        · rfl
        · intro _
          refine ⟨hasOwner, ?_⟩
          intro id
          have same :
              given ++ delivered [.reported report] ++ owed =
                given ++ report :: owed := by
            simp [delivered, Occurrence.reported?]
          rw [same]
          exact announced id
        · intro isEnded
          rw [isOpen] at isEnded
          cases isEnded
  | false =>
      obtain ⟨isClosed, disabled, told⟩ := informs.ended isOpen
      refine ⟨mux, [], ?_, ?_, rfl⟩
      · simp [Multiplexer.emit?, ReportChannel.offer, isOpen]
      · constructor
        · exact informs.prompt
        · intro notEnded
          rw [isOpen] at notEnded
          cases notEnded
        · intro _
          simp only [delivered, List.filterMap_nil, List.append_nil]
          exact ⟨isClosed, disabled, told⟩

/-- Trying to write a frame tells the owner nothing. -/
theorem transmit
    {after : Multiplexer}
    {journal : List (Occurrence Report)}
    {frame : Frame}
    {attempt : Line.Attempt}
    (informs : mux.Informs given owed)
    (written : mux.transmit frame = (after, journal, attempt)) :
    delivered journal = [] ∧ after.Informs given owed ∧
      after.isOpen = mux.isOpen := by
  have collected :
      mux.reports.collect = ({ mux.reports with attention := .prompt }, []) := by
    simp [ReportChannel.collect, informs.prompt, Attention.afterWrite]
  have same : mux.reports = { mux.reports with attention := .prompt } := by
    rw [← informs.prompt]
  rcases outcome : mux.line.write with ⟨line, attempted⟩
  cases attempted with
  | sent =>
      simp only [Multiplexer.transmit, outcome, Line.Attempt.occurrence?,
        collected] at written
      cases written
      exact ⟨rfl, informs.of_same rfl rfl rfl, rfl⟩
  | refused =>
      simp only [Multiplexer.transmit, outcome, Line.Attempt.occurrence?,
        collected] at written
      cases written
      exact ⟨rfl, informs.of_same rfl rfl rfl, rfl⟩
  | detached =>
      simp only [Multiplexer.transmit, outcome, Line.Attempt.occurrence?] at written
      cases written
      exact ⟨rfl, informs.of_same rfl rfl same, rfl⟩

/-- The loss of a link whose frame could not be written is owed last of all. -/
theorem writeFailed
    (informs : mux.Informs given owed)
    (id : InterfaceId) :
    (mux.writeFailed id).1.Informs given
      (owed ++ (mux.writeFailed id).2.toList) := by
  have announces := LinkTable.Announces.shut mux.table id
  constructor
  · exact informs.prompt
  · intro isOpen
    obtain ⟨hasOwner, announced⟩ := informs.announced isOpen
    refine ⟨hasOwner, ?_⟩
    intro other
    rw [← List.append_assoc, Report.statuses_append, LinkStatus.replay?_append,
      announced other]
    exact announces other
  · intro isEnded
    obtain ⟨isClosed, disabled, told⟩ := informs.ended isEnded
    exact ⟨isClosed,
      fun other => (disabled other).shut LinkTable.Disabled.kept id, told⟩

theorem emitAll
    (informs : mux.Informs given owed)
    (patient : Bool) :
    Settles given (mux.emitAll patient owed) := by
  induction owed generalizing mux given with
  | nil =>
      exact Settles.idle informs
  | cons report rest inductionHypothesis =>
      obtain ⟨after, journal, emitted, informsAfter, _⟩ := informs.emit? patient
      rw [Multiplexer.emitAll, emitted]
      exact (inductionHypothesis informsAfter).after

/-- When all actions were carried out nothing is owed, whichever writes failed. -/
theorem executeWith
    {lost : List Report}
    {actions : List Action}
    (informs : mux.Informs given (Action.reports actions ++ lost))
    (patient : Bool) :
    Settles given (mux.executeWith patient lost actions) := by
  induction actions generalizing mux given lost with
  | nil =>
      exact informs.emitAll patient
  | cons action rest inductionHypothesis =>
      cases action with
      | emit report =>
          obtain ⟨after, journal, emitted, informsAfter, _⟩ := informs.emit? patient
          rw [Multiplexer.executeWith, emitted]
          exact (inductionHypothesis informsAfter).after
      | transmit frame =>
          rw [Multiplexer.executeWith]
          rcases written : mux.transmit frame with ⟨after, journal, attempt⟩
          obtain ⟨nothing, informsAfter, _⟩ := informs.transmit written
          have failed : Settles given
              (((after.writeFailed frame.id).1.executeWith patient
                (lost ++ (after.writeFailed frame.id).2.toList) rest).after journal) := by
            apply Settles.after
            apply inductionHypothesis
            rw [nothing, List.append_nil, ← List.append_assoc]
            exact informsAfter.writeFailed frame.id
          cases attempt with
          | sent =>
              apply Settles.after
              apply inductionHypothesis
              rw [nothing, List.append_nil]
              exact informsAfter
          | refused =>
              exact failed
          | detached =>
              exact failed

/-! ## Operations -/

/-- What a changed table announces is owed to the owner. -/
theorem adopt
    {after : Multiplexer}
    (informs : mux.Informs given [])
    (sameReports : after.reports = mux.reports)
    (staysClosed : mux.isOpen = false → after.isOpen = false)
    (announces : LinkTable.Announces mux.table after.table owed)
    (staysDisabled :
      mux.isOpen = false → ∀ id, mux.table.Disabled id → after.table.Disabled id) :
    after.Informs given owed := by
  constructor
  · rw [sameReports]
    exact informs.prompt
  · intro isOpen
    rw [sameReports] at isOpen ⊢
    obtain ⟨hasOwner, announced⟩ := informs.announced isOpen
    refine ⟨hasOwner, ?_⟩
    intro id
    have before := announced id
    rw [List.append_nil] at before
    rw [Report.statuses_append, LinkStatus.replay?_append, before]
    exact announces id
  · intro isEnded
    rw [sameReports] at isEnded
    obtain ⟨isClosed, disabled, told⟩ := informs.ended isEnded
    exact ⟨staysClosed isClosed,
      fun id => staysDisabled isClosed id (disabled id), told⟩

/-- A changed table is adopted and the actions it asks for are carried out. -/
theorem execute
    {after : Multiplexer}
    {actions : List Action}
    (informs : mux.Informs given [])
    (sameReports : after.reports = mux.reports)
    (staysClosed : mux.isOpen = false → after.isOpen = false)
    (announces : LinkTable.Announces mux.table after.table (Action.reports actions))
    (staysDisabled :
      mux.isOpen = false → ∀ id, mux.table.Disabled id → after.table.Disabled id) :
    Settles given (after.execute true actions) := by
  have owes := informs.adopt sameReports staysClosed announces staysDisabled
  rw [← List.append_nil (Action.reports actions)] at owes
  exact owes.executeWith true

/-- Sending owes the owner nothing but the loss of the link if a write fails. -/
theorem sendFrames
    (informs : mux.Informs given [])
    (id : InterfaceId)
    (frames : List Frame) :
    Settles given (mux.sendFrames id frames).2 := by
  induction frames generalizing mux with
  | nil =>
      exact Settles.idle informs
  | cons frame rest inductionHypothesis =>
      rw [Multiplexer.sendFrames]
      rcases written : mux.transmit frame with ⟨after, journal, attempt⟩
      obtain ⟨nothing, informsAfter, _⟩ := informs.transmit written
      have failed : Settles given
          (if after.isOpen then
            (.error (.io (after.writeFailed id).1.line.refusal),
              ((after.writeFailed id).1.emitAll true
                (after.writeFailed id).2.toList).after journal)
          else
            (.error .transportClosed, { mux := after, journal }) :
            Except LinkError Unit × Execution).2 := by
        split
        · apply Settles.after
          rw [nothing, List.append_nil]
          exact (informsAfter.writeFailed id).emitAll true
        · constructor
          · rfl
          · rw [nothing, List.append_nil]
            exact informsAfter
      cases attempt with
      | sent =>
          apply Settles.after
          rw [nothing, List.append_nil]
          exact inductionHypothesis informsAfter
      | refused =>
          exact failed
      | detached =>
          exact failed

theorem sendIfAllowed
    (informs : mux.Informs given [])
    (id : InterfaceId)
    (frames : Except LinkError (List Frame)) :
    Settles given (mux.sendIfAllowed id frames).2 := by
  cases frames with
  | error error =>
      exact Settles.idle informs
  | ok frames =>
      exact informs.sendFrames id frames

/-- When the transport is given up the owner knows that no link is up. -/
theorem release
    (informs : mux.Informs given [])
    (disabled : ∀ id, mux.table.Disabled id) :
    delivered mux.release.2 = [] ∧ mux.release.1.Informs given [] := by
  have told :
      ∀ id, LinkStatus.replay? false (Report.statuses id given) = some false := by
    intro id
    rw [informs.replay?_statuses id, (disabled id).isRunning_eq_false]
  have closes : mux.reports.close.1.attention = .prompt ∧
      mux.reports.close.1.isOpen = false ∧ delivered mux.reports.close.2 = [] := by
    unfold ReportChannel.close
    split
    · exact ⟨informs.prompt, rfl, rfl⟩
    · exact ⟨informs.prompt, rfl, rfl⟩
  obtain ⟨prompt, isEnded, nothing⟩ := closes
  constructor
  · simp only [Multiplexer.release, delivered_append, nothing, List.append_nil]
    split <;> rfl
  · constructor
    · exact prompt
    · intro notEnded
      simp only [Multiplexer.release, isEnded] at notEnded
      cases notEnded
    · intro _
      exact ⟨rfl, disabled, told⟩

/-- What is done to the table is announced, and the announcements are carried out. -/
theorem onTable
    (informs : mux.Informs given [])
    {operation : Operation}
    {operations : List LinkTable.Operation}
    (onTable : operation.tableOperations? = some operations) :
    Settles given (mux.perform operation) := by
  have noneRaised := Operation.noneRaised_of_tableOperations? onTable
  rw [perform_of_tableOperations? mux onTable]
  exact informs.execute rfl (fun isClosed => isClosed)
    (LinkTable.announces_run mux.table operations)
    (fun _ id disabled => disabled.run (noneRaised id))

/-- Making an interface eligible is refused once no link can come up any more. -/
theorem raise
    {after : Multiplexer}
    {started : Bool}
    {id : InterfaceId}
    {now : Nat}
    (informs : mux.Informs given [])
    (raised : mux.raise id now = .ok (after, started)) :
    after.Informs given [] := by
  obtain ⟨isOpen, table, isUp, isAfter⟩ := raise_ok raised
  subst isAfter
  apply informs.adopt
  · rfl
  · exact fun isClosed => isClosed
  · exact LinkTable.Announces.up isUp
  · intro isClosed
    exact (Bool.false_ne_true (isClosed.symm.trans isOpen)).elim

theorem sendCommand
    (informs : mux.Informs given [])
    (id : InterfaceId)
    (command : Command) :
    Settles given (mux.sendCommand id command).2 :=
  informs.sendIfAllowed id _

theorem sendEvent
    (informs : mux.Informs given [])
    (id : InterfaceId)
    (event : Event) :
    Settles given (mux.sendEvent id event).2 := by
  unfold Multiplexer.sendEvent
  cases event.encode with
  | error error =>
      exact Settles.idle informs
  | ok message =>
      exact informs.sendIfAllowed id _

theorem close
    (informs : mux.Informs given []) :
    Settles given (mux.perform .close) := by
  simp only [Multiplexer.perform, Multiplexer.close]
  split
  · exact Settles.idle informs
  · have gone : ∀ id, mux.table.teardown.1.Disabled id :=
      fun id => LinkTable.disabled_of_missing (LinkTable.get?_teardown mux.table id)
    have tornDown : Settles given { mux with closed := true }.teardown :=
      informs.execute rfl (fun isClosed => isClosed)
        (LinkTable.announces_perform mux.table .teardown) (fun _ id _ => gone id)
    obtain ⟨ids, shut⟩ := exists_shutAll_executeWith
      { mux with table := mux.table.teardown.1, closed := true } true []
      mux.table.teardown.2
    have disabled : ∀ id, { mux with closed := true }.teardown.mux.table.Disabled id := by
      intro id
      have stays := (gone id).shutAll LinkTable.Disabled.kept ids
      rw [← shut] at stays
      exact stays
    obtain ⟨nothing, informsAfter⟩ := tornDown.informs.release disabled
    constructor
    · rfl
    · rw [delivered_append, nothing, List.append_nil]
      exact informsAfter

/-- Every operation leaves the owner informed and nothing to be carried out. -/
theorem perform
    (informs : mux.Informs given [])
    (operation : Operation) :
    Settles given (mux.perform operation) := by
  cases operation with
  | addInterface | lower | removeInterface | setFilter | receive | sweep =>
      exact informs.onTable rfl
  | raise id now =>
      simp only [Multiplexer.perform]
      split
      · next raised =>
          exact Settles.idle (informs.raise raised)
      · exact Settles.idle informs
  | send id command message =>
      exact informs.sendIfAllowed id _
  | sendCommand id command =>
      exact informs.sendCommand id command
  | sendEvent id event =>
      exact informs.sendEvent id event
  | loseTransport =>
      exact informs.execute rfl (fun _ => rfl)
        (LinkTable.announces_perform mux.table .transportLost)
        (fun _ id _ => LinkTable.disabled_transportLost mux.table id)
  | close =>
      exact informs.close

/-- A run of operations leaves the owner informed and nothing to be carried out. -/
theorem run
    (informs : mux.Informs given [])
    (operations : List Operation) :
    Settles given (mux.run operations) := by
  induction operations generalizing mux given with
  | nil =>
      exact Settles.idle informs
  | cons operation rest inductionHypothesis =>
      have settles := informs.perform operation
      rw [Multiplexer.run]
      simp only [settles.complete, if_true]
      exact (inductionHypothesis settles.informs).after

end Informs

theorem informs_onLine
    (settings : LinkSettings)
    (line : Line) :
    (onLine settings line).Informs [] [] := by
  constructor
  · rfl
  · intro _
    exact ⟨rfl, fun _ => rfl⟩
  · intro isEnded
    cases isEnded

/--
However operations follow each other and whichever writes fail, nothing is left
to be carried out after an operation, the statuses reported of an interface
alternate beginning with `up`, and the link is up exactly if `up` was reported
last. Data that arrive never announce a status, and what other frames do does
not depend on their payload.
-/
theorem statusReports_alternate
    (settings : LinkSettings)
    (line : Line)
    (operations : List Operation)
    (id : InterfaceId) :
    let execution := (onLine settings line).run operations
    let statuses := Report.statuses id (delivered execution.journal)
    (execution.backlog = [] ∧
      LinkStatus.Alternating statuses ∧
      (execution.mux.table.state id = .running ↔ statuses.getLast? = some .up)) ∧
    ∀ (table : LinkTable) (frame : Frame) (now : Nat),
      (frame.kind = .data →
        Report.statuses id (Action.reports (table.onFrame frame now).2) = []) ∧
      (frame.kind ≠ .data →
        ∀ payload, table.onFrame { frame with payload } now = table.onFrame frame now) := by
  have settles := (informs_onLine settings line).run operations
  have replayed := settles.informs.replay?_statuses id
  refine ⟨⟨settles.complete, ?_, ?_⟩, ?_⟩
  · exact LinkStatus.alternating_of_replay? replayed
  · rw [LinkTable.state_eq_running_iff]
    exact LinkStatus.getLast?_eq_up_iff replayed
  · intro table frame now
    exact ⟨LinkTable.statuses_onFrame_of_data table id now,
      LinkTable.onFrame_payload table now⟩

end StationLink.Multiplexer
