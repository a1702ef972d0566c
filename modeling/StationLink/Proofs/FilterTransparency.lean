import StationLink.Proofs.CommandPolicy
import StationLink.Proofs.ControlTraffic
import StationLink.Proofs.Registration

namespace StationLink

/-!
# What a filter can change

A filter decides which messages are reported and nothing else. With any filter
installed a link table does to its interfaces and timers what it does without, and the
frames and the changes of link status are the same (`LinkTable.perform_setFilter`,
`LinkTable.onFrame_setFilter`). So filters may come and go during a run: what is done
is what would be done without them, less the messages that the filter in force denies
when they are complete (`LinkTable.run_unfiltered`).
-/

namespace LinkTable

variable (table : LinkTable) (filter? : Option Filter)

/-! ## The filter and the links -/

/-- Registering an interface does the same whatever filter is installed. -/
theorem add_setFilter
    (id : InterfaceId)
    (params? : Option InterfaceParams)
    (now : Nat) :
    (table.setFilter filter?).add id params? now =
      (table.add id params? now).setFilter filter? := by
  simp only [add, get?_setFilter]
  cases table.get? id <;> rfl

/-- Raising an interface does the same whatever filter is installed. -/
theorem up_setFilter
    (id : InterfaceId)
    (now : Nat) :
    (table.setFilter filter?).up id now =
      (table.up id now).map fun outcome => (outcome.1.setFilter filter?, outcome.2) := by
  simp only [up, get?_setFilter]
  cases table.get? id with
  | none =>
      rfl
  | some record =>
      simp only
      split <;> rfl

/-- Taking an interface down does the same whatever filter is installed. -/
theorem shutPolitely_setFilter
    (id : InterfaceId) :
    (table.setFilter filter?).shutPolitely id =
      ((table.shutPolitely id).1.setFilter filter?, (table.shutPolitely id).2) := by
  rw [shutPolitely, shut_setFilter, shutPolitely]
  rcases table.shut id with ⟨after, _ | report⟩ <;> rfl

/-- Forgetting an interface does the same whatever filter is installed. -/
theorem forget_setFilter
    (id : InterfaceId) :
    (table.setFilter filter?).forget id = (table.forget id).setFilter filter? := by
  simp only [forget, get?_setFilter]
  cases table.get? id <;> rfl

theorem down_setFilter
    (id : InterfaceId) :
    (table.setFilter filter?).down id =
      (table.down id).map fun outcome => (outcome.1.setFilter filter?, outcome.2) := by
  simp only [down, get?_setFilter, shutPolitely_setFilter]
  cases table.get? id <;> rfl

/-- Removing an interface does the same whatever filter is installed. -/
theorem remove_setFilter
    (id : InterfaceId) :
    (table.setFilter filter?).remove id =
      (table.remove id).map fun outcome => (outcome.1.setFilter filter?, outcome.2) := by
  simp only [remove, down_setFilter]
  cases table.down id with
  | error error =>
      rfl
  | ok outcome =>
      simp only [Except.map, forget_setFilter]

/-- Removing interfaces does the same whatever filter is installed. -/
theorem removeAll_setFilter
    (ids : List InterfaceId) :
    (table.setFilter filter?).removeAll ids =
      ((table.removeAll ids).1.setFilter filter?, (table.removeAll ids).2) := by
  induction ids generalizing table with
  | nil =>
      rfl
  | cons id rest inductionHypothesis =>
      simp only [removeAll, shutPolitely_setFilter, forget_setFilter, inductionHypothesis]

/-- Taking links away does the same whatever filter is installed. -/
theorem shutAll_setFilter
    (ids : List InterfaceId) :
    (table.setFilter filter?).shutAll ids =
      ((table.shutAll ids).1.setFilter filter?, (table.shutAll ids).2) := by
  induction ids generalizing table with
  | nil =>
      rfl
  | cons id rest inductionHypothesis =>
      simp only [shutAll, shut_setFilter, inductionHypothesis]

theorem promote_setFilter
    (id : InterfaceId)
    (record : LinkRecord)
    (now : Nat) :
    (table.setFilter filter?).promote id record now =
      ((table.promote id record now).1.setFilter filter?,
        (table.promote id record now).2) :=
  rfl

theorem demote_setFilter
    (id : InterfaceId)
    (record : LinkRecord)
    (now : Nat) :
    (table.setFilter filter?).demote id record now =
      ((table.demote id record now).1.setFilter filter?,
        (table.demote id record now).2) := by
  simp only [demote]
  split <;> rfl

/-- Handling a timer does the same whatever filter is installed. -/
theorem onTimer_setFilter
    (handle : TimerHandle)
    (id : InterfaceId)
    (now : Nat) :
    (table.setFilter filter?).onTimer handle id now =
      ((table.onTimer handle id now).1.setFilter filter?,
        (table.onTimer handle id now).2) := by
  have sameSettings : (table.setFilter filter?).settings = table.settings := rfl
  simp only [onTimer, get?_setFilter, sameSettings]
  cases table.get? id with
  | none =>
      rfl
  | some record =>
      simp only [demote_setFilter]
      split
      · rfl
      · split
        · split <;> rfl
        · split <;> rfl

/-- Handling timers does the same whatever filter is installed. -/
theorem onTimers_setFilter
    (now : Nat)
    (due : List (TimerHandle × InterfaceId)) :
    (table.setFilter filter?).onTimers now due =
      ((table.onTimers now due).1.setFilter filter?, (table.onTimers now due).2) := by
  induction due generalizing table with
  | nil =>
      rfl
  | cons entry rest inductionHypothesis =>
      simp only [onTimers, onTimer_setFilter, inductionHypothesis]

/-- Whatever happens but a frame that arrives, the filter has no part in it. -/
theorem perform_setFilter
    {operation : Operation}
    (notFrame : ∀ frame now, operation ≠ .frame frame now)
    (notFilter : ∀ other?, operation ≠ .setFilter other?) :
    (table.setFilter filter?).perform operation =
      ((table.perform operation).1.setFilter filter?, (table.perform operation).2) := by
  cases operation with
  | add id params? now =>
      simp only [perform, add_setFilter]
  | up id now =>
      simp only [perform, up_setFilter]
      cases table.up id now <;> rfl
  | down id =>
      simp only [perform, down_setFilter]
      cases table.down id <;> rfl
  | remove id =>
      simp only [perform, remove_setFilter]
      cases table.remove id <;> rfl
  | teardown =>
      exact removeAll_setFilter table filter? table.records.keys
  | frame frame now =>
      exact (notFrame frame now rfl).elim
  | writeFailed id =>
      simp only [perform, shut_setFilter]
  | transportLost =>
      have shutAll := shutAll_setFilter table filter? table.records.keys
      exact congrArg (fun outcome => (outcome.1, outcome.2.map Action.emit)) shutAll
  | setFilter other? =>
      exact (notFilter other? rfl).elim
  | sweep now =>
      exact onTimers_setFilter { table with timers := (table.timers.takeDue now).2 } filter? now
        (table.timers.takeDue now).1

/-! ## The filter and the messages -/

/--
Whether a filter lets an action pass. It has a say only about messages, each of which
it judges by the hardware name of the interface on which the message arrived.
-/
def allows : Action → Bool
  | .transmit _ => true
  | .emit (.command id _) =>
      (table.hardwareName? id).all fun hardwareName =>
        filter?.all (·.receivesCommands hardwareName)
  | .emit (.event id observed) =>
      observed.kind.linkStatus?.isSome ||
        (table.hardwareName? id).all fun hardwareName =>
          filter?.all (·.sendsEvents hardwareName)

/-- A filter allows all that is no message. -/
theorem allows_of_notMessage
    {action : Action}
    (notMessage : action.isMessage = false) :
    table.allows filter? action = true := by
  cases action with
  | transmit frame =>
      rfl
  | emit report =>
      have isStatus : report.linkStatus?.isSome = true :=
        Option.isNone_eq_false_iff.mp notMessage
      cases report with
      | event id observed =>
          exact Bool.or_eq_true_iff.mpr (Or.inl isStatus)
      | command id received =>
          cases isStatus

/-- A filter leaves nothing out where there are no messages. -/
theorem filter_allows_of_areControl
    {actions : List Action}
    (areControl : ∀ action ∈ actions, action.IsControl) :
    actions.filter (table.allows filter?) = actions :=
  List.filter_eq_self.mpr fun action member =>
    table.allows_of_notMessage filter? (Action.isMessage_of_isControl (areControl action member))

/-- Whatever a filter denies is a message. -/
theorem filter_allows_filter_notMessage
    (actions : List Action) :
    ((actions.filter (table.allows filter?)).filter fun action => !action.isMessage) =
      actions.filter fun action => !action.isMessage := by
  rw [List.filter_filter]
  refine List.filter_congr fun action _ => ?_
  cases isMessage : action.isMessage with
  | true =>
      rfl
  | false =>
      rw [table.allows_of_notMessage filter? isMessage]
      rfl

/-- Commands are accepted exactly if the installed filter receives them. -/
theorem acceptsCommands_setFilter
    (hardwareName : String) :
    (table.setFilter filter?).acceptsCommands hardwareName =
      filter?.all (·.receivesCommands hardwareName) := by
  cases filter? <;> rfl

/-- Events are accepted exactly if the installed filter sends them. -/
theorem acceptsEvents_setFilter
    (hardwareName : String) :
    (table.setFilter filter?).acceptsEvents hardwareName =
      filter?.all (·.sendsEvents hardwareName) := by
  cases filter? <;> rfl

/-- A message is reported if it would be without a filter and the filter allows it. -/
theorem interpret_setFilter
    (unfiltered : table.filter? = none)
    {after : LinkTable}
    {id : InterfaceId}
    {hardwareName : String}
    (named : after.hardwareName? id = some hardwareName)
    (command : Bool)
    (message : List UInt8) :
    (table.setFilter filter?).interpret id hardwareName command message =
      (table.interpret id hardwareName command message).filter fun report =>
        after.allows filter? (.emit report) := by
  cases command with
  | true =>
      simp only [interpret, acceptsCommands_of_unfiltered unfiltered, acceptsCommands_setFilter,
        if_true]
      cases Command.decode message with
      | error error =>
          rfl
      | ok received =>
          simp only [Option.filter_some, allows, named, Option.all_some]
  | false =>
      have noStatus :
          ((Event.decode message).withStation hardwareName).kind.linkStatus? = none :=
        Event.linkStatus?_decode message
      simp only [interpret, acceptsEvents_of_unfiltered unfiltered, acceptsEvents_setFilter,
        Bool.false_eq_true, if_true, if_false, Option.filter_some, allows, named, noStatus,
        Option.isSome_none, Bool.false_or, Option.all_some]

/-- A frame that carries no message passes the filter by. -/
theorem onFrame_setFilter_of_control
    {frame : Frame}
    (notData : frame.kind ≠ .data)
    (now : Nat) :
    (table.setFilter filter?).onFrame frame now =
      ((table.onFrame frame now).1.setFilter filter?, (table.onFrame frame now).2) := by
  have heard : ∀ record, (table.setFilter filter?).set frame.id record =
      (table.set frame.id record).setFilter filter? :=
    fun _ => rfl
  simp only [onFrame, get?_setFilter, heard, promote_setFilter, demote_setFilter]
  cases table.get? frame.id with
  | none =>
      rfl
  | some silent =>
      cases kind : frame.kind with
      | probe =>
          simp only
          split
          · rfl
          · split <;> rfl
      | ack | disconnect =>
          simp only
          split <;> rfl
      | data =>
          exact (notData kind).elim

/-- A report that is not allowed is left out of the actions. -/
theorem toList_emit_filter
    (report? : Option Report)
    (allowed : Action → Bool) :
    ((report?.filter fun report => allowed (.emit report)).map Action.emit).toList =
      (report?.map Action.emit).toList.filter allowed := by
  cases report? with
  | none =>
      rfl
  | some report =>
      cases isAllowed : allowed (.emit report) <;>
        simp [Option.filter_some, isAllowed]

/-- A frame that carries a part of a message is taken in whether or not it is reported. -/
theorem onFrame_setFilter_of_data
    (unfiltered : table.filter? = none)
    {frame : Frame}
    (isData : frame.kind = .data)
    {record : LinkRecord}
    (found : table.get? frame.id = some record)
    (running : record.running = true)
    (now : Nat) :
    (table.setFilter filter?).onFrame frame now =
      ((table.onFrame frame now).1.setFilter filter?,
        (table.onFrame frame now).2.filter ((table.onFrame frame now).1.allows filter?)) := by
  have foundAlso : (table.setFilter filter?).get? frame.id = some record := found
  have named : (table.onFrame frame now).1.hardwareName? frame.id =
      some record.hardwareName := by
    rw [(SameRegistration.onFrame table frame now).hardwareName?, hardwareName?, found,
      Option.map_some]
  let heard := table.set frame.id (record.hearing now)
  have judged := interpret_setFilter heard filter? unfiltered named frame.command
  generalize (table.onFrame frame now).1.allows filter? = allowed at judged ⊢
  simp only [onFrame_of_data isData foundAlso running, onFrame_of_data isData found running,
    onBlock_eq]
  refine Prod.ext rfl ?_
  cases ((record.hearing now).reception.take frame.command frame.block).2 with
  | none =>
      rfl
  | some message =>
      rw [← toList_emit_filter]
      exact congrArg (fun report? => (report?.map Action.emit).toList) (judged message)

/-- A frame does the same whatever filter is installed, but what is not allowed is left out. -/
theorem onFrame_setFilter
    (unfiltered : table.filter? = none)
    (frame : Frame)
    (now : Nat) :
    (table.setFilter filter?).onFrame frame now =
      ((table.onFrame frame now).1.setFilter filter?,
        (table.onFrame frame now).2.filter ((table.onFrame frame now).1.allows filter?)) := by
  by_cases isData : frame.kind = .data
  · cases found : table.get? frame.id with
    | none =>
        simp only [onFrame, get?_setFilter, found, List.filter_nil]
    | some record =>
        by_cases running : record.running = true
        · exact onFrame_setFilter_of_data table filter? unfiltered isData found running now
        · simp only [onFrame, get?_setFilter, found, isData, running]
          rfl
  · rw [onFrame_setFilter_of_control table filter? isData,
      filter_allows_of_areControl _ _ (isControl_onFrame table isData now)]

/-! ## Filters during a run -/

/-- The operation as it is where no filter is ever installed. -/
def Operation.unfiltered : Operation → Operation
  | .setFilter _ => .setFilter none
  | operation => operation

/-- The filter that is in force after an operation, if it was the given one before. -/
def Operation.inForce? (filter? : Option Filter) : Operation → Option Filter
  | .setFilter other? => other?
  | _ => filter?

/--
What operations do where no filter is ever installed, less the messages that are denied
by the filter that would be in force when they are complete.
-/
def permitted (table : LinkTable) (filter? : Option Filter) : List Operation → List Action
  | [] => []
  | operation :: rest =>
      let inForce? := operation.inForce? filter?
      let (after, actions) := table.perform operation.unfiltered
      actions.filter (after.allows inForce?) ++ after.permitted inForce? rest

/-- The table without a filter and the table with one, and what each of them does. -/
structure Agrees
    (inForce? : Option Filter)
    (plain filtered : LinkTable × List Action) : Prop where
  unfiltered : plain.1.filter? = none
  table : filtered.1 = plain.1.setFilter inForce?
  actions : filtered.2 = plain.2.filter (plain.1.allows inForce?)

/-- Taking the filter out of a table without one changes nothing. -/
theorem setFilter_none
    {table : LinkTable}
    (unfiltered : table.filter? = none) :
    table.setFilter none = table := by
  rw [setFilter, ← unfiltered]

/-- One operation, with the filter that is in force and without any. -/
theorem Agrees.perform
    {table : LinkTable}
    (unfiltered : table.filter? = none)
    (filter? : Option Filter)
    (operation : Operation) :
    Agrees (operation.inForce? filter?) (table.perform operation.unfiltered)
      ((table.setFilter filter?).perform operation) := by
  have ofControl :
      (∀ frame now, operation ≠ .frame frame now) →
      (∀ other?, operation ≠ .setFilter other?) →
      Agrees filter? (table.perform operation) ((table.setFilter filter?).perform operation) := by
    intro notFrame notFilter
    have without := perform_setFilter table none notFrame notFilter
    rw [setFilter_none unfiltered] at without
    have sameActions := filter_allows_of_areControl (table.perform operation).1 filter?
      (isControl_perform table notFrame)
    rw [perform_setFilter table filter? notFrame notFilter]
    exact ⟨congrArg (fun outcome => outcome.1.filter?) without, rfl, sameActions.symm⟩
  cases operation with
  | frame frame now =>
      have judged := onFrame_setFilter table filter? unfiltered frame now
      exact ⟨(filter?_onFrame table frame now).trans unfiltered,
        congrArg Prod.fst judged, congrArg Prod.snd judged⟩
  | setFilter other? =>
      exact ⟨rfl, rfl, rfl⟩
  | add | up | down | remove | teardown | writeFailed | transportLost | sweep =>
      exact ofControl nofun nofun

/-- A table with a filter does what it does without one, and reports what is permitted. -/
theorem run_setFilter
    {table : LinkTable}
    (unfiltered : table.filter? = none)
    (filter? : Option Filter)
    (operations : List Operation) :
    let filtered := (table.setFilter filter?).run operations
    let plain := table.run (operations.map Operation.unfiltered)
    filtered.1.setFilter none = plain.1 ∧
      (filtered.2.filter fun action => !action.isMessage) =
        (plain.2.filter fun action => !action.isMessage) ∧
      filtered.2 = table.permitted filter? operations := by
  induction operations generalizing table filter? with
  | nil =>
      exact ⟨setFilter_none unfiltered, rfl, rfl⟩
  | cons operation rest inductionHypothesis =>
      have first := Agrees.perform unfiltered filter? operation
      obtain ⟨sameTable, sameControl, isPermitted⟩ :=
        inductionHypothesis first.unfiltered (operation.inForce? filter?)
      rw [← first.table] at sameTable sameControl isPermitted
      refine ⟨sameTable, ?_, ?_⟩
      · simp only [run, List.map_cons, List.filter_append, sameControl, first.actions,
          filter_allows_filter_notMessage]
      · simp only [run, permitted, isPermitted, first.actions]

/--
Filters that are installed, replaced and removed during a run make no difference to
the interfaces and their timers, to the frames that are transmitted and to the changes
of link status that are reported. The messages that are reported are those that would
be reported without any filter and that the filter in force allows when they are
complete, in the same order.

A filter that is shared may also be edited while it is in force. The table only asks it
what it allows, so an edit is the operation that installs the edited filter.
-/
theorem run_unfiltered
    (settings : LinkSettings)
    (operations : List Operation) :
    let filtered := (ofSettings settings).run operations
    let plain := (ofSettings settings).run (operations.map Operation.unfiltered)
    filtered.1.setFilter none = plain.1 ∧
      (filtered.2.filter fun action => !action.isMessage) =
        (plain.2.filter fun action => !action.isMessage) ∧
      filtered.2 = (ofSettings settings).permitted none operations := by
  have unfiltered : (ofSettings settings).filter? = none := rfl
  exact run_setFilter unfiltered none operations

end LinkTable

end StationLink
