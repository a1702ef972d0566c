import StationLink.Proofs.LinkOperations
import StationLink.Proofs.MessageReader

namespace StationLink

/-!
# Announced link status

The reports of a link table announce when a link comes up and when it is lost.
`LinkStatus.replay?` follows the announcements from a known state of the link
and fails if one of them repeats what is known already. Every operation
announces exactly what it does to every link (`LinkTable.announces_perform`);
messages received from a station announce nothing.
-/

namespace LinkStatus

/-- The state of a link after announcements; none if one repeats what is known. -/
def replay? : Bool → List LinkStatus → Option Bool
  | running, [] => some running
  | false, .up :: rest => replay? true rest
  | true, .lost :: rest => replay? false rest
  | false, .lost :: _ => none
  | true, .up :: _ => none

/-- Statuses that alternate, beginning with `up`. -/
def Alternating (statuses : List LinkStatus) : Prop :=
  ∀ index status, statuses[index]? = some status → (status = .up ↔ index % 2 = 0)

/-- Changes are replayed one after another. -/
theorem replay?_append
    (running : Bool)
    (first second : List LinkStatus) :
    replay? running (first ++ second) =
      (replay? running first).bind fun between => replay? between second := by
  induction first generalizing running with
  | nil =>
      rfl
  | cons status rest inductionHypothesis =>
      cases running <;> cases status
      · exact inductionHypothesis true
      · rfl
      · rfl
      · exact inductionHypothesis false

/-- In announcements that can be replayed each one differs from the one before. -/
theorem status_at_of_replay?
    {running last : Bool}
    {statuses : List LinkStatus}
    (replayed : replay? running statuses = some last)
    {index : Nat}
    {status : LinkStatus}
    (found : statuses[index]? = some status) :
    status = .up ↔ index % 2 = if running then 1 else 0 := by
  induction statuses generalizing running index with
  | nil =>
      cases found
  | cons first rest inductionHypothesis =>
      cases running <;> cases first
      · cases index with
        | zero =>
            cases found
            simp
        | succ index =>
            refine (inductionHypothesis replayed found).trans ?_
            simp only [if_true, Bool.false_eq_true, if_false]
            omega
      · cases replayed
      · cases replayed
      · cases index with
        | zero =>
            cases found
            simp
        | succ index =>
            refine (inductionHypothesis replayed found).trans ?_
            simp only [if_true, Bool.false_eq_true, if_false]
            omega

/-- Announcements that can be replayed end with the state of the link. -/
theorem last_of_replay?
    {running last : Bool}
    {statuses : List LinkStatus}
    (replayed : replay? running statuses = some last) :
    last = (statuses.getLast?.elim running fun status => status == .up) := by
  induction statuses generalizing running with
  | nil =>
      cases replayed
      rfl
  | cons first rest inductionHypothesis =>
      have later : ∀ {between},
          replay? between rest = some last → between = (first == .up) →
          last =
            ((first :: rest).getLast?.elim running fun status => status == .up) := by
        intro between replayedRest known
        rw [inductionHypothesis replayedRest, known]
        cases rest with
        | nil =>
            rfl
        | cons second others =>
            simp [List.getLast?_cons]
      cases running <;> cases first
      · exact later replayed rfl
      · cases replayed
      · cases replayed
      · exact later replayed rfl

/-- Changes that can be replayed from the beginning alternate, and the first one is up. -/
theorem alternating_of_replay?
    {last : Bool}
    {statuses : List LinkStatus}
    (replayed : replay? false statuses = some last) :
    Alternating statuses := by
  intro index status found
  exact status_at_of_replay? replayed found

/-- A link that was down at first is up exactly if that was announced last. -/
theorem getLast?_eq_up_iff
    {last : Bool}
    {statuses : List LinkStatus}
    (replayed : replay? false statuses = some last) :
    last = true ↔ statuses.getLast? = some .up := by
  rw [last_of_replay? replayed]
  rcases statuses.getLast? with _ | status
  · simp
  · cases status <;> simp

end LinkStatus

/-- The link status that a report announces of a given interface. -/
def Report.statusOf? (id : InterfaceId) (report : Report) : Option LinkStatus :=
  if report.id = id then report.linkStatus? else none

/-- The link statuses that reports announce of an interface, in order. -/
def Report.statuses (id : InterfaceId) (reports : List Report) : List LinkStatus :=
  reports.filterMap (·.statusOf? id)

/-- The report to be emitted, if the action is that. -/
def Action.report? : Action → Option Report
  | .emit report => some report
  | .transmit _ => none

/-- The reports among actions, in order. -/
def Action.reports (actions : List Action) : List Report :=
  actions.filterMap Action.report?

@[simp] theorem Report.statuses_append
    (id : InterfaceId)
    (first second : List Report) :
    statuses id (first ++ second) = statuses id first ++ statuses id second :=
  List.filterMap_append

@[simp] theorem Action.reports_append
    (first second : List Action) :
    reports (first ++ second) = reports first ++ reports second :=
  List.filterMap_append

@[simp] theorem Action.reports_map_emit
    (reports : List Report) :
    Action.reports (reports.map .emit) = reports := by
  induction reports with
  | nil =>
      rfl
  | cons report rest inductionHypothesis =>
      exact congrArg (report :: ·) inductionHypothesis

/-- The report of a change tells the status of its own interface only. -/
theorem Report.statuses_ofLinkStatus
    (id other : InterfaceId)
    (hardwareName : String)
    (status : LinkStatus) :
    statuses other [.ofLinkStatus id hardwareName status] =
      if other = id then [status] else [] := by
  by_cases same : other = id
  · subst other
    cases status <;>
      simp [statuses, statusOf?, ofLinkStatus, Report.id, linkStatus?,
        Event.ofLinkStatus, EventKind.linkStatus?]
  · have differs : id ≠ other := fun isOther => same isOther.symm
    simp [statuses, statusOf?, ofLinkStatus, Report.id, same, differs]

/-! ## Messages of stations -/

/-- Nothing that is read off a line says that a link has come up or was lost. -/
theorem EventKind.linkStatus?_of_read
    {code : EventCode}
    {input rest : List UInt8}
    {kind : EventKind}
    (found : EventKind.read code input = .ok (kind, rest)) :
    kind.linkStatus? = none := by
  cases code with
  | offHook | onHook | keyPress | keyRelease | menuExit =>
      cases found
      rfl
  | padPress | padRelease | menuItem =>
      obtain ⟨field, _, _, spelled⟩ := Message.Reader.exists_of_bind found
      cases spelled
      rfl
  | programResult =>
      obtain ⟨slot, _, _, others⟩ := Message.Reader.exists_of_bind found
      obtain ⟨ok, _, _, spelled⟩ := Message.Reader.exists_of_bind others
      cases spelled
      rfl

/-- No message spells an event that announces a link status. -/
theorem Event.linkStatus?_decode
    (message : List UInt8) :
    (Event.decode message).kind.linkStatus? = none := by
  cases outcome : Event.read.run' message with
  | error error =>
      rw [decode, outcome]
      rfl
  | ok event =>
      obtain ⟨_, spelled⟩ := Message.Reader.run'_eq_ok_iff.mp outcome
      obtain ⟨code, _, _, afterCode⟩ := Message.Reader.exists_of_bind spelled
      obtain ⟨control, _, _, afterControl⟩ := Message.Reader.exists_of_bind afterCode
      obtain ⟨kind, _, found, afterKind⟩ := Message.Reader.exists_of_bind afterControl
      obtain ⟨rfl, _⟩ := Message.Reader.pure_eq_ok_iff.mp afterKind
      rw [decode, outcome]
      exact EventKind.linkStatus?_of_read found

namespace LinkTable

/-- What is reported of a message is a command, or the event that its bytes spell. -/
theorem eq_of_interpret
    {table : LinkTable}
    {id : InterfaceId}
    {hardwareName : String}
    {command : Bool}
    {message : List UInt8}
    {report : Report}
    (interpreted : table.interpret id hardwareName command message = some report) :
    (∃ received, report = .command id received) ∨
      report = .event id ((Event.decode message).withStation hardwareName) := by
  unfold interpret at interpreted
  split at interpreted
  · split at interpreted
    · split at interpreted
      · cases interpreted
        exact Or.inl ⟨_, rfl⟩
      · cases interpreted
    · cases interpreted
  · split at interpreted
    · cases interpreted
      exact Or.inr rfl
    · cases interpreted

/-- No message that arrives on an interface announces a link status. -/
theorem linkStatus?_of_interpret
    {table : LinkTable}
    {id : InterfaceId}
    {hardwareName : String}
    {command : Bool}
    {message : List UInt8}
    {report : Report}
    (interpreted : table.interpret id hardwareName command message = some report) :
    report.linkStatus? = none := by
  rcases eq_of_interpret interpreted with ⟨received, isCommand⟩ | isEvent
  · rw [isCommand]
    rfl
  · rw [isEvent]
    exact Event.linkStatus?_decode message

/-- No block that arrives on an interface makes it announce a link status. -/
theorem statuses_onBlock
    (table : LinkTable)
    (id other : InterfaceId)
    (record : LinkRecord)
    (command : Bool)
    (block : Block) :
    Report.statuses other
      (Action.reports (table.onBlock id record command block).2) = [] := by
  simp only [onBlock]
  split
  · next message _ =>
      cases interpreted : table.interpret id record.hardwareName command message with
      | none =>
          rfl
      | some report =>
          have silent : report.statusOf? other = none := by
            rw [Report.statusOf?, linkStatus?_of_interpret interpreted]
            split <;> rfl
          simp only [Option.map_some, Option.toList_some, Report.statuses]
          exact List.filterMap_cons_none silent
  · rfl
  · rfl

/-- A block makes no interface announce a link status, whether its link is up or not. -/
theorem statuses_onFrame_of_data
    (table : LinkTable)
    (id : InterfaceId)
    (now : Nat)
    {frame : Frame}
    (isData : frame.kind = .data) :
    Report.statuses id (Action.reports (table.onFrame frame now).2) = [] := by
  unfold onFrame
  cases table.get? frame.id with
  | none =>
      rfl
  | some silent =>
      simp only [isData]
      split
      · exact statuses_onBlock _ _ _ _ _ _
      · rfl

/-- What a frame other than a block does depends on no payload. -/
theorem onFrame_payload
    (table : LinkTable)
    (now : Nat)
    {frame : Frame}
    (notData : frame.kind ≠ .data)
    (payload : List UInt8) :
    table.onFrame { frame with payload } now = table.onFrame frame now := by
  obtain ⟨id, kind, command, more, old⟩ := frame
  cases kind with
  | data =>
      exact (notData rfl).elim
  | probe | ack | disconnect =>
      rfl

/-! ## Operations of a link table -/

/-- The reports announce exactly what became of every link between two tables. -/
def Announces (before after : LinkTable) (reports : List Report) : Prop :=
  ∀ id, LinkStatus.replay? (before.isRunning id) (Report.statuses id reports) =
    some (after.isRunning id)

/-- An interface is up if its record says so. -/
theorem isRunning_of_found
    {table : LinkTable}
    {id : InterfaceId}
    {record : LinkRecord}
    (found : table.get? id = some record) :
    table.isRunning id = record.running := by
  rw [isRunning, found]
  rfl

/-- An interface that is not registered is not up. -/
theorem isRunning_of_missing
    {table : LinkTable}
    {id : InterfaceId}
    (missing : table.get? id = none) :
    table.isRunning id = false := by
  rw [isRunning, missing]
  rfl

namespace Announces

variable {table before between after : LinkTable}
variable {id : InterfaceId} {record : LinkRecord}

/-- Nothing has to be announced if no link changed. -/
theorem nothing
    (same : ∀ id, after.isRunning id = before.isRunning id) :
    Announces before after [] := by
  intro id
  rw [same id]
  rfl

/-- What two steps announce one after the other is what both of them announce. -/
theorem trans
    {first second : List Report}
    (announcesFirst : Announces before between first)
    (announcesSecond : Announces between after second) :
    Announces before after (first ++ second) := by
  intro id
  rw [Report.statuses_append, LinkStatus.replay?_append, announcesFirst id]
  exact announcesSecond id

/-- A single announcement is right if one link changed to that status. -/
theorem single
    {status : LinkStatus}
    (hardwareName : String)
    (wasOther : before.isRunning id = (status == .lost))
    (isStatus : after.isRunning id = (status == .up))
    (others : ∀ other, other ≠ id → after.isRunning other = before.isRunning other) :
    Announces before after [.ofLinkStatus id hardwareName status] := by
  intro other
  rw [Report.statuses_ofLinkStatus]
  by_cases same : other = id
  · rw [if_pos same, same, wasOther, isStatus]
    cases status <;> rfl
  · rw [if_neg same, others other same]
    rfl

/-- Changing an interface without changing its link announces nothing. -/
theorem set
    (found : table.get? id = some record)
    {updated : LinkRecord}
    (sameRunning : updated.running = record.running) :
    Announces table (table.set id updated) [] := by
  apply nothing
  intro other
  by_cases same : other = id
  · subst other
    rw [isRunning_of_found found, ← sameRunning]
    apply isRunning_of_found
    rw [get?_set, if_pos rfl]
  · simp only [isRunning, get?_set, if_neg same]

/-- Taking a link away announces the loss of it. -/
theorem shut
    (table : LinkTable)
    (id : InterfaceId) :
    Announces table (table.shut id).1 (table.shut id).2.toList := by
  have effect := get?_shut table id
  have others : ∀ other, other ≠ id →
      (table.shut id).1.isRunning other = table.isRunning other := by
    intro other differs
    rw [isRunning, effect, if_neg differs, isRunning]
  cases found : table.get? id with
  | none =>
      have unchanged : table.shut id = (table, none) := by
        simp only [LinkTable.shut, found]
      rw [unchanged]
      exact nothing fun _ => rfl
  | some record =>
      have stopped : (table.shut id).1.isRunning id = false := by
        rw [isRunning, effect, if_pos rfl, found]
        rfl
      have was : table.isRunning id = record.running := isRunning_of_found found
      have announced : (table.shut id).2 =
          if record.running then
            some (.ofLinkStatus id record.hardwareName .lost)
          else
            none := by
        simp only [LinkTable.shut, found]
      rw [announced]
      cases running : record.running with
      | true =>
          rw [running] at was
          exact single record.hardwareName was stopped others
      | false =>
          rw [running] at was
          apply nothing
          intro other
          by_cases same : other = id
          · rw [same, was, stopped]
          · exact others other same

/-- Telling the peer makes no difference to what taking a link away announces. -/
theorem shutPolitely
    (table : LinkTable)
    (id : InterfaceId) :
    Announces table (table.shutPolitely id).1
      (Action.reports (table.shutPolitely id).2) := by
  have announces := Announces.shut table id
  rw [LinkTable.shutPolitely]
  rcases outcome : table.shut id with ⟨stopped, _ | report⟩
  · rw [outcome] at announces
    exact announces
  · rw [outcome] at announces
    exact announces

/-- An interface whose link is not up can be forgotten in silence. -/
theorem forget
    (stopped : table.isRunning id = false) :
    Announces table (table.forget id) [] := by
  apply nothing
  intro other
  by_cases same : other = id
  · rw [same, stopped]
    apply isRunning_of_missing
    rw [get?_forget, if_pos rfl]
  · rw [isRunning, get?_forget, if_neg same, isRunning]

/-- A politely shut interface can be forgotten in silence. -/
theorem remove
    (table : LinkTable)
    (id : InterfaceId) :
    Announces table ((table.shutPolitely id).1.forget id)
      (Action.reports (table.shutPolitely id).2) := by
  have stopped : (table.shutPolitely id).1.isRunning id = false := by
    rw [isRunning, get?_shutPolitely, if_pos rfl]
    cases table.get? id <;> rfl
  have announces :=
    (Announces.shutPolitely table id).trans (Announces.forget stopped)
  rwa [List.append_nil] at announces

/-- Removing interfaces announces the loss of those that were up. -/
theorem removeAll
    (table : LinkTable)
    (ids : List InterfaceId) :
    Announces table (table.removeAll ids).1
      (Action.reports (table.removeAll ids).2) := by
  induction ids generalizing table with
  | nil =>
      exact nothing fun _ => rfl
  | cons id rest inductionHypothesis =>
      have first := Announces.remove table id
      have others := inductionHypothesis ((table.shutPolitely id).1.forget id)
      simp only [LinkTable.removeAll, Action.reports_append]
      exact first.trans others

/-- Taking links away announces the loss of those that were up. -/
theorem shutAll
    (table : LinkTable)
    (ids : List InterfaceId) :
    Announces table (table.shutAll ids).1 (table.shutAll ids).2 := by
  induction ids generalizing table with
  | nil =>
      exact nothing fun _ => rfl
  | cons id rest inductionHypothesis =>
      exact (Announces.shut table id).trans (inductionHypothesis (table.shut id).1)

/-- A link that was down is announced when it comes up. -/
theorem promote
    (found : table.get? id = some record)
    (notRunning : record.running = false)
    (now : Nat) :
    Announces table (table.promote id record now).1
      (Action.reports (table.promote id record now).2) := by
  have effect := get?_promote table id
  apply single record.hardwareName
  · exact (isRunning_of_found found).trans notRunning
  · rw [isRunning, effect, if_pos rfl]
    rfl
  · intro other differs
    rw [isRunning, effect, if_neg differs, isRunning]

/-- The loss of a link that was up is announced. -/
theorem demote
    (found : table.get? id = some record)
    (running : record.running = true)
    (now : Nat) :
    Announces table (table.demote id record now).1
      (Action.reports (table.demote id record now).2) := by
  have effect := get?_demote table id
  apply single record.hardwareName
  · exact (isRunning_of_found found).trans running
  · rw [isRunning, effect, if_pos rfl]
    rfl
  · intro other differs
    rw [isRunning, effect, if_neg differs, isRunning]

/-! ### Registering -/

/-- Registering an interface announces nothing, as it is not up or stays so. -/
theorem add
    (table : LinkTable)
    (id : InterfaceId)
    (params? : Option InterfaceParams)
    (now : Nat) :
    Announces table (table.add id params? now) [] := by
  have others : ∀ other, other ≠ id →
      (table.add id params? now).isRunning other = table.isRunning other := by
    intro other differs
    rw [isRunning, get?_add_of_ne table differs, isRunning]
  have own : (table.add id params? now).isRunning id = table.isRunning id := by
    unfold LinkTable.add
    cases found : table.get? id with
    | none =>
        rw [isRunning, get?_set, if_pos rfl, isRunning, found]
        rfl
    | some record =>
        rw [isRunning, get?_set, if_pos rfl, isRunning, found]
        rfl
  apply nothing
  intro other
  by_cases same : other = id
  · rw [same, own]
  · exact others other same

/-- Raising an interface announces nothing, as it is up only when its peer has answered. -/
theorem up
    {started : Bool}
    {now : Nat}
    (raised : table.up id now = .ok (after, started)) :
    Announces table after [] := by
  unfold LinkTable.up at raised
  split at raised
  · next record found =>
      split at raised
      · cases raised
        exact nothing fun _ => rfl
      · cases raised
        exact Announces.set found rfl
  · cases raised

/-! ### Received frames -/

/-- A block of a message makes no difference to whether the link is up. -/
theorem onBlock
    (found : table.get? id = some record)
    (command : Bool)
    (block : Block) :
    Announces table (table.onBlock id record command block).1
      (Action.reports (table.onBlock id record command block).2) := by
  have unchanged : Announces table (table.onBlock id record command block).1 [] :=
    Announces.set found rfl
  intro other
  rw [statuses_onBlock]
  exact unchanged other

/-- A frame announces that the link has come up or was lost if it does that. -/
theorem onFrame
    (table : LinkTable)
    (frame : Frame)
    (now : Nat) :
    Announces table (table.onFrame frame now).1
      (Action.reports (table.onFrame frame now).2) := by
  unfold LinkTable.onFrame
  cases found : table.get? frame.id with
  | none =>
      exact nothing fun _ => rfl
  | some silent =>
      let heard := table.set frame.id (silent.hearing now)
      have hears : Announces table heard [] :=
        Announces.set found rfl
      have foundHeard : heard.get? frame.id = some (silent.hearing now) := by
        rw [get?_set, if_pos rfl]
      cases kind : frame.kind with
      | probe =>
          simp only
          split
          · exact hears
          · split
            · exact hears
            · next notRunning =>
                have notRunning : silent.running = false :=
                  Bool.eq_false_iff.mpr notRunning
                exact hears.trans (Announces.promote foundHeard notRunning now)
      | ack =>
          simp only
          split
          · next training =>
              have notRunning : silent.running = false :=
                Bool.eq_false_iff.mpr training.2
              exact hears.trans (Announces.promote foundHeard notRunning now)
          · exact hears
      | disconnect =>
          simp only
          split
          · next running =>
              exact hears.trans (Announces.demote foundHeard running now)
          · exact hears
      | data =>
          simp only
          split
          · exact hears.trans
              (Announces.onBlock foundHeard frame.command frame.block)
          · exact hears

/-! ### Sweeps -/

/-- Handling a timer announces the loss of a link that has been silent for too long. -/
theorem onTimer
    (table : LinkTable)
    (handle : TimerHandle)
    (id : InterfaceId)
    (now : Nat) :
    Announces table (table.onTimer handle id now).1
      (Action.reports (table.onTimer handle id now).2) := by
  unfold LinkTable.onTimer
  cases found : table.get? id with
  | none =>
      exact nothing fun _ => rfl
  | some record =>
      simp only
      split
      · exact nothing fun _ => rfl
      · split
        · next running =>
            split
            · exact Announces.demote found running now
            · exact nothing fun _ => rfl
        · split
          · exact nothing fun _ => rfl
          · exact nothing fun _ => rfl

/-- Handling several timers announces the losses that come of it. -/
theorem onTimers
    (table : LinkTable)
    (now : Nat)
    (due : List (TimerHandle × InterfaceId)) :
    Announces table (table.onTimers now due).1
      (Action.reports (table.onTimers now due).2) := by
  induction due generalizing table with
  | nil =>
      exact nothing fun _ => rfl
  | cons entry rest inductionHypothesis =>
      obtain ⟨handle, id⟩ := entry
      have first := Announces.onTimer table handle id now
      have others := inductionHypothesis (table.onTimer handle id now).1
      simp only [LinkTable.onTimers, Action.reports_append]
      exact first.trans others

/-- A sweep announces the losses that come of it. -/
theorem sweep
    (table : LinkTable)
    (now : Nat) :
    Announces table (table.sweep now).1 (Action.reports (table.sweep now).2) := by
  have taken :
      Announces table { table with timers := (table.timers.takeDue now).2 } [] :=
    nothing fun _ => rfl
  exact taken.trans (Announces.onTimers _ now (table.timers.takeDue now).1)

end Announces

/-- Every operation announces exactly what it does to every link. -/
theorem announces_perform
    (table : LinkTable)
    (operation : Operation) :
    Announces table (table.perform operation).1
      (Action.reports (table.perform operation).2) := by
  cases operation with
  | add id params? now =>
      exact Announces.add table id params? now
  | up id now =>
      simp only [perform]
      split
      · next raised =>
          exact Announces.up raised
      · exact Announces.nothing fun _ => rfl
  | down id =>
      simp only [perform, down]
      cases table.get? id with
      | none =>
          exact Announces.nothing fun _ => rfl
      | some record =>
          exact Announces.shutPolitely table id
  | remove id =>
      simp only [perform, remove, down]
      cases table.get? id with
      | none =>
          exact Announces.nothing fun _ => rfl
      | some record =>
          exact Announces.remove table id
  | teardown =>
      exact Announces.removeAll table table.records.keys
  | frame frame now =>
      exact Announces.onFrame table frame now
  | writeFailed id =>
      simp only [perform, Action.reports_map_emit]
      exact Announces.shut table id
  | transportLost =>
      simp only [perform, transportLost, Action.reports_map_emit]
      exact Announces.shutAll table table.records.keys
  | setFilter filter? =>
      exact Announces.nothing fun _ => rfl
  | sweep now =>
      exact Announces.sweep table now

/-- A run announces exactly what became of every link. -/
theorem announces_run
    (table : LinkTable)
    (operations : List Operation) :
    Announces table (table.run operations).1
      (Action.reports (table.run operations).2) := by
  induction operations generalizing table with
  | nil =>
      exact Announces.nothing fun _ => rfl
  | cons operation rest inductionHypothesis =>
      have first := announces_perform table operation
      have others := inductionHypothesis (table.perform operation).1
      simp only [run, Action.reports_append]
      exact first.trans others

end LinkTable

end StationLink
