import StationLink.Proofs.Arrivals
import StationLink.Proofs.Isolation

namespace StationLink

/-!
# While a link is up

What is reported of the messages that arrive on an interface while its link is up
depends on nothing but the data frames for it that arrive meanwhile
(`LinkTable.traffic_of_period`). Whatever else happens leaves the train being received
as it is, and when the link comes up nothing is left of trains that were received
before.
-/

/-- The reports about an interface of messages that arrived on it, in order. -/
def Action.traffic (id : InterfaceId) (actions : List Action) : List Action :=
  (Action.about id actions).filter Action.isMessage

@[simp] theorem Action.traffic_append
    (id : InterfaceId)
    (first second : List Action) :
    traffic id (first ++ second) = traffic id first ++ traffic id second := by
  rw [traffic, about_append, List.filter_append]
  rfl

/-- What is about a link itself reports no message. -/
theorem Action.traffic_of_areControl
    {actions : List Action}
    (areControl : ∀ action ∈ actions, action.IsControl)
    (id : InterfaceId) :
    traffic id actions = [] := by
  refine List.filter_eq_nil_iff.mpr fun action member isMessage => ?_
  have notMessage := isMessage_of_isControl (areControl action (List.mem_of_mem_filter member))
  rw [notMessage] at isMessage
  cases isMessage

namespace LinkTable

/-- The block that an operation makes arrive on an interface, which has a hardware name. -/
def Operation.arrivals (id : InterfaceId) (hardwareName : String) : Operation → List Arrival
  | .frame received _ =>
      if received.id = id ∧ received.kind = .data then
        [{ hardwareName, command := received.command, block := received.block }]
      else
        []
  | _ => []

/-- An operation is not a data frame for an interface. -/
def Operation.NoBlock (id : InterfaceId) (operation : Operation) : Prop :=
  ∀ frame now, operation = .frame frame now → ¬ (frame.id = id ∧ frame.kind = .data)

theorem Operation.arrivals_of_noBlock
    {id : InterfaceId}
    {operation : Operation}
    (noBlock : operation.NoBlock id)
    (hardwareName : String) :
    operation.arrivals id hardwareName = [] := by
  cases operation with
  | frame received now =>
      exact if_neg (noBlock received now rfl)
  | add | up | down | remove | teardown | writeFailed | transportLost | setFilter | sweep =>
      rfl

/-- A frame with a part of a message is an arrival of its block. -/
theorem Operation.arrivals_of_data
    {frame : Frame}
    (isData : frame.kind = .data)
    (hardwareName : String)
    (now : Nat) :
    Operation.arrivals frame.id hardwareName (.frame frame now) =
      [{ hardwareName, command := frame.command, block := frame.block }] :=
  if_pos ⟨rfl, isData⟩

theorem Operation.exists_of_block
    {id : InterfaceId}
    {operation : Operation}
    (hasBlock : ¬ operation.NoBlock id) :
    ∃ frame now, operation = .frame frame now ∧ frame.id = id ∧ frame.kind = .data := by
  simp only [NoBlock, not_forall, not_not] at hasBlock
  obtain ⟨frame, now, isFrame, isBlock⟩ := hasBlock
  exact ⟨frame, now, isFrame, isBlock⟩

/-- The blocks that operations make arrive on an interface, one after another. -/
def arrivals (id : InterfaceId) (table : LinkTable) : List Operation → List Arrival
  | [] => []
  | operation :: rest =>
      operation.arrivals id ((table.hardwareName? id).getD "") ++
        (table.perform operation).1.arrivals id rest

end LinkTable

namespace Link

variable {link : Link} {settings : LinkSettings} {id : InterfaceId} {frame : Frame} {now : Nat}
variable {interpret : String → Bool → List UInt8 → Option Report}

/-! ## What happens to the train being received -/

/-- A part of a message is taken in by a link that is up. -/
theorem onFrame_of_data
    (isData : frame.kind = .data)
    (running : link.running = true) :
    link.onFrame settings interpret frame now =
      ({ link with
          lastHeard := now
          reception := (link.reception.take frame.command frame.block).1 },
        (((link.reception.take frame.command frame.block).2.bind
          (interpret link.hardwareName frame.command)).map .emit).toList) := by
  simp only [onFrame, isData]
  exact if_pos running

/-- A part of a message is only heard by a link that is down. -/
theorem onFrame_of_data_of_down
    (isData : frame.kind = .data)
    (down : link.running = false) :
    link.onFrame settings interpret frame now = ({ link with lastHeard := now }, []) := by
  simp only [onFrame, isData, down, Bool.false_eq_true, if_false]

/-- A frame that carries no block leaves the train as it is while the link is up. -/
theorem reception_onFrame
    (notData : frame.kind ≠ .data)
    (running : link.running = true)
    (still : (link.onFrame settings interpret frame now).1.running = true) :
    (link.onFrame settings interpret frame now).1.reception = link.reception := by
  unfold onFrame at still ⊢
  cases kind : frame.kind with
  | probe =>
      simp only [running, if_true]
      split <;> rfl
  | ack =>
      simp only [running, not_true_eq_false, and_false, if_false]
  | disconnect =>
      simp only [kind, running, if_true] at still
      cases still
  | data =>
      exact (notData kind).elim

/-- A frame that brings the link up carries no block and leaves no train behind. -/
theorem cleared_of_up
    (down : link.running = false)
    (up : (link.onFrame settings interpret frame now).1.running = true) :
    frame.kind ≠ .data ∧
      (link.onFrame settings interpret frame now).1.reception.reassembler = .empty := by
  unfold onFrame at up ⊢
  cases kind : frame.kind with
  | probe =>
      simp only [kind, down, Bool.false_eq_true, if_false] at up ⊢
      split at up
      · cases up
      · next ready =>
          rw [if_neg ready]
          exact ⟨nofun, rfl⟩
  | ack =>
      simp only [kind, down, Bool.false_eq_true, not_false_eq_true, and_true] at up ⊢
      split at up
      · next ready =>
          rw [if_pos ready]
          exact ⟨nofun, rfl⟩
      · cases up
  | disconnect | data =>
      simp only [kind, down, Bool.false_eq_true, if_false] at up

/-- A sweep leaves the train as it is while the link is up. -/
theorem reception_sweep
    (running : link.running = true)
    (still : (link.sweep settings id now).1.running = true) :
    (link.sweep settings id now).1.reception = link.reception := by
  unfold sweep onTimer at still ⊢
  simp only [running, if_true] at still ⊢
  split at still
  · next due =>
      rw [if_pos due]
      split at still
      · cases still
      · next heard =>
          rw [if_neg heard]
          rfl
  · next notDue =>
      rw [if_neg notDue]

/-- No sweep brings a link up. -/
theorem down_of_sweep
    (down : link.running = false) :
    (link.sweep settings id now).1.running = false := by
  unfold sweep onTimer
  simp only [down, Bool.false_eq_true, if_false]
  split
  · split <;> rfl
  · exact down

end Link

namespace LinkView

open LinkTable (Operation)

variable {view : LinkView} {link after : Link} {id : InterfaceId}

/-- While the link is up and stays up nothing but a block makes a difference to the train. -/
theorem reception_of_noBlock
    (found : view.link? = some link)
    (running : link.running = true)
    {operation : Operation}
    (noBlock : operation.NoBlock id)
    (foundAfter : (view.perform id operation).1.link? = some after)
    (still : after.running = true) :
    after.reception = link.reception := by
  by_cases isAbout : operation.concerns id = true
  · rw [perform, if_pos isAbout] at foundAfter
    cases operation with
    | add owner params? now =>
        simp only [performOwn, found] at foundAfter
        cases foundAfter
        rfl
    | up owner now =>
        simp only [performOwn, found, withLink, Option.map_some, Link.raised] at foundAfter
        cases foundAfter
        split <;> rfl
    | down owner | writeFailed owner | transportLost =>
        simp only [performOwn, found] at foundAfter
        cases foundAfter
        cases still
    | remove owner | teardown =>
        cases foundAfter
    | setFilter filter? =>
        cases found.symm.trans foundAfter
        rfl
    | frame received now =>
        rw [performOwn, advance_of_found found] at foundAfter
        cases foundAfter
        have notData : received.kind ≠ .data := fun isData =>
          noBlock received now rfl ⟨of_decide_eq_true isAbout, isData⟩
        exact Link.reception_onFrame notData running still
    | sweep now =>
        rw [performOwn, advance_of_found found] at foundAfter
        cases foundAfter
        exact Link.reception_sweep running still
  · rw [perform, if_neg isAbout] at foundAfter
    cases found.symm.trans foundAfter
    rfl

/-- While the link is up and stays up its train goes on with the block of an operation. -/
theorem reception_perform
    (found : view.link? = some link)
    (running : link.running = true)
    (operation : Operation)
    (foundAfter : (view.perform id operation).1.link? = some after)
    (still : after.running = true) :
    after.reception =
      link.reception.takeAll (operation.arrivals id link.hardwareName) := by
  by_cases noBlock : operation.NoBlock id
  · rw [Operation.arrivals_of_noBlock noBlock]
    exact reception_of_noBlock found running noBlock foundAfter still
  · obtain ⟨frame, now, rfl, rfl, isData⟩ := Operation.exists_of_block noBlock
    rw [perform_frame, advance_of_found found, Link.onFrame_of_data isData running] at foundAfter
    cases foundAfter
    rw [Operation.arrivals_of_data isData]
    rfl

/-- What brings the link up is a frame without a block, and it leaves no train behind. -/
theorem cleared_of_up
    (down : ∀ link, view.link? = some link → link.running = false)
    (operation : Operation)
    (foundAfter : (view.perform id operation).1.link? = some after)
    (up : after.running = true) :
    operation.NoBlock id ∧ after.reception.reassembler = .empty := by
  have stillDown : ∀ link, view.link? = some link → link.running ≠ true := by
    intro link found running
    cases (down link found).symm.trans running
  by_cases isAbout : operation.concerns id = true
  · rw [perform, if_pos isAbout] at foundAfter
    cases operation with
    | add owner params? now =>
        cases found : view.link? with
        | none =>
            simp only [performOwn, found] at foundAfter
            cases foundAfter
            cases up
        | some link =>
            simp only [performOwn, found] at foundAfter
            cases foundAfter
            exact (stillDown link found up).elim
    | up owner now =>
        obtain ⟨link, found, isRaised⟩ := Option.map_eq_some_iff.mp foundAfter
        subst isRaised
        have running : link.running = true := by
          unfold Link.raised at up
          split at up <;> exact up
        exact (stillDown link found running).elim
    | down owner | writeFailed owner | transportLost =>
        obtain ⟨link, found, isShut⟩ := Option.map_eq_some_iff.mp foundAfter
        subst isShut
        cases up
    | remove owner | teardown =>
        cases foundAfter
    | setFilter filter? =>
        exact (stillDown after foundAfter up).elim
    | frame received now =>
        cases found : view.link? with
        | none =>
            rw [performOwn, advance_of_missing found] at foundAfter
            exact (stillDown after foundAfter up).elim
        | some link =>
            rw [performOwn, advance_of_found found] at foundAfter
            cases foundAfter
            obtain ⟨notData, cleared⟩ := Link.cleared_of_up (down link found) up
            refine ⟨?_, cleared⟩
            rintro _ _ ⟨⟩ ⟨_, isData⟩
            exact notData isData
    | sweep now =>
        cases found : view.link? with
        | none =>
            rw [performOwn, advance_of_missing found] at foundAfter
            exact (stillDown after foundAfter up).elim
        | some link =>
            rw [performOwn, advance_of_found found] at foundAfter
            cases foundAfter
            cases (Link.down_of_sweep (down link found)).symm.trans up
  · rw [perform, if_neg isAbout] at foundAfter
    exact (stillDown after foundAfter up).elim

end LinkView

namespace LinkTable

variable {table : LinkTable} {id : InterfaceId}

/-! ## What is reported meanwhile -/

/-- Without a filter a message is reported as the arrival of its last block tells. -/
theorem interpret_eq_report?
    (unfiltered : table.filter? = none)
    (id : InterfaceId)
    (arrival : Arrival) :
    table.interpret id arrival.hardwareName arrival.command = arrival.report? id := by
  funext message
  cases decoded : Command.decode message with
  | ok received =>
      simp only [interpret, Arrival.report?, acceptsCommands_of_unfiltered unfiltered,
        acceptsEvents_of_unfiltered unfiltered, if_true, decoded]
  | error error =>
      simp only [interpret, Arrival.report?, acceptsEvents_of_unfiltered unfiltered, if_true,
        decoded]

theorem isMessage_of_interpret
    {hardwareName : String}
    {command : Bool}
    {message : List UInt8}
    {report : Report}
    (interpreted : table.interpret id hardwareName command message = some report) :
    (Action.emit report).isMessage = true :=
  Option.isNone_iff_eq_none.mpr (linkStatus?_of_interpret interpreted)

/-- Nothing but a data frame makes an interface report messages. -/
theorem traffic_of_control
    (table : LinkTable)
    {operation : Operation}
    (notData : ∀ frame now, operation = .frame frame now → frame.kind ≠ .data)
    (id : InterfaceId) :
    Action.traffic id (table.perform operation).2 = [] := by
  apply Action.traffic_of_areControl
  cases operation with
  | frame frame now =>
      exact isControl_onFrame table (notData frame now rfl) now
  | add | up | down | remove | teardown | writeFailed | transportLost | setFilter | sweep =>
      exact isControl_perform table nofun

/-- Where no block arrives on an interface, it reports no message. -/
theorem traffic_of_noBlock
    (inStep : table.InStep [])
    {operation : Operation}
    (noBlock : operation.NoBlock id) :
    Action.traffic id (table.perform operation).2 = [] := by
  by_cases isAbout : operation.concerns id = true
  · refine traffic_of_control table (fun frame now isFrame isData => ?_) id
    subst isFrame
    exact noBlock frame now rfl ⟨of_decide_eq_true isAbout, isData⟩
  · have seen := (Shows.perform inStep operation id).actions
    rw [LinkView.perform, if_neg isAbout] at seen
    rw [Action.traffic, seen, List.filter_nil]

/-- What is reported of a block that arrives while the link is up. -/
theorem traffic_of_block
    (inStep : table.InStep [])
    (unfiltered : table.filter? = none)
    {link : Link}
    {frame : Frame}
    (found : table.link? frame.id = some link)
    (running : link.running = true)
    (isData : frame.kind = .data)
    (now : Nat) :
    let arrival : Arrival :=
      { hardwareName := link.hardwareName, command := frame.command, block := frame.block }
    Action.traffic frame.id (table.onFrame frame now).2 =
      (link.reception.reports frame.id [arrival]).map .emit := by
  intro arrival
  have seen := (Shows.onFrame inStep frame now frame.id).actions
  rw [LinkView.perform_frame, LinkView.advance_of_found found,
    Link.onFrame_of_data isData running, interpret_view,
    interpret_eq_report? unfiltered frame.id arrival] at seen
  have areMessages : ∀ action ∈ Action.about frame.id (table.onFrame frame now).2,
      action.isMessage = true := by
    intro action member
    rw [seen, Option.mem_toList, Option.map_eq_some_iff] at member
    obtain ⟨report, isReport, rfl⟩ := member
    obtain ⟨message, _, reported⟩ := Option.bind_eq_some_iff.mp isReport
    rw [← interpret_eq_report? unfiltered] at reported
    exact isMessage_of_interpret reported
  rw [Action.traffic, List.filter_eq_self.mpr areMessages, seen]
  simp only [Reception.reports, List.append_nil]
  cases (link.reception.take frame.command frame.block).2.bind (arrival.report? frame.id) <;> rfl

/-- While the link is up what is reported of an operation is that of its block, if any. -/
theorem traffic_perform
    (inStep : table.InStep [])
    (unfiltered : table.filter? = none)
    {link : Link}
    (found : table.link? id = some link)
    (running : link.running = true)
    (operation : Operation) :
    Action.traffic id (table.perform operation).2 =
      (link.reception.reports id (operation.arrivals id link.hardwareName)).map .emit := by
  by_cases noBlock : operation.NoBlock id
  · rw [Operation.arrivals_of_noBlock noBlock, traffic_of_noBlock inStep noBlock]
    rfl
  · obtain ⟨frame, now, rfl, rfl, isData⟩ := Operation.exists_of_block noBlock
    rw [Operation.arrivals_of_data isData]
    exact traffic_of_block inStep unfiltered found running isData now

/-! ## Periods -/

/-- The link is up after each of the operations. -/
def StaysUp (id : InterfaceId) (table : LinkTable) (operations : List Operation) : Prop :=
  ∀ count < operations.length,
    (table.run (operations.take (count + 1))).1.isRunning id = true

instance (id : InterfaceId) (table : LinkTable) (operations : List Operation) :
    Decidable (table.StaysUp id operations) :=
  inferInstanceAs (Decidable (∀ count < operations.length, _))

theorem exists_link_of_isRunning
    (running : table.isRunning id = true) :
    ∃ link, table.link? id = some link ∧ link.running = true := by
  rw [isRunning_eq_any] at running
  cases found : table.link? id with
  | none =>
      rw [found] at running
      cases running
  | some link =>
      rw [found] at running
      exact ⟨link, rfl, running⟩

theorem hardwareName?_of_link
    {link : Link}
    (found : table.link? id = some link) :
    table.hardwareName? id = some link.hardwareName := by
  obtain ⟨record, foundRecord, isLink⟩ := Option.map_eq_some_iff.mp found
  rw [hardwareName?, foundRecord, ← isLink]
  rfl

/-- A table without a filter has none after an operation that installs none. -/
theorem filter?_perform
    (inStep : table.InStep [])
    (unfiltered : table.filter? = none)
    {operation : Operation}
    (installsNone : operation.InstallsNone) :
    (table.perform operation).1.filter? = none := by
  have seen := congrArg LinkView.filter? (Shows.perform inStep operation 0).view
  exact seen.trans (LinkView.filter?_perform 0 unfiltered installsNone)

theorem filter?_run
    (inStep : table.InStep [])
    (unfiltered : table.filter? = none)
    {operations : List Operation}
    (installNone : ∀ operation ∈ operations, operation.InstallsNone) :
    (table.run operations).1.filter? = none := by
  induction operations generalizing table with
  | nil =>
      exact unfiltered
  | cons operation rest inductionHypothesis =>
      obtain ⟨first, later⟩ := List.forall_mem_cons.mp installNone
      exact inductionHypothesis (inStep.perform operation)
        (filter?_perform inStep unfiltered first) later

/-- The first of the operations after which the link is up, and the others. -/
theorem StaysUp.cons
    {operation : Operation}
    {rest : List Operation}
    (up : table.StaysUp id (operation :: rest)) :
    (table.perform operation).1.isRunning id = true ∧
      (table.perform operation).1.StaysUp id rest :=
  ⟨up 0 (Nat.zero_lt_succ _), fun count isBelow => up (count + 1) (Nat.succ_lt_succ isBelow)⟩

/-- As long as the link is up its train goes on with every block. -/
theorem traffic_of_run
    (inStep : table.InStep [])
    (unfiltered : table.filter? = none)
    {link : Link}
    (found : table.link? id = some link)
    (running : link.running = true)
    {operations : List Operation}
    (installNone : ∀ operation ∈ operations, operation.InstallsNone)
    (up : table.StaysUp id operations) :
    Action.traffic id (table.run operations).2 =
      (link.reception.reports id (table.arrivals id operations)).map .emit := by
  induction operations generalizing table link with
  | nil =>
      rfl
  | cons operation rest inductionHypothesis =>
      obtain ⟨upFirst, upLater⟩ := up.cons
      obtain ⟨after, foundAfter, runningAfter⟩ := exists_link_of_isRunning upFirst
      have seen := congrArg LinkView.link? (Shows.perform inStep operation id).view
      have goesOn := LinkView.reception_perform found running operation
        (seen.symm.trans foundAfter) runningAfter
      have first := traffic_perform inStep unfiltered found running operation
      obtain ⟨installsNone, restInstallNone⟩ := List.forall_mem_cons.mp installNone
      have later := inductionHypothesis (inStep.perform operation)
        (filter?_perform inStep unfiltered installsNone) foundAfter runningAfter
        restInstallNone upLater
      simp only [run, arrivals, Action.traffic_append, hardwareName?_of_link found,
        Option.getD_some, Reception.reports_append, List.map_append, first, later, goesOn]

/-- A block that does not find the link up comes to nothing, and it does not take the link down. -/
theorem about_of_block_of_down
    (inStep : table.InStep [])
    {frame : Frame}
    (isData : frame.kind = .data)
    (now : Nat)
    (down : (table.onFrame frame now).1.isRunning frame.id = false) :
    Action.about frame.id (table.onFrame frame now).2 = [] := by
  have seen := Shows.onFrame inStep frame now frame.id
  rw [LinkView.perform_frame] at seen
  cases found : table.link? frame.id with
  | none =>
      rw [LinkView.advance_of_missing found] at seen
      exact seen.actions
  | some link =>
      rw [LinkView.advance_of_found found] at seen
      by_cases running : link.running = true
      · have foundAfter : (table.onFrame frame now).1.link? frame.id = some _ :=
          congrArg LinkView.link? seen.view
        have still : (table.onFrame frame now).1.isRunning frame.id = true := by
          rw [isRunning_eq_any, foundAfter, Link.onFrame_of_data isData running]
          exact running
        cases still.symm.trans down
      · rw [Link.onFrame_of_data_of_down isData (Bool.eq_false_iff.mpr running)] at seen
        exact seen.actions

/-- An operation that does not leave the link up reports no message. -/
theorem traffic_of_down
    (inStep : table.InStep [])
    (operation : Operation)
    (down : (table.perform operation).1.isRunning id = false) :
    Action.traffic id (table.perform operation).2 = [] := by
  by_cases noBlock : operation.NoBlock id
  · exact traffic_of_noBlock inStep noBlock
  · obtain ⟨frame, now, rfl, rfl, isData⟩ := Operation.exists_of_block noBlock
    exact congrArg (List.filter Action.isMessage) (about_of_block_of_down inStep isData now down)

/-- Before a link comes up nothing is left of the trains that were received. -/
theorem cleared_of_up
    (inStep : table.InStep [])
    (down : table.isRunning id = false)
    {operation : Operation}
    {after : Link}
    (foundAfter : (table.perform operation).1.link? id = some after)
    (up : after.running = true) :
    operation.NoBlock id ∧ after.reception.reassembler = .empty := by
  have seen := congrArg LinkView.link? (Shows.perform inStep operation id).view
  refine LinkView.cleared_of_up ?_ operation (seen.symm.trans foundAfter) up
  intro link found
  have isLink : table.link? id = some link := found
  rw [isRunning_eq_any, isLink] at down
  exact down

/--
What is reported of messages while a link is up is what new reassemblers complete of the
blocks that arrive meanwhile, one for each piece of one direction. An operation that does
not leave the link up reports none.
-/
theorem traffic_of_period
    (settings : LinkSettings)
    (before period : List Operation)
    (installNone : ∀ operation ∈ before ++ period, operation.InstallsNone)
    {id : InterfaceId}
    (down : ((ofSettings settings).run before).1.isRunning id = false)
    (up : ((ofSettings settings).run before).1.StaysUp id period) :
    let table := ((ofSettings settings).run before).1
    let outcome := table.run period
    Action.traffic id outcome.2 =
        (Arrival.reports id (table.arrivals id period)).map .emit ∧
      ∀ operation, (outcome.1.perform operation).1.isRunning id = false →
        Action.traffic id (outcome.1.perform operation).2 = [] := by
  intro table outcome
  have inStep : table.InStep [] := (inStep_ofSettings settings).run before
  obtain ⟨beforeInstallNone, periodInstallNone⟩ := List.forall_mem_append.mp installNone
  have unfiltered : table.filter? = none :=
    filter?_run (inStep_ofSettings settings) rfl beforeInstallNone
  refine ⟨?_, fun operation => traffic_of_down (inStep.run period) operation⟩
  cases period with
  | nil =>
      rfl
  | cons operation rest =>
      obtain ⟨upFirst, upLater⟩ := up.cons
      obtain ⟨after, foundAfter, runningAfter⟩ := exists_link_of_isRunning upFirst
      obtain ⟨noBlock, cleared⟩ := cleared_of_up inStep down foundAfter runningAfter
      obtain ⟨installsNone, restInstallNone⟩ := List.forall_mem_cons.mp periodInstallNone
      have later := traffic_of_run (inStep.perform operation)
        (filter?_perform inStep unfiltered installsNone) foundAfter runningAfter
        restInstallNone upLater
      rw [Reception.reports_eq cleared] at later
      simp only [outcome, run, arrivals, Action.traffic_append,
        Operation.arrivals_of_noBlock noBlock, traffic_of_noBlock inStep noBlock,
        List.nil_append, later]

/-- A command that is not complete is given up when the handset is lifted. -/
theorem traffic_of_period_of_handset :
    let desk : InterfaceParams := { channel := 1, hardwareName? := some "desk" }
    let before : List Operation := [.add 1 (some desk) 0, .up 1 0]
    let period : List Operation :=
      [.frame (.ack 1) 3,
        .frame (.ofBlock 1 true { payload := [0x43, 0x01], more := true }) 4,
        .frame (.ofBlock 1 false { payload := [0x42, 0x01, 0x00], more := false }) 5]
    let table := ((ofSettings {}).run before).1
    table.isRunning 1 = false ∧ table.StaysUp 1 period ∧
      Action.traffic 1 (table.run period).2 =
        [.emit (.event 1 { station := "desk", control := "", kind := .offHook })] := by
  intro desk before period table
  have installNone : ∀ operation ∈ before ++ period, operation.InstallsNone := by
    intro operation member filter isSet
    subst isSet
    simp [before, period] at member
  have down : table.isRunning 1 = false := by
    decide +kernel
  have up : table.StaysUp 1 period := by
    decide +kernel
  have reference :
      Arrival.reports 1 (table.arrivals 1 period) =
        [.event 1 { station := "desk", control := "", kind := .offHook }] := by
    decide +kernel
  have received := (traffic_of_period {} before period installNone down up).1
  rw [reference] at received
  exact ⟨down, up, received⟩

end LinkTable

end StationLink
