import StationLink.Proofs.LinkChanges

namespace StationLink

/-!
# Probes without drift

The timer of an interface is swept at the instant for which it is set, and each time it is
set anew for one interval later than that instant. So the probes that train a link are
whole retry intervals apart, however often timers are swept in between and whatever else
happens to the table, and so are the probes that keep a link alive, up to the first one
that comes too long after the last frame was heard. Instead of that one the link is
reported lost, and it is trained from that instant on (`LinkTable.ticks_without_drift`).
-/

/-- What the timer of an interface does about it. -/
inductive Tick where
  | probe
  | lost
  deriving DecidableEq

/-- The probe of an interface, or the report that its link is lost, that an action is. -/
def Action.tick? (id : InterfaceId) : Action → Option Tick
  | .transmit frame => if frame.id = id ∧ frame.kind = .probe then some .probe else none
  | .emit report => if report.statusOf? id = some .lost then some .lost else none

/-- The ticks of an interface among actions, in order. -/
def Action.ticks (id : InterfaceId) (actions : List Action) : List Tick :=
  actions.filterMap (·.tick? id)

/-- Actions about other interfaces are no ticks of an interface. -/
theorem Action.ticks_about
    (id : InterfaceId)
    (actions : List Action) :
    ticks id (about id actions) = ticks id actions := by
  rw [ticks, about, List.filterMap_filter, ticks]
  congr 1
  funext action
  by_cases isOwn : action.id = id
  · simp [isOwn]
  · cases action with
    | transmit frame =>
        have notOwn : ¬ frame.id = id := isOwn
        simp [isOwn, tick?, notOwn]
    | emit report =>
        have notOwn : ¬ report.id = id := isOwn
        simp [isOwn, tick?, Report.statusOf?, notOwn]

/-- A probe is a tick of its interface. -/
theorem Action.ticks_probe
    (id : InterfaceId)
    (channel : UInt8) :
    ticks id [.transmit (.probe id channel)] = [.probe] := by
  simp [ticks, tick?, Frame.probe]

/-- The announcement that a link was lost is a tick of its interface. -/
theorem Action.ticks_announcement
    (link : Link)
    (id : InterfaceId) :
    ticks id [link.announcement id .lost] = [.lost] := by
  simp [ticks, tick?, Link.announcement, Report.statusOf?, Report.ofLinkStatus, Report.id,
    Report.linkStatus?, Event.ofLinkStatus, EventKind.linkStatus?]

/-- What is reported of a message that arrives is no tick. -/
theorem Action.ticks_of_message
    (table : LinkTable)
    (id other : InterfaceId)
    (hardwareName : String)
    (command : Bool)
    (message? : Option (List UInt8)) :
    ticks other ((message?.bind (table.interpret id hardwareName command)).map .emit).toList =
      [] := by
  cases interpreted : message?.bind (table.interpret id hardwareName command) with
  | none =>
      rfl
  | some report =>
      obtain ⟨message, _, isReport⟩ := Option.bind_eq_some_iff.mp interpreted
      simp [ticks, tick?, Report.statusOf?, LinkTable.linkStatus?_of_interpret isReport]

/-! ## A link by itself -/

namespace Link

/-- The link is eligible and its timer is set, be the link up or down. -/
structure Ticking (link : Link) (up : Bool) (due heard : Nat) : Prop where
  eligible : link.eligible = true
  running : link.running = up
  due : link.due? = some due
  heard : link.lastHeard = heard

namespace Ticking

variable {settings : LinkSettings} {link : Link} {id : InterfaceId}
variable {up : Bool} {due heard now : Nat}

/-- A link that ticks is due from its time on. -/
theorem isDue
    (ticking : link.Ticking up due heard)
    (now : Nat) :
    link.isDue now = decide (due ≤ now) := by
  simp [Link.isDue, ticking.due]

/-- A sweep before the time of a link has no effect on it. -/
theorem sweep_of_early
    (ticking : link.Ticking up due heard)
    (early : now < due)
    (settings : LinkSettings)
    (id : InterfaceId) :
    link.sweep settings id now = (link, []) := by
  simp [sweep, ticking.isDue, Nat.not_le.mpr early]

/-- A sweep at its time probes a link in training and sets the next time. -/
theorem sweep_of_training
    (ticking : link.Ticking false due heard) :
    link.sweep settings id due =
      ({ link with due? := some (due + settings.retryInterval) },
        [.transmit (.probe id link.channel)]) := by
  simp [sweep, onTimer, resumed, ticking.isDue, ticking.running, ticking.eligible]

/-- A sweep at its time probes a link that has been heard of and sets the next time. -/
theorem sweep_of_heard
    (ticking : link.Ticking true due heard)
    (inTime : due ≤ heard + settings.deadInterval) :
    link.sweep settings id due =
      ({ link with due? := some (due + settings.keepaliveInterval) },
        [.transmit (.probe id link.channel)]) := by
  have notSilent : ¬ settings.deadInterval < due - heard := by
    omega
  simp [sweep, onTimer, resumed, ticking.isDue, ticking.running, ticking.heard, notSilent]

/-- A sweep at its time drops a link that has been silent for too long. -/
theorem sweep_of_silent
    (ticking : link.Ticking true due heard)
    (silent : heard + settings.deadInterval < due) :
    link.sweep settings id due =
      ({ link with due? := none }.demoted (due + settings.retryInterval),
        [link.announcement id .lost]) := by
  have isSilent : settings.deadInterval < due - heard := by
    omega
  simp [sweep, onTimer, announcement, ticking.isDue, ticking.running, ticking.heard, isSilent]

/-- A frame that leaves the link up or down as it is leaves its timer as it is. -/
theorem onFrame
    (ticking : link.Ticking up due heard)
    {frame : Frame}
    (leaves : frame.linkAfter up = up)
    (settings : LinkSettings)
    (table : LinkTable)
    (now : Nat) :
    let outcome := link.onFrame settings (table.interpret frame.id) frame now
    outcome.1.Ticking up due now ∧ Action.ticks frame.id outcome.2 = [] := by
  intro outcome
  obtain ⟨eligible, running, isSet, _⟩ := ticking
  obtain ⟨sameEligible, isHeard⟩ :=
    link.eligible_and_lastHeard_onFrame settings now (table.interpret frame.id) frame
  have sameRunning : outcome.1.running = up := by
    rw [Link.running_onFrame _ frame fun _ => eligible, eligible, running, leaves]
    rfl
  suffices rest : outcome.1.due? = link.due? ∧ Action.ticks frame.id outcome.2 = [] from
    ⟨⟨sameEligible.trans eligible, sameRunning, rest.1.trans isSet, isHeard⟩, rest.2⟩
  unfold Frame.linkAfter at leaves
  simp only [outcome, Link.onFrame]
  cases kind : frame.kind with
  | probe =>
      obtain rfl : true = up := by
        simpa only [kind] using leaves
      simp [eligible, running, Action.ticks, Action.tick?, Frame.ack]
  | ack =>
      obtain rfl : true = up := by
        simpa only [kind] using leaves
      simp [running, Action.ticks]
  | disconnect =>
      obtain rfl : false = up := by
        simpa only [kind] using leaves
      simp [running, Action.ticks]
  | data =>
      simp only
      split
      · exact ⟨rfl, Action.ticks_of_message table _ _ _ _ _⟩
      · exact ⟨rfl, rfl⟩

/-- The timer of a link that is made eligible is due at once. -/
theorem raised
    (notEligible : link.eligible = false)
    (notRunning : link.running = false)
    (now : Nat) :
    (link.raised now).Ticking false now link.lastHeard := by
  have isRaised : link.raised now = { link with eligible := true, due? := some now } :=
    if_neg (Bool.eq_false_iff.mp notEligible)
  rw [isRaised]
  exact ⟨rfl, notRunning, rfl, rfl⟩

/-- The timer of a link that a frame brings up is set for the keepalive interval after it. -/
theorem of_up
    (interpret : String → Bool → List UInt8 → Option Report)
    (frame : Frame)
    (down : link.running = false)
    (isUp : (link.onFrame settings interpret frame now).1.running = true) :
    (link.onFrame settings interpret frame now).1.Ticking true
      (now + settings.keepaliveInterval) now := by
  obtain ⟨sameEligible, isHeard⟩ :=
    link.eligible_and_lastHeard_onFrame settings now interpret frame
  suffices promoted : link.eligible = true ∧
      (link.onFrame settings interpret frame now).1.due? =
        some (now + settings.keepaliveInterval) from
    ⟨sameEligible.trans promoted.1, isUp, promoted.2, isHeard⟩
  unfold Link.onFrame at isUp ⊢
  cases kind : frame.kind with
  | probe | ack =>
      cases eligible : link.eligible <;> simp_all [Link.promoted]
  | disconnect | data =>
      simp_all

end Ticking

end Link

namespace LinkTable

/--
Whether an operation leaves an eligible interface eligible and its link up or down as it is.
What sweeps do depends on the timer and is not ruled out.
-/
def Operation.leavesLink (id : InterfaceId) (up : Bool) : Operation → Bool
  | .frame arrived _ => arrived.id ≠ id || arrived.linkAfter up = up
  | .down other | .remove other | .writeFailed other => other ≠ id
  | .teardown | .transportLost => false
  | .add .. | .up .. | .setFilter _ | .sweep _ => true

end LinkTable

namespace LinkView

open LinkTable (Operation)

variable {view : LinkView} {link : Link} {id : InterfaceId}
variable {up : Bool} {due heard : Nat}

/-- The link of the view has its timer set. -/
def Ticking (view : LinkView) (up : Bool) (due heard : Nat) : Prop :=
  ∃ link, view.link? = some link ∧ link.Ticking up due heard

/-- A sweep of a table is a sweep of each of its links. -/
theorem perform_sweep
    (found : view.link? = some link)
    (id : InterfaceId)
    (now : Nat) :
    view.perform id (.sweep now) =
      (view.withLink (some (link.sweep view.settings id now).1),
        (link.sweep view.settings id now).2) :=
  advance_of_found found _

/-- Between its ticks a link goes on ticking, and nothing is done that would be a tick. -/
theorem Ticking.performOwn
    (ticking : view.Ticking up due heard)
    {operation : Operation}
    (isAbout : operation.concerns id = true)
    (leaves : operation.leavesLink id up = true)
    (early : ∀ now, operation = .sweep now → now < due) :
    (view.performOwn id operation).1.Ticking up due ((operation.heardAt? id).getD heard) ∧
      Action.ticks id (view.performOwn id operation).2 = [] := by
  obtain ⟨link, found, ticking⟩ := ticking
  cases operation with
  | add other params? now =>
      refine ⟨⟨_, rfl, ?_⟩, rfl⟩
      simp only [found, Link.added]
      exact ⟨ticking.eligible, ticking.running, ticking.due, ticking.heard⟩
  | up other now =>
      refine ⟨⟨link, ?_, ticking⟩, rfl⟩
      simp [LinkView.performOwn, withLink, found, Link.raised, ticking.eligible]
  | down other | remove other | writeFailed other =>
      simp_all [Operation.leavesLink, Operation.concerns]
  | teardown | transportLost =>
      cases leaves
  | frame frame now =>
      obtain rfl : frame.id = id := of_decide_eq_true isAbout
      have isLeft : frame.linkAfter up = up := by
        simpa [Operation.leavesLink] using leaves
      obtain ⟨tickingAfter, noTick⟩ := ticking.onFrame isLeft view.settings
        ((LinkTable.ofSettings view.settings).setFilter view.filter?) now
      simp only [LinkView.performOwn, advance_of_found found, Operation.heardAt?, if_true]
      exact ⟨⟨_, rfl, tickingAfter⟩, noTick⟩
  | setFilter filter? =>
      exact ⟨⟨link, found, ticking⟩, rfl⟩
  | sweep now =>
      have isEarly := ticking.sweep_of_early (early now rfl) view.settings id
      simp only [LinkView.performOwn, advance_of_found found, isEarly]
      exact ⟨⟨link, rfl, ticking⟩, rfl⟩

/-- What leaves a link as it is does not tick and does not change when the link ticks. -/
theorem Ticking.perform
    (ticking : view.Ticking up due heard)
    {operation : Operation}
    (leaves : operation.leavesLink id up = true)
    (early : ∀ now, operation = .sweep now → now < due) :
    (view.perform id operation).1.Ticking up due ((operation.heardAt? id).getD heard) ∧
      Action.ticks id (view.perform id operation).2 = [] := by
  by_cases isAbout : operation.concerns id = true
  · rw [LinkView.perform, if_pos isAbout]
    exact ticking.performOwn isAbout leaves early
  · rw [LinkView.perform, if_neg isAbout, Operation.heardAt?_of_unconcerned isAbout]
    exact ⟨ticking, rfl⟩

/-- A sweep that comes when the timer of a link in training is due probes it. -/
theorem Ticking.sweep_of_training
    (ticking : view.Ticking false due heard) :
    let outcome := view.perform id (.sweep due)
    outcome.1.Ticking false (due + view.settings.retryInterval) heard ∧
      Action.ticks id outcome.2 = [.probe] := by
  obtain ⟨link, found, ticking⟩ := ticking
  simp only [perform_sweep found, ticking.sweep_of_training]
  exact ⟨⟨_, rfl, ticking.eligible, ticking.running, rfl, ticking.heard⟩,
    Action.ticks_probe id link.channel⟩

/-- So does one that comes when the timer of a running link is due, if it was heard of. -/
theorem Ticking.sweep_of_heard
    (ticking : view.Ticking true due heard)
    (inTime : due ≤ heard + view.settings.deadInterval) :
    let outcome := view.perform id (.sweep due)
    outcome.1.Ticking true (due + view.settings.keepaliveInterval) heard ∧
      Action.ticks id outcome.2 = [.probe] := by
  obtain ⟨link, found, ticking⟩ := ticking
  simp only [perform_sweep found, ticking.sweep_of_heard inTime]
  exact ⟨⟨_, rfl, ticking.eligible, ticking.running, rfl, ticking.heard⟩,
    Action.ticks_probe id link.channel⟩

/-- If it was silent for too long it is lost instead. -/
theorem Ticking.sweep_of_silent
    (ticking : view.Ticking true due heard)
    (silent : heard + view.settings.deadInterval < due) :
    let outcome := view.perform id (.sweep due)
    outcome.1.Ticking false (due + view.settings.retryInterval) heard ∧
      Action.ticks id outcome.2 = [.lost] := by
  obtain ⟨link, found, ticking⟩ := ticking
  simp only [perform_sweep found, ticking.sweep_of_silent silent]
  refine ⟨⟨_, rfl, ticking.eligible, rfl, ?_, ticking.heard⟩, Action.ticks_announcement link id⟩
  exact if_pos ticking.eligible

end LinkView

/-! ## Schedules -/

namespace LinkTable

/-- The ticks of an interface in the course of operations, with the times of these. -/
def ticks (id : InterfaceId) (table : LinkTable) : List Operation → List (Option Nat × Tick)
  | [] => []
  | operation :: rest =>
      (Action.ticks id (table.perform operation).2).map (fun tick => (operation.time?, tick)) ++
        (table.perform operation).1.ticks id rest

/-- Whenever something happens, the timers that were due earlier have been swept. -/
def SweptInTime (table : LinkTable) : List Operation → Prop
  | [] => True
  | operation :: rest =>
      (∀ now, operation.time? = some now → table.OnTime now) ∧
        (table.perform operation).1.SweptInTime rest

/-- Probes that are an interval apart. -/
def probes (first interval count : Nat) : List (Option Nat × Tick) :=
  (List.range count).map fun index => (some (first + index * interval), .probe)

/-- A time after one more interval is that time counted from the first interval. -/
theorem due_succ
    (first interval count : Nat) :
    first + (count + 1) * interval = first + interval + count * interval := by
  rw [Nat.succ_mul]
  omega

/-- Probes at regular times are the first of them and those from the next time on. -/
theorem probes_succ
    (first interval count : Nat) :
    probes first interval (count + 1) =
      (some first, .probe) :: probes (first + interval) interval count := by
  simp [probes, List.range_succ_eq_map, Function.comp_def, due_succ]

/-- The next tick of an interface is due at a time, and no time passes without it. -/
structure AwaitsTick
    (table : LinkTable)
    (id : InterfaceId)
    (due : Nat)
    (tick : Tick) : Prop where
  le_due : ∀ now, table.OnTime now → now ≤ due
  ticks : table.ticks id [.sweep due] = [(some due, tick)]

/--
As long as an interface hears neither a probe nor an answer and is not taken down, it is
probed at the given time and at every retry interval after it.
-/
def TrainsFrom (table : LinkTable) (id : InterfaceId) (first : Nat) : Prop :=
  ∀ later : List Operation, table.SweptInTime later →
    (∀ operation ∈ later, operation.leavesLink id false = true) →
      let interval := table.settings.retryInterval
      ∃ count, table.ticks id later = probes first interval count ∧
        (table.run later).1.AwaitsTick id (first + count * interval) .probe

/--
The link of an interface was heard last at one time and is looked after next at another.
If it will have been silent for too long then, it is lost and is trained again from there.
-/
structure RunsUntil
    (table : LinkTable)
    (id : InterfaceId)
    (due heard : Nat) : Prop where
  isRunning : table.isRunning id = true
  probed : due ≤ heard + table.settings.deadInterval → table.AwaitsTick id due .probe
  lost : heard + table.settings.deadInterval < due →
    table.AwaitsTick id due .lost ∧
      (table.sweep due).1.TrainsFrom id (due + table.settings.retryInterval)

/-- During some operations a link was probed so many times, and it is still running. -/
structure KeptAlive
    (table : LinkTable)
    (id : InterfaceId)
    (first heard : Nat)
    (during : List Operation)
    (count : Nat) : Prop where
  ticks : table.ticks id during = probes first table.settings.keepaliveInterval count
  runs : (table.run during).1.RunsUntil id
    (first + count * table.settings.keepaliveInterval) ((lastHeard? id during).getD heard)

/--
As long as an interface hears no disconnect and is not taken down, it is probed at the given
time and at every keepalive interval after it, until there is a probe for which it was
silent for too long.
-/
def KeptAliveFrom (table : LinkTable) (id : InterfaceId) (first heard : Nat) : Prop :=
  ∀ during : List Operation, table.SweptInTime during →
    (∀ operation ∈ during, operation.leavesLink id true = true) →
      (∃ count, table.KeptAlive id first heard during count) ∨
        ∃ before due later count, during = before ++ .sweep due :: later ∧
          due = first + count * table.settings.keepaliveInterval ∧
          table.KeptAlive id first heard before count ∧
          (lastHeard? id before).getD heard + table.settings.deadInterval < due

variable {table : LinkTable} {id : InterfaceId}
variable {up : Bool} {due heard : Nat}

/-- A time at which no timer is overdue is not past the time for which the timer is set. -/
theorem le_of_onTime
    (ticking : (table.view id).Ticking up due heard)
    {now : Nat}
    (onTime : table.OnTime now) :
    now ≤ due := by
  obtain ⟨link, found, ticking⟩ := ticking
  obtain ⟨record, _, rfl⟩ := Option.map_eq_some_iff.mp found
  obtain ⟨timer, slot, linked, rfl⟩ := timer_of_due ticking.due
  exact onTime record.timer timer slot linked

/-- What happens in time happens before the timer is due, or it is the sweep that is due. -/
theorem early_or_due
    (ticking : (table.view id).Ticking up due heard)
    {operation : Operation}
    (inTime : ∀ now, operation.time? = some now → table.OnTime now) :
    (∀ now, operation = .sweep now → now < due) ∨ operation = .sweep due := by
  by_cases early : ∀ now, operation = .sweep now → now < due
  · exact Or.inl early
  · simp only [not_forall, Nat.not_lt] at early
    obtain ⟨now, rfl, isDue⟩ := early
    have sameTime := Nat.le_antisymm isDue (le_of_onTime ticking (inTime now rfl))
    exact Or.inr (congrArg Operation.sweep sameTime.symm)

/-- When a frame was heard last, counting those before the operations. -/
theorem heard_cons
    (id : InterfaceId)
    (operation : Operation)
    (rest : List Operation)
    (heard : Nat) :
    (lastHeard? id (operation :: rest)).getD heard =
      (lastHeard? id rest).getD ((operation.heardAt? id).getD heard) := by
  rw [lastHeard?_cons, Option.getD_or]

/-- An interface ticks as it would if there were no other. -/
theorem ticks_perform
    (inStep : table.InStep [])
    (operation : Operation)
    (id : InterfaceId) :
    Action.ticks id (table.perform operation).2 =
      Action.ticks id ((table.view id).perform id operation).2 := by
  rw [← (Shows.perform inStep operation id).actions, Action.ticks_about]

/-- What an operation does to the view of an interface it does to its link in the table. -/
theorem ticking_perform
    (inStep : table.InStep [])
    {operation : Operation}
    {ticks : List Tick}
    (seen : ((table.view id).perform id operation).1.Ticking up due heard ∧
      Action.ticks id ((table.view id).perform id operation).2 = ticks) :
    ((table.perform operation).1.view id).Ticking up due heard ∧
      Action.ticks id (table.perform operation).2 = ticks := by
  rw [ticks_perform inStep, (Shows.perform inStep operation id).view]
  exact seen

/-- An operation that does not tick adds no tick. -/
theorem ticks_cons_of_quiet
    {operation : Operation}
    (noTick : Action.ticks id (table.perform operation).2 = [])
    (rest : List Operation) :
    table.ticks id (operation :: rest) = (table.perform operation).1.ticks id rest := by
  simp [ticks, noTick]

/-- An operation that ticks adds its tick at its time. -/
theorem ticks_cons_of_tick
    {operation : Operation}
    {tick : Tick}
    (isTick : Action.ticks id (table.perform operation).2 = [tick])
    (rest : List Operation) :
    table.ticks id (operation :: rest) =
      (operation.time?, tick) :: (table.perform operation).1.ticks id rest := by
  simp [ticks, isTick]

/-- A link that ticks awaits its tick at its time. -/
theorem awaitsTick_of_ticking
    (inStep : table.InStep [])
    (ticking : (table.view id).Ticking up due heard)
    {tick : Tick}
    (isTick : Action.ticks id ((table.view id).perform id (.sweep due)).2 = [tick]) :
    table.AwaitsTick id due tick where
  le_due := fun _ onTime => le_of_onTime ticking onTime
  ticks := ticks_cons_of_tick ((ticks_perform inStep (.sweep due) id).trans isTick) []

/-- A link in training is probed whenever its timer is due, one interval later each time. -/
theorem trainsFrom_of_ticking
    (inStep : table.InStep [])
    {first : Nat}
    (ticking : (table.view id).Ticking false first heard) :
    table.TrainsFrom id first := by
  intro later swept leaves
  -- What is left of the run starts with the tick at `first`, whichever tick that is.
  induction later generalizing table first heard with
  | nil =>
      refine ⟨0, rfl, ?_⟩
      rw [Nat.zero_mul]
      exact awaitsTick_of_ticking inStep ticking ticking.sweep_of_training.2
  | cons operation rest inductionHypothesis =>
      obtain ⟨inTime, restSwept⟩ := swept
      obtain ⟨leavesFirst, leavesRest⟩ := List.forall_mem_cons.mp leaves
      have sameSettings := settings_perform inStep operation
      rcases early_or_due ticking inTime with early | rfl
      · obtain ⟨tickingAfter, noTick⟩ :=
          ticking_perform inStep (ticking.perform leavesFirst early)
        obtain ⟨count, ticks, awaits⟩ :=
          inductionHypothesis (inStep.perform operation) tickingAfter restSwept leavesRest
        rw [sameSettings] at ticks awaits
        exact ⟨count, (ticks_cons_of_quiet noTick rest).trans ticks, awaits⟩
      · obtain ⟨tickingAfter, probed⟩ := ticking_perform inStep ticking.sweep_of_training
        obtain ⟨count, ticks, awaits⟩ :=
          inductionHypothesis (inStep.perform (.sweep first)) tickingAfter restSwept leavesRest
        rw [sameSettings] at ticks awaits
        refine ⟨count + 1, ?_, ?_⟩
        · rw [ticks_cons_of_tick probed, probes_succ]
          exact congrArg _ ticks
        · rw [due_succ]
          exact awaits

/-- A link that ticks is up exactly if it ticks as one that is up. -/
theorem isRunning_of_ticking
    (ticking : (table.view id).Ticking up due heard) :
    table.isRunning id = up := by
  obtain ⟨link, found, ticking⟩ := ticking
  have isLink : table.link? id = some link := found
  rw [isRunning_eq_any, isLink]
  exact ticking.running

/-- A link that is up stays so until it is swept at its time. -/
theorem runsUntil_of_ticking
    (inStep : table.InStep [])
    (ticking : (table.view id).Ticking true due heard) :
    table.RunsUntil id due heard where
  isRunning := isRunning_of_ticking ticking
  probed := fun inTime =>
    awaitsTick_of_ticking inStep ticking (ticking.sweep_of_heard inTime).2
  lost := by
    intro silent
    obtain ⟨training, _⟩ := ticking_perform inStep (ticking.sweep_of_silent silent)
    exact ⟨awaitsTick_of_ticking inStep ticking (ticking.sweep_of_silent silent).2,
      trainsFrom_of_ticking (inStep.sweep due) training⟩

namespace KeptAlive

variable {operation : Operation} {rest : List Operation} {first count : Nat}

theorem nil
    (inStep : table.InStep [])
    (ticking : (table.view id).Ticking true first heard) :
    table.KeptAlive id first heard [] 0 where
  ticks := rfl
  runs := by
    rw [Nat.zero_mul]
    exact runsUntil_of_ticking inStep ticking

/-- Between the probes only the time at which a frame was heard last may change. -/
theorem cons_of_quiet
    (sameSettings : (table.perform operation).1.settings = table.settings)
    (noTick : Action.ticks id (table.perform operation).2 = [])
    (keptAlive : (table.perform operation).1.KeptAlive id first
      ((operation.heardAt? id).getD heard) rest count) :
    table.KeptAlive id first heard (operation :: rest) count := by
  obtain ⟨ticks, runs⟩ := keptAlive
  rw [sameSettings] at ticks runs
  refine ⟨(ticks_cons_of_quiet noTick rest).trans ticks, ?_⟩
  rw [heard_cons]
  exact runs

/-- A sweep at its time adds a probe to a link that is kept alive. -/
theorem cons_of_probe
    (sameSettings : (table.perform operation).1.settings = table.settings)
    (isSweep : operation = .sweep first)
    (probed : Action.ticks id (table.perform operation).2 = [.probe])
    (keptAlive : (table.perform operation).1.KeptAlive id
      (first + table.settings.keepaliveInterval) heard rest count) :
    table.KeptAlive id first heard (operation :: rest) (count + 1) := by
  subst isSweep
  obtain ⟨ticks, runs⟩ := keptAlive
  rw [sameSettings] at ticks runs
  constructor
  · rw [ticks_cons_of_tick probed, probes_succ]
    exact congrArg _ ticks
  · rw [due_succ, heard_cons]
    exact runs

end KeptAlive

/--
A running link is probed whenever its timer is due, one interval later each time, unless it
was silent for too long.
-/
theorem keptAliveFrom_of_ticking
    (inStep : table.InStep [])
    {first : Nat}
    (ticking : (table.view id).Ticking true first heard) :
    table.KeptAliveFrom id first heard := by
  intro during swept leaves
  -- As in training, but frames that arrive on the way put off the loss of the link.
  induction during generalizing table first heard with
  | nil =>
      exact Or.inl ⟨0, .nil inStep ticking⟩
  | cons operation rest inductionHypothesis =>
      obtain ⟨inTime, restSwept⟩ := swept
      obtain ⟨leavesFirst, leavesRest⟩ := List.forall_mem_cons.mp leaves
      have inStepAfter := inStep.perform operation
      have sameSettings := settings_perform inStep operation
      rcases early_or_due ticking inTime with early | rfl
      · obtain ⟨tickingAfter, noTick⟩ :=
          ticking_perform inStep (ticking.perform leavesFirst early)
        rcases inductionHypothesis inStepAfter tickingAfter restSwept leavesRest with
          ⟨count, keptAlive⟩ | ⟨before, due, later, count, rfl, isDue, keptAlive, isLost⟩
        · exact Or.inl ⟨count, keptAlive.cons_of_quiet sameSettings noTick⟩
        · rw [sameSettings] at isDue isLost
          rw [← heard_cons] at isLost
          exact Or.inr ⟨operation :: before, due, later, count, rfl, isDue,
            keptAlive.cons_of_quiet sameSettings noTick, isLost⟩
      · by_cases silent : heard + table.settings.deadInterval < first
        · have isDue : first = first + 0 * table.settings.keepaliveInterval := by
            simp
          exact Or.inr ⟨[], first, rest, 0, rfl, isDue, .nil inStep ticking, silent⟩
        · obtain ⟨tickingAfter, probed⟩ :=
            ticking_perform inStep (ticking.sweep_of_heard (Nat.not_lt.mp silent))
          rcases inductionHypothesis inStepAfter tickingAfter restSwept leavesRest with
            ⟨count, keptAlive⟩ | ⟨before, due, later, count, rfl, isDue, keptAlive, isLost⟩
          · exact Or.inl ⟨count + 1, keptAlive.cons_of_probe sameSettings rfl probed⟩
          · rw [sameSettings] at isDue isLost
            exact Or.inr ⟨.sweep first :: before, due, later, count + 1, rfl,
              isDue.trans (due_succ _ _ count).symm,
              keptAlive.cons_of_probe sameSettings rfl probed, isLost⟩

/-- An interface that was made eligible is due for its first probe at once. -/
theorem ticking_of_up
    (inStep : table.InStep [])
    {now : Nat}
    {raised : LinkTable}
    (isRaised : table.up id now = .ok (raised, true)) :
    ∃ heard, (raised.view id).Ticking false now heard := by
  have answered := answer_up table id now
  simp only [answer, isRaised, Except.map] at answered
  cases found : table.link? id with
  | none =>
      rw [found] at answered
      cases answered
  | some link =>
      have notEligible : link.eligible = false := by
        simpa [found] using answered
      have notRunning : link.running = false := by
        rw [Bool.eq_false_iff]
        intro running
        exact Bool.false_ne_true (notEligible.symm.trans (inStep.eligible_of_link found running))
      have foundAfter := (Replaces.up inStep isRaised).own
      rw [found] at foundAfter
      exact ⟨link.lastHeard, _, foundAfter, .raised notEligible notRunning now⟩

/-- A link that came up was heard of just now and is probed one interval later. -/
theorem ticking_of_onFrame
    (inStep : table.InStep [])
    {frame : Frame}
    {now : Nat}
    (down : table.isRunning frame.id = false)
    (isUp : (table.onFrame frame now).1.isRunning frame.id = true) :
    ((table.onFrame frame now).1.view frame.id).Ticking true
      (now + table.settings.keepaliveInterval) now := by
  have foundAfter := link?_onFrame inStep frame now
  rw [isRunning_eq_any, foundAfter] at isUp
  rw [isRunning_eq_any] at down
  cases found : table.link? frame.id with
  | none =>
      rw [found] at isUp
      cases isUp
  | some link =>
      rw [found] at down isUp foundAfter
      exact ⟨_, foundAfter, .of_up _ frame down isUp⟩

/--
Suppose that timers are swept when they are due, whatever else happens. From the time at
which an interface is made eligible it is probed at every retry interval, and from the time
at which its link comes up at every keepalive interval, the first time one interval later,
unless the last frame was heard longer ago than the dead interval. Then the link is lost at
that time, and the interface is probed at every retry interval after it.
-/
theorem ticks_without_drift
    (settings : LinkSettings)
    (earlier : List Operation)
    (id : InterfaceId) :
    let table := ((ofSettings settings).run earlier).1
    (∀ now raised, table.up id now = .ok (raised, true) → raised.TrainsFrom id now) ∧
      ∀ frame now, frame.id = id → table.isRunning id = false →
        let after := (table.onFrame frame now).1
        after.isRunning id = true →
          after.KeptAliveFrom id (now + settings.keepaliveInterval) now := by
  intro table
  have inStep : table.InStep [] := (inStep_ofSettings settings).run earlier
  have sameSettings : table.settings = settings := by
    have seen := (Shows.run (inStep_ofSettings settings) earlier id).view
    exact (congrArg LinkView.settings seen).trans (LinkView.settings_run id _ earlier)
  constructor
  · intro now raised isRaised
    obtain ⟨heard, ticking⟩ := ticking_of_up inStep isRaised
    exact trainsFrom_of_ticking (inStep.up isRaised) ticking
  · rintro frame now rfl down after isUp
    have ticking := ticking_of_onFrame inStep down isUp
    rw [sameSettings] at ticking
    exact keptAliveFrom_of_ticking (inStep.onFrame frame now) ticking

/-- A sweep is on time if no timer is overdue. -/
theorem onTime_of_entries
    {now : Nat}
    (notOverdue : ∀ entry ∈ table.timers.timers,
      entry.2.linked = true → now ≤ entry.2.expires) :
    table.OnTime now :=
  fun handle timer slot =>
    notOverdue (handle, timer) (AssociationList.mem_of_lookup slot)

/--
An interface is probed twice in training, although it is made eligible and registered once
more. Its link, once up, is heard of again after six seconds only, and it is lost when it
was silent for more than fifteen.
-/
theorem ticks_of_handset :
    let table := ((ofSettings {}).run [.add 1 none 0]).1
    let raised := (table.perform (.up 1 7)).1
    let later : List Operation := [.sweep 7, .up 1 300, .add 1 none 600, .sweep 1007]
    let up := ((raised.perform (.sweep 7)).1.onFrame (.ack 1) 100).1
    let during : List Operation :=
      [.sweep 5100, .frame (.probe 1 1) 6000, .sweep 10100, .sweep 15100, .sweep 20100,
        .sweep 25100, .sweep 26100]
    raised.SweptInTime later ∧ (∀ operation ∈ later, operation.leavesLink 1 false = true) ∧
      raised.TrainsFrom 1 7 ∧ raised.ticks 1 later = probes 7 1000 2 ∧
      up.SweptInTime during ∧ (∀ operation ∈ during, operation.leavesLink 1 true = true) ∧
      up.KeptAliveFrom 1 5100 100 ∧
      up.ticks 1 during =
        probes 5100 5000 4 ++ (some 25100, .lost) :: probes 26100 1000 1 := by
  intro table raised later up during
  have sweptLater : raised.SweptInTime later := by
    refine ⟨?_, ?_, ?_, ?_, trivial⟩ <;>
      (rintro _ ⟨⟩; exact onTime_of_entries (by decide +kernel))
  have sweptDuring : up.SweptInTime during := by
    refine ⟨?_, ?_, ?_, ?_, ?_, ?_, ?_, trivial⟩ <;>
      (rintro _ ⟨⟩; exact onTime_of_entries (by decide +kernel))
  have trains : raised.TrainsFrom 1 7 :=
    (ticks_without_drift {} [.add 1 none 0] 1).1 7 raised rfl
  have keptAlive : up.KeptAliveFrom 1 5100 100 :=
    (ticks_without_drift {} [.add 1 none 0, .up 1 7, .sweep 7] 1).2 (.ack 1) 100 rfl
      (by decide +kernel) (by decide +kernel)
  exact ⟨sweptLater, by decide, trains, by decide +kernel, sweptDuring, by decide, keptAlive,
    by decide +kernel⟩

end LinkTable

end StationLink
