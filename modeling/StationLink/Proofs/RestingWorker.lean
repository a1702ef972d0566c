import StationLink.Proofs.LinkHistories
import StationLink.Session

namespace StationLink

/-!
# The worker rests after a sweep

A sweep hands over every timer that is due, and whatever is linked meanwhile is linked for
a later instant, since no interval is zero. `LinkTable.NoneDue` is what each handled timer
keeps, so it holds of the table that a sweep leaves, whatever the table has been through.

The worker therefore never finds at once another timer to handle: either no timer is
linked and it waits without an alarm, or it waits for a later instant
(`Session.worker_rests_after_sweep`). That is so also if it has to wait for room in the
channel before it has done what the sweep asks for, and if writes fail meanwhile.
-/

/-! ## How long until a timer is due -/

namespace TimerQueue

variable {α : Type} {queue : TimerQueue α}

/-- A queue is empty exactly if no timer is linked. -/
theorem WellFormed.isEmpty_iff
    (wellFormed : queue.WellFormed) :
    queue.isEmpty = true ↔ ∀ handle, queue.isLinked handle = false := by
  constructor
  · intro isEmpty handle
    have noEntry : queue.schedule.entries = [] := List.isEmpty_iff.mp isEmpty
    rw [isLinked_eq, Option.any_eq_false_iff_get]
    intro found
    refine Bool.eq_false_iff.mpr fun linked => ?_
    have listed := (wellFormed.scheduled _ handle).mpr
      ⟨_, (Option.some_get found).symm, linked, rfl⟩
    simp [SortedMap.get?, noEntry] at listed
  · intro noneLinked
    cases isSchedule : queue.schedule.entries with
    | nil =>
        simp [isEmpty, isSchedule]
    | cons entry rest =>
        have listed : entry ∈ queue.schedule.entries := by
          simp [isSchedule]
        obtain ⟨timer, found, linked, _⟩ := (wellFormed.mem_schedule_iff _ _).mp listed
        have notLinked := noneLinked entry.2
        simp [isLinked_eq, found, linked] at notLinked

/-- Where no timer is due, the wait is zero only if there is nothing to wait for. -/
theorem WellFormed.remaining_eq_zero_iff
    (wellFormed : queue.WellFormed)
    {now : Nat}
    (noneDue : ∀ handle timer, queue.get? handle = some timer → timer.linked = true →
      now < timer.expires) :
    queue.remaining now = 0 ↔ ∀ handle, queue.isLinked handle = false := by
  rw [← wellFormed.isEmpty_iff]
  cases isSchedule : queue.schedule.entries with
  | nil =>
      simp [remaining, nextExpiry?, SortedMap.keys, isEmpty, isSchedule]
  | cons entry rest =>
      have listed : entry ∈ queue.schedule.entries := by
        simp [isSchedule]
      obtain ⟨timer, found, linked, hasTurn⟩ := (wellFormed.mem_schedule_iff _ _).mp listed
      have isLater : now < entry.1.expires := by
        rw [← hasTurn]
        exact noneDue entry.2 timer found linked
      simp [remaining, nextExpiry?, SortedMap.keys, isEmpty, isSchedule]
      omega

end TimerQueue

namespace LinkTable

variable {table : LinkTable} {now : Nat}

/-! ## Timers after a sweep -/

/-- Every timer that is linked is due later. -/
def NoneDue (now : Nat) (table : LinkTable) : Prop :=
  ∀ handle timer, table.timers.get? handle = some timer → timer.linked = true →
    now < timer.expires

/-- The settings under which no timer is ever set for the instant at which it is set. -/
theorem positive_of_validate
    {settings : LinkSettings}
    (valid : settings.validate = .ok ()) :
    0 < settings.retryInterval ∧ 0 < settings.keepaliveInterval := by
  have positive := settings.validate_eq_ok_iff.mp valid
  exact ⟨positive .retry, positive .keepalive⟩

namespace NoneDue

variable {handle : TimerHandle} {expires : Nat}

/-- A timer that is set for a later instant is not due. -/
theorem setTimer
    (noneDue : table.NoneDue now)
    (isLater : now < expires) :
    (table.setTimer handle expires).NoneDue now := by
  intro other timer found linked
  rw [LinkTable.setTimer, TimerQueue.get?_change] at found
  split at found
  · obtain ⟨_, _, rfl⟩ := Option.map_eq_some_iff.mp found
    exact isLater
  · exact noneDue other timer found linked

/-- Stopping a timer makes none due. -/
theorem stopTimer
    (noneDue : table.NoneDue now) :
    (table.stopTimer handle).NoneDue now := by
  intro other timer found linked
  rw [LinkTable.stopTimer, TimerQueue.get?_unlink] at found
  split at found
  · obtain ⟨_, _, rfl⟩ := Option.map_eq_some_iff.mp found
    cases linked
  · exact noneDue other timer found linked

/-- A timer that is resumed for a later instant is not due. -/
theorem resumeTimer
    (noneDue : table.NoneDue now)
    (isLater : now < expires) :
    (table.resumeTimer handle expires).NoneDue now := by
  intro other timer found linked
  rw [LinkTable.resumeTimer, TimerQueue.get?_insert] at found
  split at found
  · obtain ⟨before, foundBefore, isTimer⟩ := Option.map_eq_some_iff.mp found
    split at isTimer
    · subst isTimer
      exact noneDue other before foundBefore linked
    · rw [← isTimer]
      exact isLater
  · exact noneDue other timer found linked

/-- A link that is lost is trained at a later instant. -/
theorem demote
    (noneDue : table.NoneDue now)
    (positive : 0 < table.settings.retryInterval)
    (id : InterfaceId)
    (record : LinkRecord) :
    (table.demote id record now).1.NoneDue now := by
  have stopped : (table.set id record.demoted).NoneDue now := noneDue
  unfold LinkTable.demote
  split
  · exact stopped.setTimer (Nat.lt_add_of_pos_right positive)
  · exact stopped.stopTimer

/-- A timer that is handled is set for a later instant, if at all. -/
theorem onTimer
    (noneDue : table.NoneDue now)
    (valid : table.settings.validate = .ok ())
    (handle : TimerHandle)
    (id : InterfaceId) :
    (table.onTimer handle id now).1.NoneDue now := by
  obtain ⟨retryPositive, keepalivePositive⟩ := positive_of_validate valid
  unfold LinkTable.onTimer
  split
  · exact noneDue
  · next record found =>
      split
      · exact noneDue
      · split
        · split
          · exact noneDue.demote retryPositive id record
          · exact noneDue.resumeTimer (Nat.lt_add_of_pos_right keepalivePositive)
        · split
          · exact noneDue.resumeTimer (Nat.lt_add_of_pos_right retryPositive)
          · exact noneDue

end NoneDue

/-- Handling a timer leaves the settings alone. -/
@[simp] theorem settings_onTimer
    (table : LinkTable)
    (handle : TimerHandle)
    (id : InterfaceId)
    (now : Nat) :
    (table.onTimer handle id now).1.settings = table.settings := by
  unfold onTimer
  split
  · rfl
  · simp only [demote]
    repeat' split
    all_goals rfl

/-- After some timers were handled all that are linked are due later. -/
theorem NoneDue.onTimers
    (noneDue : table.NoneDue now)
    (valid : table.settings.validate = .ok ())
    (timers : List (TimerHandle × InterfaceId)) :
    (table.onTimers now timers).1.NoneDue now := by
  induction timers generalizing table with
  | nil =>
      exact noneDue
  | cons entry rest inductionHypothesis =>
      have sameSettings := settings_onTimer table entry.1 entry.2 now
      rw [← sameSettings] at valid
      exact inductionHypothesis (noneDue.onTimer (sameSettings ▸ valid) entry.1 entry.2) valid

/-- A sweep leaves no timer behind that is due. -/
theorem noneDue_sweep
    (wellFormed : table.timers.WellFormed)
    (valid : table.settings.validate = .ok ())
    (now : Nat) :
    (table.sweep now).1.NoneDue now := by
  have taken : { table with timers := (table.timers.takeDue now).2 }.NoneDue now := by
    intro handle timer found linked
    have isLater := ((wellFormed.get?_takeDue_of_linked now linked).mp found).2
    omega
  exact taken.onTimers valid (table.timers.takeDue now).1

/-- What a sweep of the queue does with each timer: the table handles it. -/
def sweepHandler
    (now : Nat)
    (handle : TimerHandle)
    (id : InterfaceId)
    (before : (LinkTable × List Action) × TimerQueue InterfaceId) :
    (LinkTable × List Action) × TimerQueue InterfaceId :=
  let ((table, actions), timers) := before
  let (table, others) := { table with timers }.onTimer handle id now
  ((table, actions ++ others), table.timers)

/-- A sweep of a table is an expiry of its queue with the handler of a sweep. -/
theorem foldl_sweepHandler
    (table : LinkTable)
    (now : Nat)
    (due : List (TimerHandle × InterfaceId))
    (actions : List Action)
    (timers : TimerQueue InterfaceId) :
    let last := due.foldl (fun state entry => sweepHandler now entry.1 entry.2 state)
      ((table, actions), timers)
    let handled := { table with timers }.onTimers now due
    { last.1.1 with timers := last.2 } = handled.1 ∧ last.1.2 = actions ++ handled.2 := by
  induction due generalizing table actions timers with
  | nil =>
      simp [onTimers]
  | cons entry rest inductionHypothesis =>
      let next := { table with timers }.onTimer entry.1 entry.2 now
      have later := inductionHypothesis next.1 (actions ++ next.2) next.1.timers
      exact ⟨later.1, later.2.trans (List.append_assoc _ _ _)⟩

/-- A sweep of a table is a sweep of its timer queue whose timers the table handles. -/
theorem sweep_eq_expire
    (table : LinkTable)
    (now : Nat) :
    let outcome := table.timers.expire now (sweepHandler now) (table, [])
    table.sweep now = ({ outcome.1.1.1 with timers := outcome.1.2 }, outcome.1.1.2) ∧
      outcome.2 = (table.sweep now).1.timers.remaining now := by
  intro outcome
  obtain ⟨sameTable, sameActions⟩ := foldl_sweepHandler table now (table.timers.takeDue now).1 []
    (table.timers.takeDue now).2
  have isSweep : table.sweep now =
      ({ outcome.1.1.1 with timers := outcome.1.2 }, outcome.1.1.2) :=
    Prod.ext sameTable.symm sameActions.symm
  refine ⟨isSweep, ?_⟩
  rw [isSweep]
  rfl

/-- No happening changes the settings. -/
theorem settings_undergo
    {pending : List (TimerHandle × InterfaceId)}
    (inStep : table.InStep pending)
    (happening : Happening) :
    (table.undergo happening).1.settings = table.settings := by
  cases happening with
  | performed operation =>
      exact settings_perform inStep operation
  | taken now =>
      rfl
  | handled handle id now =>
      exact settings_onTimer table handle id now

/-- No history changes the settings. -/
theorem settings_undergoAll
    {pending : List (TimerHandle × InterfaceId)}
    (inStep : table.InStep pending)
    (happenings : List Happening) :
    (table.undergoAll happenings).1.settings = table.settings := by
  induction happenings generalizing table pending with
  | nil =>
      rfl
  | cons happening rest inductionHypothesis =>
      obtain ⟨_, inStepAfter⟩ := inStep.exists_undergo happening
      exact (inductionHypothesis inStepAfter).trans (settings_undergo inStep happening)

/-- Taking an interface down links no timer. -/
theorem unlinked_shut
    (noneLinked : ∀ handle, table.timers.isLinked handle = false)
    (id : InterfaceId) :
    ∀ handle, (table.shut id).1.timers.isLinked handle = false := by
  intro handle
  have isUnlinked := noneLinked handle
  unfold shut
  split
  · next record found =>
      simp only [stopTimer, set, TimerQueue.isLinked_eq, TimerQueue.get?_unlink] at isUnlinked ⊢
      split
      · cases table.timers.get? handle <;> rfl
      · exact isUnlinked
  · exact isUnlinked

/-- No timer is linked by taking interfaces down. -/
theorem unlinked_shutAll
    (noneLinked : ∀ handle, table.timers.isLinked handle = false)
    (ids : List InterfaceId) :
    ∀ handle, (table.shutAll ids).1.timers.isLinked handle = false := by
  induction ids generalizing table with
  | nil =>
      exact noneLinked
  | cons id rest inductionHypothesis =>
      exact inductionHypothesis (unlinked_shut noneLinked id)

end LinkTable

/-! ## The worker -/

namespace Session

/--
What a worker has come to that has swept a table and found how long to wait: since then
the table has changed only in that interfaces were taken down because of failed writes.
Something that the sweep asked for still has to wait, or the worker waits, without an alarm
if the wait was zero and for that long otherwise.
-/
structure EndsSweep (swept : LinkTable) (wait : Nat) (session : Session) : Prop where
  shut : ∃ ids, session.mux.table = (swept.shutAll ids).1
  worker :
    (∃ backlog, backlog ≠ [] ∧ session.worker = .blocked backlog (.pause wait)) ∨
      (session.worker = .waiting none ∧ wait = 0) ∨
        (session.worker = .waiting (some (session.now + wait)) ∧ 0 < wait)

/-- A sweep of a session goes on with what its multiplexer leaves to be done. -/
theorem sweep_eq_proceed
    (session : Session)
    (patient : Bool) :
    session.sweep patient =
      session.proceed (session.mux.sweep patient session.stint? session.now).1
        (.pause (session.mux.sweep patient session.stint? session.now).2) :=
  rfl

section Waiting

variable {swept : LinkTable} {wait : Nat}
variable (wellFormed : ∀ ids, (swept.shutAll ids).1.timers.WellFormed)
variable (unlinked : wait = 0 → ∀ handle, swept.timers.isLinked handle = false)
include wellFormed unlinked

/-- A worker that pauses after a sweep has ended it. -/
theorem endsSweep_pause
    {session : Session}
    (shut : ∃ ids, session.mux.table = (swept.shutAll ids).1) :
    EndsSweep swept wait (session.pause wait) := by
  obtain ⟨ids, isShut⟩ := shut
  refine ⟨⟨ids, isShut⟩, Or.inr ?_⟩
  by_cases isZero : wait = 0
  · have isEmpty : session.mux.table.timers.isEmpty = true := by
      rw [isShut, (wellFormed ids).isEmpty_iff]
      exact LinkTable.unlinked_shutAll (unlinked isZero) ids
    refine Or.inl ⟨?_, isZero⟩
    simp [pause, isZero, isEmpty]
  · refine Or.inr ⟨?_, Nat.pos_of_ne_zero isZero⟩
    simp [pause, isZero]

/-- Carrying out what the sweep asked for ends in waiting, for room or for the next timer. -/
theorem endsSweep_proceed
    {execution : Multiplexer.Execution}
    (shut : ∃ ids, execution.mux.table = (swept.shutAll ids).1)
    (session : Session) :
    EndsSweep swept wait (session.proceed execution (.pause wait)) := by
  unfold proceed
  split
  · exact endsSweep_pause wellFormed unlinked shut
  · next waits =>
      exact ⟨shut, Or.inl ⟨execution.backlog, by simpa using waits, rfl⟩⟩

/-- A worker that had to wait for room goes on where it was. -/
theorem endsSweep_turn
    {session after : Session}
    {backlog : List Action}
    (endsSweep : EndsSweep swept wait session)
    (blocked : session.worker = .blocked backlog (.pause wait))
    (turned : session.turn? = some after) :
    EndsSweep swept wait after := by
  obtain ⟨ids, isShut⟩ := endsSweep.shut
  obtain ⟨others, shutAfter⟩ :=
    session.redeem.exists_shutAll_executeFor true session.stint? backlog
  have shut : ∃ ids, (session.redeem.executeFor true session.stint? backlog).mux.table =
      (swept.shutAll ids).1 := by
    refine ⟨ids ++ others, shutAfter.trans ?_⟩
    rw [LinkTable.shutAll_append, ← isShut]
    rfl
  simp only [turn?, blocked, Option.ite_none_left_eq_some, Option.some.injEq] at turned
  rw [← turned.2]
  exact endsSweep_proceed wellFormed unlinked shut session

end Waiting

/--
With settings that are accepted, a sweep leaves no timer that is due at its instant,
whatever the table has been through; so the wait it returns is zero exactly if no timer is
linked. A worker that sweeps then waits, as soon as it could do what the sweep asks for: it
waits without an alarm exactly if the wait is zero, and else for a later instant.
-/
theorem worker_rests_after_sweep
    {settings : LinkSettings}
    (valid : settings.validate = .ok ())
    (happenings : List LinkTable.Happening)
    (now : Nat) :
    let table := ((LinkTable.ofSettings settings).undergoAll happenings).1
    let outcome := table.timers.expire now (LinkTable.sweepHandler now) (table, [])
    let swept := { outcome.1.1.1 with timers := outcome.1.2 }
    let wait := outcome.2
    (∀ handle timer, swept.timers.get? handle = some timer → timer.linked = true →
      now < timer.expires) ∧
    (wait = 0 ↔ ∀ handle, swept.timers.isLinked handle = false) ∧
    (∀ (session : Session) (patient : Bool), session.mux.table = table → session.now = now →
      EndsSweep swept wait (session.sweep patient)) ∧
    ∀ (session after : Session) (backlog : List Action), EndsSweep swept wait session →
      session.worker = .blocked backlog (.pause wait) → session.turn? = some after →
        EndsSweep swept wait after := by
  intro table outcome swept wait
  have start := LinkTable.inStep_ofSettings settings
  obtain ⟨pending, inStep⟩ := start.exists_undergoAll happenings
  have sameSettings : table.settings = settings :=
    LinkTable.settings_undergoAll start happenings
  have stillValid : table.settings.validate = .ok () := by
    rw [sameSettings]
    exact valid
  obtain ⟨isSweep, isWait⟩ := table.sweep_eq_expire now
  have isSwept : (table.sweep now).1 = swept := congrArg Prod.fst isSweep
  have sweptInStep : swept.InStep pending := isSwept ▸ inStep.sweep now
  have noneDue : swept.NoneDue now := by
    rw [← isSwept]
    exact LinkTable.noneDue_sweep inStep.wellFormed stillValid now
  have zero_iff : wait = 0 ↔ ∀ handle, swept.timers.isLinked handle = false := by
    rw [← sweptInStep.wellFormed.remaining_eq_zero_iff noneDue, ← isSwept, ← isWait]
  have wellFormed : ∀ ids, (swept.shutAll ids).1.timers.WellFormed :=
    fun ids => (sweptInStep.shutAll ids).wellFormed
  refine ⟨noneDue, zero_iff, ?_, ?_⟩
  · intro session patient sameTable sameTime
    have sameWait : (session.mux.sweep patient session.stint? session.now).2 = wait := by
      rw [Multiplexer.sweep, sameTable, sameTime]
      exact isWait.symm
    obtain ⟨ids, shut⟩ := Multiplexer.exists_shutAll_executeFor
      { session.mux with table := swept } patient session.stint? (table.sweep now).2
    have shutAfter : ∃ ids, (session.mux.sweep patient session.stint? session.now).1.mux.table =
        (swept.shutAll ids).1 := by
      refine ⟨ids, ?_⟩
      rw [Multiplexer.sweep, sameTable, sameTime, ← shut, ← isSwept]
    rw [sweep_eq_proceed, sameWait]
    exact endsSweep_proceed wellFormed zero_iff.mp shutAfter session
  · intro session after backlog endsSweep blocked turned
    exact endsSweep_turn wellFormed zero_iff.mp endsSweep blocked turned

/-- Interface 1 is trained, interface 2 is not eligible, and the first probe is refused. -/
theorem worker_rests_after_refused_probe :
    let happenings : List LinkTable.Happening :=
      [.performed (.add 1 none 0), .performed (.up 1 0), .performed (.add 2 none 0)]
    let table := ((LinkTable.ofSettings {}).undergoAll happenings).1
    let session : Session :=
      { mux := { Multiplexer.ofSettings {} with table, line := { accepts := fun _ => false } } }
    ({} : LinkSettings).validate = .ok () ∧
      EndsSweep (table.sweep 0).1 1000 (session.sweep true) ∧
      (session.sweep true).worker = .waiting (some 1000) ∧
      (session.sweep true).mux.table.timers.isEmpty = true := by
  intro happenings table session
  have valid : ({} : LinkSettings).validate = .ok () := by
    decide
  obtain ⟨_, _, sweeps, _⟩ := worker_rests_after_sweep valid happenings 0
  exact ⟨valid, sweeps session true rfl rfl, by decide +kernel, by decide +kernel⟩

end Session

end StationLink
