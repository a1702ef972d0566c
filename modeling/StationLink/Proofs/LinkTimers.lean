import Mathlib.Logic.ExistsUnique
import StationLink.Proofs.LinkOperations
import StationLink.Proofs.TimerQueue

namespace StationLink.LinkTable

/-!
# Timers in step with interfaces

Interfaces and timers are kept in two tables that every operation has to keep in
step. `Consistent` is what is promised: each interface has a timer of its own,
each timer an interface, and exactly the timers of eligible interfaces are
linked.

Sweeps go by the schedule of the queue and not by what a timer says of itself, so
`Consistent` also says what the schedule holds: the timers of eligible interfaces
and no other, each at its time. No eligible interface is left without a scheduled
retry or keepalive then, and the worker wakes up in time for it
(`Consistent.awaited`).

A sweep takes the timers that are due out of the queue before it handles them.
`InStep` is the invariant that also holds meanwhile: the timer of an eligible
interface is linked or is still waiting to be handled.
-/

/--
Every interface has a timer of its own, which is linked and in the schedule exactly
if the interface is eligible.
-/
structure Consistent (table : LinkTable) : Prop where
  eligible_of_running :
    ∀ {id record}, table.get? id = some record →
      record.running = true → record.eligible = true
  eligible_iff_linked :
    ∀ {id record}, table.get? id = some record →
      (record.eligible = true ↔ table.timers.isLinked record.timer = true)
  timer_exists :
    ∀ {id record}, table.get? id = some record →
      ∃ timer, table.timers.get? record.timer = some timer ∧ timer.data = id
  timer_injective :
    ∀ {one other first second},
      table.get? one = some first → table.get? other = some second →
      first.timer = second.timer → one = other
  owner_unique :
    ∀ entry ∈ table.timers.timers,
      ∃! id, ∃ record, table.get? id = some record ∧ record.timer = entry.1
  handles_nodup : (table.timers.timers.map (·.1)).Nodup
  /-- What is scheduled are the timers of eligible interfaces. -/
  eligible_iff_scheduled :
    ∀ {id record}, table.get? id = some record →
      (record.eligible = true ↔
        ∃ turn, (turn, record.timer) ∈ table.timers.schedule.entries)
  /-- What is scheduled is a linked timer, at the turn of its last linking. -/
  turn_of_scheduled :
    ∀ {turn handle}, (turn, handle) ∈ table.timers.schedule.entries →
      ∃ timer, table.timers.get? handle = some timer ∧
        timer.linked = true ∧ timer.turn = turn
  schedule_growing : table.timers.schedule.Growing
  /--
  The timer of an eligible interface has a time. The next expiry, up to which the worker
  waits, is not later, and a sweep at that time or later hands the timer over.
  -/
  awaited :
    ∀ {id record}, table.get? id = some record → record.eligible = true →
      ∃ timer next,
        table.timers.get? record.timer = some timer ∧
        table.timers.nextExpiry? = some next ∧
        next ≤ timer.expires ∧
        ∀ now, timer.expires ≤ now → (record.timer, id) ∈ (table.timers.takeDue now).1

/--
Every interface has a timer of its own, which is linked exactly if it is
eligible, where the timers still to be handled count as linked.
-/
structure InStep
    (pending : List (TimerHandle × InterfaceId))
    (table : LinkTable) : Prop where
  wellFormed : table.timers.WellFormed
  eligible_of_running :
    ∀ {id record}, table.get? id = some record →
      record.running = true → record.eligible = true
  timer_of_record :
    ∀ {id record}, table.get? id = some record →
      ∃ timer, table.timers.get? record.timer = some timer ∧ timer.data = id ∧
        (timer.linked = true → record.eligible = true) ∧
        (record.eligible = true → timer.linked = true ∨ (record.timer, id) ∈ pending)
  record_of_timer :
    ∀ {handle timer}, table.timers.get? handle = some timer →
      ∃ record, table.get? timer.data = some record ∧ record.timer = handle

namespace InStep

variable {table changed : LinkTable}
variable {pending later : List (TimerHandle × InterfaceId)}
variable {id : InterfaceId} {record : LinkRecord}

/-- Two interfaces do not share a timer. -/
theorem eq_of_sameTimer
    (inStep : table.InStep pending)
    {other : InterfaceId}
    {second : LinkRecord}
    (found : table.get? id = some record)
    (foundSecond : table.get? other = some second)
    (sameTimer : second.timer = record.timer) :
    other = id := by
  obtain ⟨_, slot, owner, _⟩ := inStep.timer_of_record found
  obtain ⟨_, otherSlot, otherOwner, _⟩ := inStep.timer_of_record foundSecond
  rw [sameTimer, slot] at otherSlot
  cases otherSlot
  exact otherOwner.symm.trans owner

/-- With no timer left to be handled, the timers of eligible interfaces are linked. -/
theorem linked_iff_eligible
    (inStep : table.InStep [])
    {timer : Timer InterfaceId}
    (found : table.get? id = some record)
    (slot : table.timers.get? record.timer = some timer) :
    timer.linked = true ↔ record.eligible = true := by
  obtain ⟨_, sameSlot, _, eligible, linked⟩ := inStep.timer_of_record found
  cases slot.symm.trans sameSlot
  constructor
  · exact eligible
  · intro isEligible
    rcases linked isEligible with isLinked | isPending
    · exact isLinked
    · cases isPending

/-- With no timer left to be handled, that of an eligible interface is handed over in time. -/
theorem awaited
    (inStep : table.InStep [])
    (found : table.get? id = some record)
    (eligible : record.eligible = true) :
    ∃ timer next,
      table.timers.get? record.timer = some timer ∧
      table.timers.nextExpiry? = some next ∧
      next ≤ timer.expires ∧
      ∀ now, timer.expires ≤ now → (record.timer, id) ∈ (table.timers.takeDue now).1 := by
  obtain ⟨timer, slot, owner, _⟩ := inStep.timer_of_record found
  have linked := (inStep.linked_iff_eligible found slot).mpr eligible
  have listed :=
    (inStep.wellFormed.mem_schedule_iff _ record.timer).mpr ⟨timer, slot, linked, rfl⟩
  obtain ⟨next, isNext, isLeast⟩ := inStep.wellFormed.exists_nextExpiry?_le listed
  refine ⟨timer, next, slot, isNext, isLeast, ?_⟩
  intro now hasExpired
  have isDue : timer.isDue now = true :=
    Bool.and_eq_true_iff.mpr ⟨linked, decide_eq_true hasExpired⟩
  rw [← owner]
  exact inStep.wellFormed.mem_due slot isDue

/-- Tables that are in step with no timer left to be handled are consistent. -/
theorem consistent
    (inStep : table.InStep []) :
    table.Consistent := by
  constructor
  · exact inStep.eligible_of_running
  · intro id record found
    obtain ⟨timer, slot, _⟩ := inStep.timer_of_record found
    rw [TimerQueue.isLinked_eq, slot]
    exact (inStep.linked_iff_eligible found slot).symm
  · intro id record found
    obtain ⟨timer, slot, owner, _⟩ := inStep.timer_of_record found
    exact ⟨timer, slot, owner⟩
  · intro one other first second foundFirst foundSecond sameTimer
    exact inStep.eq_of_sameTimer foundSecond foundFirst sameTimer
  · rintro ⟨handle, listed⟩ member
    obtain ⟨timer, slot⟩ := AssociationList.exists_lookup_of_mem member
    obtain ⟨record, found, hasTimer⟩ := inStep.record_of_timer slot
    refine ⟨timer.data, ⟨record, found, hasTimer⟩, ?_⟩
    rintro other ⟨owner, foundOwner, sameTimer⟩
    obtain ⟨_, otherSlot, isOwner, _⟩ := inStep.timer_of_record foundOwner
    simp only at sameTimer
    rw [sameTimer, TimerQueue.get?, slot] at otherSlot
    cases otherSlot
    exact isOwner.symm
  · exact inStep.wellFormed.nodup
  · intro id record found
    obtain ⟨timer, slot, _⟩ := inStep.timer_of_record found
    have scheduled := inStep.wellFormed.exists_mem_schedule_iff slot
    exact (scheduled.trans (inStep.linked_iff_eligible found slot)).symm
  · intro turn handle
    exact (inStep.wellFormed.mem_schedule_iff turn handle).mp
  · exact inStep.wellFormed.growing
  · exact inStep.awaited

/--
A change of one interface and its timer keeps all in step if the interface is
eligible afterwards where the timer is linked, and the timer is linked or waits to
be handled where the interface is eligible. Only this interface may cease to wait.
-/
theorem update
    (inStep : table.InStep pending)
    (found : table.get? id = some record)
    (updated : LinkRecord)
    (change : Timer InterfaceId → Timer InterfaceId)
    (records : ∀ other, changed.get? other =
      if other = id then some updated else table.get? other)
    (timers : ∀ handle, changed.timers.get? handle =
      if handle = record.timer then
        (table.timers.get? handle).map change
      else
        table.timers.get? handle)
    (wellFormed : changed.timers.WellFormed)
    (sameTimer : updated.timer = record.timer)
    (sameOwner : ∀ timer, (change timer).data = timer.data)
    (running : updated.running = true → updated.eligible = true)
    (eligible : ∀ {timer}, table.timers.get? record.timer = some timer →
      (change timer).linked = true → updated.eligible = true)
    (waits : ∀ {timer}, table.timers.get? record.timer = some timer →
      updated.eligible = true →
        (change timer).linked = true ∨ (record.timer, id) ∈ later)
    (others : ∀ entry ∈ pending, entry.2 ≠ id → entry ∈ later) :
    changed.InStep later := by
  obtain ⟨timer, slot, owner, _⟩ := inStep.timer_of_record found
  constructor
  · exact wellFormed
  · intro other record' foundOther
    rw [records] at foundOther
    split at foundOther
    · cases foundOther
      exact running
    · exact inStep.eligible_of_running foundOther
  · intro other record' foundOther
    rw [records] at foundOther
    split at foundOther
    · next isId =>
        cases foundOther
        subst other
        refine ⟨change timer, ?_, ?_, ?_, ?_⟩
        · rw [sameTimer, timers, if_pos rfl, slot]
          rfl
        · rw [sameOwner, owner]
        · exact eligible slot
        · rw [sameTimer]
          exact waits slot
    · next notId =>
        obtain ⟨otherTimer, otherSlot, otherOwner, eligible, waiting⟩ :=
          inStep.timer_of_record foundOther
        have differs : record'.timer ≠ record.timer := by
          intro same
          exact notId (inStep.eq_of_sameTimer found foundOther same)
        refine ⟨otherTimer, ?_, otherOwner, eligible, ?_⟩
        · rw [timers, if_neg differs]
          exact otherSlot
        · intro isEligible
          rcases waiting isEligible with isLinked | isPending
          · exact Or.inl isLinked
          · exact Or.inr (others _ isPending notId)
  · intro handle timer' foundTimer
    rw [timers] at foundTimer
    split at foundTimer
    · next isTimer =>
        subst handle
        rw [slot] at foundTimer
        cases foundTimer
        refine ⟨updated, ?_, sameTimer⟩
        rw [records, sameOwner, owner, if_pos rfl]
    · next notTimer =>
        obtain ⟨record', foundOther, hasTimer⟩ := inStep.record_of_timer foundTimer
        have notId : timer'.data ≠ id := by
          intro isId
          rw [isId, found] at foundOther
          cases foundOther
          exact notTimer hasTimer.symm
        refine ⟨record', ?_, hasTimer⟩
        rw [records, if_neg notId]
        exact foundOther

/-! ## Changes of one interface -/

/-- The timer of an interface that is registered is linked for a time. -/
theorem update_setTimer
    (inStep : table.InStep pending)
    (found : table.get? id = some record)
    (updated : LinkRecord)
    (sameTimer : updated.timer = record.timer)
    (eligible : updated.eligible = true)
    (expires : Nat)
    (others : ∀ entry ∈ pending, entry.2 ≠ id → entry ∈ later) :
    ((table.set id updated).setTimer record.timer expires).InStep later := by
  apply inStep.update found updated (·.relinked expires table.timers.nextLinking)
  · intro other
    rw [get?_setTimer, get?_set]
  · intro handle
    exact TimerQueue.get?_change table.timers record.timer handle expires
  · exact inStep.wellFormed.change record.timer expires
  · exact sameTimer
  · intro timer
    rfl
  · exact fun _ => eligible
  · exact fun _ _ => eligible
  · exact fun _ _ => Or.inl rfl
  · exact others

/-- The timer of an interface that is registered is detached. -/
theorem update_stopTimer
    (inStep : table.InStep pending)
    (found : table.get? id = some record)
    (updated : LinkRecord)
    (sameTimer : updated.timer = record.timer)
    (notEligible : updated.eligible = false)
    (notRunning : updated.running = false) :
    ((table.set id updated).stopTimer record.timer).InStep pending := by
  apply inStep.update found updated Timer.detached
  · intro other
    rw [get?_stopTimer, get?_set]
  · intro handle
    exact TimerQueue.get?_unlink table.timers record.timer handle
  · exact inStep.wellFormed.unlink record.timer
  · exact sameTimer
  · intro timer
    rfl
  · intro isRunning
    exact (Bool.false_ne_true (notRunning.symm.trans isRunning)).elim
  · intro timer _ isLinked
    exact (Bool.false_ne_true isLinked).elim
  · intro timer _ isEligible
    exact (Bool.false_ne_true (notEligible.symm.trans isEligible)).elim
  · exact fun _ member _ => member

/-- The timer of an eligible interface is linked if it is not linked already. -/
theorem resumeTimer
    (inStep : table.InStep pending)
    (found : table.get? id = some record)
    (eligible : record.eligible = true)
    (expires : Nat)
    (others : ∀ entry ∈ pending, entry.2 ≠ id → entry ∈ later) :
    (table.resumeTimer record.timer expires).InStep later := by
  apply inStep.update found record fun timer =>
    if timer.linked then timer else timer.relinked expires table.timers.nextLinking
  · intro other
    rw [get?_resumeTimer]
    split
    · next isId =>
        rw [isId]
        exact found
    · rfl
  · intro handle
    exact TimerQueue.get?_insert table.timers record.timer handle expires
  · exact inStep.wellFormed.insert record.timer expires
  · rfl
  · intro timer
    split <;> rfl
  · exact inStep.eligible_of_running found
  · exact fun _ _ => eligible
  · intro timer _ _
    left
    split
    · next isLinked =>
        exact isLinked
    · rfl
  · exact others

/-- What was chosen or heard about an interface may change, but not its timer. -/
theorem set
    (inStep : table.InStep pending)
    (found : table.get? id = some record)
    (updated : LinkRecord)
    (sameTimer : updated.timer = record.timer)
    (sameEligible : updated.eligible = record.eligible)
    (sameRunning : updated.running = record.running) :
    (table.set id updated).InStep pending := by
  obtain ⟨timer, slot, _, eligible, waiting⟩ := inStep.timer_of_record found
  apply inStep.update found updated fun timer => timer
  · intro other
    exact get?_set table id other updated
  · intro handle
    rw [Option.map_id']
    split <;> rfl
  · exact inStep.wellFormed
  · exact sameTimer
  · intro timer
    rfl
  · rw [sameRunning, sameEligible]
    exact inStep.eligible_of_running found
  · intro present isTimer
    obtain rfl := Option.some.inj (slot.symm.trans isTimer)
    exact sameEligible ▸ eligible
  · intro present isTimer
    obtain rfl := Option.some.inj (slot.symm.trans isTimer)
    exact sameEligible ▸ waiting
  · exact fun _ member _ => member

/-! ## Operations -/

/-- Taking an interface down detaches its timer. -/
theorem shut
    (inStep : table.InStep pending)
    (id : InterfaceId) :
    (table.shut id).1.InStep pending := by
  unfold LinkTable.shut
  split
  · next record found =>
      exact inStep.update_stopTimer found record.shut rfl rfl rfl
  · exact inStep

theorem shutPolitely
    (inStep : table.InStep pending)
    (id : InterfaceId) :
    (table.shutPolitely id).1.InStep pending := by
  have shut := inStep.shut id
  rw [LinkTable.shutPolitely]
  rcases outcome : table.shut id with ⟨after, _ | report⟩
  · rw [outcome] at shut
    exact shut
  · rw [outcome] at shut
    exact shut

theorem shutAll
    (inStep : table.InStep pending)
    (ids : List InterfaceId) :
    (table.shutAll ids).1.InStep pending := by
  induction ids generalizing table with
  | nil =>
      exact inStep
  | cons id rest inductionHypothesis =>
      exact inductionHypothesis (inStep.shut id)

/-- A link that comes up is due for a keepalive. -/
theorem promote
    (inStep : table.InStep pending)
    (found : table.get? id = some record)
    (eligible : record.eligible = true)
    (now : Nat) :
    (table.promote id record now).1.InStep pending := by
  apply inStep.update_setTimer found record.promoted
  · rfl
  · exact eligible
  · intro entry member _
    exact member

/-- A running link that is lost is trained again, since its interface is eligible. -/
theorem demote
    (inStep : table.InStep pending)
    (found : table.get? id = some record)
    (running : record.running = true)
    (now : Nat)
    (others : ∀ entry ∈ pending, entry.2 ≠ id → entry ∈ later) :
    (table.demote id record now).1.InStep later := by
  have eligible := inStep.eligible_of_running found running
  rw [LinkTable.demote, if_pos eligible]
  exact inStep.update_setTimer found record.demoted rfl eligible _ others

/-- An interface that is forgotten takes its timer with it. -/
theorem forget
    (inStep : table.InStep pending)
    (id : InterfaceId) :
    (table.forget id).InStep pending := by
  cases found : table.get? id with
  | none =>
      simpa only [LinkTable.forget, found] using inStep
  | some record =>
      have records : ∀ other, (table.forget id).get? other =
          if other = id then none else table.get? other :=
        get?_forget table id
      have forgotten :
          (table.forget id).timers = (table.timers.cancel record.timer).1 := by
        simp only [LinkTable.forget, found]
      have timers : ∀ handle, (table.forget id).timers.get? handle =
          if handle = record.timer then none else table.timers.get? handle := by
        intro handle
        rw [forgotten]
        exact TimerQueue.get?_cancel table.timers record.timer handle
      constructor
      · rw [forgotten]
        exact inStep.wellFormed.cancel record.timer
      · intro other kept foundOther
        rw [records] at foundOther
        split at foundOther
        · cases foundOther
        · exact inStep.eligible_of_running foundOther
      · intro other kept foundOther
        rw [records] at foundOther
        split at foundOther
        · cases foundOther
        · next notId =>
            obtain ⟨timer, slot, rest⟩ := inStep.timer_of_record foundOther
            have differs : kept.timer ≠ record.timer := by
              intro same
              exact notId (inStep.eq_of_sameTimer found foundOther same)
            refine ⟨timer, ?_, rest⟩
            rw [timers, if_neg differs]
            exact slot
      · intro handle timer slot
        rw [timers] at slot
        split at slot
        · cases slot
        · next notTimer =>
            obtain ⟨kept, foundOther, hasTimer⟩ := inStep.record_of_timer slot
            have notId : timer.data ≠ id := by
              intro isId
              rw [isId, found] at foundOther
              cases foundOther
              exact notTimer hasTimer.symm
            refine ⟨kept, ?_, hasTimer⟩
            rw [records, if_neg notId]
            exact foundOther

/-- The timers of interfaces that are removed are given up with them. -/
theorem removeAll
    (inStep : table.InStep pending)
    (ids : List InterfaceId) :
    (table.removeAll ids).1.InStep pending := by
  induction ids generalizing table with
  | nil =>
      exact inStep
  | cons id rest inductionHypothesis =>
      exact inductionHypothesis ((inStep.shutPolitely id).forget id)

/-- A new interface gets a new timer, which is not linked. -/
theorem add
    (inStep : table.InStep pending)
    (id : InterfaceId)
    (params? : Option InterfaceParams)
    (now : Nat) :
    (table.add id params? now).InStep pending := by
  unfold LinkTable.add
  cases found : table.get? id with
  | some record =>
      let params := params?.getD { channel := table.settings.defaultChannel }
      let hardwareName := params.hardwareName?.getD (defaultHardwareName id)
      have renamed := inStep.set found
        { record with channel := params.channel, hardwareName } rfl rfl rfl
      exact ⟨renamed.wellFormed, renamed.eligible_of_running,
        renamed.timer_of_record, renamed.record_of_timer⟩
  | none =>
      have notNext : ∀ {other record}, table.get? other = some record →
          record.timer ≠ table.timers.nextHandle := by
        intro other record foundOther isNext
        obtain ⟨timer, slot, _⟩ := inStep.timer_of_record foundOther
        rw [isNext, inStep.wellFormed.get?_nextHandle] at slot
        cases slot
      constructor
      · exact inStep.wellFormed.alloc now id
      · intro other record foundOther running
        rw [get?_set] at foundOther
        split at foundOther
        · cases foundOther
          cases running
        · exact inStep.eligible_of_running foundOther running
      · intro other record foundOther
        rw [get?_set] at foundOther
        split at foundOther
        · next isId =>
            cases foundOther
            refine
              ⟨{ expires := now, linking := 0, linked := false, data := id }, ?_,
              isId.symm, ?_, ?_⟩
            · refine (inStep.wellFormed.get?_alloc now id _).trans ?_
              exact if_pos rfl
            · intro linked
              cases linked
            · intro eligible
              cases eligible
        · obtain ⟨timer, slot, rest⟩ := inStep.timer_of_record foundOther
          refine ⟨timer, ?_, rest⟩
          refine (inStep.wellFormed.get?_alloc now id _).trans ?_
          rw [if_neg (notNext foundOther)]
          exact slot
      · intro handle timer slot
        have allocated :=
          (inStep.wellFormed.get?_alloc now id handle).symm.trans slot
        split at allocated
        · next isNew =>
            cases allocated
            refine ⟨_, (get?_set _ id id _).trans (if_pos rfl), isNew.symm⟩
        · obtain ⟨record, foundOther, hasTimer⟩ := inStep.record_of_timer allocated
          have notId : timer.data ≠ id := by
            intro isId
            rw [isId, found] at foundOther
            cases foundOther
          refine ⟨record, ?_, hasTimer⟩
          rw [get?_set, if_neg notId]
          exact foundOther

/-- An interface that becomes eligible is due for its first probe. -/
theorem up
    (inStep : table.InStep pending)
    {started : Bool}
    {now : Nat}
    (raised : table.up id now = .ok (changed, started)) :
    changed.InStep pending := by
  unfold LinkTable.up at raised
  split at raised
  · next record found =>
      split at raised
      · cases raised
        exact inStep
      · cases raised
        apply inStep.update_setTimer found { record with eligible := true }
        · rfl
        · rfl
        · intro entry member _
          exact member
  · cases raised

/-! ## Received frames -/

theorem onBlock
    (inStep : table.InStep pending)
    (found : table.get? id = some record)
    (command : Bool)
    (block : Block) :
    (table.onBlock id record command block).1.InStep pending :=
  inStep.set found _ rfl rfl rfl

/-- Whatever a frame brings about, its interface and its timer stay in step. -/
theorem onFrame
    (inStep : table.InStep pending)
    (frame : Frame)
    (now : Nat) :
    (table.onFrame frame now).1.InStep pending := by
  unfold LinkTable.onFrame
  cases found : table.get? frame.id with
  | none =>
      exact inStep
  | some silent =>
      have heard : (table.set frame.id (silent.hearing now)).InStep pending :=
        inStep.set found (silent.hearing now) rfl rfl rfl
      have foundHeard :
          (table.set frame.id (silent.hearing now)).get? frame.id =
            some (silent.hearing now) := by
        rw [get?_set, if_pos rfl]
      cases kind : frame.kind with
      | probe =>
          simp only
          split
          · exact heard
          · next notIneligible =>
              have eligible : silent.eligible = true :=
                Decidable.not_not.mp notIneligible
              split
              · exact heard
              · exact heard.promote foundHeard eligible now
      | ack =>
          simp only
          split
          · next training =>
              exact heard.promote foundHeard training.1 now
          · exact heard
      | disconnect =>
          simp only
          split
          · next running =>
              apply heard.demote foundHeard running now
              intro entry member _
              exact member
          · exact heard
      | data =>
          simp only
          split
          · exact heard.onBlock foundHeard frame.command frame.block
          · exact heard

/-! ## Sweeps -/

/-- A timer that is not that of an eligible interface need not be handled. -/
theorem weaken
    (inStep : table.InStep pending)
    (needless :
      ∀ {id record}, table.get? id = some record → record.eligible = true →
        (record.timer, id) ∈ pending → (record.timer, id) ∈ later) :
    table.InStep later := by
  refine ⟨inStep.wellFormed, inStep.eligible_of_running, ?_, inStep.record_of_timer⟩
  intro id record found
  obtain ⟨timer, slot, owner, eligible, waiting⟩ := inStep.timer_of_record found
  refine ⟨timer, slot, owner, eligible, ?_⟩
  intro isEligible
  rcases waiting isEligible with isLinked | isPending
  · exact Or.inl isLinked
  · exact Or.inr (needless found isEligible isPending)

/-- Handling a timer links it again if its interface is eligible. -/
theorem onTimer
    {handle : TimerHandle}
    (inStep : table.InStep ((handle, id) :: later))
    (now : Nat) :
    (table.onTimer handle id now).1.InStep later := by
  have others : ∀ entry ∈ (handle, id) :: later, entry.2 ≠ id → entry ∈ later := by
    intro entry member notId
    rcases List.mem_cons.mp member with isHead | isLater
    · rw [isHead] at notId
      exact (notId rfl).elim
    · exact isLater
  unfold LinkTable.onTimer
  cases found : table.get? id with
  | none =>
      apply inStep.weaken
      intro other record foundOther _ member
      rcases List.mem_cons.mp member with isHead | isLater
      · cases isHead
        rw [found] at foundOther
        cases foundOther
      · exact isLater
  | some record =>
      simp only
      split
      · next stale =>
          apply inStep.weaken
          intro other owner foundOther _ member
          rcases List.mem_cons.mp member with isHead | isLater
          · cases isHead
            rw [found] at foundOther
            cases foundOther
            exact (stale rfl).elim
          · exact isLater
      · next current =>
          have hasTimer : record.timer = handle := Decidable.not_not.mp current
          subst hasTimer
          split
          · next running =>
              split
              · exact inStep.demote found running now others
              · have eligible := inStep.eligible_of_running found running
                exact inStep.resumeTimer found eligible _ others
          · split
            · next eligible =>
                exact inStep.resumeTimer found eligible _ others
            · next notEligible =>
                apply inStep.weaken
                intro other owner foundOther eligible member
                rcases List.mem_cons.mp member with isHead | isLater
                · have isId : other = id := congrArg Prod.snd isHead
                  rw [isId, found] at foundOther
                  cases foundOther
                  exact (notEligible eligible).elim
                · exact isLater

/-- Handling what waits to be handled links the timers of eligible interfaces again. -/
theorem onTimers
    (inStep : table.InStep (pending ++ later))
    (now : Nat) :
    (table.onTimers now pending).1.InStep later := by
  induction pending generalizing table with
  | nil =>
      exact inStep
  | cons entry rest inductionHypothesis =>
      exact inductionHypothesis (inStep.onTimer now)

/-- Timers taken out of the queue because they are due wait for being handled. -/
theorem takeDue
    (inStep : table.InStep pending)
    (now : Nat) :
    { table with timers := (table.timers.takeDue now).2 }.InStep
      ((table.timers.takeDue now).1 ++ pending) := by
  constructor
  · exact inStep.wellFormed.takeDue now
  · exact inStep.eligible_of_running
  · intro id record found
    obtain ⟨timer, slot, owner, eligible, waiting⟩ := inStep.timer_of_record found
    have slotAfter := inStep.wellFormed.get?_takeDue now record.timer
    rw [slot, Option.map_some] at slotAfter
    refine ⟨_, slotAfter, ?_, ?_, ?_⟩
    · split
      · exact owner
      · exact owner
    · intro linked
      split at linked
      · cases linked
      · exact eligible linked
    · intro isEligible
      split
      · next isDue =>
          have member := inStep.wellFormed.mem_due slot isDue
          rw [owner] at member
          exact Or.inr (List.mem_append_left pending member)
      · exact (waiting isEligible).imp_right (List.mem_append_right _)
  · intro handle timer slot
    rw [inStep.wellFormed.get?_takeDue] at slot
    obtain ⟨before, slotBefore, isTimer⟩ := Option.map_eq_some_iff.mp slot
    have sameOwner : timer.data = before.data := by
      rw [← isTimer]
      split <;> rfl
    rw [sameOwner]
    exact inStep.record_of_timer slotBefore

/-- A sweep keeps interfaces and timers in step. -/
theorem sweep
    (inStep : table.InStep pending)
    (now : Nat) :
    (table.sweep now).1.InStep pending :=
  (inStep.takeDue now).onTimers now

end InStep

/-! ## Runs -/

theorem inStep_ofSettings
    (settings : LinkSettings) :
    (ofSettings settings).InStep [] := by
  constructor
  · exact TimerQueue.WellFormed.empty
  · intro id record found
    cases found
  · intro id record found
    cases found
  · intro handle timer slot
    cases slot

/-- Every operation keeps interfaces and timers in step. -/
theorem InStep.perform
    {table : LinkTable}
    {pending : List (TimerHandle × InterfaceId)}
    (inStep : table.InStep pending)
    (operation : Operation) :
    (table.perform operation).1.InStep pending := by
  cases operation with
  | add id params? now =>
      exact inStep.add id params? now
  | up id now =>
      simp only [LinkTable.perform]
      split
      · next raised =>
          exact inStep.up raised
      · exact inStep
  | down id =>
      simp only [LinkTable.perform, down]
      cases found : table.get? id with
      | none =>
          exact inStep
      | some record =>
          exact inStep.shutPolitely id
  | remove id =>
      simp only [LinkTable.perform, remove, down]
      cases found : table.get? id with
      | none =>
          exact inStep
      | some record =>
          exact (inStep.shutPolitely id).forget id
  | teardown =>
      exact inStep.removeAll table.records.keys
  | frame frame now =>
      exact inStep.onFrame frame now
  | writeFailed id =>
      exact inStep.shut id
  | transportLost =>
      exact inStep.shutAll table.records.keys
  | setFilter filter? =>
      exact ⟨inStep.wellFormed, inStep.eligible_of_running,
        inStep.timer_of_record, inStep.record_of_timer⟩
  | sweep now =>
      exact inStep.sweep now

/-- A run keeps interfaces and timers in step. -/
theorem InStep.run
    {table : LinkTable}
    {pending : List (TimerHandle × InterfaceId)}
    (inStep : table.InStep pending)
    (operations : List Operation) :
    (table.run operations).1.InStep pending := by
  induction operations generalizing table with
  | nil =>
      exact inStep
  | cons operation rest inductionHypothesis =>
      exact inductionHypothesis (inStep.perform operation)

/--
After any operations each interface has a timer of its own, each timer belongs
to one interface, and exactly the timers of eligible interfaces are linked and in
the schedule, from which they are handed over when they are due.
-/
theorem consistent_run
    (settings : LinkSettings)
    (operations : List Operation) :
    ((ofSettings settings).run operations).1.Consistent :=
  ((inStep_ofSettings settings).run operations).consistent

/-- An interface that is raised is awaited at once, and after its first probe for a retry. -/
example :
    let raised := ((ofSettings {}).run [.add 7 none 0, .up 7 100]).1
    let probed := (raised.sweep 100).1
    raised.timers.nextExpiry? = some 100 ∧
      probed.timers.nextExpiry? = some 1100 ∧
      (probed.timers.takeDue 1100).1 = [(0, 7)] := by
  decide +kernel

end StationLink.LinkTable
