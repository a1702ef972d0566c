import StationLink.Proofs.TimerAgenda

namespace StationLink

/-!
# Sweeps with handlers

The handler of a sweep may do anything to the very queue that is swept: free or move
timers that are still to be handed over, or link some that are due already. None of this
makes a difference to the sweep. `TimerQueue.expire_hands_over_due` says that the handler
is called once for each timer that was due when the sweep began, in the order of their
turns and with the data that they had then, and that the wait that is answered is the one
of the queue that all calls of the handler leave.
-/

/-! ## Handlers -/

/-- Calls that are made one after another, each chosen by the answers to those before. -/
inductive TimerProgram (α σ : Type) where
  | done (state : σ)
  | ask (call : TimerCall α) (next : TimerAnswer α → TimerProgram α σ)

namespace TimerProgram

variable {α σ : Type}

/-- What a program comes to, and the queue that it leaves. -/
def run (queue : TimerQueue α) : TimerProgram α σ → σ × TimerQueue α
  | .done state => (state, queue)
  | .ask call next => (next (queue.perform call).2).run (queue.perform call).1

/-- The calls that a program makes. -/
def calls (queue : TimerQueue α) : TimerProgram α σ → List (TimerCall α)
  | .done _ => []
  | .ask call next => call :: (next (queue.perform call).2).calls (queue.perform call).1

/-- A program leaves the queue that its calls leave. -/
theorem run_eq_calls
    (program : TimerProgram α σ)
    (queue : TimerQueue α) :
    (program.run queue).2 = (TimerCall.run TimerQueue.perform queue (program.calls queue)).1 := by
  induction program generalizing queue with
  | done state =>
      rfl
  | ask call next inductionHypothesis =>
      exact inductionHypothesis (queue.perform call).2 (queue.perform call).1

end TimerProgram

/-- What a handler has been handed, the calls that it has made, and its own state. -/
structure HandlerRecord (α σ : Type) where
  handedOver : List (TimerHandle × α) := []
  calls : List (TimerCall α) := []
  state : σ

/-- The handler that runs a program for each timer, with a record of what it does. -/
def HandlerRecord.handler
    {α σ : Type}
    (respond : TimerHandle → α → σ → TimerProgram α σ)
    (handle : TimerHandle)
    (data : α)
    (before : HandlerRecord α σ × TimerQueue α) :
    HandlerRecord α σ × TimerQueue α :=
  let (record, queue) := before
  let program := respond handle data record.state
  let (state, after) := program.run queue
  ({ handedOver := record.handedOver ++ [(handle, data)]
     calls := record.calls ++ program.calls queue
     state },
    after)

namespace TimerQueue

variable {α σ : Type} {queue : TimerQueue α}

/-- A handler is called once for each timer of a list, and its calls are made in order. -/
theorem foldl_handler
    (respond : TimerHandle → α → σ → TimerProgram α σ)
    (timers : List (TimerHandle × α))
    (before : HandlerRecord α σ × TimerQueue α) :
    let last := timers.foldl
      (fun state entry => HandlerRecord.handler respond entry.1 entry.2 state) before
    last.1.handedOver = before.1.handedOver ++ timers ∧
      ∃ calls, last.1.calls = before.1.calls ++ calls ∧
        last.2 = (TimerCall.run perform before.2 calls).1 := by
  induction timers generalizing before with
  | nil =>
      exact ⟨(List.append_nil _).symm, [], (List.append_nil _).symm, rfl⟩
  | cons entry rest inductionHypothesis =>
      obtain ⟨record, queue⟩ := before
      let program := respond entry.1 entry.2 record.state
      obtain ⟨handedOver, later, madeLater, leftLater⟩ :=
        inductionHypothesis (HandlerRecord.handler respond entry.1 entry.2 (record, queue))
      refine ⟨?_, program.calls queue ++ later, ?_, ?_⟩
      · exact handedOver.trans (List.append_assoc _ _ _)
      · exact madeLater.trans (List.append_assoc _ _ _)
      · have left : (HandlerRecord.handler respond entry.1 entry.2 (record, queue)).2 = _ :=
          program.run_eq_calls queue
        rw [TimerCall.run_append, ← left]
        exact leftLater

/-- The timers that are due, by growing turns. -/
def dueTimers (queue : TimerQueue α) (now : Nat) : List (TimerHandle × Timer α) :=
  (queue.dueHandles now).filterMap fun handle =>
    (queue.get? handle).map fun timer => (handle, timer)

theorem takeDue_eq_map
    (queue : TimerQueue α)
    (now : Nat) :
    (queue.takeDue now).1 = (queue.dueTimers now).map fun entry => (entry.1, entry.2.data) := by
  simp only [takeDue, due, dueTimers, List.map_filterMap, Option.map_map]
  rfl

theorem WellFormed.mem_dueTimers_iff
    (wellFormed : queue.WellFormed)
    (now : Nat)
    (handle : TimerHandle)
    (timer : Timer α) :
    (handle, timer) ∈ queue.dueTimers now ↔
      queue.get? handle = some timer ∧ timer.isDue now = true := by
  simp only [dueTimers, List.mem_filterMap, Option.map_eq_some_iff, Prod.mk.injEq]
  constructor
  · rintro ⟨_, listed, _, found, rfl, rfl⟩
    obtain ⟨other, foundOther, isDue⟩ := (wellFormed.mem_dueHandles_iff now _).mp listed
    cases found.symm.trans foundOther
    exact ⟨found, isDue⟩
  · rintro ⟨found, isDue⟩
    have listed := (wellFormed.mem_dueHandles_iff now handle).mpr ⟨timer, found, isDue⟩
    exact ⟨handle, listed, timer, found, rfl, rfl⟩

/-- The schedule lists the timers by growing turns, so the front of it does. -/
theorem WellFormed.pairwise_dueTimers
    (wellFormed : queue.WellFormed)
    (now : Nat) :
    (queue.dueTimers now).Pairwise fun one other => one.2.turn < other.2.turn := by
  have hasTurn : ∀ {turn handle timer}, (turn, handle) ∈ queue.schedule.entries →
      queue.get? handle = some timer → timer.turn = turn := by
    intro turn handle timer listed found
    obtain ⟨other, foundOther, _, rfl⟩ := (wellFormed.mem_schedule_iff turn handle).mp listed
    cases found.symm.trans foundOther
    rfl
  have front := wellFormed.growing.sublist
    (List.takeWhile_sublist fun entry => decide (entry.1.expires ≤ now))
  refine List.pairwise_filterMap.mpr (List.pairwise_map.mpr (front.imp_of_mem ?_))
  rintro ⟨one, handle⟩ ⟨other, otherHandle⟩ listed otherListed before
    ⟨_, first⟩ isFirst ⟨_, second⟩ isSecond
  obtain ⟨_, found, isEntry⟩ := Option.map_eq_some_iff.mp isFirst
  obtain ⟨_, foundOther, isOtherEntry⟩ := Option.map_eq_some_iff.mp isSecond
  cases isEntry
  cases isOtherEntry
  have isOne := hasTurn (List.takeWhile_subset _ listed) found
  have isOther := hasTurn (List.takeWhile_subset _ otherListed) foundOther
  simp only [isOne, isOther]
  exact before

/--
Whatever the handler does to the queue, it is called once for each timer that was linked
and due when the sweep began, by growing turns and with the data that they had then. The
queue it leaves is what its calls make of the queue without these timers, and the wait
that is answered is the one of that queue.
-/
theorem expire_hands_over_due
    (earlier : List (TimerCall α))
    (now : Nat)
    (respond : TimerHandle → α → σ → TimerProgram α σ)
    (state : σ) :
    let queue := (TimerCall.run perform .empty earlier).1
    let outcome := queue.expire now (HandlerRecord.handler respond) { state }
    let record := outcome.1.1
    let last := outcome.1.2
    (∃ timers : List (TimerHandle × Timer α),
      record.handedOver = timers.map (fun entry => (entry.1, entry.2.data)) ∧
        (timers.Pairwise fun one other => one.2.turn < other.2.turn) ∧
        ∀ handle timer, (handle, timer) ∈ timers ↔
          queue.get? handle = some timer ∧ timer.linked = true ∧ timer.expires ≤ now) ∧
      last = (TimerCall.run perform queue (.expire now :: record.calls)).1 ∧
      outcome.2 = last.agenda.remaining now := by
  intro queue outcome record last
  have wellFormed : queue.WellFormed := ((WellFormed.empty (α := α)).agenda_run earlier).1
  obtain ⟨handedOver, calls, made, left⟩ :=
    foldl_handler respond (queue.takeDue now).1
      ({ state : HandlerRecord α σ }, (queue.takeDue now).2)
  have isRecord : record.calls = calls := made.trans (List.nil_append calls)
  have isLast : last = (TimerCall.run perform queue (.expire now :: record.calls)).1 := by
    simp only [isRecord, TimerCall.run, perform_expire]
    exact left
  have lastWellFormed : last.WellFormed := by
    rw [isLast]
    exact (wellFormed.agenda_run (.expire now :: record.calls)).1
  have isDue : ∀ handle timer, (handle, timer) ∈ queue.dueTimers now ↔
      queue.get? handle = some timer ∧ timer.linked = true ∧ timer.expires ≤ now := by
    intro handle timer
    simp [wellFormed.mem_dueTimers_iff, Timer.isDue]
  refine ⟨⟨queue.dueTimers now, ?_, wellFormed.pairwise_dueTimers now, isDue⟩, isLast, ?_⟩
  · exact handedOver.trans (takeDue_eq_map queue now)
  · exact (lastWellFormed.agenda_remaining now).symm

/-- Both lamps are handed over, although the first gives up the second and is due again. -/
example :
    let queue : TimerQueue String :=
      (TimerCall.run perform .empty [.add 0 10 "red lamp", .add 0 10 "green lamp"]).1
    let respond : TimerHandle → String → Nat → TimerProgram String Nat :=
      fun handle data count =>
        .ask (.cancel 1) fun _ => .ask (.change handle 5) fun _ =>
          .ask (.add 20 15 data) fun _ => .done (count + 1)
    let outcome := queue.expire 20 (HandlerRecord.handler respond) { state := 0 }
    outcome.1.1.handedOver = [(0, "red lamp"), (1, "green lamp")] ∧
      outcome.1.1.state = 2 ∧
      outcome.1.2.due 20 = [(0, "red lamp"), (2, "red lamp"), (3, "green lamp")] ∧
      outcome.2 = 0 := by
  decide +kernel

end TimerQueue

end StationLink
