import StationLink.Proofs.HardwareNames
import StationLink.Proofs.TransportState

namespace StationLink

/-!
# Closing

Closing a multiplexer takes every interface out of its tables, whichever frames the line
still takes. The loss of each link that was up is reported, its peer is told once, nothing
is said about other interfaces, and then the reports end (`Multiplexer.close_complete`).
Only the first time counts: closing again does nothing, whatever was done in between.
-/

namespace LinkTable

/-- There is nothing in any of the tables. -/
structure Bare (table : LinkTable) : Prop where
  records : table.records.entries = []
  names : table.names.toList = []
  noneNamed : table.names.size = 0
  timers : table.timers.timers = []
  schedule : table.timers.schedule.entries = []

/-- What is left of a table without interfaces is nothing. -/
theorem bare_of_missing
    {table : LinkTable}
    {pending : List (TimerHandle × InterfaceId)}
    (inStep : table.InStep pending)
    (indexed : table.Indexed)
    (missing : ∀ id, table.get? id = none) :
    table.Bare := by
  have noNames := indexed.toList_eq_nil missing
  have noTimer : ∀ handle, table.timers.get? handle = none := by
    intro handle
    refine Option.eq_none_iff_forall_ne_some.mpr fun timer slot => ?_
    obtain ⟨record, found, _⟩ := inStep.record_of_timer slot
    cases (missing timer.data).symm.trans found
  constructor
  · exact AssociationList.eq_nil_of_lookup missing
  · exact noNames
  · rw [BucketMap.size, indexed.wellFormed.counted, noNames]
    rfl
  · exact AssociationList.eq_nil_of_lookup noTimer
  · refine AssociationList.eq_nil_of_lookup fun turn => ?_
    refine Option.eq_none_iff_forall_ne_some.mpr fun handle isScheduled => ?_
    obtain ⟨timer, slot, _⟩ := (inStep.wellFormed.scheduled turn handle).mp isScheduled
    cases (noTimer handle).symm.trans slot

end LinkTable

namespace Multiplexer

variable {mux : Multiplexer}

theorem Orderly.indexed
    (orderly : mux.Orderly) :
    mux.table.Indexed := by
  obtain ⟨settings, operations, reached⟩ := orderly.reachable
  rw [← reached]
  exact .run settings operations

/-- Where no link is up nothing is to be said about any. -/
theorem Orderly.losses_of_notOpen
    (orderly : mux.Orderly)
    (isClosed : mux.isOpen = false)
    (id : InterfaceId) :
    mux.table.losses id = [] ∧ mux.table.farewells id = [] := by
  have notRunning := (orderly.disabled isClosed id).isRunning_eq_false
  refine ⟨LinkTable.losses_of_notRunning notRunning, ?_⟩
  rw [LinkTable.farewells, notRunning]
  rfl

/-- The owner hears once of each link that was up, and of nothing else. -/
theorem Orderly.about_delivered_close
    (orderly : mux.Orderly)
    (id : InterfaceId) :
    Report.about id (delivered mux.close.2) = mux.table.losses id := by
  cases closed : mux.closed with
  | true =>
      rw [close_of_closed closed, (orderly.losses_of_notOpen (orderly.released closed) id).1]
      rfl
  | false =>
      rw [(orderly.closes closed).delivered]
      exact LinkTable.reports_teardown orderly.inStep id

/-- One frame is tried for each link that was up, and no other. -/
theorem Orderly.filter_tried_close
    (orderly : mux.Orderly)
    (notClosed : mux.closed = false)
    (id : InterfaceId) :
    (tried mux.close.2).filter (·.id = id) = mux.table.farewells id := by
  rw [(orderly.closes notClosed).tried]
  cases isOpen : mux.isOpen with
  | true =>
      exact LinkTable.frames_teardown orderly.inStep id
  | false =>
      exact (orderly.losses_of_notOpen isOpen id).2.symm

/--
However a multiplexer came to be as it is, and whichever writes fail, closing it for the
first time reports the loss of each link that is up, once, tries to end each of these
links, once, and says nothing else. It leaves nothing in the tables, gives the transport up
and ends the reports. Closing again does nothing, whatever was done in between.
-/
theorem close_complete
    (settings : LinkSettings)
    (accepts : Nat → Bool)
    (refusal : String)
    (operations : List Operation) :
    let mux := ((onFallibleLine settings accepts refusal).run operations).mux
    (mux.closed = true → mux.close = (mux, [])) ∧
    (mux.closed = false →
      let outcome := mux.close
      (∀ id, Report.about id (delivered outcome.2) = mux.table.losses id) ∧
        (∀ id, (tried outcome.2).filter (·.id = id) = mux.table.farewells id) ∧
        outcome.1.table.Bare ∧
        outcome.1.isOpen = false ∧ outcome.1.line.attached = false ∧
        outcome.1.reports.isOpen = false ∧
        outcome.2.getLast? = some .ended ∧ outcome.2.count .ended = 1 ∧
        ∀ later,
          let last := (outcome.1.run later).mux
          last.close = (last, [])) := by
  intro mux
  have orderly : mux.Orderly := ((Orderly.onFallibleLine settings accepts refusal).run operations).2
  refine ⟨close_of_closed, ?_⟩
  intro notClosed outcome
  have closes : mux.Closes outcome := orderly.closes notClosed
  have afterwards : outcome.1.Orderly := orderly.close
  have missing : ∀ id, outcome.1.table.get? id = none := by
    intro id
    rw [closes.table]
    exact LinkTable.get?_teardown mux.table id
  refine ⟨orderly.about_delivered_close, orderly.filter_tried_close notClosed,
    LinkTable.bare_of_missing afterwards.inStep afterwards.indexed missing,
    closes.isOpen, closes.attached, congrArg ReportChannel.isOpen closes.reports,
    closes.last, closes.once, ?_⟩
  intro later last
  have stillClosed := (afterwards.silent_run closes.isOpen later).closed closes.closed
  exact close_of_closed stillClosed

/--
Two links are up, of interfaces that were given the same name, and a third interface is
only registered. The first of the links cannot be ended, since the line refuses the frame.
-/
theorem close_of_refused_farewell :
    let desk : Option InterfaceParams := some { channel := 1, hardwareName? := some "desk" }
    let operations : List Operation :=
      [.addInterface 1 desk 0, .addInterface 2 desk 0, .addInterface 3 none 0,
        .raise 1 0, .raise 2 0, .sweep 0, .receive [.ack 1, .ack 2] 1]
    let mux := ((onFallibleLine {} (· ≠ 2) "refused").run operations).mux
    let outcome := mux.close
    mux.closed = false ∧
      Report.about 1 (delivered outcome.2) = [.ofLinkStatus 1 "desk" .lost] ∧
      Report.about 2 (delivered outcome.2) = [.ofLinkStatus 2 "desk" .lost] ∧
      Report.about 3 (delivered outcome.2) = [] ∧
      (tried outcome.2).filter (·.id = 1) = [.disconnect 1] ∧
      (tried outcome.2).filter (·.id = 3) = [] ∧
      outcome.1.table.Bare ∧
      (outcome.1.run [.addInterface 4 none 5, .close]).mux.close =
        ((outcome.1.run [.addInterface 4 none 5, .close]).mux, []) := by
  intro desk operations mux outcome
  have notClosed : mux.closed = false := by
    decide +kernel
  have first : mux.table.losses 1 = [.ofLinkStatus 1 "desk" .lost] := by
    decide +kernel
  have second : mux.table.losses 2 = [.ofLinkStatus 2 "desk" .lost] := by
    decide +kernel
  have third : mux.table.losses 3 = [] ∧ mux.table.farewells 3 = [] := by
    decide +kernel
  have farewell : mux.table.farewells 1 = [.disconnect 1] := by
    decide +kernel
  have complete := close_complete {} (· ≠ 2) "refused" operations
  have isMux : ((onFallibleLine {} (· ≠ 2) "refused").run operations).mux = mux := rfl
  rw [isMux] at complete
  -- From here on only these facts about the multiplexer count, not how it came to be.
  clear_value mux
  obtain ⟨reported, told, bare, _, _, _, _, _, again⟩ := complete.2 notClosed
  exact ⟨notClosed, (reported 1).trans first, (reported 2).trans second,
    (reported 3).trans third.1, (told 1).trans farewell, (told 3).trans third.2, bare,
    again [.addInterface 4 none 5, .close]⟩

end Multiplexer

end StationLink
