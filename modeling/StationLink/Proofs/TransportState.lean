import StationLink.Proofs.DormantInterfaces
import StationLink.Proofs.PromptOwner

namespace StationLink.Multiplexer

/-!
# The transport and the multiplexer

Whether the transport can still be used is kept in several places: a flag of the
multiplexer, the line, the way of reports to the owner, and the table, which has to take
every interface out of use when the transport is gone. `Orderly` says how these hang
together. It holds from the start, whichever writes the line refuses, and every operation
keeps it (`Orderly.perform`).
-/

/-- A new multiplexer on a line that may refuse some of the writes. -/
def onFallibleLine
    (settings : LinkSettings)
    (accepts : Nat → Bool)
    (refusal : String) :
    Multiplexer :=
  onLine settings { accepts, refusal }

variable {mux : Multiplexer}

/-- Closing counts only once. -/
theorem close_of_closed
    (closed : mux.closed = true) :
    mux.close = (mux, []) :=
  if_pos closed

/-- The multiplexer when the transport is gone, before that is reported. -/
def stranded (mux : Multiplexer) : Multiplexer :=
  { mux with
    table := mux.table.transportLost.1
    isOpen := false
    line := { mux.line with attached := false } }

/-- The multiplexer when closing has begun, before the peers and the owner are told. -/
def vacated (mux : Multiplexer) : Multiplexer :=
  { mux with table := mux.table.teardown.1, closed := true }

/--
The owner takes reports as they come, until closing begins. The transport can be used as
long as the line has not been given up; after that, and once closing has begun, no
interface is in use.
-/
structure Orderly (mux : Multiplexer) : Prop where
  reachable : mux.Reachable
  prompt : mux.reports.attention = .prompt
  wanted : mux.reports.isWanted = !mux.closed
  attached : mux.line.attached = mux.isOpen
  released : mux.closed = true → mux.isOpen = false
  disabled : mux.isOpen = false → ∀ id, mux.table.Disabled id

/-- What closing for the first time comes to. -/
structure Closes
    (mux : Multiplexer)
    (outcome : Multiplexer × List (Occurrence Report)) : Prop where
  table : outcome.1.table = mux.table.teardown.1
  isOpen : outcome.1.isOpen = false
  closed : outcome.1.closed = true
  attached : outcome.1.line.attached = false
  reports : outcome.1.reports = { mux.reports with isOpen := false, hasOwner := false }
  delivered : delivered outcome.2 = Action.reports mux.table.teardown.2
  tried : tried outcome.2 = if mux.isOpen then Action.frames mux.table.teardown.2 else []
  last : outcome.2.getLast? = some .ended
  once : outcome.2.count .ended = 1

namespace Orderly

/-- A multiplexer on a line whose writes may fail is orderly from the beginning. -/
theorem onFallibleLine
    (settings : LinkSettings)
    (accepts : Nat → Bool)
    (refusal : String) :
    (onFallibleLine settings accepts refusal).Orderly where
  reachable := .onLine settings _
  prompt := rfl
  wanted := rfl
  attached := rfl
  released := nofun
  disabled := nofun

/-- The interfaces and timers of an orderly multiplexer are in step. -/
theorem inStep
    (orderly : mux.Orderly) :
    mux.table.InStep [] :=
  orderly.reachable.inStep

/-- What leaves the standing of a multiplexer as it is leaves it orderly. -/
theorem of_sameStanding
    {after : Multiplexer}
    (orderly : mux.Orderly)
    (same : mux.SameStanding after)
    (reachable : after.Reachable)
    (disabled : mux.isOpen = false → ∀ id, after.table.Disabled id) :
    after.Orderly where
  reachable := reachable
  prompt := by
    rw [same.reports]
    exact orderly.prompt
  wanted := by
    rw [same.reports, same.closed]
    exact orderly.wanted
  attached := by
    rw [same.attached, same.isOpen]
    exact orderly.attached
  released := by
    rw [same.closed, same.isOpen]
    exact orderly.released
  disabled := by
    rw [same.isOpen]
    exact disabled

/-- Carrying out actions takes interfaces out of use, but none into use. -/
theorem of_carriedOut
    {lost : List Report}
    {actions : List Action}
    {ids : List InterfaceId}
    {execution : Execution}
    (orderly : mux.Orderly)
    (carriedOut : mux.CarriedOut lost actions ids execution) :
    execution.mux.Orderly := by
  apply orderly.of_sameStanding carriedOut.standing
  · exact orderly.reachable.of_shutAll [] ⟨ids, carriedOut.table⟩
  · intro isClosed id
    rw [carriedOut.table]
    exact (orderly.disabled isClosed id).shutAll LinkTable.Disabled.kept ids

/-- What is done to the table only leaves nothing undone and all orderly. -/
theorem onTable
    (orderly : mux.Orderly)
    {operation : Operation}
    {operations : List LinkTable.Operation}
    (onTable : operation.tableOperations? = some operations) :
    (mux.perform operation).backlog = [] ∧ (mux.perform operation).mux.Orderly := by
  have adopted : { mux with table := (mux.table.run operations).1 }.Orderly :=
    orderly.of_sameStanding (.withTable (.refl mux) _)
      (orderly.reachable.of_run ⟨operations, rfl⟩)
      fun isClosed id => (orderly.disabled isClosed id).run
        (Operation.noneRaised_of_tableOperations? onTable id)
  obtain ⟨ids, carriedOut⟩ :=
    exists_carriedOut adopted.prompt true [] (mux.table.run operations).2
  rw [perform_of_tableOperations? mux onTable]
  exact ⟨carriedOut.complete, adopted.of_carriedOut carriedOut⟩

/-- Raising an interface leaves nothing undone and all orderly. -/
theorem raise
    (orderly : mux.Orderly)
    (id : InterfaceId)
    (now : Nat) :
    (mux.perform (.raise id now)).backlog = [] ∧ (mux.perform (.raise id now)).mux.Orderly := by
  have reachable := orderly.reachable.perform (.raise id now)
  simp only [Multiplexer.perform] at reachable ⊢
  cases raised : mux.raise id now with
  | error error =>
      exact ⟨rfl, orderly⟩
  | ok outcome =>
      obtain ⟨after, started⟩ := outcome
      obtain ⟨isOpen, table, _, isAfter⟩ := raise_ok raised
      rw [raised] at reachable
      subst isAfter
      refine ⟨rfl, orderly.of_sameStanding (.withTable (.refl mux) table) reachable ?_⟩
      intro isClosed
      exact (Bool.false_ne_true (isClosed.symm.trans isOpen)).elim

/-- Sending leaves nothing undone and all orderly. -/
theorem sending
    (orderly : mux.Orderly)
    {operation : Operation}
    {id : InterfaceId}
    {sending : Sending}
    (isSending : operation.sending? = some (id, sending)) :
    (mux.perform operation).backlog = [] ∧ (mux.perform operation).mux.Orderly := by
  have reachable := orderly.reachable.perform operation
  rw [perform_of_sending? mux isSending, submit_eq_sendIfAllowed] at reachable ⊢
  cases allowed : mux.framesOf id sending with
  | error error =>
      exact ⟨rfl, orderly⟩
  | ok frames =>
      obtain ⟨isOpen, _⟩ := framesOf_ok allowed
      obtain ⟨complete, standing⟩ := sendFrames_of_prompt orderly.prompt id frames
      rw [allowed] at reachable
      refine ⟨complete, orderly.of_sameStanding standing reachable ?_⟩
      intro isClosed
      exact (Bool.false_ne_true (isClosed.symm.trans isOpen)).elim

/-! ## The end of the transport -/

/-- A multiplexer without its transport is orderly. -/
theorem stranded
    (orderly : mux.Orderly) :
    mux.stranded.Orderly where
  reachable := orderly.reachable.of_run ⟨[.transportLost], by rw [LinkTable.run_singleton]; rfl⟩
  prompt := orderly.prompt
  wanted := orderly.wanted
  attached := rfl
  released := fun _ => rfl
  disabled := fun _ => LinkTable.disabled_transportLost mux.table

/-- The loss of the transport is reported, and then all is as when it was lost. -/
theorem exists_carriedOut_loseTransport
    (orderly : mux.Orderly) :
    ∃ ids, mux.stranded.CarriedOut [] mux.table.transportLost.2 ids (mux.loseTransport none) :=
  exists_carriedOut orderly.stranded.prompt true [] mux.table.transportLost.2

/-- A teardown is carried out by a multiplexer whose interfaces are gone already. -/
theorem exists_carriedOut_teardown
    (orderly : mux.Orderly) :
    ∃ ids, mux.vacated.CarriedOut [] mux.table.teardown.2 ids
      { mux with closed := true }.teardown := by
  have prompt : mux.vacated.reports.attention = .prompt := orderly.prompt
  exact exists_carriedOut prompt true [] mux.table.teardown.2

/-- Before it is closed a multiplexer has somebody to tell that all interfaces are gone. -/
theorem vacated
    (orderly : mux.Orderly)
    (notClosed : mux.closed = false) :
    mux.vacated.reports.isWanted = true ∧ ∀ id, mux.vacated.table.get? id = none := by
  have wanted := orderly.wanted
  rw [notClosed] at wanted
  exact ⟨wanted, LinkTable.get?_teardown mux.table⟩

/-- Closing for the first time takes every interface away, whichever writes fail. -/
theorem closes
    (orderly : mux.Orderly)
    (notClosed : mux.closed = false) :
    mux.Closes mux.close := by
  obtain ⟨ids, carriedOut⟩ := orderly.exists_carriedOut_teardown
  obtain ⟨wanted, missing⟩ := orderly.vacated notClosed
  have noneShut := LinkTable.shutAll_of_missing missing ids
  have attached : mux.vacated.line.attached = mux.isOpen := orderly.attached
  let execution := { mux with closed := true }.teardown
  have sameReports : execution.mux.reports = mux.reports := carriedOut.standing.reports
  have prompt : execution.mux.reports.attention = .prompt :=
    (congrArg ReportChannel.attention sameReports).trans orderly.prompt
  have stillWanted : execution.mux.reports.isWanted = true :=
    (congrArg ReportChannel.isWanted sameReports).trans wanted
  have closing : mux.close =
      (execution.mux.release.1, execution.journal ++ execution.mux.release.2) := by
    rw [Multiplexer.close, notClosed]
    rfl
  rw [closing, release_of_prompt prompt stillWanted, sameReports]
  constructor
  · exact carriedOut.table.trans (congrArg Prod.fst noneShut)
  · rfl
  · exact carriedOut.standing.closed
  · rfl
  · rfl
  · rw [delivered_append, delivered_parting, carriedOut.delivered, noneShut, wanted]
    simp only [if_true, List.append_nil]
  · rw [tried_append, tried_parting, carriedOut.tried, attached, List.append_nil]
  · rw [parting, ← List.append_assoc, List.getLast?_concat]
  · have notEarlier : execution.journal.count .ended = 0 :=
      List.count_eq_zero.mpr carriedOut.unended
    rw [List.count_append, notEarlier, count_ended_parting]

/-- The loss of the transport leaves nothing undone and all orderly. -/
theorem loseTransport
    (orderly : mux.Orderly) :
    (mux.perform .loseTransport).backlog = [] ∧ (mux.perform .loseTransport).mux.Orderly := by
  obtain ⟨ids, carriedOut⟩ := orderly.exists_carriedOut_loseTransport
  exact ⟨carriedOut.complete, orderly.stranded.of_carriedOut carriedOut⟩

/-- Closing leaves a multiplexer orderly. -/
theorem close
    (orderly : mux.Orderly) :
    (mux.perform .close).mux.Orderly := by
  cases closed : mux.closed with
  | true =>
      simp only [Multiplexer.perform, close_of_closed closed]
      exact orderly
  | false =>
      have closes := orderly.closes closed
      have reports := closes.reports
      constructor
      · exact orderly.reachable.perform .close
      · exact (congrArg ReportChannel.attention reports).trans orderly.prompt
      · exact (congrArg ReportChannel.isWanted reports).trans
          (congrArg (!·) closes.closed).symm
      · exact closes.attached.trans closes.isOpen.symm
      · exact fun _ => closes.isOpen
      · intro _ id
        refine LinkTable.disabled_of_missing ?_
        exact (congrArg (LinkTable.get? · id) closes.table).trans
          (LinkTable.get?_teardown mux.table id)

/-- Every operation keeps a multiplexer orderly, and nothing has to wait. -/
theorem perform
    (orderly : mux.Orderly)
    (operation : Operation) :
    (mux.perform operation).backlog = [] ∧ (mux.perform operation).mux.Orderly := by
  cases operation with
  | addInterface | lower | removeInterface | setFilter | receive | sweep =>
      exact orderly.onTable rfl
  | raise id now =>
      exact orderly.raise id now
  | send | sendCommand | sendEvent =>
      exact orderly.sending rfl
  | loseTransport =>
      exact orderly.loseTransport
  | close =>
      exact ⟨rfl, orderly.close⟩

/-- Nothing is left undone by an operation, so a run is taken apart at each of them. -/
theorem run_cons
    (orderly : mux.Orderly)
    (operation : Operation)
    (rest : List Operation) :
    mux.run (operation :: rest) =
      ((mux.perform operation).mux.run rest).after (mux.perform operation).journal :=
  if_pos (orderly.perform operation).1

/-- A run leaves nothing undone and all orderly. -/
theorem run
    (orderly : mux.Orderly)
    (operations : List Operation) :
    (mux.run operations).backlog = [] ∧ (mux.run operations).mux.Orderly := by
  induction operations generalizing mux with
  | nil =>
      exact ⟨rfl, orderly⟩
  | cons operation rest inductionHypothesis =>
      rw [orderly.run_cons]
      exact inductionHypothesis (orderly.perform operation).2

end Orderly

/-! ## After the end of the transport -/

/-- Nothing was written or reported, and the transport cannot be used. -/
structure Silent (mux : Multiplexer) (execution : Execution) : Prop where
  isOpen : execution.mux.isOpen = false
  closed : mux.closed = true → execution.mux.closed = true
  delivered : delivered execution.journal = []
  tried : tried execution.journal = []

theorem Silent.idle
    (isClosed : mux.isOpen = false) :
    mux.Silent { mux } :=
  ⟨isClosed, id, rfl, rfl⟩

/-- On a transport that is closed no interface is raised. -/
theorem raise_of_notOpen
    (isClosed : mux.isOpen = false)
    (id : InterfaceId)
    (now : Nat) :
    mux.raise id now = .error .transportClosed :=
  if_neg (Bool.eq_false_iff.mp isClosed)

/-- On a transport that is closed nothing is sent. -/
theorem exists_error_of_notOpen
    (isClosed : mux.isOpen = false)
    (id : InterfaceId)
    (sending : Sending) :
    ∃ error, mux.submit id sending = (.error error, { mux }) := by
  rw [submit_eq_sendIfAllowed]
  cases allowed : mux.framesOf id sending with
  | error error =>
      exact ⟨error, rfl⟩
  | ok frames =>
      obtain ⟨isOpen, _⟩ := framesOf_ok allowed
      exact (Bool.false_ne_true (isClosed.symm.trans isOpen)).elim

namespace Orderly

/-- Once the transport is gone no operation writes or reports anything. -/
theorem silent_perform
    (orderly : mux.Orderly)
    (isClosed : mux.isOpen = false)
    (operation : Operation) :
    mux.Silent (mux.perform operation) := by
  have disabled := orderly.disabled isClosed
  have onTable : ∀ {operations}, operation.tableOperations? = some operations →
      mux.Silent (mux.perform operation) := by
    intro operations onTable
    have nothing := LinkTable.run_of_disabled orderly.inStep disabled
      (Operation.noneRaised_of_tableOperations? onTable)
    rw [perform_of_tableOperations? mux onTable, nothing]
    exact ⟨isClosed, id, rfl, rfl⟩
  have sending : ∀ {id sending}, operation.sending? = some (id, sending) →
      mux.Silent (mux.perform operation) := by
    intro id sending isSending
    obtain ⟨error, refused⟩ := exists_error_of_notOpen isClosed id sending
    rw [perform_of_sending? mux isSending, refused]
    exact .idle isClosed
  cases operation with
  | addInterface | lower | removeInterface | setFilter | receive | sweep =>
      exact onTable rfl
  | send | sendCommand | sendEvent =>
      exact sending rfl
  | raise id now =>
      simp only [Multiplexer.perform, raise_of_notOpen isClosed]
      exact .idle isClosed
  | loseTransport =>
      have nothing : mux.table.transportLost.2 = [] :=
        LinkTable.perform_of_disabled orderly.inStep disabled .transportLost
      have stranded : mux.perform .loseTransport = { mux := mux.stranded } :=
        congrArg (mux.stranded.execute true) nothing
      rw [stranded]
      exact ⟨rfl, id, rfl, rfl⟩
  | close =>
      cases closed : mux.closed with
      | true =>
          simp only [Multiplexer.perform, close_of_closed closed]
          exact .idle isClosed
      | false =>
          have closes := orderly.closes closed
          have nothing : mux.table.teardown.2 = [] :=
            LinkTable.perform_of_disabled orderly.inStep disabled .teardown
          refine ⟨closes.isOpen, fun _ => closes.closed, ?_, ?_⟩
          · exact closes.delivered.trans (congrArg Action.reports nothing)
          · refine closes.tried.trans ?_
            rw [nothing, isClosed]
            rfl

/-- On a transport that is closed whole runs are silent. -/
theorem silent_run
    (orderly : mux.Orderly)
    (isClosed : mux.isOpen = false)
    (operations : List Operation) :
    mux.Silent (mux.run operations) := by
  induction operations generalizing mux with
  | nil =>
      exact .idle isClosed
  | cons operation rest inductionHypothesis =>
      have first := orderly.silent_perform isClosed operation
      have later := inductionHypothesis (orderly.perform operation).2 first.isOpen
      rw [orderly.run_cons]
      refine ⟨later.isOpen, fun closed => later.closed (first.closed closed), ?_, ?_⟩
      · rw [Execution.after, delivered_append, first.delivered, later.delivered]
        rfl
      · rw [Execution.after, tried_append, first.tried, later.tried]
        rfl

end Orderly

end StationLink.Multiplexer
