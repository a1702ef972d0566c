import StationLink.Proofs.LinkChanges
import StationLink.Proofs.Sending

namespace StationLink

/-!
# Actions as a queue

Carrying out actions can be seen as working off a queue that grows meanwhile: a frame that
the line does not take takes its interface down, and the loss that is to be reported is put
behind all that is still to be done (`Multiplexer.workOff`). That ends, since nothing that
is put behind is a frame, and it is what `Multiplexer.execute` does (`execution_workOff`).
-/

theorem Action.frames_append
    (first second : List Action) :
    frames (first ++ second) = frames first ++ frames second :=
  List.filterMap_append

theorem Action.frames_map_emit
    (reports : List Report) :
    frames (reports.map .emit) = [] := by
  simp [frames, frame?]

/-- How much some actions are to be done, where a frame counts twice. -/
def Action.weight (actions : List Action) : Nat :=
  actions.length + (frames actions).length

namespace Multiplexer

/--
What comes of one action: also what is observed, and what is put behind all other actions.
None if a report has to wait.
-/
def takeUp?
    (mux : Multiplexer)
    (patient : Bool) :
    Action → Option (Multiplexer × List (Occurrence Report) × List Action)
  | .emit report =>
      (mux.emit? patient report).map fun (mux, journal) => (mux, journal, [])
  | .transmit frame =>
      match mux.transmit frame with
      | (mux, journal, .sent) => some (mux, journal, [])
      | (mux, journal, _) =>
          let (mux, report?) := mux.writeFailed frame.id
          some (mux, journal, report?.toList.map .emit)

/-- Nothing but reports is put behind, and only on account of a frame. -/
theorem exists_reports_of_takeUp?
    {mux after : Multiplexer}
    {patient : Bool}
    {action : Action}
    {journal : List (Occurrence Report)}
    {followUps : List Action}
    (takenUp : mux.takeUp? patient action = some (after, journal, followUps)) :
    ∃ reports : List Report, followUps = reports.map .emit ∧
      reports.length ≤ (Action.frames [action]).length := by
  cases action with
  | emit report =>
      simp only [takeUp?, Option.map_eq_some_iff, Prod.mk.injEq] at takenUp
      obtain ⟨_, _, _, _, rfl⟩ := takenUp
      exact ⟨[], rfl, Nat.zero_le _⟩
  | transmit frame =>
      have atMostOne : ∀ report? : Option Report,
          report?.toList.length ≤ (Action.frames [.transmit frame]).length := by
        intro report?
        cases report? <;> simp [Action.frames, Action.frame?]
      rcases tried : mux.transmit frame with ⟨between, _, attempt⟩
      cases attempt with
      | sent =>
          simp only [takeUp?, tried, Option.some.injEq, Prod.mk.injEq] at takenUp
          exact ⟨[], takenUp.2.2.symm, Nat.zero_le _⟩
      | refused | detached =>
          simp only [takeUp?, tried, Option.some.injEq, Prod.mk.injEq] at takenUp
          exact ⟨_, takenUp.2.2.symm, atMostOne _⟩

/-- Whatever is taken up, less is left to be done. -/
theorem weight_lt_of_takeUp?
    {mux after : Multiplexer}
    {patient : Bool}
    {action : Action}
    {journal : List (Occurrence Report)}
    {followUps : List Action}
    (takenUp : mux.takeUp? patient action = some (after, journal, followUps))
    (rest : List Action) :
    Action.weight (rest ++ followUps) < Action.weight (action :: rest) := by
  obtain ⟨reports, rfl, few⟩ := exists_reports_of_takeUp? takenUp
  have split : Action.frames (action :: rest) = Action.frames [action] ++ Action.frames rest :=
    Action.frames_append [action] rest
  simp only [Action.weight, Action.frames_append, Action.frames_map_emit, split,
    List.length_append, List.length_map, List.length_cons, List.length_nil]
  omega

/-- How far a queue was worked off. -/
structure WorkedOff where
  /-- The actions that were taken up, in order. -/
  handled : List Action := []
  execution : Execution

/-- Work off a queue until it is empty or a report has to wait. -/
def workOff (mux : Multiplexer) (patient : Bool) (queue : List Action) : WorkedOff :=
  match queue with
  | [] => { execution := { mux } }
  | action :: rest =>
      match _ : mux.takeUp? patient action with
      | none => { execution := { mux, backlog := action :: rest } }
      | some (after, journal, followUps) =>
          let later := after.workOff patient (rest ++ followUps)
          { handled := action :: later.handled
            execution := later.execution.after journal }
termination_by Action.weight queue
decreasing_by exact weight_lt_of_takeUp? ‹_› rest

/-- An action that has to wait is put off with all behind it. -/
theorem workOff_of_none
    {mux : Multiplexer}
    {patient : Bool}
    {action : Action}
    (takenUp : mux.takeUp? patient action = none)
    (rest : List Action) :
    mux.workOff patient (action :: rest) =
      { execution := { mux, backlog := action :: rest } } := by
  rw [workOff]
  split
  · rfl
  · next takenUp' => cases takenUp.symm.trans takenUp'

/-- What comes of an action that is taken up is queued behind the others. -/
theorem workOff_of_some
    {mux after : Multiplexer}
    {patient : Bool}
    {action : Action}
    {journal : List (Occurrence Report)}
    {followUps : List Action}
    (takenUp : mux.takeUp? patient action = some (after, journal, followUps))
    (rest : List Action) :
    mux.workOff patient (action :: rest) =
      { handled := action :: (after.workOff patient (rest ++ followUps)).handled
        execution := (after.workOff patient (rest ++ followUps)).execution.after journal } := by
  rw [workOff]
  split
  · next takenUp' => cases takenUp.symm.trans takenUp'
  · next takenUp' =>
      cases takenUp.symm.trans takenUp'
      rfl

theorem takeUp?_emit
    {mux after : Multiplexer}
    {patient : Bool}
    {report : Report}
    {journal : List (Occurrence Report)}
    (emitted : mux.emit? patient report = some (after, journal)) :
    mux.takeUp? patient (.emit report) = some (after, journal, []) := by
  simp [takeUp?, emitted]

theorem takeUp?_sent
    {mux after : Multiplexer}
    {frame : Frame}
    {journal : List (Occurrence Report)}
    (tried : mux.transmit frame = (after, journal, .sent))
    (patient : Bool) :
    mux.takeUp? patient (.transmit frame) = some (after, journal, []) := by
  simp [takeUp?, tried]

/-- A frame that the line does not take takes its interface down at once. -/
theorem takeUp?_notSent
    {mux after : Multiplexer}
    {frame : Frame}
    {journal : List (Occurrence Report)}
    {attempt : Line.Attempt}
    (tried : mux.transmit frame = (after, journal, attempt))
    (notSent : attempt ≠ .sent)
    (patient : Bool) :
    mux.takeUp? patient (.transmit frame) =
      some ((after.writeFailed frame.id).1, journal,
        (after.writeFailed frame.id).2.toList.map .emit) := by
  cases attempt with
  | sent => exact (notSent rfl).elim
  | refused | detached => simp [takeUp?, tried]

/-- Reporting the losses that are known is working them off. -/
theorem execution_workOff_reports
    (mux : Multiplexer)
    (patient : Bool)
    (reports : List Report) :
    (mux.workOff patient (reports.map .emit)).execution = mux.emitAll patient reports := by
  induction reports generalizing mux with
  | nil =>
      rw [List.map_nil, workOff, emitAll]
  | cons report rest inductionHypothesis =>
      rw [emitAll, List.map_cons]
      cases emitted : mux.emit? patient report with
      | none =>
          have mustWait : mux.takeUp? patient (.emit report) = none := by
            simp [takeUp?, emitted]
          rw [workOff_of_none mustWait]
      | some outcome =>
          rw [workOff_of_some (takeUp?_emit emitted), List.append_nil, inductionHypothesis]

/-- Carrying out actions is working them off, with the losses that are known already behind. -/
theorem execution_workOff_append
    (mux : Multiplexer)
    (patient : Bool)
    (lost : List Report)
    (actions : List Action) :
    (mux.workOff patient (actions ++ lost.map .emit)).execution =
      mux.executeWith patient lost actions := by
  induction actions generalizing mux lost with
  | nil =>
      exact execution_workOff_reports mux patient lost
  | cons action rest inductionHypothesis =>
      rw [List.cons_append]
      cases action with
      | emit report =>
          rw [executeWith]
          cases emitted : mux.emit? patient report with
          | none =>
              have mustWait : mux.takeUp? patient (.emit report) = none := by
                simp [takeUp?, emitted]
              rw [workOff_of_none mustWait]
              rfl
          | some outcome =>
              rw [workOff_of_some (takeUp?_emit emitted), List.append_nil, inductionHypothesis]
      | transmit frame =>
          rw [executeWith]
          rcases tried : mux.transmit frame with ⟨between, journal, attempt⟩
          have behind : ∀ report? : Option Report,
              rest ++ lost.map .emit ++ report?.toList.map Action.emit =
                rest ++ (lost ++ report?.toList).map .emit := by
            intro report?
            rw [List.map_append, List.append_assoc]
          cases attempt with
          | sent =>
              rw [workOff_of_some (takeUp?_sent tried patient), List.append_nil,
                inductionHypothesis]
          | refused | detached =>
              rw [workOff_of_some (takeUp?_notSent tried (by simp) patient), behind,
                inductionHypothesis]

/-- Working off a queue is how actions are carried out. -/
theorem execution_workOff
    (mux : Multiplexer)
    (patient : Bool)
    (actions : List Action) :
    (mux.workOff patient actions).execution = mux.execute patient actions := by
  have nothingBehind := execution_workOff_append mux patient [] actions
  rwa [List.map_nil, List.append_nil] at nothingBehind

end Multiplexer

end StationLink
