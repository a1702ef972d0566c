import StationLink.Proofs.LinkChanges
import StationLink.Proofs.Sending

namespace StationLink.Multiplexer

/-!
# Executions for a prompt owner

Where the owner takes reports as they come nothing ever has to wait. Then it can be told
what comes of a list of actions (`exists_carriedOut`): every frame is tried, the reports
are delivered in order, and the losses of links whose frames could not be written are
delivered after them. Nothing else changes.
-/

/-- Nothing but the table and the count of the writes has changed. -/
structure SameStanding (mux after : Multiplexer) : Prop where
  isOpen : after.isOpen = mux.isOpen
  closed : after.closed = mux.closed
  attached : after.line.attached = mux.line.attached
  reports : after.reports = mux.reports

namespace SameStanding

variable {mux between after : Multiplexer}

theorem refl
    (mux : Multiplexer) :
    mux.SameStanding mux :=
  ⟨rfl, rfl, rfl, rfl⟩

theorem trans
    (first : mux.SameStanding between)
    (second : between.SameStanding after) :
    mux.SameStanding after where
  isOpen := second.isOpen.trans first.isOpen
  closed := second.closed.trans first.closed
  attached := second.attached.trans first.attached
  reports := second.reports.trans first.reports

theorem withTable
    (same : mux.SameStanding after)
    (table : LinkTable) :
    mux.SameStanding { after with table } :=
  ⟨same.isOpen, same.closed, same.attached, same.reports⟩

end SameStanding

/-- A write does not end the use of a line. -/
theorem attached_write
    (line : Line) :
    line.write.1.attached = line.attached := by
  unfold Line.write
  split <;> rfl

/-- The frame that an attempt was about, unless the line had been given up. -/
theorem tried_attempt
    (line : Line)
    (frame : Frame) :
    tried (line.write.2.occurrence? frame).toList = if line.attached then [frame] else [] := by
  unfold Line.write
  split
  · cases line.accepts line.attempts <;> rfl
  · rfl

theorem delivered_attempt
    (attempt : Line.Attempt)
    (frame : Frame) :
    delivered (attempt.occurrence? frame).toList = [] := by
  cases attempt <;> rfl

theorem ended_notMem_attempt
    (attempt : Line.Attempt)
    (frame : Frame) :
    .ended ∉ ((attempt.occurrence? frame).toList : List (Occurrence Report)) := by
  cases attempt <;> simp [Line.Attempt.occurrence?]

theorem ended_notMem_reports
    (reports : List Report) :
    .ended ∉ reports.map Occurrence.reported := by
  intro member
  obtain ⟨_, _, same⟩ := List.mem_map.mp member
  cases same

/-- What is observed when the line is given up, if it was not before, and the reports end. -/
def parting (attached : Bool) : List (Occurrence Report) :=
  (if attached then [.shutdown] else []) ++ [.ended]

theorem delivered_parting
    (attached : Bool) :
    delivered (parting attached) = [] := by
  cases attached <;> rfl

theorem tried_parting
    (attached : Bool) :
    tried (parting attached) = [] := by
  cases attached <;> rfl

theorem count_ended_parting
    (attached : Bool) :
    (parting attached).count .ended = 1 := by
  cases attached <;> rfl

section Prompt

variable {mux : Multiplexer} (prompt : mux.reports.attention = .prompt)
include prompt

/-- A report is delivered, if anybody wants it, and nothing changes. -/
theorem emit?_of_prompt
    (patient : Bool)
    (report : Report) :
    mux.emit? patient report =
      some (mux, if mux.reports.isWanted then [.reported report] else []) := by
  obtain ⟨table, line, ⟨capacity, waiting, promised, attention, hasOwner, isOpen⟩, _, _⟩ := mux
  obtain rfl : attention = .prompt := prompt
  cases isOpen <;> cases hasOwner <;> rfl

/-- A prompt owner gets all reports at once, if they are wanted. -/
theorem emitAll_of_prompt
    (patient : Bool)
    (reports : List Report) :
    mux.emitAll patient reports =
      { mux, journal := if mux.reports.isWanted then reports.map .reported else [] } := by
  induction reports with
  | nil =>
      rw [emitAll, List.map_nil, ite_self]
  | cons report rest inductionHypothesis =>
      rw [emitAll, emit?_of_prompt prompt]
      simp only [inductionHypothesis, Execution.after]
      split <;> rfl

/-- With a prompt owner a frame leaves nothing behind but the write. -/
theorem transmit_of_prompt
    (frame : Frame) :
    mux.transmit frame =
      ({ mux with line := mux.line.write.1 }, (mux.line.write.2.occurrence? frame).toList,
        mux.line.write.2) := by
  have collected : mux.reports.collect = (mux.reports, []) := by
    obtain ⟨table, line, ⟨capacity, waiting, promised, attention, hasOwner, isOpen⟩, _, _⟩ := mux
    obtain rfl : attention = .prompt := prompt
    rfl
  unfold transmit
  rcases mux.line.write with ⟨line, attempt⟩
  cases attempt <;> simp [Line.Attempt.occurrence?, collected]

/-- The transport is given up, and an owner who wants reports learns that they end. -/
theorem release_of_prompt
    (wanted : mux.reports.isWanted = true) :
    mux.release =
      ({ mux with
          isOpen := false
          line := { mux.line with attached := false }
          reports := { mux.reports with isOpen := false, hasOwner := false } },
        parting mux.line.attached) := by
  obtain ⟨isOpen, hasOwner⟩ := (Bool.and_eq_true _ _).mp wanted
  have ended : mux.reports.close =
      ({ mux.reports with isOpen := false, hasOwner := false }, [.ended]) :=
    if_pos ⟨isOpen, hasOwner, prompt⟩
  rw [release, ended]
  rfl

end Prompt

/-- The line apart, an attempt to write changes nothing. -/
theorem sameStanding_write
    (mux : Multiplexer) :
    mux.SameStanding { mux with line := mux.line.write.1 } :=
  ⟨rfl, rfl, attached_write mux.line, rfl⟩

/--
What has come of some actions: the interfaces with the given numbers were taken down
because a frame of theirs could not be written.
-/
structure CarriedOut
    (mux : Multiplexer)
    (lost : List Report)
    (actions : List Action)
    (ids : List InterfaceId)
    (execution : Execution) : Prop where
  complete : execution.backlog = []
  standing : mux.SameStanding execution.mux
  failed : ∀ id ∈ ids, ∃ frame ∈ Action.frames actions, frame.id = id
  table : execution.mux.table = (mux.table.shutAll ids).1
  delivered : delivered execution.journal =
    if mux.reports.isWanted then
      Action.reports actions ++ lost ++ (mux.table.shutAll ids).2
    else
      []
  tried : tried execution.journal = if mux.line.attached then Action.frames actions else []
  unended : .ended ∉ execution.journal

namespace CarriedOut

variable {mux : Multiplexer} {lost : List Report} {execution : Execution}
variable {actions : List Action} {ids : List InterfaceId}

/-- A report is delivered before the other actions are carried out. -/
theorem emit
    (carriedOut : mux.CarriedOut lost actions ids execution)
    (report : Report) :
    mux.CarriedOut lost (.emit report :: actions) ids
      (execution.after (if mux.reports.isWanted then [.reported report] else [])) where
  complete := carriedOut.complete
  standing := carriedOut.standing
  failed := carriedOut.failed
  table := carriedOut.table
  delivered := by
    rw [Execution.after, delivered_append, carriedOut.delivered]
    split <;> rfl
  tried := by
    rw [Execution.after, tried_append, carriedOut.tried]
    split <;> rfl
  unended := by
    rw [Execution.after, List.mem_append, not_or]
    refine ⟨?_, carriedOut.unended⟩
    split <;> simp

/-- A frame is tried before the other actions are carried out. -/
theorem transmit
    {between : Multiplexer}
    {lostBefore : List Report}
    {failed : List InterfaceId}
    (carriedOut : between.CarriedOut lost actions ids execution)
    (standing : mux.SameStanding between)
    (frame : Frame)
    (isFailed : ∀ id ∈ failed, frame.id = id)
    (table : between.table = (mux.table.shutAll failed).1)
    (reports : lost = lostBefore ++ (mux.table.shutAll failed).2) :
    mux.CarriedOut lostBefore (.transmit frame :: actions) (failed ++ ids)
      (execution.after (mux.line.write.2.occurrence? frame).toList) where
  complete := carriedOut.complete
  standing := standing.trans carriedOut.standing
  failed := by
    intro id member
    rcases List.mem_append.mp member with isFirst | isLater
    · exact ⟨frame, List.mem_cons_self, isFailed id isFirst⟩
    · obtain ⟨other, isOther, sameId⟩ := carriedOut.failed id isLater
      exact ⟨other, List.mem_cons_of_mem frame isOther, sameId⟩
  table := by
    rw [Execution.after, carriedOut.table, table, LinkTable.shutAll_append]
  delivered := by
    rw [Execution.after, delivered_append, delivered_attempt, carriedOut.delivered,
      standing.reports, LinkTable.shutAll_append, table, reports]
    simp only [List.nil_append, List.append_assoc]
    rfl
  tried := by
    rw [Execution.after, tried_append, tried_attempt, carriedOut.tried, standing.attached]
    split <;> rfl
  unended := by
    rw [Execution.after, List.mem_append, not_or]
    exact ⟨ended_notMem_attempt _ frame, carriedOut.unended⟩

end CarriedOut

/-- When all else is done the links are reported that were lost on the way. -/
theorem carriedOut_nil
    {mux : Multiplexer}
    (prompt : mux.reports.attention = .prompt)
    (patient : Bool)
    (lost : List Report) :
    mux.CarriedOut lost [] [] (mux.executeWith patient lost []) := by
  obtain ⟨areDelivered, _, noneTried⟩ := journal_of_reports lost
  rw [executeWith, emitAll_of_prompt prompt]
  constructor
  · rfl
  · exact .refl mux
  · exact List.forall_mem_nil _
  · rfl
  · rw [LinkTable.shutAll, List.append_nil]
    split
    · exact areDelivered
    · rfl
  · have noFrames : (if mux.line.attached then Action.frames [] else []) = [] :=
      ite_self []
    rw [noFrames]
    split
    · exact noneTried
    · rfl
  · split
    · exact ended_notMem_reports lost
    · exact List.not_mem_nil

/-- Whichever writes fail, all actions are carried out. -/
theorem exists_carriedOut
    {mux : Multiplexer}
    (prompt : mux.reports.attention = .prompt)
    (patient : Bool)
    (lost : List Report)
    (actions : List Action) :
    ∃ ids, mux.CarriedOut lost actions ids (mux.executeWith patient lost actions) := by
  induction actions generalizing mux lost with
  | nil =>
      exact ⟨[], carriedOut_nil prompt patient lost⟩
  | cons action rest inductionHypothesis =>
      cases action with
      | emit report =>
          obtain ⟨ids, carriedOut⟩ := inductionHypothesis prompt lost
          rw [executeWith, emit?_of_prompt prompt]
          exact ⟨ids, carriedOut.emit report⟩
      | transmit frame =>
          let after := { mux with line := mux.line.write.1 }
          let failed := (after.writeFailed frame.id).1
          let loss := (after.writeFailed frame.id).2.toList
          have afterPrompt : after.reports.attention = .prompt := prompt
          have failedPrompt : failed.reports.attention = .prompt := prompt
          have standing : mux.SameStanding after := sameStanding_write mux
          have isShut : mux.table.shutAll [frame.id] = (failed.table, loss) :=
            LinkTable.shutAll_singleton mux.table frame.id
          obtain ⟨ids, restAfter⟩ := inductionHypothesis afterPrompt lost
          obtain ⟨others, restFailed⟩ := inductionHypothesis failedPrompt (lost ++ loss)
          have sent := restAfter.transmit standing frame (List.forall_mem_nil _)
            rfl (List.append_nil lost).symm
          have notSent := restFailed.transmit (standing.withTable failed.table) frame
            (List.forall_mem_singleton.mpr rfl) (congrArg Prod.fst isShut).symm
            (congrArg (lost ++ ·) (congrArg Prod.snd isShut).symm)
          rw [executeWith, transmit_of_prompt prompt]
          cases attempt : mux.line.write.2 with
          | sent =>
              exact ⟨_, attempt ▸ sent⟩
          | refused | detached =>
              exact ⟨_, attempt ▸ notSent⟩

/-- A message that is sent to the end, or as far as the line lets it, does not wait either. -/
theorem sendFrames_of_prompt
    {mux : Multiplexer}
    (prompt : mux.reports.attention = .prompt)
    (id : InterfaceId)
    (frames : List Frame) :
    (mux.sendFrames id frames).2.backlog = [] ∧
      mux.SameStanding (mux.sendFrames id frames).2.mux := by
  induction frames generalizing mux with
  | nil =>
      exact ⟨rfl, .refl mux⟩
  | cons frame rest inductionHypothesis =>
      let after := { mux with line := mux.line.write.1 }
      have afterPrompt : after.reports.attention = .prompt := prompt
      have failedPrompt : (after.writeFailed id).1.reports.attention = .prompt := prompt
      have standing : mux.SameStanding after := sameStanding_write mux
      obtain ⟨complete, restStanding⟩ := inductionHypothesis afterPrompt
      rw [sendFrames, transmit_of_prompt prompt]
      cases mux.line.write.2 with
      | sent =>
          exact ⟨complete, standing.trans restStanding⟩
      | refused | detached =>
          simp only
          split
          · rw [emitAll_of_prompt failedPrompt]
            exact ⟨rfl, standing.withTable _⟩
          · exact ⟨rfl, standing⟩

end StationLink.Multiplexer
