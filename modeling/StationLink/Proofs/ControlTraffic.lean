import StationLink.Proofs.Sending

namespace StationLink

/-!
# Control traffic

Messages travel in data frames. All that a link table does of its own accord is
about the link itself: it transmits probes, answers and disconnects and reports
that links came up or were lost. Only a data frame that arrives makes it report
anything else, and only what is sent puts data frames on the line
(`Multiplexer.kind_of_mem_written_perform`, `Multiplexer.written_submit_of_ok`).
-/

/-- A frame that carries no message, or a report that a link changed. -/
def Action.IsControl : Action → Prop
  | .transmit frame => frame.kind ≠ .data
  | .emit report => report.linkStatus? ≠ none

/-- Whether an action reports a message that arrived. -/
def Action.isMessage : Action → Bool
  | .transmit _ => false
  | .emit report => report.linkStatus?.isNone

/-- Control traffic carries no message. -/
theorem Action.isMessage_of_isControl
    {action : Action}
    (isControl : action.IsControl) :
    action.isMessage = false := by
  cases action with
  | transmit frame =>
      rfl
  | emit report =>
      exact Option.isNone_eq_false_iff.mpr (Option.isSome_iff_ne_none.mpr isControl)

def Action.frame? : Action → Option Frame
  | .transmit frame => some frame
  | .emit _ => none

/-- The frames among actions, in order. -/
def Action.frames (actions : List Action) : List Frame :=
  actions.filterMap Action.frame?

/-- What is reported among control traffic are changes of link status. -/
theorem Action.linkStatus?_of_mem_reports
    {actions : List Action}
    (areControl : ∀ action ∈ actions, action.IsControl)
    {report : Report}
    (member : report ∈ Action.reports actions) :
    report.linkStatus? ≠ none := by
  rcases List.mem_filterMap.mp member with ⟨action, isAction, isReport⟩
  have isControl := areControl action isAction
  cases action with
  | transmit frame =>
      cases isReport
  | emit emitted =>
      cases isReport
      exact isControl

theorem Action.areControl_nil
    (action : Action)
    (impossible : action ∈ []) :
    action.IsControl :=
  (List.not_mem_nil impossible).elim

/-- A change of link status is control traffic. -/
theorem Action.isControl_ofLinkStatus
    (id : InterfaceId)
    (hardwareName : String)
    (status : LinkStatus) :
    (Action.emit (.ofLinkStatus id hardwareName status)).IsControl := by
  cases status <;> nofun

namespace LinkTable

variable (table : LinkTable)

/-- Taking a link away is control traffic only. -/
theorem isControl_shut
    (id : InterfaceId) :
    ∀ report ∈ (table.shut id).2, (Action.emit report).IsControl := by
  intro report member
  unfold shut at member
  cases found : table.get? id with
  | none =>
      rw [found] at member
      cases member
  | some record =>
      simp only [found] at member
      split at member
      · cases member
        exact Action.isControl_ofLinkStatus id record.hardwareName .lost
      · cases member

/-- Taking a link away politely is control traffic only. -/
theorem isControl_shutPolitely
    (id : InterfaceId) :
    ∀ action ∈ (table.shutPolitely id).2, action.IsControl := by
  have lost := isControl_shut table id
  unfold shutPolitely
  rcases outcome : table.shut id with ⟨after, _ | report⟩
  · exact Action.areControl_nil
  · intro action member
    rcases List.mem_cons.mp member with isReport | isFrame
    · rw [outcome] at lost
      rw [isReport]
      exact lost report rfl
    · rw [List.mem_singleton.mp isFrame]
      nofun

/-- Removing interfaces is control traffic only. -/
theorem isControl_removeAll
    (ids : List InterfaceId) :
    ∀ action ∈ (table.removeAll ids).2, action.IsControl := by
  induction ids generalizing table with
  | nil =>
      exact Action.areControl_nil
  | cons id rest inductionHypothesis =>
      intro action member
      rcases List.mem_append.mp member with isFirst | isLater
      · exact isControl_shutPolitely table id action isFirst
      · exact inductionHypothesis _ action isLater

/-- Taking links away is control traffic only. -/
theorem isControl_shutAll
    (ids : List InterfaceId) :
    ∀ report ∈ (table.shutAll ids).2, (Action.emit report).IsControl := by
  induction ids generalizing table with
  | nil =>
      nofun
  | cons id rest inductionHypothesis =>
      intro report member
      rcases List.mem_append.mp member with isFirst | isLater
      · exact isControl_shut table id report (Option.mem_toList.mp isFirst)
      · exact inductionHypothesis _ report isLater

/-- Lowering an interface is control traffic only. -/
theorem isControl_down
    {id : InterfaceId}
    {outcome : LinkTable × List Action}
    (lowered : table.down id = .ok outcome) :
    ∀ action ∈ outcome.2, action.IsControl := by
  unfold down at lowered
  cases found : table.get? id with
  | none =>
      rw [found] at lowered
      cases lowered
  | some record =>
      rw [found] at lowered
      cases lowered
      exact isControl_shutPolitely table id

/-- Removing an interface is control traffic only. -/
theorem isControl_remove
    {id : InterfaceId}
    {outcome : LinkTable × List Action}
    (removed : table.remove id = .ok outcome) :
    ∀ action ∈ outcome.2, action.IsControl := by
  unfold remove at removed
  cases lowered : table.down id with
  | error error =>
      rw [lowered] at removed
      cases removed
  | ok others =>
      rw [lowered] at removed
      cases removed
      have areControl := isControl_down table lowered
      exact areControl

/-- The loss of the transport is control traffic only. -/
theorem isControl_transportLost :
    ∀ action ∈ table.transportLost.2, action.IsControl := by
  intro action member
  rcases List.mem_map.mp member with ⟨report, isLost, isAction⟩
  rw [← isAction]
  exact isControl_shutAll table table.records.keys report isLost

/-- A link that comes up is announced by control traffic only. -/
theorem isControl_promote
    (id : InterfaceId)
    (record : LinkRecord)
    (now : Nat) :
    ∀ action ∈ (table.promote id record now).2, action.IsControl := by
  intro action member
  rw [List.mem_singleton.mp member]
  exact Action.isControl_ofLinkStatus id record.hardwareName .up

/-- A link that is lost is announced by control traffic only. -/
theorem isControl_demote
    (id : InterfaceId)
    (record : LinkRecord)
    (now : Nat) :
    ∀ action ∈ (table.demote id record now).2, action.IsControl := by
  intro action member
  rw [List.mem_singleton.mp member]
  exact Action.isControl_ofLinkStatus id record.hardwareName .lost

/-- Handling a timer is control traffic only. -/
theorem isControl_onTimer
    (handle : TimerHandle)
    (id : InterfaceId)
    (now : Nat) :
    ∀ action ∈ (table.onTimer handle id now).2, action.IsControl := by
  have isProbe : ∀ channel, ∀ action ∈ [Action.transmit (.probe id channel)],
      action.IsControl := by
    intro channel action member
    rw [List.mem_singleton.mp member]
    nofun
  unfold onTimer
  cases table.get? id with
  | none =>
      exact Action.areControl_nil
  | some record =>
      simp only
      split
      · exact Action.areControl_nil
      · split
        · split
          · exact isControl_demote table id record now
          · exact isProbe record.channel
        · split
          · exact isProbe record.channel
          · exact Action.areControl_nil

/-- Handling timers is control traffic only. -/
theorem isControl_onTimers
    (now : Nat)
    (due : List (TimerHandle × InterfaceId)) :
    ∀ action ∈ (table.onTimers now due).2, action.IsControl := by
  induction due generalizing table with
  | nil =>
      exact Action.areControl_nil
  | cons entry rest inductionHypothesis =>
      intro action member
      rcases List.mem_append.mp member with isFirst | isLater
      · exact isControl_onTimer table entry.1 entry.2 now action isFirst
      · exact inductionHypothesis _ action isLater

/-- A frame that carries no message has no other effect than on the link. -/
theorem isControl_onFrame
    {frame : Frame}
    (notData : frame.kind ≠ .data)
    (now : Nat) :
    ∀ action ∈ (table.onFrame frame now).2, action.IsControl := by
  unfold onFrame
  cases table.get? frame.id with
  | none =>
      exact Action.areControl_nil
  | some silent =>
      cases kind : frame.kind with
      | probe =>
          simp only
          have isAck : (Action.transmit (.ack frame.id)).IsControl := nofun
          split
          · exact Action.areControl_nil
          · split
            · intro action member
              rw [List.mem_singleton.mp member]
              exact isAck
            · intro action member
              rcases List.mem_cons.mp member with isFirst | isLater
              · rw [isFirst]
                exact isAck
              · exact isControl_promote _ frame.id _ now action isLater
      | ack =>
          simp only
          split
          · exact isControl_promote _ frame.id _ now
          · exact Action.areControl_nil
      | disconnect =>
          simp only
          split
          · exact isControl_demote _ frame.id _ now
          · exact Action.areControl_nil
      | data =>
          exact (notData kind).elim

/-- Whatever arrives, no data frame is transmitted. -/
theorem kind_of_transmit_onFrame
    {frame other : Frame}
    {now : Nat}
    (transmitted : Action.transmit other ∈ (table.onFrame frame now).2) :
    other.kind ≠ .data := by
  by_cases isData : frame.kind = .data
  · unfold onFrame at transmitted
    cases found : table.get? frame.id with
    | none =>
        rw [found] at transmitted
        cases transmitted
    | some silent =>
        simp only [found, isData] at transmitted
        split at transmitted
        · rw [onBlock_eq, Option.mem_toList, Option.map_eq_some_iff] at transmitted
          rcases transmitted with ⟨report, _, impossible⟩
          cases impossible
        · cases transmitted
  · exact isControl_onFrame table isData now _ transmitted

/-- Nothing but a frame that arrives makes a table do more than look after its links. -/
theorem isControl_perform
    {operation : Operation}
    (own : ∀ frame now, operation ≠ .frame frame now) :
    ∀ action ∈ (table.perform operation).2, action.IsControl := by
  cases operation with
  | add id params? now | setFilter filter? =>
      exact Action.areControl_nil
  | up id now =>
      simp only [perform]
      split <;> exact Action.areControl_nil
  | down id =>
      simp only [perform]
      split
      · next lowered =>
          exact isControl_down table lowered
      · exact Action.areControl_nil
  | remove id =>
      simp only [perform]
      split
      · next removed =>
          exact isControl_remove table removed
      · exact Action.areControl_nil
  | teardown =>
      exact isControl_removeAll table table.records.keys
  | frame frame now =>
      exact (own frame now rfl).elim
  | writeFailed id =>
      intro action member
      rcases List.mem_map.mp member with ⟨report, isLost, isAction⟩
      rw [← isAction]
      exact isControl_shut table id report (Option.mem_toList.mp isLost)
  | transportLost =>
      exact isControl_transportLost table
  | sweep now =>
      exact isControl_onTimers _ now (table.timers.takeDue now).1

/-- Whatever is done, no data frame is transmitted. -/
theorem kind_of_transmit_run
    {operations : List Operation}
    {frame : Frame}
    (transmitted : Action.transmit frame ∈ (table.run operations).2) :
    frame.kind ≠ .data := by
  induction operations generalizing table with
  | nil =>
      cases transmitted
  | cons operation rest inductionHypothesis =>
      rcases List.mem_append.mp transmitted with isFirst | isLater
      · by_cases arrives : ∃ arrival now, operation = .frame arrival now
        · obtain ⟨arrival, now, isFrame⟩ := arrives
          subst isFrame
          exact kind_of_transmit_onFrame table isFirst
        · have own : ∀ arrival now, operation ≠ .frame arrival now :=
            fun arrival now isFrame => arrives ⟨arrival, now, isFrame⟩
          exact isControl_perform table own _ isFirst
      · exact inductionHypothesis _ isLater

end LinkTable

namespace Multiplexer

variable (mux : Multiplexer)

/-! ## What executions write -/

/-- Reporting to the owner writes nothing. -/
theorem written_of_emit?
    {patient : Bool}
    {report : Report}
    {after : Multiplexer}
    {journal : List (Occurrence Report)}
    (emitted : mux.emit? patient report = some (after, journal)) :
    written journal = [] := by
  have outcome := emission mux patient report
  rw [emitted] at outcome
  cases outcome <;> rfl

/-- Reporting several times writes nothing. -/
theorem written_emitAll
    (patient : Bool)
    (reports : List Report) :
    written (mux.emitAll patient reports).journal = [] := by
  induction reports generalizing mux with
  | nil =>
      rfl
  | cons report rest inductionHypothesis =>
      rw [emitAll]
      cases emitted : mux.emit? patient report with
      | none =>
          rfl
      | some outcome =>
          rcases outcome with ⟨after, journal⟩
          simp only [Execution.after, written_append, written_of_emit? mux emitted,
            inductionHypothesis, List.append_nil]

/-- Whatever is written was to be transmitted. -/
theorem transmit_of_mem_written
    {patient : Bool}
    {lost : List Report}
    {actions : List Action}
    {frame : Frame}
    (member : frame ∈ written (mux.executeWith patient lost actions).journal) :
    Action.transmit frame ∈ actions := by
  induction actions generalizing mux lost with
  | nil =>
      rw [executeWith, written_emitAll] at member
      cases member
  | cons action rest inductionHypothesis =>
      cases action with
      | emit report =>
          rw [executeWith] at member
          cases emitted : mux.emit? patient report with
          | none =>
              rw [emitted] at member
              cases member
          | some outcome =>
              rcases outcome with ⟨after, journal⟩
              simp only [emitted, Execution.after, written_append,
                written_of_emit? mux emitted, List.nil_append] at member
              exact List.mem_cons_of_mem _ (inductionHypothesis after member)
      | transmit first =>
          have attempted := attempted_transmit mux first
          rw [executeWith] at member
          rcases outcome : mux.transmit first with ⟨after, journal, attempt⟩
          rw [outcome] at attempted member
          have isWritten := attempted.written
          -- The frame was written here and now, or it is among the later ones.
          have here : ∀ execution : Execution,
              frame ∈ written (execution.after journal).journal →
                frame = first ∨ frame ∈ written execution.journal := by
            intro execution isMember
            rw [Execution.after, written_append, isWritten, List.mem_append] at isMember
            refine isMember.imp_left fun isHere => ?_
            split at isHere
            · exact List.mem_singleton.mp isHere
            · cases isHere
          have later : frame = first ∨ Action.transmit frame ∈ rest := by
            cases attempt with
            | sent =>
                exact (here _ member).imp_right (inductionHypothesis after)
            | refused =>
                exact (here _ member).imp_right (inductionHypothesis _)
            | detached =>
                exact (here _ member).imp_right (inductionHypothesis _)
          rcases later with isFirst | isLater
          · rw [isFirst]
            exact List.mem_cons_self
          · exact List.mem_cons_of_mem _ isLater

/-- Letting the owner take what waits writes nothing. -/
theorem written_release :
    written mux.release.2 = [] := by
  unfold release ReportChannel.close
  simp only
  split <;> split <;> rfl

/-- What is being sent, and on which interface. -/
def Operation.sending? : Operation → Option (InterfaceId × Sending)
  | .send id command message => some (id, .plain command message)
  | .sendCommand id asked => some (id, .carried (.command asked))
  | .sendEvent id observed => some (id, .carried (.event observed))
  | _ => none

/-- Each operation that sends is a submission. -/
theorem perform_of_sending?
    {operation : Operation}
    {id : InterfaceId}
    {sending : Sending}
    (isSending : operation.sending? = some (id, sending)) :
    mux.perform operation = (mux.submit id sending).2 := by
  cases operation <;> cases isSending <;> rfl

/-- What is written when nothing is sent carries no message. -/
theorem kind_of_mem_written_perform
    {operation : Operation}
    (notSending : operation.sending? = none)
    {frame : Frame}
    (member : frame ∈ written (mux.perform operation).journal) :
    frame.kind ≠ .data := by
  have ofActions : ∀ {after : Multiplexer} {actions : List Action},
      (∀ action ∈ actions, action.IsControl) →
        frame ∈ written (after.execute true actions).journal → frame.kind ≠ .data := by
    intro after actions areControl isWritten
    exact areControl _ (transmit_of_mem_written after isWritten)
  have onTable : ∀ {operations}, operation.tableOperations? = some operations →
      frame.kind ≠ .data := by
    intro operations onTable
    rw [perform_of_tableOperations? mux onTable] at member
    exact LinkTable.kind_of_transmit_run mux.table (transmit_of_mem_written _ member)
  cases operation with
  | addInterface | lower | removeInterface | setFilter | receive | sweep =>
      exact onTable rfl
  | raise id now =>
      simp only [perform] at member
      split at member <;> cases member
  | send | sendCommand | sendEvent =>
      cases notSending
  | loseTransport =>
      exact ofActions (LinkTable.isControl_transportLost mux.table) member
  | close =>
      simp only [perform, close] at member
      split at member
      · cases member
      · rw [written_append, written_release, List.append_nil] at member
        exact ofActions (LinkTable.isControl_removeAll _ _) member

/-- What cannot be encoded is not written. -/
theorem written_submit_of_error
    (id : InterfaceId)
    {sending : Sending}
    {error : EncodeError}
    (failed : sending.encode = .error error) :
    written (mux.submit id sending).2.journal = [] := by
  rw [submit_eq_sendIfAllowed]
  cases allowed : mux.framesOf id sending with
  | error error =>
      rfl
  | ok frames =>
      rcases framesOf_ok allowed with ⟨_, _, message, encoded, _, _⟩
      rw [encoded] at failed
      cases failed

/-- Of what is sent some frames are written, from the first on. -/
theorem written_submit_of_ok
    (id : InterfaceId)
    {sending : Sending}
    {message : List UInt8}
    (encoded : sending.encode = .ok message) :
    ∃ count, written (mux.submit id sending).2.journal =
      (Frame.ofMessage id sending.isCommand message).take count := by
  rw [submit_eq_sendIfAllowed]
  cases allowed : mux.framesOf id sending with
  | error error =>
      exact ⟨0, rfl⟩
  | ok frames =>
      rcases framesOf_ok allowed with ⟨isOpen, _, other, isOther, _, shape⟩
      rw [encoded] at isOther
      cases isOther
      rcases mux.line.taken_or_failsAt frames.length with taken | ⟨index, isBelow, fails⟩
      · rcases sendFrames_of_taken id taken with ⟨_, _, allWritten⟩
        refine ⟨frames.length, ?_⟩
        rw [sendIfAllowed, allWritten, ← shape, List.take_length]
      · rcases sendFrames_of_failsAt id isOpen isBelow fails with
          ⟨between, journal, sent, interrupted⟩
        refine ⟨index, ?_⟩
        rw [← shape, sendIfAllowed, sent]
        simp only [Execution.after, written_append, written_emitAll, interrupted.written,
          List.append_nil]

end Multiplexer

end StationLink
