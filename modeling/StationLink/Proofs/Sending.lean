import StationLink.Proofs.Delivery
import StationLink.Proofs.LinkTimers
import StationLink.Proofs.MultiplexerOperations

namespace StationLink

/-!
# Sending whole messages

Whatever is sent on an interface is checked first. If something stands against
it nothing happens at all (`Multiplexer.submit`, `framesOf`). Otherwise its
frames are written one after another: either all of them, or those in front of
the first one that the line does not take, and then the interface is taken down
and its loss reported.
-/

/-- What can be sent: a message as it is, or the message of some traffic. -/
inductive Sending where
  | plain (command : Bool) (message : List UInt8)
  | carried (traffic : Traffic)

namespace Sending

def isCommand : Sending → Bool
  | .plain command _ => command
  | .carried traffic => traffic.isCommand

def encode : Sending → Except EncodeError (List UInt8)
  | .plain _ message => .ok message
  | .carried traffic => traffic.encode

end Sending

/-! ## Lines -/

namespace Line

/-- Whether the line takes the write that comes after `count` others. -/
def takes (line : Line) (count : Nat) : Bool :=
  line.attached && line.accepts (line.attempts + count)

/-- The first write that the line does not take comes after `count` others. -/
def FailsAt (line : Line) (count : Nat) : Prop :=
  (∀ earlier < count, line.takes earlier = true) ∧ line.takes count = false

/-- A line takes all of some writes, or there is a first one that it does not take. -/
theorem taken_or_failsAt
    (line : Line)
    (count : Nat) :
    (∀ index < count, line.takes index = true) ∨ ∃ index < count, line.FailsAt index := by
  induction count with
  | zero =>
      exact Or.inl fun index impossible => (Nat.not_lt_zero index impossible).elim
  | succ count inductionHypothesis =>
      rcases inductionHypothesis with taken | ⟨index, isEarlier, fails⟩
      · cases last : line.takes count with
        | true =>
            refine Or.inl fun index isBelow => ?_
            rcases Nat.lt_succ_iff_lt_or_eq.mp isBelow with isEarlier | isLast
            · exact taken index isEarlier
            · rw [isLast]
              exact last
        | false =>
            exact Or.inr ⟨count, Nat.lt_succ_self count, taken, last⟩
      · exact Or.inr ⟨index, Nat.lt_succ_of_lt isEarlier, fails⟩

end Line

/-- The frame that was to be written, whether or not the line took it. -/
def Occurrence.tried? {ρ : Type} : Occurrence ρ → Option Frame
  | .sent frame => some frame
  | .refused frame => some frame
  | _ => none

namespace LinkTable

/-- One interface is out of use afterwards; nothing is changed about the others. -/
structure Stopped (before : LinkTable) (id : InterfaceId) (after : LinkTable) : Prop where
  inactive : after.state id = .inactive
  ineligible :
    ∃ record, after.get? id = some record ∧ record.eligible = false ∧
      after.timers.isLinked record.timer = false
  others :
    ∀ other, other ≠ id →
      after.get? other = before.get? other ∧
        ∀ record, before.get? other = some record →
          after.timers.get? record.timer = before.timers.get? record.timer
  names : after.names = before.names

/-- Taking an interface down leaves the timers of all others alone. -/
theorem timer_shut_of_ne
    {table : LinkTable}
    {id other : InterfaceId}
    {record : LinkRecord}
    {pending : List (TimerHandle × InterfaceId)}
    (inStep : table.InStep pending)
    (differs : other ≠ id)
    (found : table.get? other = some record) :
    (table.shut id).1.timers.get? record.timer = table.timers.get? record.timer := by
  unfold shut
  split
  · next own foundOwn =>
      have notOwn : record.timer ≠ own.timer := by
        intro same
        exact differs (inStep.eq_of_sameTimer foundOwn found same)
      simp [stopTimer, set, TimerQueue.get?_unlink, notOwn]
  · rfl

/-- Shutting a running interface stops it, and its link is lost. -/
theorem stopped_of_shut
    {table : LinkTable}
    {id : InterfaceId}
    {record : LinkRecord}
    (inStep : table.InStep [])
    (found : table.get? id = some record)
    (running : record.running = true) :
    (table.shut id).2 = some (.ofLinkStatus id record.hardwareName .lost) ∧
      Stopped table id (table.shut id).1 := by
  have own : (table.shut id).1.get? id = some record.shut := by
    rw [get?_shut, if_pos rfl, found, Option.map_some]
  constructor
  · simp only [LinkTable.shut, found, running, if_true]
  · constructor
    · simp only [state, own]
      rfl
    · refine ⟨record.shut, own, rfl, ?_⟩
      have linked := (inStep.shut id).consistent.eligible_iff_linked own
      exact Bool.eq_false_iff.mpr fun isLinked => Bool.false_ne_true (linked.mpr isLinked)
    · intro other differs
      refine ⟨by rw [get?_shut, if_neg differs], ?_⟩
      exact fun kept foundOther => timer_shut_of_ne inStep differs foundOther
    · simp only [LinkTable.shut, found]
      rfl

end LinkTable

namespace Multiplexer

/-- Send something on an interface. -/
def submit
    (mux : Multiplexer)
    (id : InterfaceId) :
    Sending → Except LinkError Unit × Execution
  | .plain command message => mux.send id command message
  | .carried (.command asked) => mux.sendCommand id asked
  | .carried (.event observed) => mux.sendEvent id observed

/-- The frames of what is to be sent, unless something stands against sending it. -/
def framesOf
    (mux : Multiplexer)
    (id : InterfaceId) :
    Sending → Except LinkError (List Frame)
  | .plain command message => mux.messageFrames id command message
  | .carried (.command asked) => mux.commandFrames id asked
  | .carried (.event observed) =>
      match observed.encode with
      | .error error => .error (.encode error)
      | .ok message => mux.messageFrames id false message

variable {mux : Multiplexer} {id : InterfaceId}

/-- The interfaces and timers of a multiplexer that can be reached are in step. -/
theorem Reachable.inStep
    (reachable : mux.Reachable) :
    mux.table.InStep [] := by
  obtain ⟨settings, operations, reached⟩ := reachable
  rw [← reached]
  exact (LinkTable.inStep_ofSettings settings).run operations

/-- What is submitted is sent if nothing stands against its frames. -/
theorem submit_eq_sendIfAllowed
    (mux : Multiplexer)
    (id : InterfaceId)
    (sending : Sending) :
    mux.submit id sending = mux.sendIfAllowed id (mux.framesOf id sending) := by
  rcases sending with ⟨command, message⟩ | asked | observed
  · rfl
  · rfl
  · simp only [submit, sendEvent, framesOf]
    cases observed.encode with
    | error error =>
        rfl
    | ok message =>
        rfl

/-! ## Checks -/

/-- A message may be sent if its transport is open, its link up and itself not empty. -/
theorem messageFrames_ok
    {command : Bool}
    {message : List UInt8}
    {frames : List Frame}
    (allowed : mux.messageFrames id command message = .ok frames) :
    mux.isOpen = true ∧ mux.table.isRunning id = true ∧ message ≠ [] ∧
      frames = Frame.ofMessage id command message := by
  unfold messageFrames at allowed
  split at allowed
  · cases allowed
  · next nonempty =>
      split at allowed
      · cases allowed
      · next notClosed =>
          have isOpen : mux.isOpen = true := Decidable.not_not.mp notClosed
          unfold LinkTable.checkRunning at allowed
          cases found : mux.table.get? id with
          | none =>
              rw [found] at allowed
              cases allowed
          | some record =>
              rw [found] at allowed
              cases running : record.running with
              | false =>
                  simp only [running] at allowed
                  cases allowed
              | true =>
                  simp only [running] at allowed
                  cases allowed
                  refine ⟨isOpen, ?_, nonempty, rfl⟩
                  rw [LinkTable.isRunning_of_found found, running]

/-- Nothing stands against a message on a link that is up. -/
theorem messageFrames_of_running
    (isOpen : mux.isOpen = true)
    (running : mux.table.isRunning id = true)
    {message : List UInt8}
    (nonempty : message ≠ [])
    (command : Bool) :
    mux.messageFrames id command message = .ok (Frame.ofMessage id command message) := by
  rcases LinkTable.exists_of_isRunning running with ⟨record, found, isUp⟩
  simp only [messageFrames, if_neg nonempty, isOpen, not_true_eq_false, if_false,
    LinkTable.checkRunning, found, isUp, if_true]
  rfl

/-- A message is never refused for the reason that a write failed. -/
theorem messageFrames_error
    {command : Bool}
    {message : List UInt8}
    {error : LinkError}
    (refused : mux.messageFrames id command message = .error error)
    (reason : String) :
    error ≠ .io reason := by
  unfold messageFrames at refused
  split at refused
  · cases refused
    nofun
  · split at refused
    · cases refused
      nofun
    · unfold LinkTable.checkRunning at refused
      cases found : mux.table.get? id with
      | none =>
          rw [found] at refused
          cases refused
          nofun
      | some record =>
          rw [found] at refused
          cases running : record.running with
          | false =>
              simp only [running] at refused
              cases refused
              nofun
          | true =>
              simp only [running] at refused
              cases refused

/-- What passes all checks are the frames of the message, for a running interface. -/
theorem framesOf_ok
    {sending : Sending}
    {frames : List Frame}
    (allowed : mux.framesOf id sending = .ok frames) :
    mux.isOpen = true ∧ mux.table.isRunning id = true ∧
      ∃ message, sending.encode = .ok message ∧ message ≠ [] ∧
        frames = Frame.ofMessage id sending.isCommand message := by
  rcases sending with ⟨command, message⟩ | asked | observed
  · rcases messageFrames_ok allowed with ⟨isOpen, running, nonempty, shape⟩
    exact ⟨isOpen, running, message, rfl, nonempty, shape⟩
  · simp only [framesOf, commandFrames] at allowed
    split at allowed
    · cases allowed
    · split at allowed
      · cases allowed
      · next message encoded =>
          rcases messageFrames_ok allowed with ⟨isOpen, running, nonempty, shape⟩
          exact ⟨isOpen, running, message, encoded, nonempty, shape⟩
  · simp only [framesOf] at allowed
    split at allowed
    · cases allowed
    · next message encoded =>
        rcases messageFrames_ok allowed with ⟨isOpen, running, nonempty, shape⟩
        exact ⟨isOpen, running, message, encoded, nonempty, shape⟩

/-- No check blames the line. -/
theorem framesOf_error
    {sending : Sending}
    {error : LinkError}
    (refused : mux.framesOf id sending = .error error)
    (reason : String) :
    error ≠ .io reason := by
  rcases sending with ⟨command, message⟩ | asked | observed
  · exact messageFrames_error refused reason
  · simp only [framesOf, commandFrames] at refused
    split at refused
    · next checked =>
        cases refused
        unfold LinkTable.checkCommand at checked
        split at checked
        · split at checked
          · cases checked
          · cases checked
            nofun
        · cases checked
          nofun
    · split at refused
      · cases refused
        nofun
      · exact messageFrames_error refused reason
  · simp only [framesOf] at refused
    split at refused
    · cases refused
      nofun
    · exact messageFrames_error refused reason

/-! ## Writing -/

/-- The frames that were to be written, in order. -/
def tried (journal : List (Occurrence Report)) : List Frame :=
  journal.filterMap Occurrence.tried?

@[simp] theorem tried_append
    (first second : List (Occurrence Report)) :
    tried (first ++ second) = tried first ++ tried second :=
  List.filterMap_append

/-- All that an attempt to write a frame can change. -/
structure Attempted
    (mux : Multiplexer)
    (frame : Frame)
    (after : Multiplexer)
    (journal : List (Occurrence Report))
    (attempt : Line.Attempt) : Prop where
  table : after.table = mux.table
  isOpen : after.isOpen = mux.isOpen
  refusal : after.line.refusal = mux.line.refusal
  takes : ∀ count, after.line.takes count = mux.line.takes (count + 1)
  sent_iff : attempt = .sent ↔ mux.line.takes 0 = true
  written : written journal = if attempt = .sent then [frame] else []
  tried : ∀ other ∈ tried journal, other = frame
  reports : delivered journal ++ after.reports.waiting = mux.reports.waiting
  wanted : after.reports.isWanted = mux.reports.isWanted

/-- At a write the owner takes the reports that have waited longest, or none. -/
theorem collect_eq
    (channel : ReportChannel) :
    ∃ after reports, channel.collect = (after, reports.map .reported) ∧
      reports ++ after.waiting = channel.waiting ∧ after.isWanted = channel.isWanted := by
  unfold ReportChannel.collect
  split
  · exact ⟨_, channel.waiting, rfl, List.append_nil _, rfl⟩
  · exact ⟨_, [], rfl, rfl, rfl⟩

/-- Reports that are handed over are delivered, and nothing is written. -/
theorem journal_of_reports
    (reports : List Report) :
    delivered (reports.map .reported) = reports ∧ written (reports.map .reported) = [] ∧
      tried (reports.map .reported) = [] := by
  induction reports with
  | nil =>
      exact ⟨rfl, rfl, rfl⟩
  | cons report rest inductionHypothesis =>
      rcases inductionHypothesis with ⟨isDelivered, noneWritten, noneTried⟩
      exact ⟨congrArg (report :: ·) isDelivered, noneWritten, noneTried⟩

/-- A frame is written or it is not, and nothing else is tried. -/
theorem attempted_transmit
    (mux : Multiplexer)
    (frame : Frame) :
    Attempted mux frame (mux.transmit frame).1 (mux.transmit frame).2.1
      (mux.transmit frame).2.2 := by
  rcases collect_eq mux.reports with ⟨reports, taken, collected, kept, wanted⟩
  rcases journal_of_reports taken with ⟨isDelivered, noneWritten, noneTried⟩
  have later : ∀ count, mux.line.attempts + 1 + count = mux.line.attempts + (count + 1) := by
    intro count
    omega
  cases attached : mux.line.attached with
  | false =>
      simp only [transmit, Line.write, attached, Bool.false_eq_true, if_false,
        Line.Attempt.occurrence?]
      constructor
      · rfl
      · rfl
      · rfl
      · intro count
        simp only [Line.takes, attached, Bool.false_and]
      · simp only [Line.takes, attached, Bool.false_and, reduceCtorEq, Bool.false_eq_true]
      · rfl
      · intro other member
        cases member
      · rfl
      · rfl
  | true =>
      cases accepted : mux.line.accepts mux.line.attempts with
      | false =>
          simp only [transmit, Line.write, attached, accepted, Bool.false_eq_true, if_true,
            if_false, Line.Attempt.occurrence?, collected]
          constructor
          · rfl
          · rfl
          · rfl
          · intro count
            simp only [Line.takes, attached, later]
          · simp only [Line.takes, attached, Nat.add_zero, accepted, Bool.and_false,
              reduceCtorEq, Bool.false_eq_true]
          · rw [written_append, noneWritten]
            rfl
          · rw [tried_append, noneTried]
            exact fun other member => List.mem_singleton.mp member
          · rw [delivered_append, isDelivered]
            simpa only [delivered, List.filterMap_cons, Occurrence.reported?,
              List.filterMap_nil, List.append_nil] using kept
          · exact wanted
      | true =>
          simp only [transmit, Line.write, attached, accepted, if_true,
            Line.Attempt.occurrence?, collected]
          constructor
          · rfl
          · rfl
          · rfl
          · intro count
            simp only [Line.takes, attached, later]
          · simp only [Line.takes, attached, Nat.add_zero, accepted, Bool.and_self]
          · rw [written_append, noneWritten]
            rfl
          · rw [tried_append, noneTried]
            exact fun other member => List.mem_singleton.mp member
          · rw [delivered_append, isDelivered]
            simpa only [delivered, List.filterMap_cons, Occurrence.reported?,
              List.filterMap_nil, List.append_nil] using kept
          · exact wanted

/-- Frames that the line takes are all written, and nothing else happens. -/
theorem sendFrames_of_taken
    (id : InterfaceId)
    {frames : List Frame}
    (taken : ∀ index < frames.length, mux.line.takes index = true) :
    (mux.sendFrames id frames).1 = .ok () ∧
      (mux.sendFrames id frames).2.mux.table = mux.table ∧
      written (mux.sendFrames id frames).2.journal = frames := by
  induction frames generalizing mux with
  | nil =>
      exact ⟨rfl, rfl, rfl⟩
  | cons frame rest inductionHypothesis =>
      have attempted := attempted_transmit mux frame
      rw [sendFrames]
      rcases outcome : mux.transmit frame with ⟨after, journal, attempt⟩
      rw [outcome] at attempted
      have isSent : attempt = .sent :=
        attempted.sent_iff.mpr (taken 0 (Nat.zero_lt_succ _))
      subst attempt
      have restTaken : ∀ index < rest.length, after.line.takes index = true := by
        intro index isBelow
        rw [attempted.takes]
        exact taken (index + 1) (Nat.succ_lt_succ isBelow)
      rcases inductionHypothesis restTaken with ⟨isOk, sameTable, restWritten⟩
      refine ⟨isOk, sameTable.trans attempted.table, ?_⟩
      simp only [Execution.after, written_append, attempted.written, if_true, restWritten,
        List.singleton_append]

/-- How far the writing of frames came before the line did not take one. -/
structure Interrupted
    (mux : Multiplexer)
    (frames : List Frame)
    (index : Nat)
    (between : Multiplexer)
    (journal : List (Occurrence Report)) : Prop where
  table : between.table = mux.table
  written : written journal = frames.take index
  tried : ∀ frame ∈ tried journal, frame ∈ frames
  reports : delivered journal ++ between.reports.waiting = mux.reports.waiting
  wanted : between.reports.isWanted = mux.reports.isWanted

/-- At the first frame that the line does not take the interface is taken down. -/
theorem sendFrames_of_failsAt
    (id : InterfaceId)
    {frames : List Frame}
    {index : Nat}
    (isOpen : mux.isOpen = true)
    (isBelow : index < frames.length)
    (fails : mux.line.FailsAt index) :
    ∃ between journal,
      mux.sendFrames id frames =
        (.error (.io mux.line.refusal),
          ((between.writeFailed id).1.emitAll true
            (between.writeFailed id).2.toList).after journal) ∧
        Interrupted mux frames index between journal := by
  induction frames generalizing mux index with
  | nil =>
      exact (Nat.not_lt_zero index isBelow).elim
  | cons frame rest inductionHypothesis =>
      have attempted := attempted_transmit mux frame
      rw [sendFrames]
      rcases outcome : mux.transmit frame with ⟨after, journal, attempt⟩
      rw [outcome] at attempted
      have stillOpen : after.isOpen = true := attempted.isOpen.trans isOpen
      have isFirst : ∀ other ∈ tried journal, other ∈ frame :: rest := by
        intro other member
        rw [attempted.tried other member]
        exact List.mem_cons_self
      rcases fails with ⟨takenBefore, notTaken⟩
      -- Each frame that is written brings the line one write nearer to the failing one.
      cases index with
      | zero =>
          have notSent : attempt ≠ .sent := by
            intro isSent
            have taken := attempted.sent_iff.mp isSent
            rw [notTaken] at taken
            cases taken
          have interrupted : Interrupted mux (frame :: rest) 0 after journal := by
            refine ⟨attempted.table, ?_, isFirst, attempted.reports, attempted.wanted⟩
            rw [attempted.written, if_neg notSent, List.take_zero]
          have sameRefusal : (after.writeFailed id).1.line.refusal = mux.line.refusal :=
            attempted.refusal
          refine ⟨after, journal, ?_, interrupted⟩
          cases attempt with
          | sent =>
              exact (notSent rfl).elim
          | refused | detached =>
              simp only [stillOpen, if_true, sameRefusal]
      | succ index =>
          have isSent : attempt = .sent :=
            attempted.sent_iff.mpr (takenBefore 0 (Nat.zero_lt_succ _))
          subst attempt
          have failsLater : after.line.FailsAt index := by
            constructor
            · intro earlier isEarlier
              rw [attempted.takes]
              exact takenBefore (earlier + 1) (Nat.succ_lt_succ isEarlier)
            · rw [attempted.takes]
              exact notTaken
          rcases inductionHypothesis stillOpen (Nat.lt_of_succ_lt_succ isBelow)
            failsLater with ⟨between, others, sentRest, interrupted⟩
          refine ⟨between, journal ++ others, ?_, ?_⟩
          · have sameRefusal : after.line.refusal = mux.line.refusal := attempted.refusal
            simp only [sentRest, sameRefusal, Execution.after, List.append_assoc]
          · constructor
            · exact interrupted.table.trans attempted.table
            · rw [written_append, attempted.written, interrupted.written, if_pos rfl,
                List.take_succ_cons, List.singleton_append]
            · intro other member
              rw [tried_append, List.mem_append] at member
              rcases member with isHere | isLater
              · exact isFirst other isHere
              · exact List.mem_cons_of_mem _ (interrupted.tried other isLater)
            · rw [delivered_append, List.append_assoc, interrupted.reports,
                attempted.reports]
            · exact interrupted.wanted.trans attempted.wanted

/-! ## Messages that are sent as they are -/

/-- A message that is sent as it is, on a line that takes it, is written. -/
theorem written_send_of_taken
    {command : Bool}
    {message : List UInt8}
    (isOpen : mux.isOpen = true)
    (running : mux.table.state id = .running)
    (nonempty : message ≠ [])
    (taken : ∀ index < (Frame.ofMessage id command message).length,
      mux.line.takes index = true) :
    (mux.send id command message).1 = .ok () ∧
      written (mux.send id command message).2.journal =
        Frame.ofMessage id command message := by
  have isRunning := (LinkTable.state_eq_running_iff mux.table id).mp running
  have allowed := messageFrames_of_running isOpen isRunning nonempty command
  rcases sendFrames_of_taken id taken with ⟨isOk, _, allWritten⟩
  rw [send, allowed]
  exact ⟨isOk, allWritten⟩

/-- If sending a message as it is succeeds, the message was written. -/
theorem written_of_send_ok
    {command : Bool}
    {message : List UInt8}
    (isOk : (mux.send id command message).1 = .ok ()) :
    message ≠ [] ∧
      written (mux.send id command message).2.journal = Frame.ofMessage id command message := by
  unfold send at isOk ⊢
  cases allowed : mux.messageFrames id command message with
  | error error =>
      rw [allowed] at isOk
      cases isOk
  | ok frames =>
      rcases messageFrames_ok allowed with ⟨isOpen, _, nonempty, shape⟩
      rw [allowed] at isOk
      refine ⟨nonempty, ?_⟩
      rcases mux.line.taken_or_failsAt frames.length with taken | ⟨index, isBelow, fails⟩
      · rcases sendFrames_of_taken id taken with ⟨_, _, allWritten⟩
        exact allWritten.trans shape
      · rcases sendFrames_of_failsAt id isOpen isBelow fails with ⟨_, _, sent, _⟩
        rw [sendIfAllowed, sent] at isOk
        cases isOk

/-! ## Reporting the loss -/

/-- A report that waits does so behind all others. -/
theorem waiting_of_offer
    (channel : ReportChannel)
    (report : Report) :
    match channel.offer report with
    | .taken after => after.waiting = channel.waiting
    | .stored after => after.waiting = channel.waiting ++ [report]
    | .discarded => channel.isWanted = false
    | .full => True := by
  unfold ReportChannel.offer
  by_cases unwanted : ¬ channel.isOpen ∨ ¬ channel.hasOwner
  · rw [if_pos unwanted]
    rw [Bool.not_eq_true, Bool.not_eq_true] at unwanted
    exact Bool.and_eq_false_iff.mpr unwanted
  · rw [if_neg unwanted]
    by_cases takes : channel.attention.takes
    · rw [if_pos takes]
    · rw [if_neg takes]
      by_cases room :
          channel.waiting.length + (if channel.promised then 1 else 0) < channel.capacity
      · rw [if_pos room]
      · rw [if_neg room]
        trivial

/--
A single report is all that comes of reporting it: it is delivered, it waits in
the channel or it waits for room there, unless nobody wants it.
-/
structure Reported
    (mux : Multiplexer)
    (report : Report)
    (execution : Execution) : Prop where
  table : execution.mux.table = mux.table
  written : written execution.journal = []
  tried : tried execution.journal = []
  backlog : ∀ frame, Action.transmit frame ∉ execution.backlog
  once :
    mux.reports.isWanted = true →
      (delivered execution.journal ++ execution.mux.reports.waiting ++
        Action.reports execution.backlog).Perm (mux.reports.waiting ++ [report])

/-- A report that is wanted is delivered or waits behind all others. -/
theorem reported_emitAll
    (mux : Multiplexer)
    (report : Report) :
    Reported mux report (mux.emitAll true [report]) := by
  have fate := waiting_of_offer mux.reports report
  rw [emitAll, emit?]
  cases offered : mux.reports.offer report with
  | taken after =>
      rw [offered] at fate
      refine ⟨rfl, rfl, rfl, fun frame => List.not_mem_nil, fun _ => ?_⟩
      have nothing : Action.reports [] = [] := rfl
      simp only [emitAll, Execution.after, List.append_nil, nothing, fate]
      exact (List.perm_append_singleton report mux.reports.waiting).symm
  | stored after =>
      rw [offered] at fate
      refine ⟨rfl, rfl, rfl, fun frame => List.not_mem_nil, fun _ => ?_⟩
      have nothing : Action.reports [] = [] := rfl
      simp only [emitAll, Execution.after, List.append_nil, nothing, fate]
      exact List.Perm.refl _
  | discarded =>
      rw [offered] at fate
      refine ⟨rfl, rfl, rfl, fun frame => List.not_mem_nil, fun wanted => ?_⟩
      rw [fate] at wanted
      cases wanted
  | full =>
      refine ⟨rfl, rfl, rfl, fun frame member => ?_, fun _ => List.Perm.refl _⟩
      cases List.mem_singleton.mp member

/--
An interface was taken down because a frame of it could not be written: its loss
is reported once, the peer is not told and nothing else is changed.
-/
structure TakenDown
    (mux : Multiplexer)
    (id : InterfaceId)
    (execution : Execution) : Prop where
  stopped : LinkTable.Stopped mux.table id execution.mux.table
  noDisconnect :
    (∀ frame ∈ tried execution.journal, frame.kind = .data) ∧
      ∀ frame, Action.transmit frame ∉ execution.backlog
  lostOnce :
    mux.reports.isWanted = true →
      ∃ hardwareName, mux.table.hardwareName? id = some hardwareName ∧
        (delivered execution.journal ++ execution.mux.reports.waiting ++
          Action.reports execution.backlog).Perm
            (mux.reports.waiting ++ [.ofLinkStatus id hardwareName .lost])

/-- All of a message was written on a running interface, and nothing else was changed. -/
structure SentWhole
    (mux : Multiplexer)
    (id : InterfaceId)
    (sending : Sending)
    (execution : Execution) : Prop where
  running : mux.table.state id = .running
  written :
    ∃ message, sending.encode = .ok message ∧
      (Train.cut message).flatMap Block.payload = message ∧
      (written execution.journal).flatMap Frame.encode =
        (Train.cut message).flatMap fun block =>
          (Frame.ofBlock id sending.isCommand block).encode
  table : execution.mux.table = mux.table

/-- All frames of a message carry a part of it. -/
theorem kind_of_mem_ofMessage
    {command : Bool}
    {message : List UInt8}
    {frame : Frame}
    (member : frame ∈ Frame.ofMessage id command message) :
    frame.kind = .data := by
  rcases List.mem_map.mp member with ⟨block, _, isFrame⟩
  rw [← isFrame]
  rfl

/-- If the line takes every frame, all of the message is written. -/
theorem sentWhole_of_taken
    {sending : Sending}
    {frames : List Frame}
    (allowed : mux.framesOf id sending = .ok frames)
    (taken : ∀ index < frames.length, mux.line.takes index = true) :
    (mux.submit id sending).1 = .ok () ∧
      SentWhole mux id sending (mux.submit id sending).2 := by
  rcases framesOf_ok allowed with ⟨_, running, message, encoded, _, shape⟩
  rcases sendFrames_of_taken id taken with ⟨isOk, sameTable, allWritten⟩
  rw [submit_eq_sendIfAllowed, allowed, sendIfAllowed]
  refine ⟨isOk, ?_, ?_, sameTable⟩
  · exact (LinkTable.state_eq_running_iff mux.table id).mpr running
  · refine ⟨message, encoded, Train.flatMap_payload_cut message, ?_⟩
    rw [allWritten, shape, Frame.ofMessage, List.flatMap_map]

/-- If a frame is the first that the line does not take, the interface is taken down. -/
theorem takenDown_of_failsAt
    (reachable : mux.Reachable)
    {sending : Sending}
    {frames : List Frame}
    {index : Nat}
    (allowed : mux.framesOf id sending = .ok frames)
    (isBelow : index < frames.length)
    (fails : mux.line.FailsAt index) :
    (mux.submit id sending).1 = .error (.io mux.line.refusal) ∧
      (∃ message, sending.encode = .ok message ∧
        frames = Frame.ofMessage id sending.isCommand message) ∧
      written (mux.submit id sending).2.journal = frames.take index ∧
      TakenDown mux id (mux.submit id sending).2 := by
  rcases framesOf_ok allowed with ⟨isOpen, running, message, encoded, _, shape⟩
  rcases sendFrames_of_failsAt id isOpen isBelow fails with
    ⟨between, journal, sent, interrupted⟩
  rcases LinkTable.exists_of_isRunning running with ⟨record, found, isUp⟩
  rcases LinkTable.stopped_of_shut reachable.inStep found isUp with ⟨lost, stopped⟩
  let shut := { between with table := (mux.table.shut id).1 }
  let lossReport := Report.ofLinkStatus id record.hardwareName .lost
  have failed :
      (between.writeFailed id).1.emitAll true (between.writeFailed id).2.toList =
        shut.emitAll true [lossReport] := by
    simp only [writeFailed, interrupted.table, lost, Option.toList_some, shut, lossReport]
  have reported := reported_emitAll shut lossReport
  rw [submit_eq_sendIfAllowed, allowed, sendIfAllowed, sent, failed]
  refine ⟨rfl, ⟨message, encoded, shape⟩, ?_, ?_⟩
  · simp only [Execution.after, written_append, reported.written, interrupted.written,
      List.append_nil]
  · constructor
    · simp only [Execution.after, reported.table]
      exact stopped
    · refine ⟨?_, reported.backlog⟩
      intro frame member
      simp only [Execution.after, tried_append, reported.tried, List.append_nil] at member
      have isOwn := interrupted.tried frame member
      rw [shape] at isOwn
      exact kind_of_mem_ofMessage isOwn
    · intro wanted
      refine ⟨record.hardwareName, by rw [LinkTable.hardwareName?, found]; rfl, ?_⟩
      have once := reported.once (interrupted.wanted.trans wanted)
      simp only [Execution.after, delivered_append, List.append_assoc] at once ⊢
      rw [← interrupted.reports, List.append_assoc]
      exact once.append_left (delivered journal)

/--
Sending is all or reported. An error that does not blame the line leaves all as
it was and nothing written. Success means that the interface was running and
exactly the message was written, block by block. If the line does not take one of
the blocks, those in front of it were written, the error blames the line, and the
interface is taken down; and there is no other reason to blame the line.
-/
theorem submit_whole_or_reported
    (reachable : mux.Reachable)
    (id : InterfaceId)
    (sending : Sending) :
    (∀ error, (mux.submit id sending).1 = .error error →
      (∀ reason, error ≠ .io reason) → (mux.submit id sending).2 = { mux }) ∧
    ((mux.submit id sending).1 = .ok () →
      SentWhole mux id sending (mux.submit id sending).2) ∧
    (∀ frames index, mux.framesOf id sending = .ok frames → index < frames.length →
      mux.line.FailsAt index →
        (mux.submit id sending).1 = .error (.io mux.line.refusal) ∧
          (∃ message, sending.encode = .ok message ∧
            frames = Frame.ofMessage id sending.isCommand message) ∧
          written (mux.submit id sending).2.journal = frames.take index ∧
          TakenDown mux id (mux.submit id sending).2) ∧
    (∀ reason, (mux.submit id sending).1 = .error (.io reason) →
      ∃ frames, mux.framesOf id sending = .ok frames ∧
        ∃ index < frames.length, mux.line.FailsAt index) := by
  cases allowed : mux.framesOf id sending with
  | error error =>
      have refused : mux.submit id sending = (.error error, { mux }) := by
        rw [submit_eq_sendIfAllowed, allowed, sendIfAllowed]
      rw [refused]
      refine ⟨fun _ _ _ => rfl, nofun, nofun, ?_⟩
      intro reason blamed
      exact (framesOf_error allowed reason (Except.error.inj blamed)).elim
  | ok frames =>
      rcases mux.line.taken_or_failsAt frames.length with taken | ⟨index, isBelow, fails⟩
      · rcases sentWhole_of_taken allowed taken with ⟨isOk, sentWhole⟩
        rw [isOk]
        refine ⟨nofun, fun _ => sentWhole, ?_, nofun⟩
        intro other index same isBelow fails
        cases same
        have taken := taken index isBelow
        rw [fails.2] at taken
        cases taken
      · have takenDown := @takenDown_of_failsAt mux id reachable sending frames
        have blamed := (takenDown allowed isBelow fails).1
        refine ⟨?_, ?_, ?_, fun _ _ => ⟨frames, rfl, index, isBelow, fails⟩⟩
        · intro error isError notIo
          rw [blamed] at isError
          cases isError
          exact (notIo _ rfl).elim
        · rw [blamed]
          nofun
        · intro other earlier same isEarlier failsEarlier
          cases same
          exact takenDown allowed isEarlier failsEarlier

/-- The line takes the first block of a message of two, but not the second. -/
theorem submit_of_refused_block :
    let table := ((LinkTable.ofSettings {}).run
      [.add 1 none 0, .up 1 0, .add 2 none 0, .frame (.ack 1) 3]).1
    let mux := { Multiplexer.ofSettings {} with
      table, line := { accepts := fun number => number == 0 } }
    let message := List.replicate 256 0x42
    mux.Reachable ∧ mux.line.FailsAt 1 ∧
      (mux.submit 1 (.plain false message)).1 = .error (.io "write refused") ∧
      written (mux.submit 1 (.plain false message)).2.journal =
        (Frame.ofMessage 1 false message).take 1 ∧
      TakenDown mux 1 (mux.submit 1 (.plain false message)).2 := by
  intro table mux message
  have reachable : mux.Reachable := ⟨{}, _, rfl⟩
  have fails : mux.line.FailsAt 1 := by
    constructor
    · decide
    · rfl
  have isBelow : 1 < (Frame.ofMessage 1 false message).length := by
    rw [Frame.ofMessage, List.length_map, Train.length_cut, List.length_replicate]
    decide
  have allowed : mux.framesOf 1 (.plain false message) =
      .ok (Frame.ofMessage 1 false message) :=
    messageFrames_of_running rfl rfl (List.cons_ne_nil _ _) false
  rcases submit_whole_or_reported reachable 1 (.plain false message) with
    ⟨_, _, broken, _⟩
  rcases broken _ 1 allowed isBelow fails with ⟨isError, _, isWritten, takenDown⟩
  exact ⟨reachable, fails, isError, isWritten, takenDown⟩

end Multiplexer

end StationLink
