import StationLink.Proofs.ActionQueue
import StationLink.Proofs.DormantInterfaces

namespace StationLink

/-!
# Failed writes

Whichever writes fail, actions are carried out to the end. All of them are handled in
order, then one loss is reported of each link that was up and had a frame that was not
taken, however many of its frames were not. The interface of such a frame is dormant
afterwards, and all others are as they were (`Multiplexer.executed_despite_failures`).

An execution that has to wait until the owner takes reports is carried out in turns
(`Multiplexer.executeInTurns`). What is done in a turn is an instance of `Progress`, which
is composed of what comes of single actions.
-/

/-! ## Frames that a line takes -/

namespace Line

/--
Those of some frames that the line takes when they are tried after `count` others, or
those that it does not take.
-/
def sift (line : Line) (isTaken : Bool) (count : Nat) (frames : List Frame) : List Frame :=
  ((frames.zipIdx count).filter fun entry => line.takes entry.2 = isTaken).map (·.1)

variable {line after : Line}

/-- The fate of a frame depends on how many were tried before it. -/
theorem sift_append
    (line : Line)
    (isTaken : Bool)
    (count : Nat)
    (first second : List Frame) :
    line.sift isTaken count (first ++ second) =
      line.sift isTaken count first ++ line.sift isTaken (count + first.length) second := by
  simp [sift, List.zipIdx_append]

/-- A single frame is taken exactly if the line takes the write with its number. -/
theorem sift_singleton
    (line : Line)
    (isTaken : Bool)
    (count : Nat)
    (frame : Frame) :
    line.sift isTaken count [frame] = if line.takes count = isTaken then [frame] else [] := by
  by_cases fate : line.takes count = isTaken <;> simp [sift, fate]

/-- Lines that take the same writes from now on take the same frames. -/
theorem sift_of_takes
    {offset : Nat}
    (takes : ∀ count, after.takes count = line.takes (count + offset))
    (isTaken : Bool)
    (count : Nat)
    (frames : List Frame) :
    after.sift isTaken count frames = line.sift isTaken (count + offset) frames := by
  induction frames generalizing count with
  | nil =>
      rfl
  | cons frame rest inductionHypothesis =>
      have first : after.sift isTaken count [frame] =
          line.sift isTaken (count + offset) [frame] := by
        simp only [sift_singleton, takes]
      have later := inductionHypothesis (count + 1)
      rw [Nat.add_right_comm] at later
      rw [← List.singleton_append, sift_append, sift_append, first]
      simpa using later

end Line

/-! ## Interfaces out of use -/

namespace LinkTable

variable {table : LinkTable}
variable {pending : List (TimerHandle × InterfaceId)}

/-- Some interfaces are out of use afterwards; nothing is changed about all others. -/
structure Withdrawn (before : LinkTable) (ids : List InterfaceId) (after : LinkTable) : Prop where
  dormant : ∀ id ∈ ids, after.Dormant id
  kept : ∀ id, id ∉ ids → after.get? id = before.get? id
  timer_kept :
    ∀ id, id ∉ ids → ∀ record, before.get? id = some record →
      after.timers.get? record.timer = before.timers.get? record.timer

/-- Interfaces that are taken down one after another are out of use, and no other is. -/
theorem withdrawn_shutAll
    (inStep : table.InStep pending)
    (ids : List InterfaceId) :
    Withdrawn table ids (table.shutAll ids).1 := by
  have others : ∀ id, id ∉ ids → (table.shutAll ids).1.get? id = table.get? id ∧
      ∀ record, table.get? id = some record →
        (table.shutAll ids).1.timers.get? record.timer = table.timers.get? record.timer := by
    induction ids generalizing table with
    | nil =>
        exact fun id _ => ⟨rfl, fun record _ => rfl⟩
    | cons first rest inductionHypothesis =>
        intro id notMember
        obtain ⟨notFirst, notLater⟩ := not_or.mp (mt List.mem_cons.mpr notMember)
        have isKept : (table.shut first).1.get? id = table.get? id := by
          rw [get?_shut, if_neg notFirst]
        obtain ⟨later, timerLater⟩ := inductionHypothesis (inStep.shut first) id notLater
        refine ⟨later.trans isKept, fun record found => ?_⟩
        have stillFound := isKept.trans found
        exact (timerLater record stillFound).trans (timer_shut_of_ne inStep notFirst found)
  constructor
  · exact fun id member => (inStep.shutAll ids).dormant (disabled_shutAll member)
  · exact fun id notMember => (others id notMember).1
  · exact fun id notMember => (others id notMember).2

/-- One loss is reported of each link that was up, however often it is taken down. -/
theorem reports_shutAll
    (inStep : table.InStep pending)
    (ids : List InterfaceId)
    (id : InterfaceId) :
    Report.about id (table.shutAll ids).2 = if id ∈ ids then table.losses id else [] := by
  have reports := congrArg Action.reports (about_shutAll inStep ids id)
  simp only [Action.reports_about, Action.reports_map_emit] at reports
  rw [reports]
  split
  · exact reports_loss table id
  · rfl

end LinkTable

/-! ## Reports in order -/

namespace ReportChannel

/-- An owner who takes reports as they come has left none waiting. -/
def InOrder (channel : ReportChannel) : Prop :=
  channel.attention.takes = true → channel.waiting = []

/-- A write leaves no report waiting for an owner who takes them as they come. -/
theorem inOrder_collect
    {channel : ReportChannel}
    (inOrder : channel.InOrder) :
    channel.collect.1.InOrder := by
  unfold collect
  split
  · exact fun _ => rfl
  · intro takes
    refine inOrder ?_
    cases attention : channel.attention <;> simp_all [Attention.afterWrite, Attention.takes]

/-- The owner takes some of the waiting reports. -/
def takeSome (channel : ReportChannel) (count : Nat) :
    ReportChannel × List (Occurrence Report) :=
  ({ channel with waiting := channel.waiting.drop count },
    (channel.waiting.take count).map .reported)

/-- There are places, no more reports wait than there are, and none is promised. -/
structure Roomy (channel : ReportChannel) : Prop where
  places : 0 < channel.capacity
  fits : channel.waiting.length ≤ channel.capacity
  unpromised : channel.promised = false

/-- The channel is as roomy as it was, and an owner who takes reports goes on to. -/
structure Serves (channel after : ReportChannel) : Prop where
  roomy : channel.Roomy → after.Roomy
  prompt : channel.attention = .prompt → after.attention = .prompt

theorem Serves.refl
    (channel : ReportChannel) :
    channel.Serves channel :=
  ⟨id, id⟩

/-- What serves the owner in two steps serves the owner. -/
theorem Serves.trans
    {channel between after : ReportChannel}
    (first : channel.Serves between)
    (second : between.Serves after) :
    channel.Serves after where
  roomy := fun roomy => second.roomy (first.roomy roomy)
  prompt := fun prompt => second.prompt (first.prompt prompt)

/-- What the owner takes at a write serves the owner. -/
theorem serves_collect
    (channel : ReportChannel) :
    channel.Serves channel.collect.1 := by
  unfold collect
  split
  · exact ⟨fun roomy => ⟨roomy.places, Nat.zero_le _, roomy.unpromised⟩, id⟩
  · exact ⟨fun roomy => ⟨roomy.places, roomy.fits, roomy.unpromised⟩,
      fun prompt => congrArg Attention.afterWrite prompt⟩

end ReportChannel

namespace Multiplexer

/-- Reports were handed on in order; of those that are wanted a patient execution drops none. -/
structure HandsOn
    (mux : Multiplexer)
    (patient : Bool)
    (owed : List Report)
    (after : Multiplexer)
    (journal : List (Occurrence Report)) : Prop where
  wanted : after.reports.isWanted = mux.reports.isWanted
  inOrder : after.reports.InOrder
  order :
    ∃ given, given.Sublist owed ∧
      delivered journal ++ after.reports.waiting = mux.reports.waiting ++ given ∧
      (patient = true → mux.reports.isWanted = true → given = owed)

/-- Reports are handed on one after another. -/
theorem HandsOn.trans
    {mux between after : Multiplexer}
    {patient : Bool}
    {owed later : List Report}
    {journal others : List (Occurrence Report)}
    (first : mux.HandsOn patient owed between journal)
    (second : between.HandsOn patient later after others) :
    mux.HandsOn patient (owed ++ later) after (journal ++ others) := by
  obtain ⟨given, isSublist, order, all⟩ := first.order
  obtain ⟨givenLater, isSublistLater, orderLater, allLater⟩ := second.order
  refine ⟨second.wanted.trans first.wanted, second.inOrder, given ++ givenLater,
    isSublist.append isSublistLater, ?_, ?_⟩
  · rw [delivered_append, List.append_assoc, orderLater, ← List.append_assoc, order,
      List.append_assoc]
  · intro isPatient isWanted
    rw [all isPatient isWanted, allLater isPatient (first.wanted.trans isWanted)]

/-! ## Progress -/

/-- The interfaces of those frames among some actions that the line does not take. -/
def failedIds (mux : Multiplexer) (actions : List Action) : List InterfaceId :=
  (mux.line.sift false 0 (Action.frames actions)).map (·.id)

/--
What comes of handling some actions. Those interfaces were taken down that had a frame
that the line did not take, and the losses that are to be reported of them follow.
-/
structure Progress
    (mux : Multiplexer)
    (patient : Bool)
    (handled followUps : List Action)
    (after : Multiplexer)
    (journal : List (Occurrence Report)) : Prop where
  table : after.table = (mux.table.shutAll (mux.failedIds handled)).1
  followUps : followUps = (mux.table.shutAll (mux.failedIds handled)).2.map .emit
  takes :
    ∀ count, after.line.takes count =
      mux.line.takes (count + (Action.frames handled).length)
  written : written journal = mux.line.sift true 0 (Action.frames handled)
  serves : mux.reports.Serves after.reports
  handsOn :
    mux.reports.InOrder → mux.HandsOn patient (Action.reports handled) after journal

theorem Progress.refl
    (mux : Multiplexer)
    (patient : Bool) :
    mux.Progress patient [] [] mux [] where
  table := rfl
  followUps := rfl
  takes := fun _ => rfl
  written := rfl
  serves := .refl mux.reports
  handsOn := fun inOrder =>
    ⟨rfl, inOrder, [], List.Sublist.refl _, (List.append_nil _).symm, fun _ _ => rfl⟩

/-- What is done one after another is handled and reported in that order. -/
theorem Progress.trans
    {mux between after : Multiplexer}
    {patient : Bool}
    {handled followUps later laterFollowUps : List Action}
    {journal others : List (Occurrence Report)}
    (first : mux.Progress patient handled followUps between journal)
    (second : between.Progress patient later laterFollowUps after others) :
    mux.Progress patient (handled ++ later) (followUps ++ laterFollowUps) after
      (journal ++ others) := by
  have sifted : ∀ isTaken,
      mux.line.sift isTaken 0 (Action.frames (handled ++ later)) =
        mux.line.sift isTaken 0 (Action.frames handled) ++
          between.line.sift isTaken 0 (Action.frames later) := by
    intro isTaken
    rw [Action.frames_append, Line.sift_append, Line.sift_of_takes first.takes]
  have failed : mux.failedIds (handled ++ later) =
      mux.failedIds handled ++ between.failedIds later := by
    simp only [failedIds, sifted, List.map_append]
  constructor
  · rw [failed, LinkTable.shutAll_append, ← first.table, second.table]
  · rw [failed, LinkTable.shutAll_append, ← first.table, List.map_append, first.followUps,
      second.followUps]
  · intro count
    rw [second.takes, first.takes, Action.frames_append, List.length_append]
    congr 1
    omega
  · rw [written_append, first.written, second.written, sifted]
  · exact first.serves.trans second.serves
  · intro inOrder
    have handsOn := first.handsOn inOrder
    have reports : Action.reports (handled ++ later) =
        Action.reports handled ++ Action.reports later :=
      List.filterMap_append
    rw [reports]
    exact handsOn.trans (second.handsOn handsOn.inOrder)

/-! ## One action -/

variable {mux after : Multiplexer} {patient : Bool}

/-- A report that need not wait is handled, whatever becomes of it. -/
theorem progress_emit
    {report : Report}
    {journal : List (Occurrence Report)}
    (emitted : mux.emit? patient report = some (after, journal)) :
    mux.Progress patient [.emit report] [] after journal := by
  have outcome := emission mux patient report
  rw [emitted] at outcome
  have same := List.Sublist.refl [report]
  have none : [].Sublist [report] := List.nil_sublist _
  cases outcome with
  | unwanted unwanted =>
      refine ⟨rfl, rfl, fun _ => rfl, rfl, .refl _, fun inOrder => ?_⟩
      refine ⟨rfl, inOrder, [], none, (List.append_nil _).symm, fun _ wanted => ?_⟩
      cases unwanted.symm.trans wanted
  | taken takes =>
      refine ⟨rfl, rfl, fun _ => rfl, rfl, ⟨?_, ?_⟩, fun inOrder => ?_⟩
      · exact fun roomy => ⟨roomy.places, roomy.fits, roomy.unpromised⟩
      · exact fun prompt => congrArg Attention.afterReport prompt
      have noneWaiting := inOrder takes
      refine ⟨rfl, fun _ => noneWaiting, [report], same, ?_, fun _ _ => rfl⟩
      simp [noneWaiting, delivered, Occurrence.reported?]
  | stored away room =>
      refine ⟨rfl, rfl, fun _ => rfl, rfl, ⟨fun roomy => ?_, id⟩, fun inOrder => ?_⟩
      · exact ⟨roomy.places, by simpa [Nat.succ_le_iff] using room, roomy.unpromised⟩
      refine ⟨rfl, fun takes => ?_, [report], same, rfl, fun _ _ => rfl⟩
      cases away.symm.trans takes
  | dropped impatient =>
      refine ⟨rfl, rfl, fun _ => rfl, rfl, .refl _, fun inOrder => ?_⟩
      refine ⟨rfl, inOrder, [], none, (List.append_nil _).symm, fun isPatient => ?_⟩
      cases impatient.symm.trans isPatient

/-- Trying a frame touches the channel only as far as something is written. -/
theorem reports_transmit
    (mux : Multiplexer)
    (frame : Frame) :
    (mux.transmit frame).1.reports = mux.reports ∨
      (mux.transmit frame).1.reports = mux.reports.collect.1 := by
  unfold transmit
  rcases mux.line.write with ⟨line, attempt⟩
  cases attempt with
  | sent | refused => exact .inr rfl
  | detached => exact .inl rfl

/-- Whether a frame is taken or not, this is what comes of trying it. -/
theorem handsOn_transmit
    (inOrder : mux.reports.InOrder)
    (patient : Bool)
    (frame : Frame) :
    mux.HandsOn patient [] (mux.transmit frame).1 (mux.transmit frame).2.1 := by
  have attempted := attempted_transmit mux frame
  refine ⟨attempted.wanted, ?_, [], List.Sublist.refl _, ?_, fun _ _ => rfl⟩
  · rcases reports_transmit mux frame with same | collected
    · rw [same]
      exact inOrder
    · rw [collected]
      exact ReportChannel.inOrder_collect inOrder
  · exact attempted.reports.trans (List.append_nil _).symm

/-- A write serves the owner, who may come back to the reports when it is over. -/
theorem serves_transmit
    (mux : Multiplexer)
    (frame : Frame) :
    mux.reports.Serves (mux.transmit frame).1.reports := by
  rcases reports_transmit mux frame with same | collected
  · rw [same]
    exact .refl mux.reports
  · rw [collected]
    exact ReportChannel.serves_collect mux.reports

/-- The interface of a single frame fails exactly if the line does not take the frame. -/
theorem failedIds_transmit
    (mux : Multiplexer)
    (frame : Frame) :
    mux.failedIds [.transmit frame] = if mux.line.takes 0 = false then [frame.id] else [] := by
  have single : Action.frames [.transmit frame] = [frame] := rfl
  rw [failedIds, single, Line.sift_singleton]
  split <;> rfl

/-- Trying a frame comes to what it does to the table, with the losses that follow. -/
theorem progress_of_tried
    {between : Multiplexer}
    {frame : Frame}
    {journal : List (Occurrence Report)}
    {attempt : Line.Attempt}
    {lost : List Report}
    (tried : mux.transmit frame = (between, journal, attempt))
    (isShut : mux.table.shutAll (mux.failedIds [.transmit frame]) = (after.table, lost))
    (sameLine : after.line = between.line)
    (sameReports : after.reports = between.reports)
    (patient : Bool) :
    mux.Progress patient [.transmit frame] (lost.map .emit) after journal := by
  have attempted := attempted_transmit mux frame
  have serves := serves_transmit mux frame
  have handsOn := fun inOrder : mux.reports.InOrder =>
    handsOn_transmit inOrder patient frame
  rw [tried] at attempted serves handsOn
  constructor
  · rw [isShut]
  · rw [isShut]
  · rw [sameLine]
    exact attempted.takes
  · have single : Action.frames [.transmit frame] = [frame] := rfl
    simp [attempted.written, attempted.sent_iff, single, Line.sift_singleton]
  · rw [sameReports]
    exact serves
  · intro inOrder
    obtain ⟨wanted, stillInOrder, order⟩ := handsOn inOrder
    exact ⟨sameReports ▸ wanted, sameReports ▸ stillInOrder, sameReports ▸ order⟩

/-- A frame that the line takes is handled without any consequence. -/
theorem progress_sent
    {frame : Frame}
    {journal : List (Occurrence Report)}
    (tried : mux.transmit frame = (after, journal, .sent))
    (patient : Bool) :
    mux.Progress patient [.transmit frame] [] after journal := by
  have attempted := attempted_transmit mux frame
  rw [tried] at attempted
  have noneFailed : mux.failedIds [.transmit frame] = [] := by
    simp [failedIds_transmit, attempted.sent_iff.mp rfl]
  have isShut : mux.table.shutAll (mux.failedIds [.transmit frame]) = (after.table, []) := by
    rw [noneFailed, attempted.table]
    rfl
  exact progress_of_tried tried isShut rfl rfl patient

/-- A frame that the line does not take is handled, and its interface taken down. -/
theorem progress_notSent
    {frame : Frame}
    {journal : List (Occurrence Report)}
    {attempt : Line.Attempt}
    (tried : mux.transmit frame = (after, journal, attempt))
    (notSent : attempt ≠ .sent)
    (patient : Bool) :
    mux.Progress patient [.transmit frame] ((after.writeFailed frame.id).2.toList.map .emit)
      (after.writeFailed frame.id).1 journal := by
  have attempted := attempted_transmit mux frame
  rw [tried] at attempted
  have notTaken : mux.line.takes 0 = false :=
    Bool.eq_false_iff.mpr fun taken => notSent (attempted.sent_iff.mpr taken)
  have isShut : mux.table.shutAll (mux.failedIds [.transmit frame]) =
      ((after.writeFailed frame.id).1.table, (after.writeFailed frame.id).2.toList) := by
    rw [failedIds_transmit, if_pos notTaken, LinkTable.shutAll_singleton, ← attempted.table]
    rfl
  exact progress_of_tried tried isShut rfl rfl patient

/-- An action that is taken up is handled, with what comes of it to be done later. -/
theorem progress_takeUp?
    {action : Action}
    {journal : List (Occurrence Report)}
    {followUps : List Action}
    (takenUp : mux.takeUp? patient action = some (after, journal, followUps)) :
    mux.Progress patient [action] followUps after journal := by
  cases action with
  | emit report =>
      simp only [takeUp?, Option.map_eq_some_iff, Prod.mk.injEq] at takenUp
      obtain ⟨⟨_, _⟩, emitted, rfl, rfl, rfl⟩ := takenUp
      exact progress_emit emitted
  | transmit frame =>
      rcases tried : mux.transmit frame with ⟨between, observed, attempt⟩
      cases attempt with
      | sent =>
          simp only [takeUp?_sent tried, Option.some.injEq, Prod.mk.injEq] at takenUp
          obtain ⟨rfl, rfl, rfl⟩ := takenUp
          exact progress_sent tried patient
      | refused | detached =>
          simp only [takeUp?_notSent tried (by simp), Option.some.injEq, Prod.mk.injEq] at takenUp
          obtain ⟨rfl, rfl, rfl⟩ := takenUp
          exact progress_notSent tried (by simp) patient

/-! ## A queue -/

/-- What is left of a queue waits for a free place for the report at its head. -/
structure Waits (patient : Bool) (execution : Execution) : Prop where
  isPatient : patient = true
  full : execution.mux.reports.IsFull
  report : ∃ report rest, execution.backlog = .emit report :: rest

/-- An execution that waits still does after something else was observed. -/
theorem Waits.later
    {execution : Execution}
    (waits : Waits patient execution)
    (journal : List (Occurrence Report)) :
    Waits patient (execution.after journal) :=
  ⟨waits.isPatient, waits.full, waits.report⟩

/-- How much there is to do of some actions is less after each turn, if it can begin. -/
structure Advances (mux : Multiplexer) (queue backlog : List Action) : Prop where
  notMore : Action.weight backlog ≤ Action.weight queue
  less : queue ≠ [] → ¬ mux.reports.IsFull → Action.weight backlog < Action.weight queue

/-- Working off a queue makes progress until it is done or has to wait for the owner. -/
theorem exists_progress_workOff
    (mux : Multiplexer)
    (patient : Bool)
    (queue : List Action) :
    let worked := mux.workOff patient queue
    ∃ followUps,
      mux.Progress patient worked.handled followUps worked.execution.mux
        worked.execution.journal ∧
      worked.handled ++ worked.execution.backlog = queue ++ followUps ∧
      (worked.execution.backlog = [] ∨ Waits patient worked.execution) ∧
      mux.Advances queue worked.execution.backlog := by
  fun_induction workOff mux patient queue with
  | case1 mux =>
      exact ⟨[], .refl mux patient, rfl, .inl rfl, Nat.le_refl _, fun isEmpty => (isEmpty rfl).elim⟩
  | case2 mux action rest mustWait =>
      have waits : Waits patient { mux, backlog := action :: rest } := by
        cases action with
        | emit report =>
            have outcome := emission mux patient report
            have noOutcome : mux.emit? patient report = none := by
              simpa [takeUp?] using mustWait
            rw [noOutcome] at outcome
            cases outcome with
            | waits isPatient full => exact ⟨isPatient, full, report, rest, rfl⟩
        | transmit frame =>
            rcases tried : mux.transmit frame with ⟨between, observed, attempt⟩
            cases attempt <;> simp [takeUp?, tried] at mustWait
      exact ⟨[], .refl mux patient, (List.append_nil _).symm, .inr waits, Nat.le_refl _,
        fun _ notFull => (notFull waits.full).elim⟩
  | case3 mux action rest after journal followUps takenUp later inductionHypothesis =>
      obtain ⟨laterFollowUps, progress, isAll, stopped, advances⟩ := inductionHypothesis
      have less : Action.weight later.execution.backlog < Action.weight (action :: rest) :=
        Nat.lt_of_le_of_lt advances.notMore (weight_lt_of_takeUp? takenUp rest)
      refine ⟨followUps ++ laterFollowUps, (progress_takeUp? takenUp).trans progress, ?_, ?_,
        Nat.le_of_lt less, fun _ _ => less⟩
      · rw [List.cons_append, List.cons_append]
        exact congrArg (action :: ·) (isAll.trans (List.append_assoc _ _ _))
      · exact stopped.imp_right fun waits => waits.later _

/-! ## Turns -/

/-- The owner takes some of the waiting reports. -/
def takeReports (mux : Multiplexer) (count : Nat) : Multiplexer × List (Occurrence Report) :=
  let (reports, journal) := mux.reports.takeSome count
  ({ mux with reports }, journal)

/--
Carry out actions in turns. After a turn the owner takes some of the waiting reports, and
what was left has the next turn.
-/
def executeInTurns
    (mux : Multiplexer)
    (patient : Bool) :
    List Nat → List Action → Execution
  | [], actions => mux.execute patient actions
  | count :: rest, actions =>
      let first := mux.execute patient actions
      let (between, taken) := first.mux.takeReports count
      (between.executeInTurns patient rest first.backlog).after (first.journal ++ taken)

/-- What the owner takes is handed on in order, and no action is handled meanwhile. -/
theorem progress_takeReports
    (mux : Multiplexer)
    (patient : Bool)
    (count : Nat) :
    mux.Progress patient [] [] (mux.takeReports count).1 (mux.takeReports count).2 := by
  obtain ⟨areDelivered, noneWritten, _⟩ := journal_of_reports (mux.reports.waiting.take count)
  refine ⟨rfl, rfl, fun _ => rfl, noneWritten, ⟨fun roomy => ?_, id⟩, fun inOrder => ?_⟩
  · have fewer : (mux.reports.waiting.drop count).length ≤ mux.reports.capacity := by
      rw [List.length_drop]
      exact Nat.le_trans (Nat.sub_le _ count) roomy.fits
    exact ⟨roomy.places, fewer, roomy.unpromised⟩
  refine ⟨rfl, fun takes => ?_, [], List.Sublist.refl _, ?_, fun _ _ => rfl⟩
  · have noneWaiting := inOrder takes
    simp [takeReports, ReportChannel.takeSome, noneWaiting]
  · have isSplit := List.take_append_drop count mux.reports.waiting
    rw [List.append_nil]
    exact (congrArg (· ++ mux.reports.waiting.drop count) areDelivered).trans isSplit

/-- An execution makes progress until it is done or has to wait for the owner. -/
theorem exists_progress_execute
    (mux : Multiplexer)
    (patient : Bool)
    (actions : List Action) :
    ∃ handled followUps,
      mux.Progress patient handled followUps (mux.execute patient actions).mux
        (mux.execute patient actions).journal ∧
      handled ++ (mux.execute patient actions).backlog = actions ++ followUps ∧
      ((mux.execute patient actions).backlog = [] ∨ Waits patient (mux.execute patient actions)) ∧
      mux.Advances actions (mux.execute patient actions).backlog := by
  obtain ⟨followUps, worked⟩ := exists_progress_workOff mux patient actions
  rw [execution_workOff] at worked
  exact ⟨_, followUps, worked⟩

/-- Taking turns with the owner makes progress until all is done or the turns are over. -/
theorem exists_progress_executeInTurns
    (mux : Multiplexer)
    (patient : Bool)
    (counts : List Nat)
    (actions : List Action) :
    let execution := mux.executeInTurns patient counts actions
    ∃ handled followUps,
      mux.Progress patient handled followUps execution.mux execution.journal ∧
      handled ++ execution.backlog = actions ++ followUps ∧
      (execution.backlog = [] ∨ Waits patient execution) := by
  induction counts generalizing mux actions with
  | nil =>
      obtain ⟨handled, followUps, progress, isAll, stopped, _⟩ :=
        exists_progress_execute mux patient actions
      exact ⟨handled, followUps, progress, isAll, stopped⟩
  | cons count rest inductionHypothesis =>
      obtain ⟨handled, followUps, progress, isAll, _⟩ :=
        exists_progress_execute mux patient actions
      have taken := progress_takeReports (mux.execute patient actions).mux patient count
      obtain ⟨later, laterFollowUps, progressLater, isAllLater, stopped⟩ :=
        inductionHypothesis ((mux.execute patient actions).mux.takeReports count).1
          (mux.execute patient actions).backlog
      have joined := (progress.trans taken).trans progressLater
      rw [List.append_nil, List.append_nil] at joined
      refine ⟨handled ++ later, followUps ++ laterFollowUps, joined, ?_, ?_⟩
      · rw [executeInTurns, List.append_assoc]
        calc handled ++ (later ++ _)
            = handled ++ ((mux.execute patient actions).backlog ++ laterFollowUps) :=
              congrArg (handled ++ ·) isAllLater
          _ = actions ++ followUps ++ laterFollowUps := by
              rw [← List.append_assoc, isAll]
          _ = actions ++ (followUps ++ laterFollowUps) := List.append_assoc _ _ _
      · exact stopped.imp_right fun waits => waits.later _

/-- The owner has made room by taking a report. -/
theorem notFull_takeReports
    {count : Nat}
    (roomy : mux.reports.Roomy)
    (takesSome : 0 < count) :
    ¬ (mux.takeReports count).1.reports.IsFull := by
  intro full
  have noRoom := full.noRoom
  have places := roomy.places
  have fits := roomy.fits
  simp only [takeReports, ReportChannel.takeSome, roomy.unpromised, List.length_drop,
    Bool.false_eq_true, if_false, Nat.add_zero] at noRoom
  omega

theorem eq_nil_of_weight
    {actions : List Action}
    (nothing : Action.weight actions = 0) :
    actions = [] :=
  List.eq_nil_of_length_eq_zero (Nat.eq_zero_of_add_eq_zero_right nothing)

/-- If there is room for a report at first, something is done in each turn. -/
theorem weight_executeInTurns
    (patient : Bool)
    {counts : List Nat}
    (actions : List Action)
    (notFull : ¬ mux.reports.IsFull)
    (roomy : mux.reports.Roomy)
    (takesSome : ∀ count ∈ counts, 0 < count) :
    (mux.executeInTurns patient counts actions).backlog = [] ∨
      Action.weight (mux.executeInTurns patient counts actions).backlog + counts.length <
        Action.weight actions := by
  induction counts generalizing mux actions with
  | nil =>
      obtain ⟨_, _, _, _, _, advances⟩ := exists_progress_execute mux patient actions
      by_cases isEmpty : actions = []
      · subst isEmpty
        exact .inl rfl
      · exact .inr (advances.less isEmpty notFull)
  | cons count rest inductionHypothesis =>
      obtain ⟨_, _, progress, _, _, advances⟩ := exists_progress_execute mux patient actions
      have roomyAfter := progress.serves.roomy roomy
      have taken := progress_takeReports (mux.execute patient actions).mux patient count
      have notFullAfter := notFull_takeReports roomyAfter (takesSome count List.mem_cons_self)
      have later := inductionHypothesis (mux.execute patient actions).backlog notFullAfter
        (taken.serves.roomy roomyAfter) fun other member => takesSome other (.tail count member)
      refine later.imp_right fun less => ?_
      by_cases isEmpty : actions = []
      · subst isEmpty
        exact (Nat.not_lt_zero _ less).elim
      · have lessHere := advances.less isEmpty notFull
        simp only [executeInTurns, Execution.after, List.length_cons]
        omega

/-- All is done after enough turns, in each of which the owner takes a report. -/
theorem backlog_executeInTurns_of_enough
    (patient : Bool)
    {counts : List Nat}
    {actions : List Action}
    (roomy : mux.reports.Roomy)
    (takesSome : ∀ count ∈ counts, 0 < count)
    (enough : Action.weight actions ≤ counts.length) :
    (mux.executeInTurns patient counts actions).backlog = [] := by
  cases counts with
  | nil =>
      obtain rfl := eq_nil_of_weight (Nat.le_zero.mp enough)
      rfl
  | cons count rest =>
      obtain ⟨_, _, progress, _, _, advances⟩ := exists_progress_execute mux patient actions
      have roomyAfter := progress.serves.roomy roomy
      have taken := progress_takeReports (mux.execute patient actions).mux patient count
      have notFullAfter := notFull_takeReports roomyAfter (takesSome count List.mem_cons_self)
      rcases weight_executeInTurns patient (mux.execute patient actions).backlog notFullAfter
        (taken.serves.roomy roomyAfter) fun other member => takesSome other (.tail count member)
        with isEmpty | less
      · exact isEmpty
      · have notMore := advances.notMore
        rw [List.length_cons] at enough
        refine eq_nil_of_weight ?_
        simp only [executeInTurns, Execution.after]
        omega

/-- All is done at once if no report has to wait. -/
theorem backlog_executeInTurns_of_noWait
    {patient : Bool}
    (counts : List Nat)
    (actions : List Action)
    (noWait : patient = false ∨ mux.reports.attention = .prompt) :
    (mux.executeInTurns patient counts actions).backlog = [] := by
  obtain ⟨_, _, progress, _, stopped⟩ :=
    exists_progress_executeInTurns mux patient counts actions
  refine stopped.resolve_right fun waits => ?_
  rcases noWait with impatient | prompt
  · cases impatient.symm.trans waits.isPatient
  · have away := waits.full.away
    rw [progress.serves.prompt prompt] at away
    cases away

/-! ## Failed writes -/

/--
What has come of some actions and of the losses that were put behind them, of which so
many were handled.
-/
structure CarriedThrough
    (mux : Multiplexer)
    (patient : Bool)
    (actions : List Action)
    (losses : List Report)
    (handled : List Action)
    (execution : Execution) : Prop where
  isAll : handled ++ execution.backlog = actions ++ losses.map .emit
  stopped : execution.backlog = [] ∨ Waits patient execution
  failed : execution.backlog = [] → mux.failedIds handled = mux.failedIds actions
  lostOnce :
    ∀ id, Report.about id losses =
      if id ∈ mux.failedIds handled then mux.table.losses id else []
  withdrawn : LinkTable.Withdrawn mux.table (mux.failedIds handled) execution.mux.table
  written : written execution.journal = mux.line.sift true 0 (Action.frames handled)
  handsOn :
    mux.reports.InOrder →
      mux.HandsOn patient (Action.reports handled) execution.mux execution.journal

/--
Whichever writes fail, all actions are handled in order, and behind them nothing but
losses: one of each link that was up and had a frame that was not taken. Every interface
that had such a frame is dormant then, and all others are as they were. Reports are handed
on in that order, and an execution stops early only as long as there is no room for one.
-/
theorem executed_despite_failures
    {mux : Multiplexer}
    (reachable : mux.Reachable)
    (patient : Bool)
    (counts : List Nat)
    (actions : List Action) :
    let execution := mux.executeInTurns patient counts actions
    (∃ losses handled, mux.CarriedThrough patient actions losses handled execution) ∧
    (patient = false ∨ mux.reports.attention = .prompt → execution.backlog = []) ∧
    (mux.reports.Roomy → (∀ count ∈ counts, 0 < count) →
      Action.weight actions ≤ counts.length → execution.backlog = []) := by
  intro execution
  obtain ⟨handled, followUps, progress, isAll, stopped⟩ :=
    exists_progress_executeInTurns mux patient counts actions
  have inStep : mux.table.InStep [] := reachable.inStep
  let losses := (mux.table.shutAll (mux.failedIds handled)).2
  refine ⟨⟨losses, handled, ?_⟩, backlog_executeInTurns_of_noWait counts actions,
    backlog_executeInTurns_of_enough patient⟩
  constructor
  · exact isAll.trans (congrArg (actions ++ ·) progress.followUps)
  · exact stopped
  · intro isEmpty
    change (mux.executeInTurns patient counts actions).backlog = [] at isEmpty
    rw [isEmpty, List.append_nil] at isAll
    rw [isAll, progress.followUps, failedIds, Action.frames_append, Action.frames_map_emit,
      List.append_nil, failedIds]
  · exact LinkTable.reports_shutAll inStep (mux.failedIds handled)
  · rw [progress.table]
    exact LinkTable.withdrawn_shutAll inStep (mux.failedIds handled)
  · exact progress.written
  · exact progress.handsOn

/--
Two links are up, and the owner takes one report after each turn, for which there is one
place. The line takes the first of five frames only: two more are of the first link, one
is of the second, and one is of an interface that is not registered.
-/
theorem executed_despite_refusals :
    let table := ((LinkTable.ofSettings {}).run
      [.add 1 none 0, .up 1 0, .add 2 none 0, .up 2 0, .frame (.ack 1) 3, .frame (.ack 2) 3]).1
    let mux : Multiplexer :=
      { table
        line := { accepts := fun number => number == 0 }
        reports := { capacity := 1, attention := .away } }
    let report : Report := .ofLinkStatus 2 "phone" .up
    let actions : List Action :=
      [.transmit (.ack 1), .emit report, .transmit (.ack 1), .emit report,
        .transmit (.disconnect 1), .transmit (.ack 7), .transmit (.ack 2)]
    let execution := mux.executeInTurns true (List.replicate 12 1) actions
    mux.Reachable ∧ mux.reports.Roomy ∧ mux.failedIds actions = [1, 1, 7, 2] ∧
      execution.backlog = [] ∧
      ∃ losses handled, mux.CarriedThrough true actions losses handled execution := by
  intro table mux report actions execution
  have reachable : mux.Reachable := ⟨{}, _, rfl⟩
  have roomy : mux.reports.Roomy := ⟨Nat.one_pos, Nat.zero_le 1, rfl⟩
  have takesSome : ∀ count ∈ List.replicate 12 1, 0 < count := by
    decide
  obtain ⟨carriedThrough, _, whenEnough⟩ :=
    executed_despite_failures reachable true (List.replicate 12 1) actions
  have enough : Action.weight actions ≤ (List.replicate 12 1).length := by
    decide
  exact ⟨reachable, roomy, rfl, whenEnough roomy takesSome enough, carriedThrough⟩

end Multiplexer

end StationLink
