import StationLink.Proofs.Peers

namespace StationLink

/-!
# Training reaches agreement

An interface is eligible at both ends and its link is down at both. Timers are swept and
frames arrive in any order, all within the shorter dead interval. Then each end announces
that the link came up at most once and never that it was lost; and whenever nothing about
the interface is on its way although one end has probed, the link is up at both ends
(`Peers.training_agrees`).

The induction is carried by three facts about the frames on their way. An answer is on its
way to an end only if that end has transmitted something, an end is up only if it has
transmitted something, and what an end has transmitted is still on its way to the other
end unless that one is up (`Peers.Training`).
-/

/-- One end of a link that is trained from one time to another. -/
structure LinkTable.InTraining
    (id : InterfaceId)
    (start last : Nat)
    (table : LinkTable)
    (reported : List Report) : Prop where
  inStep : table.InStep []
  patient : last ≤ start + table.settings.deadInterval
  ready : ∃ link, table.link? id = some link ∧ link.eligible = true ∧
    (link.running = true → start ≤ link.lastHeard)
  announced : Report.statuses id reported = if table.isRunning id then [.up] else []

namespace LinkTable.InTraining

variable {id : InterfaceId} {start last : Nat} {table : LinkTable} {reported : List Report}

theorem isEligible
    (training : table.InTraining id start last reported) :
    table.isEligible id = true := by
  obtain ⟨link, found, eligible, _⟩ := training.ready
  rw [isEligible_eq_any, found]
  exact eligible

/-- An operation that takes no link down is announced as it has to be. -/
theorem announced_perform
    (training : table.InTraining id start last reported)
    (operation : Operation)
    (stays : table.isRunning id = true → (table.perform operation).1.isRunning id = true) :
    Report.statuses id (reported ++ Action.reports (table.perform operation).2) =
      if (table.perform operation).1.isRunning id then [.up] else [] := by
  rw [Report.statuses_append, training.announced, statuses_perform training.inStep]
  cases before : table.isRunning id with
  | true =>
      rw [stays before]
      rfl
  | false =>
      cases (table.perform operation).1.isRunning id <;> rfl

/-- A sweep in time neither brings a link in training up nor drops it. -/
theorem isRunning_sweep
    (training : table.InTraining id start last reported)
    {now : Nat}
    (inTime : now ≤ last) :
    (table.sweep now).1.isRunning id = table.isRunning id := by
  obtain ⟨link, found, _, heard⟩ := training.ready
  have patient := training.patient
  rw [isRunning_eq_any, link?_sweep training.inStep, isRunning_eq_any, found]
  apply Link.running_sweep
  intro running
  have isHeard := heard running
  omega

/-- Sweeping the timers in time takes no link down. -/
theorem sweep
    (training : table.InTraining id start last reported)
    {now : Nat}
    (inTime : now ≤ last) :
    (table.sweep now).1.InTraining id start last
      (reported ++ Action.reports (table.sweep now).2) := by
  have sameRunning := training.isRunning_sweep inTime
  obtain ⟨link, found, eligible, heard⟩ := training.ready
  obtain ⟨sameEligible, sameHeard⟩ := link.eligible_and_lastHeard_sweep table.settings id now
  have foundAfter := link?_sweep training.inStep id now
  rw [found] at foundAfter
  refine ⟨training.inStep.sweep now, ?_, ?_, ?_⟩
  · exact (settings_perform training.inStep (.sweep now)).symm ▸ training.patient
  · refine ⟨_, foundAfter, sameEligible.trans eligible, ?_⟩
    intro running
    rw [sameHeard]
    apply heard
    rw [isRunning_eq_any, foundAfter, isRunning_eq_any, found] at sameRunning
    exact sameRunning.symm.trans running
  · exact training.announced_perform (.sweep now) fun running =>
      sameRunning.trans running

/-- A probe or an answer brings the link up. -/
theorem isRunning_onFrame
    (training : table.InTraining id start last reported)
    {frame : Frame}
    (isOwn : frame.id = id)
    (trains : frame.kind = .probe ∨ frame.kind = .ack)
    (now : Nat) :
    (table.onFrame frame now).1.isRunning id = true := by
  have bringsUp : ∀ up, frame.linkAfter up = true := by
    intro up
    rcases trains with isProbe | isAck
    · simp only [Frame.linkAfter, isProbe]
    · simp only [Frame.linkAfter, isAck]
  have eligible := training.isEligible
  subst isOwn
  rw [LinkTable.isRunning_onFrame training.inStep, eligible, bringsUp]
  rfl

/-- Training frames leave a link up that is up. -/
theorem isRunning_onFrame_of_isRunning
    (training : table.InTraining id start last reported)
    {frame : Frame}
    (trains : frame.kind = .probe ∨ frame.kind = .ack)
    (now : Nat)
    (running : table.isRunning id = true) :
    (table.onFrame frame now).1.isRunning id = true := by
  by_cases isOwn : frame.id = id
  · exact training.isRunning_onFrame isOwn trains now
  · rw [table.isRunning_onFrame_of_ne (Ne.symm isOwn)]
    exact running

/-- Neither probes nor answers take the link down, and it counts as heard from then on. -/
theorem onFrame
    (training : table.InTraining id start last reported)
    {frame : Frame}
    (trains : frame.kind = .probe ∨ frame.kind = .ack)
    {now : Nat}
    (isLater : start ≤ now) :
    (table.onFrame frame now).1.InTraining id start last
      (reported ++ Action.reports (table.onFrame frame now).2) := by
  obtain ⟨link, found, eligible, heard⟩ := training.ready
  refine ⟨training.inStep.onFrame frame now, ?_, ?_, ?_⟩
  · exact (settings_perform training.inStep (.frame frame now)).symm ▸ training.patient
  · by_cases isOwn : frame.id = id
    · subst isOwn
      obtain ⟨sameEligible, isHeard⟩ := link.eligible_and_lastHeard_onFrame
        table.settings now (table.interpret frame.id) frame
      exact ⟨_, (link?_onFrame training.inStep frame now).trans (congrArg _ found),
        sameEligible.trans eligible, fun _ => isHeard.symm ▸ isLater⟩
    · have unconcerned : (Operation.frame frame now).concerns id = false :=
        decide_eq_false isOwn
      exact ⟨link, (link?_perform_of_unconcerned training.inStep unconcerned).trans found,
        eligible, heard⟩
  · exact training.announced_perform (.frame frame now) fun running =>
      training.isRunning_onFrame_of_isRunning trains now running

end LinkTable.InTraining

namespace Peers

open LinkTable (Operation)

/-- A side has transmitted a frame about an interface. -/
def HasTransmitted (id : InterfaceId) (peers : Peers) (side : Side) : Prop :=
  ∃ frame ∈ peers.transmitted side, frame.id = id

/-- What a side has transmitted about an interface brought the link up, or is still to arrive. -/
def Reached (id : InterfaceId) (peers : Peers) (side : Side) : Prop :=
  peers.HasTransmitted id side →
    (peers.table side.other).isRunning id = true ∨
      ∃ frame ∈ peers.inbound side.other, frame.id = id

/-- Two ends of a link in training, where nothing but probes and answers is on its way. -/
structure Training (id : InterfaceId) (start last : Nat) (peers : Peers) : Prop where
  ends : ∀ side, (peers.table side).InTraining id start last (peers.reported side)
  control : ∀ side, ∀ frame ∈ peers.inbound side, frame.kind = .probe ∨ frame.kind = .ack
  origin : ∀ side, ∀ frame ∈ peers.inbound side, frame ∈ peers.transmitted side.other
  asked : ∀ side, ∀ frame ∈ peers.inbound side, frame.id = id → frame.kind = .ack →
    peers.HasTransmitted id side
  active : ∀ side, (peers.table side).isRunning id = true → peers.HasTransmitted id side

variable {id : InterfaceId} {start last : Nat} {peers : Peers} {side : Side}

theorem HasTransmitted.perform
    {each : Side}
    (hasTransmitted : peers.HasTransmitted id each)
    (side : Side)
    (operation : Operation) :
    (peers.perform side operation).HasTransmitted id each := by
  obtain ⟨frame, member, isOwn⟩ := hasTransmitted
  exact ⟨frame, mem_transmitted_perform side operation each member, isOwn⟩

theorem HasTransmitted.of_frames
    {operation : Operation}
    {frame : Frame}
    (member : frame ∈ Action.frames ((peers.table side).perform operation).2)
    (isOwn : frame.id = id) :
    (peers.perform side operation).HasTransmitted id side := by
  refine ⟨frame, ?_, isOwn⟩
  rw [transmitted_perform]
  exact List.mem_append_right _ member

/-! ## What has reached the other end -/

namespace Reached

/-- What a side transmits is on its way to the other. -/
theorem perform
    (reached : peers.Reached id side)
    (operation : Operation) :
    (peers.perform side operation).Reached id side := by
  rintro ⟨frame, member, isOwn⟩
  rw [transmitted_perform, List.mem_append] at member
  rw [table_perform_other, inbound_perform_other]
  rcases member with isOld | isNew
  · rcases reached ⟨frame, isOld, isOwn⟩ with running | ⟨underway, isUnderway, isAbout⟩
    · exact Or.inl running
    · exact Or.inr ⟨underway, List.mem_append_left _ isUnderway, isAbout⟩
  · exact Or.inr ⟨frame, List.mem_append_right _ isNew, isOwn⟩

theorem drop
    (reached : peers.Reached id side)
    (index : Nat) :
    (peers.drop side index).Reached id side := by
  intro hasTransmitted
  rw [inbound_drop_other]
  exact reached hasTransmitted

/-- What has reached a side stays so as long as its link is not taken down. -/
theorem perform_other
    (reached : peers.Reached id side.other)
    (operation : Operation)
    (stays : (peers.table side).isRunning id = true →
      ((peers.table side).perform operation).1.isRunning id = true) :
    (peers.perform side operation).Reached id side.other := by
  intro hasTransmitted
  obtain ⟨frame, member, isOwn⟩ := hasTransmitted
  rw [transmitted_perform_other] at member
  rw [Side.other_other, table_perform, inbound_perform]
  rcases reached ⟨frame, member, isOwn⟩ with running | underway
  · rw [Side.other_other] at running
    exact Or.inl (stays running)
  · rw [Side.other_other] at underway
    exact Or.inr underway

end Reached

/-! ## Moves of training -/

namespace Training

theorem drop
    (training : peers.Training id start last)
    (side : Side)
    (index : Nat) :
    (peers.drop side index).Training id start last where
  ends := training.ends
  control each frame member := training.control each frame (mem_of_mem_drop each member)
  origin each frame member := training.origin each frame (mem_of_mem_drop each member)
  asked each frame member := training.asked each frame (mem_of_mem_drop each member)
  active := training.active

theorem perform
    (training : peers.Training id start last)
    (side : Side)
    (operation : Operation)
    (ends : ((peers.table side).perform operation).1.InTraining id start last
      (peers.reported side ++ Action.reports ((peers.table side).perform operation).2))
    (control : ∀ frame ∈ Action.frames ((peers.table side).perform operation).2,
      frame.kind = .probe ∨ frame.kind = .ack)
    (asked : ∀ frame ∈ Action.frames ((peers.table side).perform operation).2,
      frame.id = id → frame.kind = .ack → peers.HasTransmitted id side.other)
    (active : ((peers.table side).perform operation).1.isRunning id = true →
      (peers.perform side operation).HasTransmitted id side) :
    (peers.perform side operation).Training id start last := by
  constructor
  · refine Side.forall_of_other side ?_ ?_
    · rw [table_perform, reported_perform]
      exact ends
    · rw [table_perform_other, reported_perform_other]
      exact training.ends side.other
  · refine Side.forall_of_other side ?_ ?_
    · rw [inbound_perform]
      exact training.control side
    · rw [inbound_perform_other]
      exact List.forall_mem_append.mpr ⟨training.control side.other, control⟩
  · refine Side.forall_of_other side ?_ ?_
    · intro frame member
      rw [inbound_perform] at member
      rw [transmitted_perform_other]
      exact training.origin side frame member
    · intro frame member
      rw [inbound_perform_other, List.mem_append] at member
      rw [Side.other_other, transmitted_perform, List.mem_append]
      refine member.imp_left fun isOld => ?_
      have isFrom := training.origin side.other frame isOld
      rwa [Side.other_other] at isFrom
  · refine Side.forall_of_other side ?_ ?_
    · intro frame member isOwn isAck
      rw [inbound_perform] at member
      exact (training.asked side frame member isOwn isAck).perform side operation
    · intro frame member isOwn isAck
      rw [inbound_perform_other, List.mem_append] at member
      rcases member with isOld | isNew
      · exact (training.asked side.other frame isOld isOwn isAck).perform side operation
      · exact (asked frame isNew isOwn isAck).perform side operation
  · refine Side.forall_of_other side ?_ ?_
    · rw [table_perform]
      exact active
    · intro running
      rw [table_perform_other] at running
      exact (training.active side.other running).perform side operation

theorem sweep
    (training : peers.Training id start last)
    (side : Side)
    {now : Nat}
    (inTime : now ≤ last) :
    (peers.perform side (.sweep now)).Training id start last := by
  have ends := training.ends side
  have probes : ∀ frame ∈ Action.frames ((peers.table side).sweep now).2,
      frame.kind = .probe :=
    fun frame member => LinkTable.kind_of_transmit_sweep (Action.mem_frames_iff.mp member)
  apply training.perform side (.sweep now) (ends.sweep inTime)
  · intro frame member
    exact Or.inl (probes frame member)
  · intro frame member _ isAck
    cases (probes frame member).symm.trans isAck
  · intro running
    have wasRunning := (ends.isRunning_sweep inTime).symm.trans running
    exact (training.active side wasRunning).perform side (.sweep now)

/-- Only what came from the other side is answered. -/
theorem arrival
    (training : peers.Training id start last)
    {index now : Nat}
    {frame : Frame}
    (isNext : (peers.inbound side)[index]? = some frame)
    (isLater : start ≤ now) :
    ((peers.drop side index).perform side (.frame frame now)).Training id start last := by
  have member := List.mem_of_getElem? isNext
  have trains := training.control side frame member
  have answers : ∀ answer ∈ Action.frames ((peers.table side).onFrame frame now).2,
      frame.kind = .probe ∧ answer = .ack frame.id := by
    intro answer isAnswer
    rw [LinkTable.frames_onFrame] at isAnswer
    split at isAnswer
    · next answered =>
        exact ⟨answered.1, List.mem_singleton.mp isAnswer⟩
    · cases isAnswer
  apply (training.drop side index).perform side (.frame frame now)
  · exact (training.ends side).onFrame trains isLater
  · intro answer isAnswer
    rw [(answers answer isAnswer).2]
    exact Or.inr rfl
  · intro answer isAnswer isOwn _
    rw [(answers answer isAnswer).2] at isOwn
    exact ⟨frame, training.origin side frame member, isOwn⟩
  · intro running
    by_cases isOwn : frame.id = id
    · rcases trains with isProbe | isAck
      · have answered : .ack frame.id ∈
            Action.frames ((peers.table side).onFrame frame now).2 := by
          have eligible := (training.ends side).isEligible
          rw [← isOwn] at eligible
          rw [LinkTable.frames_onFrame, if_pos ⟨isProbe, eligible⟩]
          exact List.mem_singleton_self _
        exact .of_frames answered isOwn
      · have hasAsked := training.asked side frame member isOwn isAck
        exact HasTransmitted.perform hasAsked side (.frame frame now)
    · have sameRunning := (peers.table side).isRunning_onFrame_of_ne (Ne.symm isOwn) now
      have wasActive := training.active side (sameRunning.symm.trans running)
      exact HasTransmitted.perform wasActive side (.frame frame now)

end Training

/-- A frame that arrives brings the link up, so whatever the other side transmitted reached it. -/
theorem Reached.arrival
    (training : peers.Training id start last)
    (reached : peers.Reached id side.other)
    {index now : Nat}
    {frame : Frame}
    (isNext : (peers.inbound side)[index]? = some frame) :
    ((peers.drop side index).perform side (.frame frame now)).Reached id side.other := by
  have ends := training.ends side
  have trains := training.control side frame (List.mem_of_getElem? isNext)
  rintro ⟨sent, member, isOwn⟩
  rw [transmitted_perform_other] at member
  rw [Side.other_other, table_perform, inbound_perform, inbound_drop]
  have before := reached ⟨sent, member, isOwn⟩
  rw [Side.other_other] at before
  rcases before with running | ⟨underway, isUnderway, isAbout⟩
  · exact Or.inl (ends.isRunning_onFrame_of_isRunning trains now running)
  · rcases List.mem_cons.mp ((perm_of_getElem? isNext).mem_iff.mp isUnderway) with
      isFrame | isLeft
    · subst isFrame
      exact Or.inl (ends.isRunning_onFrame isAbout trains now)
    · exact Or.inr ⟨underway, isLeft, isAbout⟩

/-- The timers of a side are swept, or a frame arrives, at a time within limits. -/
def Move.isTraining (start last : Nat) : Move → Bool
  | .own _ (.sweep now) _ | .arrival _ _ now => start ≤ now ∧ now ≤ last
  | .own .. | .loss .. => false

/-- A move of the training keeps what is promised of it. -/
theorem Training.step
    (training : peers.Training id start last)
    (reached : ∀ side, peers.Reached id side)
    {move : Move}
    (isTraining : move.isTraining start last = true) :
    (peers.step move).Training id start last ∧ ∀ side, (peers.step move).Reached id side := by
  cases move with
  | own side operation own =>
      cases operation with
      | sweep now =>
          obtain ⟨_, inTime⟩ := of_decide_eq_true isTraining
          refine ⟨training.sweep side inTime, Side.forall_of_other side ?_ ?_⟩
          · exact (reached side).perform (.sweep now)
          · exact (reached side.other).perform_other (.sweep now) fun running =>
              ((training.ends side).isRunning_sweep inTime).trans running
      | add | up | down | remove | teardown | frame | writeFailed | transportLost
      | setFilter =>
          cases isTraining
  | arrival side index now =>
      obtain ⟨isLater, _⟩ := of_decide_eq_true isTraining
      simp only [Peers.step]
      split
      · next frame isNext =>
          refine ⟨training.arrival isNext isLater, Side.forall_of_other side ?_ ?_⟩
          · exact ((reached side).drop index).perform (.frame frame now)
          · exact Reached.arrival training (reached side.other) isNext
      · exact ⟨training, reached⟩
  | loss side index =>
      cases isTraining

/-- The training of two sides that are eligible and down begins with their tables. -/
theorem Training.ofTables
    {table : Side → LinkTable}
    (inStep : ∀ side, (table side).InStep [])
    (eligible : ∀ side, (table side).isEligible id = true)
    (inactive : ∀ side, (table side).isRunning id = false)
    (patient : ∀ side, last ≤ start + (table side).settings.deadInterval) :
    (ofTables table).Training id start last where
  ends side := by
    refine ⟨inStep side, patient side, ?_, ?_⟩
    · have isEligible := eligible side
      have notRunning := inactive side
      rw [LinkTable.isEligible_eq_any] at isEligible
      rw [LinkTable.isRunning_eq_any] at notRunning
      cases found : (table side).link? id with
      | none =>
          rw [found] at isEligible
          cases isEligible
      | some link =>
          rw [found] at isEligible notRunning
          exact ⟨link, found, isEligible, fun running => nomatch notRunning.symm.trans running⟩
    · exact (if_neg (Bool.eq_false_iff.mp (inactive side))).symm
  control _ _ member := nomatch member
  origin _ _ member := nomatch member
  asked _ _ member := nomatch member
  active side running := nomatch (inactive side).symm.trans running

/-- What is promised of a training lasts through its moves. -/
theorem Training.run
    (training : peers.Training id start last)
    (reached : ∀ side, peers.Reached id side)
    {moves : List Move}
    (areTraining : ∀ move ∈ moves, move.isTraining start last = true) :
    (peers.run moves).Training id start last ∧ ∀ side, (peers.run moves).Reached id side :=
  run_induction (P := fun peers => peers.Training id start last ∧ ∀ side, peers.Reached id side)
    (fun move member _ holds => holds.1.step holds.2 (areTraining move member))
    ⟨training, reached⟩

/--
Two tables are joined after whatever was done to each, and an interface is eligible but
not running at both. While timers are swept and frames arrive, in any order and by any
clocks but within the shorter dead interval, each side announces at most that the link
came up; and whenever no frame about the interface is on its way although one side has
probed, the link is up at both sides and both have announced it.
-/
theorem training_agrees
    (settings : Side → LinkSettings)
    (operations : Side → List Operation)
    (id : InterfaceId)
    (start : Nat)
    (moves : List Move) :
    let table := fun side => ((LinkTable.ofSettings (settings side)).run (operations side)).1
    let patience := min (table .here).settings.deadInterval (table .there).settings.deadInterval
    let after := (ofTables table).run moves
    (∀ side, (table side).isEligible id = true ∧ (table side).state id = .inactive) →
    (∀ move ∈ moves, move.isTraining start (start + patience) = true) →
      (∀ side, Report.statuses id (after.reported side) = [] ∨
        Report.statuses id (after.reported side) = [.up]) ∧
      ((∀ side, ∀ frame ∈ after.inbound side, frame.id ≠ id) →
        (∃ side, ∃ frame ∈ after.transmitted side, frame.id = id ∧ frame.kind = .probe) →
        ∀ side, (after.table side).state id = .running ∧
          Report.statuses id (after.reported side) = [.up]) := by
  intro table patience after ready areTraining
  have inStep : ∀ side, (table side).InStep [] :=
    fun side => (LinkTable.inStep_ofSettings (settings side)).run (operations side)
  have inactive : ∀ side, (table side).isRunning id = false := by
    intro side
    rw [← Bool.not_eq_true, ← LinkTable.state_eq_running_iff, (ready side).2]
    decide
  have patient : ∀ side, start + patience ≤ start + (table side).settings.deadInterval := by
    intro side
    cases side
    · exact Nat.add_le_add_left (Nat.min_le_left _ _) start
    · exact Nat.add_le_add_left (Nat.min_le_right _ _) start
  obtain ⟨training, reached⟩ :=
    (Training.ofTables inStep (fun side => (ready side).1) inactive patient).run
      (fun _ => nofun) areTraining
  have announced := fun side => (training.ends side).announced
  constructor
  · intro side
    rw [announced side]
    split
    · exact Or.inr rfl
    · exact Or.inl rfl
  · intro quiet probed
    -- Nothing is on its way, so whatever one end transmitted has brought the other one up.
    have spreads : ∀ side, after.HasTransmitted id side →
        (after.table side.other).isRunning id = true := by
      intro side hasTransmitted
      rcases reached side hasTransmitted with running | ⟨frame, underway, isOwn⟩
      · exact running
      · exact (quiet side.other frame underway isOwn).elim
    obtain ⟨first, frame, member, isOwn, _⟩ := probed
    have opposite := spreads first ⟨frame, member, isOwn⟩
    have own := spreads first.other (training.active first.other opposite)
    rw [Side.other_other] at own
    refine Side.forall_of_other first ?_ ?_
    · exact ⟨(LinkTable.state_eq_running_iff _ id).mpr own,
        (announced first).trans (if_pos own)⟩
    · exact ⟨(LinkTable.state_eq_running_iff _ id).mpr opposite,
        (announced first.other).trans (if_pos opposite)⟩

/-- Both sides probe at once, and an answer overtakes the probe that was transmitted before it. -/
theorem training_agrees_of_crossed_probes :
    let operations : List Operation := [.add 1 none 0, .up 1 0]
    let table := fun _ : Side => ((LinkTable.ofSettings {}).run operations).1
    let moves : List Move :=
      [.own .here (.sweep 10) nofun, .own .there (.sweep 11) nofun, .arrival .there 0 12,
        .arrival .here 1 12, .arrival .here 0 13, .arrival .there 0 14]
    let after := (ofTables table).run moves
    (∀ move ∈ moves, move.isTraining 10 (10 + 15000) = true) ∧
      (∀ side, ∀ frame ∈ after.inbound side, frame.id ≠ 1) ∧
      ∀ side, (after.table side).state 1 = .running ∧
        Report.statuses 1 (after.reported side) = [.up] := by
  intro operations table moves after
  have ready : ∀ side, (table side).isEligible 1 = true ∧ (table side).state 1 = .inactive := by
    intro side
    cases side <;> decide +kernel
  have patience :
      min (table .here).settings.deadInterval (table .there).settings.deadInterval = 15000 := by
    decide +kernel
  have areTraining : ∀ move ∈ moves, move.isTraining 10 (10 + 15000) = true := by
    simp only [moves, List.forall_mem_cons]
    decide
  have quiet : ∀ side, ∀ frame ∈ after.inbound side, frame.id ≠ 1 := by
    intro side
    cases side <;> decide +kernel
  have probed : ∃ side, ∃ frame ∈ after.transmitted side, frame.id = 1 ∧ frame.kind = .probe :=
    ⟨.here, by decide +kernel⟩
  have agrees := training_agrees (fun _ => {}) (fun _ => operations) 1 10 moves ready
    (by rw [patience]; exact areTraining)
  have isAfter :
      after = (ofTables fun _ => ((LinkTable.ofSettings {}).run operations).1).run moves :=
    rfl
  rw [← isAfter] at agrees
  exact ⟨areTraining, quiet, agrees.2 quiet probed⟩

end Peers

end StationLink
