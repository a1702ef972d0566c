import StationLink.Proofs.Peers

namespace StationLink

/-!
# Half-open links

When an interface is made ineligible, its link goes down at that side at once. The other
side is told of it only if the link was up, and so its own link may stay up: it goes down
with the frames that are on their way, provided that the link was up where the interface
was made ineligible or that these frames take it down anyway
(`Peers.notRunning_after_down`). An eligible interface does keep its link otherwise
(`Peers.running_after_down`), until the dead interval is over.

Frames arrive in the order in which they were transmitted here, and none is lost.
-/

namespace Frame

/-- Whether the link of an eligible interface is up once frames have arrived, in order. -/
def linkAfterAll (id : InterfaceId) (up : Bool) : List Frame → Bool
  | [] => up
  | frame :: rest => linkAfterAll id (if frame.id = id then frame.linkAfter up else up) rest

variable {id : InterfaceId} {up earlier : Bool} {frames : List Frame}

theorem linkAfterAll_append
    (id : InterfaceId)
    (up : Bool)
    (first second : List Frame) :
    linkAfterAll id up (first ++ second) = linkAfterAll id (linkAfterAll id up first) second := by
  induction first generalizing up with
  | nil =>
      rfl
  | cons frame rest inductionHypothesis =>
      exact inductionHypothesis _

/-- What is about other interfaces changes nothing. -/
theorem linkAfterAll_of_others
    (others : ∀ frame ∈ frames, frame.id ≠ id) :
    linkAfterAll id up frames = up := by
  induction frames with
  | nil =>
      rfl
  | cons frame rest inductionHypothesis =>
      obtain ⟨notFirst, notRest⟩ := List.forall_mem_cons.mp others
      rw [linkAfterAll, if_neg notFirst]
      exact inductionHypothesis notRest

theorem linkAfter_of_le
    (less : earlier = true → up = true)
    (frame : Frame)
    (isUp : frame.linkAfter earlier = true) :
    frame.linkAfter up = true := by
  unfold linkAfter at isUp ⊢
  cases kind : frame.kind <;> simp only [kind] at isUp ⊢
  · exact less isUp
  · cases isUp

/-- Frames that take a link down leave one down that was down already. -/
theorem linkAfterAll_eq_false_of_le
    (less : earlier = true → up = true)
    (down : linkAfterAll id up frames = false) :
    linkAfterAll id earlier frames = false := by
  induction frames generalizing earlier up with
  | nil =>
      cases earlier with
      | false =>
          rfl
      | true =>
          exact (less rfl).symm.trans down
  | cons frame rest inductionHypothesis =>
      refine inductionHypothesis ?_ down
      split
      · exact linkAfter_of_le less frame
      · exact less

end Frame

namespace LinkTable

variable {table : LinkTable} {id : InterfaceId}

/-- What a frame makes of an eligible interface. -/
theorem isRunning_onFrame_of_eligible
    (inStep : table.InStep [])
    (eligible : table.isEligible id = true)
    (frame : Frame)
    (now : Nat) :
    (table.onFrame frame now).1.isRunning id =
      Frame.linkAfterAll id (table.isRunning id) [frame] := by
  by_cases isOwn : frame.id = id
  · subst isOwn
    rw [isRunning_onFrame inStep, eligible]
    exact (if_pos rfl).symm
  · rw [isRunning_onFrame_of_ne table (Ne.symm isOwn)]
    exact (if_neg isOwn).symm

/-- Of an interface that may be ineligible this is the most that a frame makes. -/
theorem linkAfterAll_of_isRunning_onFrame
    (inStep : table.InStep [])
    {frame : Frame}
    {now : Nat}
    (running : (table.onFrame frame now).1.isRunning id = true) :
    Frame.linkAfterAll id (table.isRunning id) [frame] = true := by
  by_cases eligible : table.isEligible id = true
  · rwa [← isRunning_onFrame_of_eligible inStep eligible frame now]
  · by_cases isOwn : frame.id = id
    · subst isOwn
      rw [isRunning_onFrame inStep, Bool.eq_false_iff.mpr eligible] at running
      cases running
    · rw [isRunning_onFrame_of_ne table (Ne.symm isOwn)] at running
      exact (if_neg isOwn).trans running

/-- The peer is told that an interface is made ineligible if the link was up. -/
theorem frames_down
    (table : LinkTable)
    (id : InterfaceId) :
    Action.frames (table.perform (.down id)).2 =
      if table.isRunning id then [.disconnect id] else [] := by
  rw [perform_down, snd_shutPolitely]
  exact frames_farewell table id

end LinkTable

namespace Peers

open LinkTable (Operation)

namespace Move

/-- No frame is lost, and none overtakes another one. -/
def isInOrder : Move → Bool
  | .own .. => true
  | .arrival _ index _ => index = 0
  | .loss .. => false

/-- A frame arrives at a side, if there is one. -/
def isArrivalAt (side : Side) : Move → Bool
  | .arrival destination _ _ => destination = side
  | .own .. | .loss .. => false

variable (side : Side) (index now : Nat)

theorem isArrivalAt_self : (arrival side index now).isArrivalAt side = true :=
  decide_eq_true rfl

theorem isArrivalAt_other : (arrival side index now).isArrivalAt side.other = false :=
  decide_eq_false (Side.ne_other side)

/-- A side tries to make an interface eligible. -/
def isUp (side : Side) (id : InterfaceId) : Move → Bool
  | .own actor (.up raised _) _ => actor = side ∧ raised = id
  | .own .. | .arrival .. | .loss .. => false

end Move

/--
An interface is disabled at one side, and what is on its way to the other side leaves the
link down there. Everything about it is among the given number of frames to arrive next.
-/
structure Closing (id : InterfaceId) (side : Side) (left : Nat) (peers : Peers) : Prop where
  inStep : ∀ each, (peers.table each).InStep []
  disabled : (peers.table side).Disabled id
  ends :
    Frame.linkAfterAll id ((peers.table side.other).isRunning id) (peers.inbound side.other) =
      false
  last : ∀ frame ∈ (peers.inbound side.other).drop left, frame.id ≠ id

namespace Closing

variable {id : InterfaceId} {side : Side} {left : Nat} {peers : Peers}

/-- What is on its way to the closing side does not matter. -/
theorem drop
    (closing : peers.Closing id side left)
    (index : Nat) :
    (peers.drop side index).Closing id side left where
  inStep := closing.inStep
  disabled := closing.disabled
  ends := by
    rw [inbound_drop_other]
    exact closing.ends
  last := by
    rw [inbound_drop_other]
    exact closing.last

/-- The closing side transmits nothing about the interface, whatever it does or receives. -/
theorem perform
    (closing : peers.Closing id side left)
    {operation : Operation}
    (notUp : ∀ now, operation ≠ .up id now) :
    (peers.perform side operation).Closing id side left := by
  have inStep := closing.inStep side
  have others := LinkTable.id_ne_of_mem_frames inStep closing.disabled operation
  refine ⟨inStep_perform closing.inStep side operation, ?_, ?_, ?_⟩
  · rw [table_perform]
    exact closing.disabled.perform fun now _ isUp _ => notUp now isUp
  · rw [table_perform_other, inbound_perform_other, Frame.linkAfterAll_append, closing.ends]
    exact Frame.linkAfterAll_of_others others
  · intro frame member
    rw [inbound_perform_other, List.drop_append] at member
    rcases List.mem_append.mp member with isOld | isNew
    · exact closing.last frame isOld
    · exact others frame (List.mem_of_mem_drop isNew)

/-- What the other side does of its own accord brings no link up. -/
theorem perform_other
    (closing : peers.Closing id side left)
    {operation : Operation}
    (own : ∀ frame now, operation ≠ .frame frame now) :
    (peers.perform side.other operation).Closing id side left := by
  refine ⟨inStep_perform closing.inStep side.other operation, ?_, ?_, ?_⟩
  · rw [table_perform_of_ne _ _ _ (Side.ne_other side)]
    exact closing.disabled
  · rw [table_perform, inbound_perform]
    exact Frame.linkAfterAll_eq_false_of_le (LinkTable.isRunning_of_own own) closing.ends
  · rw [inbound_perform]
    exact closing.last

/-- A frame that arrives at the other side has the effect that was foreseen, or less. -/
theorem arrival_other
    (closing : peers.Closing id side left)
    {frame : Frame}
    (isNext : (peers.inbound side.other)[0]? = some frame)
    (now : Nat) :
    ((peers.drop side.other 0).perform side.other (.frame frame now)).Closing id side
      (left - 1) := by
  obtain ⟨rest, isInbound⟩ :=
    List.head?_eq_some_iff.mp (List.head?_eq_getElem?.trans isNext)
  have isLeft : ((peers.drop side.other 0).perform side.other (.frame frame now)).inbound
      side.other = rest := by
    rw [inbound_perform, inbound_drop, isInbound]
    rfl
  have ends := closing.ends
  have last := closing.last
  rw [isInbound] at ends last
  refine ⟨?_, ?_, ?_, ?_⟩
  · have dropped : ∀ each, ((peers.drop side.other 0).table each).InStep [] := closing.inStep
    exact inStep_perform dropped side.other _
  · rw [table_perform_of_ne _ _ _ (Side.ne_other side)]
    exact closing.disabled
  · rw [isLeft, table_perform]
    exact Frame.linkAfterAll_eq_false_of_le
      (LinkTable.linkAfterAll_of_isRunning_onFrame (closing.inStep side.other)) ends
  · rw [isLeft]
    intro other member
    cases left with
    | zero =>
        exact last other (List.mem_cons_of_mem frame member)
    | succ left =>
        exact last other member

/-- Where nothing is on its way, nothing can be left to arrive. -/
theorem of_nothing_left
    (closing : peers.Closing id side left)
    (nothing : (peers.inbound side.other).length ≤ 0)
    (fewer : Nat) :
    peers.Closing id side fewer where
  inStep := closing.inStep
  disabled := closing.disabled
  ends := closing.ends
  last := by
    rw [List.drop_eq_nil_of_le (Nat.le_trans nothing (Nat.zero_le fewer))]
    nofun

theorem step
    (closing : peers.Closing id side left)
    {move : Move}
    (inOrder : move.isInOrder = true)
    (notUp : move.isUp side id = false) :
    (peers.step move).Closing id side (left - if move.isArrivalAt side.other then 1 else 0) := by
  cases move with
  | own actor operation own =>
      rcases Side.eq_or_eq_other side actor with isOwn | isOther
      · subst isOwn
        apply closing.perform
        rintro now rfl
        simp [Move.isUp] at notUp
      · subst isOther
        exact closing.perform_other own
  | arrival destination index now =>
      obtain rfl : index = 0 := of_decide_eq_true inOrder
      rcases Side.eq_or_eq_other side destination with isOwn | isOther
      · subst isOwn
        rw [Move.isArrivalAt_other, if_neg Bool.false_ne_true]
        simp only [Peers.step]
        split
        · apply (closing.drop 0).perform
          intro time isUp
          cases isUp
        · exact closing
      · subst isOther
        rw [Move.isArrivalAt_self, if_pos rfl]
        simp only [Peers.step]
        split
        · next isNext =>
            exact closing.arrival_other isNext now
        · next nothing =>
            exact closing.of_nothing_left (List.getElem?_eq_none_iff.mp nothing) _
  | loss side index =>
      cases inOrder

theorem run
    (closing : peers.Closing id side left)
    {moves : List Move}
    (inOrder : ∀ move ∈ moves, move.isInOrder = true)
    (notUp : ∀ move ∈ moves, move.isUp side id = false) :
    (peers.run moves).Closing id side (left - moves.countP (·.isArrivalAt side.other)) := by
  induction moves generalizing peers left with
  | nil =>
      exact closing
  | cons move rest inductionHypothesis =>
      obtain ⟨inOrderFirst, inOrderRest⟩ := List.forall_mem_cons.mp inOrder
      obtain ⟨notUpFirst, notUpRest⟩ := List.forall_mem_cons.mp notUp
      have first := closing.step inOrderFirst notUpFirst
      rw [List.countP_cons, Nat.add_comm, ← Nat.sub_sub]
      exact inductionHypothesis first inOrderRest notUpRest

/-- An interface that is made ineligible closes if the other side is told, or needs no telling. -/
theorem of_down
    (inStep : ∀ each, (peers.table each).InStep [])
    (closes : (peers.table side).isRunning id = true ∨
      Frame.linkAfterAll id ((peers.table side.other).isRunning id) (peers.inbound side.other) =
        false) :
    (peers.perform side (.down id)).Closing id side
      ((peers.perform side (.down id)).inbound side.other).length := by
  refine ⟨inStep_perform inStep side _, ?_, ?_, ?_⟩
  · rw [table_perform]
    exact LinkTable.disabled_down _ id
  · rw [table_perform_other, inbound_perform_other, LinkTable.frames_down,
      Frame.linkAfterAll_append]
    rcases closes with running | down
    · rw [if_pos running]
      exact if_pos rfl
    · rw [down]
      split
      · exact if_pos rfl
      · rfl
  · rw [List.drop_length]
    nofun

theorem isRunning_eq_false
    (closing : peers.Closing id side 0) :
    (peers.table side.other).isRunning id = false := by
  exact (Frame.linkAfterAll_of_others closing.last).symm.trans closing.ends

end Closing

/--
An interface is made ineligible at one side. Its link was up there, or the frames on
their way to the other side take the link down anyway. Once these frames have arrived, and
the disconnect if there is one, the link is down at the other side, whatever else is done
at both sides short of making the interface eligible again where it was made ineligible.
-/
theorem notRunning_after_down
    (settings : Side → LinkSettings)
    (earlier later : List Move)
    (id : InterfaceId)
    (side : Side) :
    let before := (ofSettings settings).run earlier
    let closing := before.step (.own side (.down id) nofun)
    (before.table side).state id = .running ∨
      Frame.linkAfterAll id ((before.table side.other).isRunning id)
        (before.inbound side.other) = false →
    (∀ move ∈ later, move.isInOrder = true) →
    (∀ move ∈ later, move.isUp side id = false) →
    (closing.inbound side.other).length ≤ later.countP (·.isArrivalAt side.other) →
      ((closing.run later).table side.other).state id ≠ .running := by
  intro before closing closes inOrder notUp arrived
  rw [LinkTable.state_eq_running_iff] at closes
  have atOnce : closing.Closing id side (closing.inbound side.other).length :=
    .of_down (inStep_run settings earlier) closes
  have afterwards := atOnce.run inOrder notUp
  rw [Nat.sub_eq_zero_of_le arrived] at afterwards
  rw [ne_eq, LinkTable.state_eq_running_iff, Bool.not_eq_true]
  exact afterwards.isRunning_eq_false

/-- A probe and the disconnect are on their way when the interface is made ineligible. -/
theorem notRunning_after_late_probe :
    let earlier : List Move :=
      [.own .here (.add 1 none 0) nofun, .own .here (.up 1 0) nofun,
        .own .there (.add 1 none 0) nofun, .own .there (.up 1 0) nofun,
        .own .here (.sweep 0) nofun, .arrival .there 0 1, .arrival .here 0 2,
        .own .here (.sweep 9000) nofun]
    let later : List Move := [.arrival .there 0 9001, .arrival .there 0 9001, .arrival .here 0 9002]
    let before := (ofSettings fun _ => {}).run earlier
    let closing := before.step (.own .here (.down 1) nofun)
    (before.table .here).state 1 = .running ∧
      (closing.inbound .there).length = 2 ∧
      ((closing.run later).table .there).state 1 ≠ .running := by
  intro earlier later before closing
  have running : (before.table .here).state 1 = .running := by
    decide +kernel
  have underway : (closing.inbound .there).length = 2 := by
    decide +kernel
  have down := notRunning_after_down (fun _ => {}) earlier later 1 .here (.inl running)
    (by simp only [later, List.forall_mem_cons]; decide)
    (by simp only [later, List.forall_mem_cons]; decide)
    (Nat.le_of_eq underway)
  exact ⟨running, underway, down⟩

/--
The answer to a probe is on its way when the interface is made ineligible: the link is not
up there yet, nobody is told, and the other side keeps its link.
-/
theorem half_open_after_down :
    let earlier : List Move :=
      [.own .here (.add 1 none 0) nofun, .own .here (.up 1 0) nofun,
        .own .there (.add 1 none 0) nofun, .own .there (.up 1 0) nofun,
        .own .here (.sweep 0) nofun, .arrival .there 0 1]
    let later : List Move := [.arrival .here 0 2]
    let closing := ((ofSettings fun _ => {}).run earlier).step (.own .here (.down 1) nofun)
    (∀ move ∈ earlier ++ later, move.isInOrder = true) ∧
      (∀ move ∈ later, move.isUp .here 1 = false) ∧
      closing.inbound .here = [.ack 1] ∧ closing.inbound .there = [] ∧
      (closing.run later).inbound .here = [] ∧ (closing.run later).inbound .there = [] ∧
      ((closing.run later).table .there).state 1 = .running := by
  decide +kernel

/-! ## The condition is needed -/

/-- When frames arrive one after another at an eligible interface, their effects add up. -/
theorem isRunning_run_arrivals
    {peers : Peers}
    {id : InterfaceId}
    {side : Side}
    {frames : List Frame}
    (inStep : (peers.table side).InStep [])
    (eligible : (peers.table side).isEligible id = true)
    (areInbound : peers.inbound side = frames)
    (now : Nat) :
    ((peers.run (List.replicate frames.length (.arrival side 0 now))).table side).isRunning id =
      Frame.linkAfterAll id ((peers.table side).isRunning id) frames := by
  induction frames generalizing peers with
  | nil =>
      rfl
  | cons frame rest inductionHypothesis =>
      let first := (peers.drop side 0).perform side (.frame frame now)
      have isStep : peers.step (.arrival side 0 now) = first := by
        simp only [step, areInbound, List.getElem?_cons_zero, first]
      have tableFirst : first.table side = ((peers.table side).onFrame frame now).1 :=
        table_perform _ side _
      have areLeft : first.inbound side = rest := by
        rw [inbound_perform, inbound_drop, areInbound, List.eraseIdx_cons_zero]
      rw [List.length_cons, List.replicate_succ, run, List.foldl_cons, isStep]
      refine (inductionHypothesis ?_ ?_ areLeft).trans ?_
      · rw [tableFirst]
        exact inStep.onFrame frame now
      · rw [tableFirst, LinkTable.isEligible_onFrame inStep]
        exact eligible
      · rw [tableFirst, LinkTable.isRunning_onFrame_of_eligible inStep eligible]
        exact (Frame.linkAfterAll_append id _ [frame] rest).symm

/--
If the link is not up where an interface is made ineligible and the frames on their way
leave it up at the other side, it is up there when they have arrived, since nobody tells
the other side.
-/
theorem running_after_down
    (settings : Side → LinkSettings)
    (earlier : List Move)
    (id : InterfaceId)
    (side : Side)
    (now : Nat) :
    let before := (ofSettings settings).run earlier
    let closing := before.step (.own side (.down id) nofun)
    let arrivals := List.replicate (closing.inbound side.other).length (.arrival side.other 0 now)
    (before.table side).state id ≠ .running →
    (before.table side.other).isEligible id = true →
    Frame.linkAfterAll id ((before.table side.other).isRunning id)
      (before.inbound side.other) = true →
      ((closing.run arrivals).table side.other).state id = .running := by
  intro before closing arrivals notRunning eligible staysUp
  rw [ne_eq, LinkTable.state_eq_running_iff] at notRunning
  have sameTable : closing.table side.other = before.table side.other :=
    table_perform_other before side (.down id)
  have sameInbound : closing.inbound side.other = before.inbound side.other := by
    refine (inbound_perform_other before side (.down id)).trans ?_
    rw [LinkTable.frames_down, if_neg notRunning, List.append_nil]
  have inStep := inStep_run settings earlier side.other
  rw [← sameTable] at eligible inStep
  rw [← sameTable, ← sameInbound] at staysUp
  rw [LinkTable.state_eq_running_iff, isRunning_run_arrivals inStep eligible rfl]
  exact staysUp

end Peers

end StationLink
