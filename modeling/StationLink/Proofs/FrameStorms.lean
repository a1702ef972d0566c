import StationLink.Keyset
import StationLink.Proofs.Peers

namespace StationLink

/-!
# No frame storms

Two parties are joined, each of them a link table or a keyset, and any frames are on their
way between them. While nothing but arrivals happens, at most two frames arrive for every
probe and one for every other frame, in whatever order (`Network.deliveries_end`): only a
probe is answered, and what answers it is not answered again (`Party.receive_answers`). So
every arrival takes away some of the load (`Network.load_deliver`).
-/

/-- What a frame is answered by: nothing, or a single frame if it is a probe. -/
def Frame.IsAnswer (frame : Frame) (answer : List Frame) : Prop :=
  answer = [] ∨ frame.kind = .probe ∧ ∃ id, answer = [.ack id]

/-- How many arrivals frames can cause. -/
def Frame.load (frames : List Frame) : Nat :=
  2 * frames.countP (·.kind = .probe) + frames.countP (·.kind ≠ .probe)

namespace Frame

theorem load_append
    (first second : List Frame) :
    load (first ++ second) = load first + load second := by
  simp only [load, List.countP_append]
  omega

theorem load_perm
    {first second : List Frame}
    (perm : first.Perm second) :
    load first = load second := by
  simp only [load, perm.countP_eq]

/-- The answer to a frame causes fewer arrivals than the frame. -/
theorem IsAnswer.load_lt
    {frame : Frame}
    {answer : List Frame}
    (isAnswer : frame.IsAnswer answer) :
    load answer < load [frame] := by
  rcases isAnswer with rfl | ⟨isProbe, id, rfl⟩
  · simp only [load, List.countP_cons, List.countP_nil]
    by_cases isProbe : frame.kind = .probe <;> simp [isProbe]
  · simp [load, ack, isProbe]

end Frame

/-- What is at an end of a transport: a link table or a keyset. -/
inductive Party where
  | switch (table : LinkTable)
  | station (keyset : Keyset)

namespace Party

/-- Frames that wait to be sent; a link table has none. -/
def queued : Party → List Frame
  | .switch _ => []
  | .station keyset => keyset.output

/-- A frame arrives; whatever is to be sent then is transmitted. -/
def receive (party : Party) (frame : Frame) (now : Nat) : Party × List Frame :=
  match party with
  | .switch table =>
      let (table, actions) := table.onFrame frame now
      (.switch table, Action.frames actions)
  | .station keyset =>
      let (frames, keyset) := (keyset.receive frame).1.takeOutput
      (.station keyset, frames)

/-- After a frame has arrived, all that was queued and the answer is transmitted. -/
theorem receive_answers
    (party : Party)
    (frame : Frame)
    (now : Nat) :
    (party.receive frame now).1.queued = [] ∧
      ∃ answer, frame.IsAnswer answer ∧
        (party.receive frame now).2 = party.queued ++ answer := by
  cases party with
  | switch table =>
      refine ⟨rfl, Action.frames (table.onFrame frame now).2, ?_, rfl⟩
      rw [LinkTable.frames_onFrame]
      split
      · next answered =>
          exact Or.inr ⟨answered.1, _, rfl⟩
      · exact Or.inl rfl
  | station keyset =>
      refine ⟨rfl, _, ?_, keyset.output_receive frame⟩
      split
      · next answered =>
          exact Or.inr ⟨answered.1, _, rfl⟩
      · exact Or.inl rfl

end Party

/-- Two parties and what is on its way between them. -/
structure Network where
  party : Side → Party
  /-- Frames on their way to a side. -/
  inbound : Side → List Frame

/-- A frame on its way to a side arrives there at a time. -/
structure Delivery where
  side : Side
  index : Nat
  now : Nat
  deriving Repr, DecidableEq

namespace Network

/-- Frames on their way to a side, or queued for it at the other side. -/
def frames (network : Network) (side : Side) : List Frame :=
  network.inbound side ++ (network.party side.other).queued

/-- How many of all these frames are of some sort. -/
def count (network : Network) (sort : Frame → Bool) : Nat :=
  (network.frames .here ++ network.frames .there).countP sort

/-- One frame arrives, and what the receiver transmits is on its way back. -/
def deliver? (network : Network) (delivery : Delivery) : Option Network :=
  let side := delivery.side
  match (network.inbound side)[delivery.index]? with
  | some frame =>
      let (party, frames) := (network.party side).receive frame delivery.now
      let inbound :=
        Function.update network.inbound side ((network.inbound side).eraseIdx delivery.index)
      some
        { party := Function.update network.party side party
          inbound := Function.update inbound side.other (network.inbound side.other ++ frames) }
  | none => none

/-- Frames arrive one after another. -/
def deliverAll? (network : Network) : List Delivery → Option Network
  | [] => some network
  | delivery :: rest => (network.deliver? delivery).bind (·.deliverAll? rest)

/-- Two link tables with what is on its way between them. -/
def ofPeers (peers : Peers) : Network where
  party side := .switch (peers.table side)
  inbound := peers.inbound

/-- How many arrivals the frames can cause. -/
def load (network : Network) : Nat :=
  Frame.load (network.frames .here) + Frame.load (network.frames .there)

variable {network after : Network}

/-- Between two link tables a frame arrives just as it does among other moves. -/
theorem deliver?_ofPeers
    {peers : Peers}
    {side : Side}
    {index : Nat}
    {frame : Frame}
    (isNext : (peers.inbound side)[index]? = some frame)
    (now : Nat) :
    (ofPeers peers).deliver? ⟨side, index, now⟩ =
      some (ofPeers (peers.step (.arrival side index now))) := by
  let table := ((peers.table side).onFrame frame now).1
  have sameParties : Function.update (fun each => Party.switch (peers.table each)) side
      (.switch table) = fun each => .switch (Function.update peers.table side table each) :=
    (Function.comp_update Party.switch peers.table side table).symm
  have sameInbound : peers.inbound side.other = (peers.drop side index).inbound side.other :=
    (Peers.inbound_drop_other peers side index).symm
  simp only [deliver?, ofPeers, isNext, Peers.step, Party.receive, sameInbound]
  exact congrArg (some <| Network.mk · _) sameParties

theorem load_eq_add
    (network : Network)
    (side : Side) :
    network.load =
      Frame.load (network.frames side) + Frame.load (network.frames side.other) := by
  cases side with
  | here =>
      rfl
  | there =>
      exact Nat.add_comm _ _

theorem load_eq_count
    (network : Network) :
    network.load = 2 * network.count (·.kind = .probe) + network.count (·.kind ≠ .probe) := by
  rw [load, ← Frame.load_append]
  rfl

/--
An arrival takes one frame away at a side and adds its answer at the other one, where what
was queued is on its way from then on.
-/
theorem frames_deliver
    {delivery : Delivery}
    (delivered : network.deliver? delivery = some after) :
    ∃ frame answer, frame.IsAnswer answer ∧
      (network.frames delivery.side).Perm (frame :: after.frames delivery.side) ∧
      after.frames delivery.side.other = network.frames delivery.side.other ++ answer := by
  unfold deliver? at delivered
  dsimp only at delivered
  split at delivered
  · next frame isNext =>
      obtain ⟨nothingQueued, answer, isAnswer, transmitted⟩ :=
        (network.party delivery.side).receive_answers frame delivery.now
      cases delivered
      refine ⟨frame, answer, isAnswer, ?_, ?_⟩
      · simp only [frames, ne_eq, Side.ne_other, Side.other_ne, not_false_eq_true,
          Function.update_self, Function.update_of_ne]
        exact (Peers.perm_of_getElem? isNext).append_right _
      · simp only [frames, Side.other_other, Function.update_self, nothingQueued, transmitted,
          List.append_nil, List.append_assoc]
  · cases delivered

/-- Every arrival takes away some of the load. -/
theorem load_deliver
    {delivery : Delivery}
    (delivered : network.deliver? delivery = some after) :
    after.load < network.load := by
  obtain ⟨frame, answer, isAnswer, taken, added⟩ := frames_deliver delivered
  have lighter := isAnswer.load_lt
  calc
    after.load
    _ = Frame.load (after.frames delivery.side) +
          (Frame.load (network.frames delivery.side.other) + Frame.load answer) := by
        rw [load_eq_add after delivery.side, added, Frame.load_append]
    _ < Frame.load ([frame] ++ after.frames delivery.side) +
          Frame.load (network.frames delivery.side.other) := by
        rw [Frame.load_append]
        omega
    _ = network.load := by
        rw [load_eq_add network delivery.side, Frame.load_perm taken]
        rfl

theorem length_add_load
    {deliveries : List Delivery}
    (delivered : network.deliverAll? deliveries = some after) :
    deliveries.length + after.load ≤ network.load := by
  induction deliveries generalizing network with
  | nil =>
      cases delivered
      exact Nat.le_of_eq (Nat.zero_add _)
  | cons delivery rest inductionHypothesis =>
      obtain ⟨next, first, others⟩ := Option.bind_eq_some_iff.mp delivered
      have less := load_deliver first
      have atMost := inductionHypothesis others
      rw [List.length_cons]
      omega

/-- A frame that is on its way to a side can arrive there. -/
theorem isSome_deliver?
    {side : Side}
    {index : Nat}
    {frame : Frame}
    (isNext : (network.inbound side)[index]? = some frame)
    (now : Nat) :
    (network.deliver? ⟨side, index, now⟩).isSome = true := by
  simp only [deliver?, isNext, Option.isSome_some]

/--
If nothing happens but that frames arrive, in whatever order, at most two frames arrive
for every probe that was on its way or queued and one for every other frame; and as long
as a frame is on its way another one can arrive.
-/
theorem deliveries_end
    (network after : Network)
    (deliveries : List Delivery)
    (delivered : network.deliverAll? deliveries = some after) :
    deliveries.length ≤ 2 * network.count (·.kind = .probe) + network.count (·.kind ≠ .probe) ∧
      ((∀ side, after.inbound side = []) ∨
        ∃ delivery, (after.deliver? delivery).isSome = true) := by
  constructor
  · have bounded := length_add_load delivered
    rw [load_eq_count network] at bounded
    omega
  · by_contra stuck
    obtain ⟨notEmpty, noneNext⟩ := not_or.mp stuck
    apply notEmpty
    intro side
    cases inbound : after.inbound side with
    | nil =>
        rfl
    | cons frame rest =>
        have isNext : (after.inbound side)[0]? = some frame := by
          rw [inbound]
          rfl
        exact (noneNext ⟨_, isSome_deliver? isNext 0⟩).elim

/-- A table and a keyset probe each other at once: both probes are answered, and that is all. -/
theorem deliveries_end_of_crossed_probes :
    let network : Network :=
      { party := fun
          | .here => .switch ((LinkTable.ofSettings {}).run [.add 1 none 0, .up 1 0]).1
          | .there => .station (.ofSettings ⟨1, "desk", 1, true⟩)
        inbound := fun _ => [.probe 1 1] }
    let deliveries : List Delivery :=
      [⟨.there, 0, 5⟩, ⟨.here, 1, 6⟩, ⟨.here, 0, 7⟩, ⟨.there, 0, 8⟩]
    ∃ after, network.deliverAll? deliveries = some after ∧
      deliveries.length = 2 * network.count (·.kind = .probe) + network.count (·.kind ≠ .probe) ∧
      ((∀ side, after.inbound side = []) ∨
        ∃ delivery, (after.deliver? delivery).isSome = true) := by
  intro network deliveries
  obtain ⟨after, delivered⟩ : ∃ after, network.deliverAll? deliveries = some after :=
    Option.isSome_iff_exists.mp (by decide +kernel)
  have ends := deliveries_end network after deliveries delivered
  exact ⟨after, delivered, by decide +kernel, ends.2⟩

end Network

end StationLink
