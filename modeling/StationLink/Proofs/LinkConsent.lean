import Mathlib.Data.List.Induction
import StationLink.Proofs.Peers

namespace StationLink.Peers

open LinkTable (Operation)

/-!
# No link without the peer

A link comes up only between ends that both chose it: if the link of an interface is up at
one side, the other side has made the interface eligible before
(`Peers.hasRaised_of_running`). Frames may overtake one another or get lost, interfaces
may be removed and registered again, and a frame of an earlier time may still be on its
way. What carries the induction is that whatever is on its way about an interface stems
from a side that has made it eligible (`Peers.Consented`).
-/

/-- One of the moves made an interface eligible at a side, where it was registered. -/
def HasRaised (id : InterfaceId) (start : Peers) (moves : List Move) (side : Side) : Prop :=
  ∃ before now own after outcome,
    moves = before ++ .own side (.up id now) own :: after ∧
    ((start.run before).table side).up id now = .ok outcome

namespace HasRaised

variable {id : InterfaceId} {start : Peers} {moves : List Move} {side : Side}

theorem concat
    (hasRaised : HasRaised id start moves side)
    (move : Move) :
    HasRaised id start (moves ++ [move]) side := by
  obtain ⟨before, now, own, after, outcome, isUp, raised⟩ := hasRaised
  exact ⟨before, now, own, after ++ [move], outcome, by simp [isUp], raised⟩

theorem of_last
    {now : Nat}
    {own : ∀ frame time, Operation.up id now ≠ .frame frame time}
    {outcome : LinkTable × Bool}
    (raised : ((start.run moves).table side).up id now = .ok outcome) :
    HasRaised id start (moves ++ [.own side (.up id now) own]) side :=
  ⟨moves, now, own, [], outcome, rfl, raised⟩

end HasRaised

/--
Where an interface is in use, and where frames about it come from, it has been made
eligible; where its link is up, it has been at the other side.
-/
structure Consented (id : InterfaceId) (raised : Side → Prop) (peers : Peers) : Prop where
  inStep : ∀ side, (peers.table side).InStep []
  disabled : ∀ side, ¬ raised side → (peers.table side).Disabled id
  sender : ∀ side, ∀ frame ∈ peers.inbound side, frame.id = id → raised side.other
  running : ∀ side, (peers.table side).isRunning id = true → raised side.other

namespace Consented

variable {id : InterfaceId} {raised later : Side → Prop} {peers : Peers}
variable {side : Side}

theorem mono
    (consented : peers.Consented id raised)
    (isLater : ∀ side, raised side → later side) :
    peers.Consented id later where
  inStep := consented.inStep
  disabled side notLater := consented.disabled side fun isRaised => notLater (isLater side isRaised)
  sender side frame member isOwn := isLater _ (consented.sender side frame member isOwn)
  running side isUp := isLater _ (consented.running side isUp)

theorem drop
    (consented : peers.Consented id raised)
    (side : Side)
    (index : Nat) :
    (peers.drop side index).Consented id raised where
  inStep := consented.inStep
  disabled := consented.disabled
  sender each frame member := consented.sender each frame (mem_of_mem_drop each member)
  running := consented.running

/--
An operation keeps this if frames come from the other side and the interface is not
raised unnoticed.
-/
theorem perform
    (consented : peers.Consented id raised)
    {operation : Operation}
    (arrives : ∀ frame now, operation = .frame frame now → frame.id = id → raised side.other)
    (raises : ∀ now outcome, operation = .up id now →
      (peers.table side).up id now = .ok outcome → raised side) :
    (peers.perform side operation).Consented id raised := by
  have inStep := consented.inStep side
  constructor
  · exact inStep_perform consented.inStep side operation
  · refine Side.forall_of_other side ?_ ?_
    · intro notRaised
      rw [table_perform]
      exact (consented.disabled side notRaised).perform fun now outcome isUp succeeded =>
        notRaised (raises now outcome isUp succeeded)
    · rw [table_perform_other]
      exact consented.disabled side.other
  · refine Side.forall_of_other side ?_ ?_
    · rw [inbound_perform]
      exact consented.sender side
    · intro frame member isOwn
      rw [inbound_perform_other, List.mem_append] at member
      rcases member with isOld | isNew
      · exact consented.sender side.other frame isOld isOwn
      · rw [Side.other_other]
        by_contra notRaised
        exact LinkTable.id_ne_of_mem_frames inStep (consented.disabled side notRaised) operation
          frame isNew isOwn
  · refine Side.forall_of_other side ?_ ?_
    · intro isUp
      rw [table_perform] at isUp
      by_cases isFrame : ∃ frame now, operation = .frame frame now
      · obtain ⟨frame, now, rfl⟩ := isFrame
        by_cases isOwn : frame.id = id
        · exact arrives frame now rfl isOwn
        · have sameLink :=
            (peers.table side).isRunning_onFrame_of_ne (Ne.symm isOwn) now
          exact consented.running side (sameLink.symm.trans isUp)
      · have own : ∀ frame now, operation ≠ .frame frame now :=
          fun frame now same => isFrame ⟨frame, now, same⟩
        exact consented.running side (LinkTable.isRunning_of_own own isUp)
    · rw [table_perform_other]
      exact consented.running side.other

end Consented

/-- Whatever moves are made, a link is up only by consent of both sides. -/
theorem consented_run
    (settings : Side → LinkSettings)
    (moves : List Move)
    (id : InterfaceId) :
    ((ofSettings settings).run moves).Consented id
      (HasRaised id (ofSettings settings) moves) := by
  induction moves using List.reverseRecOn with
  | nil =>
      exact
        { inStep := fun side => LinkTable.inStep_ofSettings (settings side)
          disabled := fun _ _ _ found => nomatch found
          sender := fun _ _ member => nomatch member
          running := fun _ isUp => nomatch isUp }
  | append_singleton moves move inductionHypothesis =>
      have before := inductionHypothesis.mono fun side isRaised => isRaised.concat move
      rw [run_concat]
      cases move with
      | own side operation own =>
          apply before.perform
          · intro frame now isFrame
            exact (own frame now isFrame).elim
          · rintro now outcome rfl succeeded
            exact .of_last succeeded
      | arrival side index now =>
          simp only [step]
          split
          · next frame isNext =>
              apply (before.drop side index).perform
              · intro arrived time isFrame isOwn
                cases isFrame
                exact before.sender side frame (List.mem_of_getElem? isNext) isOwn
              · intro time outcome isUp
                cases isUp
          · exact before
      | loss side index =>
          exact before.drop side index

/--
If the link of an interface is up at one side, the other side has made the interface
eligible before, however the frames between them were delayed, reordered or lost and
whatever else was done at either side.
-/
theorem hasRaised_of_running
    (settings : Side → LinkSettings)
    (moves : List Move)
    (id : InterfaceId)
    (side : Side)
    (running : (((ofSettings settings).run moves).table side).state id = .running) :
    HasRaised id (ofSettings settings) moves side.other :=
  (consented_run settings moves id).running side
    ((LinkTable.state_eq_running_iff _ id).mp running)

/-- A probe may arrive after the interface that it is about was removed where it came from. -/
theorem hasRaised_of_stale_probe :
    let moves : List Move :=
      [.own .here (.add 1 none 0) nofun, .own .here (.up 1 0) nofun,
        .own .here (.sweep 0) nofun, .own .here (.remove 1) nofun,
        .own .there (.add 1 none 5) nofun, .own .there (.up 1 5) nofun, .arrival .there 0 5]
    (((ofSettings fun _ => {}).run moves).table .there).state 1 = .running ∧
      HasRaised 1 (ofSettings fun _ => {}) moves .here := by
  intro moves
  have running : (((ofSettings fun _ => {}).run moves).table .there).state 1 = .running := by
    decide +kernel
  exact ⟨running, hasRaised_of_running _ moves 1 .there running⟩

end StationLink.Peers
