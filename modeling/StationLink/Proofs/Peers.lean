import Mathlib.Data.List.Perm.Basic
import Mathlib.Logic.Function.Basic
import StationLink.Proofs.LinkChanges

namespace StationLink

/-!
# Two tables joined

Two link tables are joined by a channel in each direction. What one of them transmits is
on its way to the other until it arrives or is lost. Unless a statement asks for more, a
frame may arrive before others that were transmitted earlier, and any frame may be lost;
a write that fails is a loss together with the sender's own `writeFailed`.

`Peers.perform` is the only way in which anything happens to a table. A property that
every move keeps holds after a run (`Peers.run_induction`).
-/

/-- The two ends of a transport. -/
inductive Side where
  | here
  | there
  deriving Repr, DecidableEq

namespace Side

/-- The opposite end. -/
def other : Side → Side
  | .here => .there
  | .there => .here

@[simp] theorem other_other (side : Side) : side.other.other = side := by
  cases side <;> rfl

@[simp] theorem other_ne (side : Side) : side.other ≠ side := by
  cases side <;> decide

@[simp] theorem ne_other (side : Side) : side ≠ side.other :=
  (other_ne side).symm

/-- A side is one of two. -/
theorem eq_or_eq_other (side each : Side) : each = side ∨ each = side.other := by
  cases side <;> cases each <;> decide

/-- What holds at an end and at its opposite holds at both ends. -/
theorem forall_of_other
    {P : Side → Prop}
    (side : Side)
    (own : P side)
    (opposite : P side.other) :
    ∀ each, P each := by
  intro each
  cases side <;> cases each <;> assumption

end Side

/-- Two link tables and what is on its way between them. -/
structure Peers where
  table : Side → LinkTable
  /-- Frames that were transmitted to a side and have not arrived there. -/
  inbound : Side → List Frame := fun _ => []
  /-- Everything that a side has transmitted. -/
  transmitted : Side → List Frame := fun _ => []
  /-- Everything that a side has reported. -/
  reported : Side → List Report := fun _ => []

namespace Peers

open LinkTable (Operation)

/-- Something that happens to two tables. -/
inductive Move where
  /-- A side does something of its own. -/
  | own (side : Side) (operation : Operation) (notFrame : ∀ frame now, operation ≠ .frame frame now)
  /-- A frame on its way to a side arrives there. -/
  | arrival (side : Side) (index now : Nat)
  /-- A frame on its way to a side is lost. -/
  | loss (side : Side) (index : Nat)

/-- Two tables that are joined now, with nothing on its way. -/
def ofTables (table : Side → LinkTable) : Peers where
  table

/-- Two tables to which nothing has happened. -/
def ofSettings (settings : Side → LinkSettings) : Peers :=
  .ofTables fun side => .ofSettings (settings side)

/-- An operation at one side; what is transmitted is on its way to the other. -/
def perform (peers : Peers) (side : Side) (operation : Operation) : Peers :=
  let (table, actions) := (peers.table side).perform operation
  let frames := Action.frames actions
  { table := Function.update peers.table side table
    inbound := Function.update peers.inbound side.other (peers.inbound side.other ++ frames)
    transmitted := Function.update peers.transmitted side (peers.transmitted side ++ frames)
    reported :=
      Function.update peers.reported side (peers.reported side ++ Action.reports actions) }

/-- A frame on its way to a side is so no more. -/
def drop (peers : Peers) (side : Side) (index : Nat) : Peers :=
  { peers with
    inbound := Function.update peers.inbound side ((peers.inbound side).eraseIdx index) }

/-- Make a move; nothing happens if there is no frame that could arrive. -/
def step (peers : Peers) : Move → Peers
  | .own side operation _ => peers.perform side operation
  | .arrival side index now =>
      match (peers.inbound side)[index]? with
      | some frame => (peers.drop side index).perform side (.frame frame now)
      | none => peers
  | .loss side index => peers.drop side index

def run (peers : Peers) (moves : List Move) : Peers :=
  moves.foldl step peers

variable {peers : Peers} {side : Side} {index : Nat} {frame : Frame}

/-- The last move of a run is made by the peers that the others leave. -/
theorem run_concat
    (peers : Peers)
    (moves : List Move)
    (move : Move) :
    peers.run (moves ++ [move]) = (peers.run moves).step move :=
  List.foldl_concat ..

/-- What each of the moves keeps is kept by all of them. -/
theorem run_induction
    {P : Peers → Prop}
    {moves : List Move}
    (kept : ∀ move ∈ moves, ∀ peers, P peers → P (peers.step move))
    (holds : P peers) :
    P (peers.run moves) := by
  induction moves generalizing peers with
  | nil =>
      exact holds
  | cons move rest inductionHypothesis =>
      obtain ⟨keptFirst, keptRest⟩ := List.forall_mem_cons.mp kept
      exact inductionHypothesis keptRest (keptFirst peers holds)

/-! ## Both sides after an operation -/

section Perform

variable (peers : Peers) (side : Side) (operation : Operation)

@[simp] theorem table_perform :
    (peers.perform side operation).table side = ((peers.table side).perform operation).1 :=
  Function.update_self ..

/-- An operation of one side leaves the table of any other alone. -/
theorem table_perform_of_ne
    {each : Side}
    (differs : each ≠ side) :
    (peers.perform side operation).table each = peers.table each :=
  Function.update_of_ne differs ..

/-- An operation of one side leaves the table of the other alone. -/
@[simp] theorem table_perform_other :
    (peers.perform side operation).table side.other = peers.table side.other :=
  table_perform_of_ne peers side operation (Side.other_ne side)

@[simp] theorem inbound_perform :
    (peers.perform side operation).inbound side = peers.inbound side :=
  Function.update_of_ne (Side.ne_other side) ..

/-- What one side transmits is under way to the other, behind what is so already. -/
@[simp] theorem inbound_perform_other :
    (peers.perform side operation).inbound side.other =
      peers.inbound side.other ++ Action.frames ((peers.table side).perform operation).2 :=
  Function.update_self ..

@[simp] theorem transmitted_perform :
    (peers.perform side operation).transmitted side =
      peers.transmitted side ++ Action.frames ((peers.table side).perform operation).2 :=
  Function.update_self ..

@[simp] theorem transmitted_perform_other :
    (peers.perform side operation).transmitted side.other = peers.transmitted side.other :=
  Function.update_of_ne (Side.other_ne side) ..

@[simp] theorem reported_perform :
    (peers.perform side operation).reported side =
      peers.reported side ++ Action.reports ((peers.table side).perform operation).2 :=
  Function.update_self ..

@[simp] theorem reported_perform_other :
    (peers.perform side operation).reported side.other = peers.reported side.other :=
  Function.update_of_ne (Side.other_ne side) ..

end Perform

/-- An operation keeps the interfaces and timers of both sides in step. -/
theorem inStep_perform
    (inStep : ∀ each, (peers.table each).InStep [])
    (side : Side)
    (operation : Operation) :
    ∀ each, ((peers.perform side operation).table each).InStep [] := by
  refine Side.forall_of_other side ?_ ?_
  · rw [table_perform]
    exact (inStep side).perform operation
  · rw [table_perform_other]
    exact inStep side.other

/-- Whatever moves are made, interfaces and timers are in step on both sides. -/
theorem inStep_run
    (settings : Side → LinkSettings)
    (moves : List Move) :
    ∀ each, (((ofSettings settings).run moves).table each).InStep [] := by
  refine run_induction (P := fun peers => ∀ each, (peers.table each).InStep []) ?_
    fun each => LinkTable.inStep_ofSettings (settings each)
  intro move _ peers inStep
  cases move with
  | own side operation own =>
      exact inStep_perform inStep side operation
  | arrival side index now =>
      simp only [step]
      split
      · have dropped : ∀ each, ((peers.drop side index).table each).InStep [] := inStep
        exact inStep_perform dropped side _
      · exact inStep
  | loss side index =>
      exact inStep

/-- What a side has transmitted stays so. -/
theorem mem_transmitted_perform
    (side : Side)
    (operation : Operation) :
    ∀ each, frame ∈ peers.transmitted each →
      frame ∈ (peers.perform side operation).transmitted each := by
  refine Side.forall_of_other side ?_ ?_
  · intro member
    rw [transmitted_perform]
    exact List.mem_append_left _ member
  · intro member
    rwa [transmitted_perform_other]

/-- A frame that is lost is no longer under way. -/
@[simp] theorem inbound_drop
    (peers : Peers)
    (side : Side)
    (index : Nat) :
    (peers.drop side index).inbound side = (peers.inbound side).eraseIdx index :=
  Function.update_self ..

/-- A frame that is lost on its way to one side makes no difference to the other direction. -/
@[simp] theorem inbound_drop_other
    (peers : Peers)
    (side : Side)
    (index : Nat) :
    (peers.drop side index).inbound side.other = peers.inbound side.other :=
  Function.update_of_ne (Side.other_ne side) ..

/-- Taking one of several frames away leaves the others, in whatever order they are seen. -/
theorem perm_of_getElem?
    {frames : List Frame}
    (isNext : frames[index]? = some frame) :
    frames.Perm (frame :: frames.eraseIdx index) := by
  obtain ⟨isIndex, rfl⟩ := List.getElem?_eq_some_iff.mp isNext
  exact (List.getElem_cons_eraseIdx_perm isIndex).symm

/-- A frame that is still on its way after a drop was so before. -/
theorem mem_of_mem_drop :
    ∀ each, frame ∈ (peers.drop side index).inbound each → frame ∈ peers.inbound each := by
  refine Side.forall_of_other side ?_ ?_
  · intro member
    rw [inbound_drop] at member
    exact List.mem_of_mem_eraseIdx member
  · intro member
    rwa [inbound_drop_other] at member

end Peers

end StationLink
