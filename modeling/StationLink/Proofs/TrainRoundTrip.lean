import Mathlib.Algebra.Order.Floor.Div
import StationLink.Proofs.TrainResults

namespace StationLink

/-!
# Joining the blocks that were cut

The blocks of a message are a train: all are marked as having more to come but the
last, and none is longer than a block may be. A reassembler that has received
nothing is empty again after the blocks of a message. It yields a message that fits
with the last of them, and reports one that does not. What cutting and joining come to
together, for messages of any length, is `Train.cut_exact`.
-/

namespace Train

theorem pieces_nil :
    pieces [] = [] := by
  rw [pieces, if_pos rfl]

/-- The pieces of a message are its first bytes, as many as fit, and those of the rest. -/
theorem pieces_of_nonempty
    {message : List UInt8}
    (nonempty : message ≠ []) :
    pieces message =
      message.take maxBlockPayload :: pieces (message.drop maxBlockPayload) := by
  rw [pieces, if_neg nonempty]

/-- The pieces of a message are all of it, in order. -/
theorem flatten_pieces
    (message : List UInt8) :
    (pieces message).flatten = message := by
  induction message using pieces.induct with
  | case1 =>
      rw [pieces_nil, List.flatten_nil]
  | case2 message nonempty inductionHypothesis =>
      rw [pieces_of_nonempty nonempty, List.flatten_cons, inductionHypothesis,
        List.take_append_drop]

/-- One more block is needed for the bytes of a full one, or for what is left. -/
theorem blockCount_of_nonempty
    {message : List UInt8}
    (nonempty : message ≠ []) :
    blockCount message.length = blockCount (message.drop maxBlockPayload).length + 1 := by
  have positive : 0 < message.length := List.length_pos_iff.mpr nonempty
  rw [List.length_drop]
  simp only [blockCount, maxBlockPayload]
  omega

/-- There are as many pieces as blocks are counted, and each holds the bytes of its place. -/
theorem getElem?_pieces
    (message : List UInt8)
    (index : Nat) :
    (pieces message)[index]? =
      if index < blockCount message.length then
        some ((message.drop (index * maxBlockPayload)).take maxBlockPayload)
      else
        none := by
  induction message using pieces.induct generalizing index with
  | case1 =>
      rw [pieces_nil]
      rfl
  | case2 message nonempty inductionHypothesis =>
      rw [pieces_of_nonempty nonempty, blockCount_of_nonempty nonempty]
      cases index with
      | zero =>
          rw [List.getElem?_cons_zero, if_pos (Nat.succ_pos _), Nat.zero_mul, List.drop_zero]
      | succ index =>
          rw [List.getElem?_cons_succ, inductionHypothesis, List.drop_drop, Nat.succ_mul,
            Nat.add_comm maxBlockPayload]
          simp only [Nat.add_lt_add_iff_right]

/-- A message has as many pieces as it needs blocks. -/
theorem length_pieces
    (message : List UInt8) :
    (pieces message).length = blockCount message.length := by
  induction message using pieces.induct with
  | case1 =>
      rw [pieces_nil]
      rfl
  | case2 message nonempty inductionHypothesis =>
      rw [pieces_of_nonempty nonempty, List.length_cons, inductionHypothesis,
        blockCount_of_nonempty nonempty]

theorem cut_nil :
    cut [] = [] := by
  rw [cut, pieces_nil]
  rfl

/-- A message is cut into as many blocks as it needs. -/
theorem length_cut
    (message : List UInt8) :
    (cut message).length = blockCount message.length := by
  rw [cut, List.length_mapIdx, length_pieces]

/-- The block at an index holds the bytes that stand there and says whether another follows. -/
theorem getElem?_cut
    (message : List UInt8)
    (index : Nat) :
    (cut message)[index]? =
      if index < blockCount message.length then
        some {
          payload := (message.drop (index * maxBlockPayload)).take maxBlockPayload
          more := decide (index + 1 < blockCount message.length) }
      else
        none := by
  rw [cut, List.getElem?_mapIdx, getElem?_pieces]
  split <;> rfl

/-- A message that is not empty has a first block. -/
theorem cut_ne_nil
    {message : List UInt8}
    (nonempty : message ≠ []) :
    cut message ≠ [] := by
  intro isNil
  have counted := length_cut message
  rw [isNil, blockCount_of_nonempty nonempty] at counted
  cases counted

/-- No block of a message is longer than a block may be. -/
theorem length_payload_of_mem_cut
    {message : List UInt8}
    {block : Block}
    (member : block ∈ cut message) :
    block.payload.length ≤ maxBlockPayload := by
  obtain ⟨index, isBlock⟩ := List.mem_iff_getElem?.mp member
  rw [getElem?_cut] at isBlock
  split at isBlock
  · cases isBlock
    exact List.length_take_le _ _
  · cases isBlock

/-- The payloads of the blocks are the message, cut but complete. -/
theorem flatMap_payload_cut
    (message : List UInt8) :
    (cut message).flatMap Block.payload = message := by
  have payloads : (cut message).map Block.payload = pieces message := by
    apply List.ext_getElem?
    intro index
    rw [cut, List.getElem?_map, List.getElem?_mapIdx, Option.map_map]
    exact Option.map_id'
  rw [List.flatMap_def, payloads, flatten_pieces]

/-- A block is marked as having more to come unless it is the last of its message. -/
theorem more_iff_of_cut
    {message : List UInt8}
    {first last : List Block}
    {block : Block}
    (split : cut message = first ++ block :: last) :
    block.more = true ↔ last ≠ [] := by
  have counted := length_cut message
  rw [split, List.length_append, List.length_cons] at counted
  have isBlock := getElem?_cut message first.length
  rw [split, List.getElem?_append_right (Nat.le_refl _), Nat.sub_self,
    List.getElem?_cons_zero, if_pos (by omega), Option.some_inj] at isBlock
  rw [isBlock, decide_eq_true_eq, ← List.length_pos_iff]
  omega

/-- The blocks of a message are a train that has ended. -/
theorem isWhole_cut
    {message : List UInt8}
    (nonempty : message ≠ []) :
    IsWhole (cut message) := by
  rcases List.eq_nil_or_concat (cut message) with isNil | ⟨earlier, last, isCut⟩
  · exact absurd isNil (cut_ne_nil nonempty)
  · rw [List.concat_eq_append] at isCut
    refine ⟨earlier, last, isCut, fun block member => ?_, ?_⟩
    · obtain ⟨before, behind, rfl⟩ := List.append_of_mem member
      rw [List.append_assoc, List.cons_append] at isCut
      exact (more_iff_of_cut isCut).mpr (List.append_ne_nil_of_right_ne_nil _ nofun)
    · exact Bool.eq_false_iff.mpr fun more => (more_iff_of_cut isCut).mp more rfl

/-- The blocks of a message fit in a train exactly if its bytes do. -/
theorem length_cut_le_iff
    {message : List UInt8} :
    (cut message).length ≤ maxTrainBlocks ↔ message.length ≤ maxTrainBytes := by
  rw [length_cut]
  simp only [blockCount, maxTrainBytes, maxTrainBlocks, maxBlockPayload]
  omega

end Train

namespace Reassembler

/-- Nothing is kept but the blocks of a train that goes on. -/
structure WellFormed (reassembler : Reassembler) : Prop where
  buffer_of_blocks : reassembler.blocks = 0 → reassembler.buffer = []
  blocks_of_discarding : reassembler.discarding = true → reassembler.blocks = 0

/-- A reassembler that holds nothing is well-formed. -/
theorem WellFormed.empty :
    WellFormed .empty where
  buffer_of_blocks := fun _ => rfl
  blocks_of_discarding := fun discarding => nomatch discarding

/-- Between trains a reassembler is as good as new. -/
theorem WellFormed.eq_empty
    {reassembler : Reassembler}
    (wellFormed : reassembler.WellFormed)
    (idle : reassembler.isPending = false) :
    reassembler = .empty := by
  obtain ⟨buffer, blocks, discarding⟩ := reassembler
  simp only [isPending, Bool.or_eq_false_iff, decide_eq_false_iff_not, Nat.not_lt,
    Nat.le_zero] at idle
  obtain ⟨noBlocks, notDiscarding⟩ := idle
  have noBytes : buffer = [] := wellFormed.buffer_of_blocks noBlocks
  subst noBlocks notDiscarding noBytes
  rfl

/-- Taking in a block keeps a reassembler well-formed. -/
theorem WellFormed.push
    {reassembler : Reassembler}
    (wellFormed : reassembler.WellFormed)
    (block : Block) :
    (reassembler.push block).1.WellFormed := by
  unfold Reassembler.push
  split
  · next discarding =>
      have noBlocks := wellFormed.blocks_of_discarding discarding
      exact ⟨wellFormed.buffer_of_blocks, fun _ => noBlocks⟩
  · next notDiscarding =>
      split
      · exact ⟨fun _ => rfl, fun _ => rfl⟩
      · simp only
        split
        · exact ⟨fun noBlocks => (Nat.succ_ne_zero _ noBlocks).elim,
            fun discarding => (notDiscarding discarding).elim⟩
        · exact ⟨fun _ => rfl, fun _ => rfl⟩

/-- Taking in blocks keeps a reassembler well-formed. -/
theorem WellFormed.pushAll
    {reassembler : Reassembler}
    (wellFormed : reassembler.WellFormed)
    (blocks : List Block) :
    (reassembler.pushAll blocks).1.WellFormed := by
  induction blocks generalizing reassembler with
  | nil =>
      exact wellFormed
  | cons block rest inductionHypothesis =>
      exact inductionHypothesis (wellFormed.push block)

/-- A new reassembler completes a message that fits with its last block. -/
theorem pushAll_empty_cut
    {message : List UInt8}
    (nonempty : message ≠ [])
    (fits : message.length ≤ maxTrainBytes) :
    empty.pushAll (Train.cut message) =
      (.empty,
        List.replicate ((Train.cut message).length - 1) (.ok none) ++ [.ok (some message)]) := by
  rw [pushAll_of_isWhole (Train.isWhole_cut nonempty), Train.results,
    if_pos (Train.length_cut_le_iff.mpr fits), Train.flatMap_payload_cut]

/-- A new reassembler reports a message that does not fit and never completes it. -/
theorem pushAll_empty_cut_of_long
    {message : List UInt8}
    (long : maxTrainBytes < message.length) :
    empty.pushAll (Train.cut message) =
      (.empty,
        List.replicate maxTrainBlocks (.ok none) ++
          .error (.trainTooLong maxTrainBlocks) ::
            List.replicate ((Train.cut message).length - maxTrainBlocks - 1) (.ok none)) := by
  have nonempty : message ≠ [] := by
    rintro rfl
    exact Nat.not_lt_zero _ long
  have tooLong : ¬ (Train.cut message).length ≤ maxTrainBlocks := fun fits =>
    Nat.not_le_of_lt long (Train.length_cut_le_iff.mp fits)
  rw [pushAll_of_isWhole (Train.isWhole_cut nonempty), Train.results, if_neg tooLong,
    Train.overlongResults]

end Reassembler

namespace Train

open Reassembler

/-- Every block but the last is full, and the last holds what is left. -/
theorem length_payload_of_cut
    {message : List UInt8}
    {index : Nat}
    {block : Block}
    (isBlock : (cut message)[index]? = some block) :
    if index + 1 = (cut message).length then
      1 ≤ block.payload.length ∧ block.payload.length ≤ maxBlockPayload ∧ block.more = false
    else
      block.payload.length = maxBlockPayload ∧ block.more = true := by
  rw [getElem?_cut] at isBlock
  rw [length_cut]
  split at isBlock
  · next inside =>
      cases isBlock
      by_cases isLast : index + 1 = blockCount message.length
      · rw [if_pos isLast, List.length_take, List.length_drop, decide_eq_false_iff_not]
        simp only [blockCount, maxBlockPayload] at inside isLast ⊢
        omega
      · rw [if_neg isLast, List.length_take, List.length_drop, decide_eq_true_eq]
        simp only [blockCount, maxBlockPayload] at inside isLast ⊢
        omega
  · cases isBlock

/-- A message that does not fit, or that is empty, is never completed. -/
theorem completed_notMem_of_cut
    {message : List UInt8}
    (unfit : ¬ (1 ≤ message.length ∧ message.length ≤ maxTrainBytes))
    (completed : List UInt8) :
    .ok (some completed) ∉ (empty.pushAll (cut message)).2 := by
  by_cases isNil : message = []
  · rw [isNil, cut_nil]
    exact List.not_mem_nil
  · have positive : 0 < message.length := List.length_pos_iff.mpr isNil
    rw [pushAll_empty_cut_of_long (by omega)]
    simp [List.mem_replicate]

/-- No train is pending when all blocks of a message have been taken in. -/
theorem isPending_pushAll_cut
    (message : List UInt8) :
    (empty.pushAll (cut message)).1.isPending = false := by
  by_cases isNil : message = []
  · rw [isNil, cut_nil]
    rfl
  · rw [pushAll_of_isWhole (isWhole_cut isNil)]
    rfl

/--
A message is cut into as many blocks as full ones would hold it, all of them full and
marked as having more to come but the last, and none of it is lost. Pushed in order into a
reassembler that is between trains, they complete the message with the last block and
nothing before if and only if it is not empty and fits into a train; otherwise they complete
nothing. Either way the reassembler is between trains again.
-/
theorem cut_exact
    (message : List UInt8)
    {earlier : List Block}
    (idle : (empty.pushAll earlier).1.isPending = false) :
    let blocks := cut message
    let received := (empty.pushAll earlier).1.pushAll blocks
    let fits := 1 ≤ message.length ∧ message.length ≤ maxTrainBytes
    (blocks.length = blockCount message.length ∧
        blocks.length = message.length ⌈/⌉ maxBlockPayload) ∧
      blocks.flatMap Block.payload = message ∧
      (∀ index block, blocks[index]? = some block →
        if index + 1 = blocks.length then
          1 ≤ block.payload.length ∧ block.payload.length ≤ maxBlockPayload ∧ block.more = false
        else
          block.payload.length = maxBlockPayload ∧ block.more = true) ∧
      (received.2 = List.replicate (blocks.length - 1) (.ok none) ++ [.ok (some message)] ↔
        fits) ∧
      (¬ fits → ∀ completed, .ok (some completed) ∉ received.2) ∧
      received.1.isPending = false := by
  intro blocks received fits
  have isNew : (empty.pushAll earlier).1 = .empty :=
    (WellFormed.empty.pushAll earlier).eq_empty idle
  have isReceived : received = empty.pushAll (cut message) := by
    simp only [received, isNew, blocks]
  rw [isReceived]
  have count : blocks.length = message.length ⌈/⌉ maxBlockPayload := by
    rw [Nat.ceilDiv_eq_add_pred_div]
    exact length_cut message
  refine ⟨⟨length_cut message, count⟩, flatMap_payload_cut message,
    fun index block => length_payload_of_cut, ⟨fun isComplete => ?_, fun isFit => ?_⟩,
    completed_notMem_of_cut, isPending_pushAll_cut message⟩
  · by_contra unfit
    refine completed_notMem_of_cut unfit message ?_
    rw [isComplete]
    exact List.mem_append_right _ List.mem_cons_self
  · rw [pushAll_empty_cut (List.length_pos_iff.mp isFit.1) isFit.2]

/-- Two full blocks, after a train that was given up as too long. -/
theorem cut_exact_of_full_blocks :
    let earlier := List.replicate 17 ({ payload := [1], more := true } : Block) ++
      [{ payload := [2], more := false }]
    let message := List.replicate (2 * maxBlockPayload) (0x42 : UInt8)
    (empty.pushAll earlier).1.isPending = false ∧
      (cut message).length = 2 ∧
      ((empty.pushAll earlier).1.pushAll (cut message)).2 = [.ok none, .ok (some message)] := by
  intro earlier message
  have idle : (empty.pushAll earlier).1.isPending = false := by
    decide
  have isLong : message.length = 2 * maxBlockPayload := List.length_replicate
  have outcome := cut_exact message idle
  have two : (cut message).length = 2 := by
    rw [outcome.1.1, isLong]
    rfl
  have completed := outcome.2.2.2.1.mpr (by rw [isLong]; decide)
  rw [two] at completed
  exact ⟨idle, two, completed⟩

end Train

end StationLink
