import StationLink.Train

namespace StationLink

/-!
# What a reassembler makes of any blocks

Blocks of any kind can be grouped into trains: each train goes up to and including
the next block that has nothing to come, and the blocks behind the last such block
belong to a train that has not ended. A reassembler keeps no more than the train
that has not ended, so that the results of its blocks are those of each train on its
own (`Reassembler.results_of_blocks`), whatever came before it.
-/

namespace Train

/-! ## Grouping blocks -/

/-- A train that has ended: more is to come behind every block but the last. -/
def IsWhole (train : List Block) : Prop :=
  ∃ earlier last,
    train = earlier ++ [last] ∧ (∀ block ∈ earlier, block.more = true) ∧ last.more = false

/-- The trains that blocks belong to. -/
structure Grouping where
  /-- The trains that have ended, in the order of their blocks. -/
  whole : List (List Block)
  /-- The blocks of the train that has not ended. -/
  unfinished : List Block

/-- The trains are those of the given blocks. -/
structure Grouping.Covers (grouping : Grouping) (blocks : List Block) : Prop where
  joined : grouping.whole.flatten ++ grouping.unfinished = blocks
  isWhole : ∀ train ∈ grouping.whole, IsWhole train
  goesOn : ∀ block ∈ grouping.unfinished, block.more = true

/-- Group blocks into trains; the first train has begun with the blocks given apart. -/
def group (begun : List Block) : List Block → Grouping
  | [] => { whole := [], unfinished := begun }
  | block :: rest =>
      if block.more then
        group (begun ++ [block]) rest
      else
        let later := group [] rest
        { later with whole := (begun ++ [block]) :: later.whole }

theorem group_covers
    {begun : List Block}
    (goesOn : ∀ block ∈ begun, block.more = true)
    (blocks : List Block) :
    (group begun blocks).Covers (begun ++ blocks) := by
  induction blocks generalizing begun with
  | nil =>
      rw [List.append_nil]
      exact ⟨rfl, nofun, goesOn⟩
  | cons block rest inductionHypothesis =>
      rw [List.append_cons begun block rest, group]
      split
      · next more =>
          refine inductionHypothesis fun other member => ?_
          rcases List.mem_append.mp member with isBegun | isNew
          · exact goesOn other isBegun
          · cases List.mem_singleton.mp isNew
            exact more
      · next isLast =>
          have later := @inductionHypothesis [] nofun
          refine ⟨?_, ?_, later.goesOn⟩
          · simp only [List.flatten_cons, List.append_assoc, later.joined, List.nil_append]
          · intro train member
            rcases List.mem_cons.mp member with rfl | isLater
            · exact ⟨begun, block, rfl, goesOn, Bool.eq_false_iff.mpr isLast⟩
            · exact later.isWhole train isLater

/-- A train has not ended exactly if more is to come behind the last block. -/
theorem Grouping.Covers.any_getLast?
    {grouping : Grouping}
    {blocks : List Block}
    (covers : grouping.Covers blocks) :
    blocks.getLast?.any Block.more = !grouping.unfinished.isEmpty := by
  obtain ⟨rfl, isWhole, goesOn⟩ := covers
  rcases List.eq_nil_or_concat grouping.unfinished with nothing | ⟨earlier, last, isConcat⟩
  · rcases List.eq_nil_or_concat grouping.whole with noTrain | ⟨others, train, isTrain⟩
    · rw [nothing, noTrain]
      rfl
    · obtain ⟨blocks, last, rfl, _, ends⟩ := isWhole train (by simp [isTrain])
      simp [nothing, isTrain, ends]
  · have more := goesOn last (by simp [isConcat])
    simp [isConcat, more]

/-- Blocks that have more to come belong to the train that has begun. -/
theorem group_append
    (begun : List Block)
    {blocks : List Block}
    (goesOn : ∀ block ∈ blocks, block.more = true)
    (rest : List Block) :
    group begun (blocks ++ rest) = group (begun ++ blocks) rest := by
  induction blocks generalizing begun with
  | nil =>
      rw [List.nil_append, List.append_nil]
  | cons block others inductionHypothesis =>
      obtain ⟨more, othersGoOn⟩ := List.forall_mem_cons.mp goesOn
      rw [List.cons_append, group, if_pos more, inductionHypothesis _ othersGoOn,
        ← List.append_cons]

theorem group_of_isWhole
    {train : List Block}
    (isWhole : IsWhole train) :
    group [] train = { whole := [train], unfinished := [] } := by
  obtain ⟨earlier, last, rfl, goesOn, isLast⟩ := isWhole
  rw [group_append [] goesOn, group, isLast]
  rfl

/-! ## Results of a train -/

/-- What a reassembler returns for a block. -/
abbrev Result : Type :=
  Except DecodeError (Option (List UInt8))

/-- The results of a train that has more blocks than it may have, given their number. -/
def overlongResults (count : Nat) : List Result :=
  List.replicate maxTrainBlocks (.ok none) ++
    .error (.trainTooLong maxTrainBlocks) ::
      List.replicate (count - maxTrainBlocks - 1) (.ok none)

/-- The results of a train that has ended: its message comes with the last block. -/
def results (train : List Block) : List Result :=
  if train.length ≤ maxTrainBlocks then
    List.replicate (train.length - 1) (.ok none) ++ [.ok (some (train.flatMap Block.payload))]
  else
    overlongResults train.length

/-- The results of the blocks of a train that has not ended. -/
def unfinishedResults (begun : List Block) : List Result :=
  if begun.length ≤ maxTrainBlocks then
    List.replicate begun.length (.ok none)
  else
    overlongResults begun.length

/-- The result of a block that comes behind others of its train. -/
def nextResult (begun : List Block) (block : Block) : Result :=
  if begun.length < maxTrainBlocks then
    .ok (if block.more then none else some (begun.flatMap Block.payload ++ block.payload))
  else if begun.length = maxTrainBlocks then
    .error (.trainTooLong maxTrainBlocks)
  else
    .ok none

variable {begun : List Block}

theorem overlongResults_succ
    (isFull : maxTrainBlocks ≤ begun.length)
    (block : Block) :
    overlongResults (begun.length + 1) = unfinishedResults begun ++ [nextResult begun block] := by
  rcases Nat.eq_or_lt_of_le isFull with isExact | isLong
  · simp only [overlongResults, unfinishedResults, nextResult, ← isExact, Nat.le_refl,
      Nat.lt_irrefl, if_true, if_false, Nat.add_sub_cancel_left, Nat.sub_self,
      List.replicate_zero]
  · have oneMore :
        begun.length + 1 - maxTrainBlocks - 1 = begun.length - maxTrainBlocks - 1 + 1 := by
      omega
    simp only [overlongResults, unfinishedResults, nextResult, if_neg (Nat.not_le_of_lt isLong),
      if_neg (Nat.not_lt_of_le isFull), if_neg (Nat.ne_of_gt isLong), oneMore,
      List.replicate_succ', List.append_assoc, List.cons_append]

theorem unfinishedResults_append
    {block : Block}
    (more : block.more = true) :
    unfinishedResults (begun ++ [block]) = unfinishedResults begun ++ [nextResult begun block] := by
  have length : (begun ++ [block]).length = begun.length + 1 := List.length_append
  by_cases room : begun.length < maxTrainBlocks
  · simp only [unfinishedResults, nextResult, length, more, if_pos room,
      if_pos (Nat.le_of_lt room), if_pos (Nat.succ_le_of_lt room), if_true, List.replicate_succ']
  · rw [unfinishedResults, length, if_neg (by omega),
      overlongResults_succ (Nat.le_of_not_lt room) block]

theorem results_append
    {block : Block}
    (isLast : block.more = false) :
    results (begun ++ [block]) = unfinishedResults begun ++ [nextResult begun block] := by
  have length : (begun ++ [block]).length = begun.length + 1 := List.length_append
  by_cases room : begun.length < maxTrainBlocks
  · simp only [results, unfinishedResults, nextResult, length, isLast, if_pos room,
      if_pos (Nat.le_of_lt room), if_pos (Nat.succ_le_of_lt room), Bool.false_eq_true, if_false,
      Nat.add_sub_cancel, List.flatMap_append, List.flatMap_singleton]
  · rw [results, length, if_neg (by omega), overlongResults_succ (Nat.le_of_not_lt room) block]

end Train

namespace Reassembler

open Train

/-! ## Single blocks -/

theorem push_of_more
    {reassembler : Reassembler}
    (keeps : reassembler.discarding = false)
    (room : reassembler.blocks < maxTrainBlocks)
    (payload : List UInt8) :
    reassembler.push { payload, more := true } =
      ({ reassembler with
          buffer := reassembler.buffer ++ payload
          blocks := reassembler.blocks + 1 },
        .ok none) := by
  simp only [push, keeps, Bool.false_eq_true, if_false,
    if_neg (Nat.ne_of_lt room), if_true]

theorem push_of_last
    {reassembler : Reassembler}
    (keeps : reassembler.discarding = false)
    (room : reassembler.blocks < maxTrainBlocks)
    (payload : List UInt8) :
    reassembler.push { payload, more := false } =
      (.empty, .ok (some (reassembler.buffer ++ payload))) := by
  simp only [push, keeps, Bool.false_eq_true, if_false,
    if_neg (Nat.ne_of_lt room), empty]

/-- The first block beyond the limit is an error, and others of its train are thrown away. -/
theorem push_of_full
    {reassembler : Reassembler}
    (keeps : reassembler.discarding = false)
    (isFull : reassembler.blocks = maxTrainBlocks)
    (block : Block) :
    reassembler.push block =
      ({ discarding := block.more }, .error (.trainTooLong maxTrainBlocks)) := by
  simp only [push, keeps, Bool.false_eq_true, if_false, if_pos isFull]
  rfl

/-! ## What is held of an unfinished train -/

/-- The reassembler that has received the blocks of a train that has not ended. -/
def holding (begun : List Block) : Reassembler :=
  if begun.length ≤ maxTrainBlocks then
    { buffer := begun.flatMap Block.payload, blocks := begun.length }
  else
    { discarding := true }

theorem isPending_holding
    (begun : List Block) :
    (holding begun).isPending = !begun.isEmpty := by
  cases begun with
  | nil =>
      rfl
  | cons first others =>
      simp only [holding]
      split <;> rfl

theorem pendingLength_holding
    (begun : List Block) :
    (holding begun).pendingLength =
      if begun.length ≤ maxTrainBlocks then
        (begun.flatMap Block.payload).length
      else
        0 := by
  simp only [holding]
  split <;> rfl

/-- What one block does to a train that has not ended. -/
theorem push_holding
    (begun : List Block)
    (block : Block) :
    (holding begun).push block =
      (if block.more then holding (begun ++ [block]) else .empty, nextResult begun block) := by
  have length : (begun ++ [block]).length = begun.length + 1 := List.length_append
  rcases Nat.lt_trichotomy begun.length maxTrainBlocks with room | isFull | isLong
  · obtain ⟨payload, more⟩ := block
    cases more with
    | true =>
        simp only [holding, nextResult, length, if_pos (Nat.le_of_lt room), if_pos room,
          if_pos (Nat.succ_le_of_lt room), List.flatMap_append, List.flatMap_singleton, if_true]
        exact push_of_more rfl room payload
    | false =>
        simp only [holding, nextResult, if_pos (Nat.le_of_lt room), if_pos room,
          Bool.false_eq_true, if_false]
        exact push_of_last rfl room payload
  · have isHeld : holding begun =
        { buffer := begun.flatMap Block.payload, blocks := begun.length } :=
      if_pos (Nat.le_of_eq isFull)
    rw [isHeld, push_of_full rfl isFull]
    simp only [holding, nextResult, length, isFull, Nat.lt_irrefl, if_true, if_false]
    cases block.more <;> rfl
  · have tooMany : ¬ begun.length + 1 ≤ maxTrainBlocks := by omega
    simp only [holding, nextResult, length, if_neg (Nat.not_le_of_lt isLong), if_neg tooMany,
      if_neg (Nat.lt_asymm isLong), if_neg (Nat.ne_of_gt isLong), push, if_true]
    cases block.more <;> rfl

/--
After any blocks only the train that has not ended is held, and the results are
those of every train on its own.
-/
theorem pushAll_holding
    (begun blocks : List Block) :
    ((holding begun).pushAll blocks).1 = holding (group begun blocks).unfinished ∧
      unfinishedResults begun ++ ((holding begun).pushAll blocks).2 =
        (group begun blocks).whole.flatMap results ++
          unfinishedResults (group begun blocks).unfinished := by
  -- The reassembler always holds the train that has begun, and its results so far count.
  induction blocks generalizing begun with
  | nil =>
      exact ⟨rfl, List.append_nil _⟩
  | cons block rest inductionHypothesis =>
      simp only [pushAll, push_holding]
      rw [List.append_cons (unfinishedResults begun)]
      cases more : block.more with
      | true =>
          simp only [group, more, if_true, ← unfinishedResults_append more]
          exact inductionHypothesis (begun ++ [block])
      | false =>
          obtain ⟨holds, later⟩ := inductionHypothesis []
          simp only [group, more, Bool.false_eq_true, if_false, ← results_append more,
            List.flatMap_cons, List.append_assoc, ← later]
          exact ⟨holds, rfl⟩

/-- A train that has ended leaves a new reassembler as it was. -/
theorem pushAll_of_isWhole
    {train : List Block}
    (isWhole : IsWhole train) :
    empty.pushAll train = (.empty, results train) := by
  obtain ⟨holds, returns⟩ := pushAll_holding [] train
  have nothingBegun : unfinishedResults [] = [] := rfl
  rw [group_of_isWhole isWhole] at holds returns
  simp only [nothingBegun, List.nil_append, List.flatMap_singleton, List.append_nil] at returns
  exact Prod.ext holds returns

/--
The results of any blocks that a new reassembler takes in are those of the trains
they belong to, each on its own. A train of no more blocks than it may have yields
the message that its payloads make up with its last block and nothing before; a
longer one yields nothing but an error with the first block beyond the limit. A
train is pending exactly if more is to come behind the last block, and the bytes
that count are those of the train that has not ended, until it is too long.
-/
theorem results_of_blocks
    (blocks : List Block) :
    let trains := Train.group [] blocks
    let pushed := Reassembler.empty.pushAll blocks
    trains.Covers blocks ∧
      pushed.2 =
        trains.whole.flatMap Train.results ++ Train.unfinishedResults trains.unfinished ∧
      pushed.1.isPending = blocks.getLast?.any Block.more ∧
      pushed.1.pendingLength =
        if trains.unfinished.length ≤ maxTrainBlocks then
          (trains.unfinished.flatMap Block.payload).length
        else
          0 := by
  intro trains pushed
  have covers : trains.Covers blocks := @Train.group_covers [] nofun blocks
  obtain ⟨holds, returns⟩ := pushAll_holding [] blocks
  have isHeld : pushed.1 = holding trains.unfinished := holds
  refine ⟨covers, returns, ?_, ?_⟩
  · rw [isHeld, isPending_holding, covers.any_getLast?]
  · rw [isHeld, pendingLength_holding]

end Reassembler

end StationLink
