import Mathlib.Data.List.SplitBy
import StationLink.Proofs.Reception

namespace StationLink

/-!
# Messages in a sequence of blocks

The blocks that arrive on an interface while its link is up belong to trains of both
directions. Cut into pieces where the direction changes, each piece can be given to a
new reassembler: what an interface reports is what these reassemblers complete
(`Reception.reports_eq`), since a train that is not complete when the direction changes
is given up, and one that is complete leaves nothing behind.
-/

/-- A block that arrives on an interface, which has a hardware name at that time. -/
structure Arrival where
  hardwareName : String
  /-- Whether it belongs to a command. -/
  command : Bool
  block : Block

namespace Arrival

/-- The report of the message that a block completes, unless that is malformed. -/
def report? (id : InterfaceId) (arrival : Arrival) (message : List UInt8) : Option Report :=
  if arrival.command then
    match Command.decode message with
    | .ok received => some (.command id (received.withStation arrival.hardwareName))
    | .error _ => none
  else
    some (.event id ((Event.decode message).withStation arrival.hardwareName))

/-- The reports of the messages that are among the results of a reassembler. -/
def reportsOf
    (id : InterfaceId)
    (arrivals : List Arrival)
    (results : List (Except DecodeError (Option (List UInt8)))) :
    List Report :=
  (arrivals.zip results).filterMap fun (arrival, result) =>
    match result with
    | .ok message? => message?.bind (arrival.report? id)
    | .error _ => none

/-- Blocks cut into pieces where the direction changes. -/
def pieces (arrivals : List Arrival) : List (List Arrival) :=
  arrivals.splitBy fun one other => one.command == other.command

theorem flatten_pieces
    (arrivals : List Arrival) :
    (pieces arrivals).flatten = arrivals :=
  List.flatten_splitBy _ arrivals

/-- What is reported of blocks if every piece is given to a new reassembler. -/
def reports (id : InterfaceId) (arrivals : List Arrival) : List Report :=
  (pieces arrivals).flatMap fun piece =>
    reportsOf id piece (Reassembler.empty.pushAll (piece.map Arrival.block)).2

end Arrival

namespace Reception

/-- Take in blocks one after another. -/
def takeAll (reception : Reception) : List Arrival → Reception
  | [] => reception
  | arrival :: rest => (reception.take arrival.command arrival.block).1.takeAll rest

/-- What is reported of blocks that are taken in one after another. -/
def reports (id : InterfaceId) (reception : Reception) : List Arrival → List Report
  | [] => []
  | arrival :: rest =>
      let (reception, message?) := reception.take arrival.command arrival.block
      (message?.bind (arrival.report? id)).toList ++ reception.reports id rest

variable {id : InterfaceId} {reception : Reception}

theorem reports_append
    (first second : List Arrival) :
    reception.reports id (first ++ second) =
      reception.reports id first ++ (reception.takeAll first).reports id second := by
  induction first generalizing reception with
  | nil =>
      rfl
  | cons arrival rest inductionHypothesis =>
      simp only [List.cons_append, reports, takeAll, inductionHypothesis, List.append_assoc]

/-- Being ready for the direction of the first block makes no difference. -/
theorem reports_turned
    (arrival : Arrival)
    (rest : List Arrival) :
    (reception.turned arrival.command).reports id (arrival :: rest) =
      reception.reports id (arrival :: rest) := by
  have same :
      (reception.turned arrival.command).turned arrival.command =
        reception.turned arrival.command :=
    turned_of_same (reception.turned arrival.command)
  simp only [reports, take, same]

theorem take_of_same
    {command : Bool}
    (same : command = reception.command)
    (block : Block) :
    reception.take command block =
      ({ reception with reassembler := (reception.reassembler.push block).1 },
        match (reception.reassembler.push block).2 with
        | .ok message? => message?
        | .error _ => none) := by
  rcases outcome : reception.reassembler.push block with ⟨reassembler, error | message?⟩
  · simp only [same, take, turned_of_same, outcome]
  · simp only [same, take, turned_of_same, outcome]

/-- Blocks of the direction being received go straight to the reassembler. -/
theorem reports_piece_append
    {piece : List Arrival}
    (same : ∀ arrival ∈ piece, arrival.command = reception.command)
    (rest : List Arrival) :
    let outcome := reception.reassembler.pushAll (piece.map Arrival.block)
    reception.reports id (piece ++ rest) =
      Arrival.reportsOf id piece outcome.2 ++
        ({ reception with reassembler := outcome.1 } : Reception).reports id rest := by
  induction piece generalizing reception with
  | nil =>
      rfl
  | cons arrival others inductionHypothesis =>
      obtain ⟨isSame, othersSame⟩ := List.forall_mem_cons.mp same
      have later := @inductionHypothesis
        { reception with reassembler := (reception.reassembler.push arrival.block).1 } othersSame
      simp only [List.cons_append, reports, take_of_same isSame, List.map_cons,
        Reassembler.pushAll, Arrival.reportsOf, List.zip_cons_cons] at later ⊢
      rw [later, ← List.append_assoc]
      congr 1
      rcases (reception.reassembler.push arrival.block).2 with error | message?
      · rfl
      · cases reported : message?.bind (arrival.report? id) with
        | none =>
            simp only [List.filterMap_cons, reported]
            rfl
        | some report =>
            simp only [List.filterMap_cons, reported]
            rfl

/-- A reception that turns to a direction is as good as new, unless it was receiving that. -/
theorem turned_of_turns
    (wellFormed : reception.reassembler.WellFormed)
    {command : Bool}
    (turns : reception.reassembler = .empty ∨ reception.command ≠ command) :
    reception.turned command = { command } := by
  by_cases idle : reception.reassembler.isPending = false
  · rw [turned_of_idle idle, wellFormed.eq_empty idle]
  · have pending := (Bool.not_eq_false _).mp idle
    rcases turns with cleared | differs
    · rw [cleared] at idle
      exact (idle rfl).elim
    · rw [turned, if_pos ⟨pending, differs⟩]

/-- Two pieces that differ in the direction of a block differ in that of every block. -/
theorem differs_of_turning
    {piece next : List Arrival}
    (uniform : ∃ command, ∀ arrival ∈ piece, arrival.command = command)
    (nextUniform : ∃ command, ∀ arrival ∈ next, arrival.command = command)
    (turns : ∃ last ∈ piece, ∃ first ∈ next, last.command ≠ first.command) :
    ∀ one ∈ piece, ∀ other ∈ next, one.command ≠ other.command := by
  obtain ⟨command, isCommand⟩ := uniform
  obtain ⟨nextCommand, isNextCommand⟩ := nextUniform
  obtain ⟨last, isLast, first, isFirst, differs⟩ := turns
  intro one isOne other isOther
  rw [isCommand last isLast, isNextCommand first isFirst] at differs
  rw [isCommand one isOne, isNextCommand other isOther]
  exact differs

/-- Pieces of one direction each that take turns are each received as if by a new reassembler. -/
theorem reports_flatten
    {pieces : List (List Arrival)}
    (nonempty : [] ∉ pieces)
    (uniform : ∀ piece ∈ pieces, ∃ command, ∀ arrival ∈ piece, arrival.command = command)
    (turning : pieces.IsChain fun one other =>
      ∃ last ∈ one, ∃ first ∈ other, last.command ≠ first.command)
    (wellFormed : reception.reassembler.WellFormed)
    (ready : reception.reassembler = .empty ∨
      ∀ piece ∈ pieces.head?, ∀ arrival ∈ piece, reception.command ≠ arrival.command) :
    reception.reports id pieces.flatten =
      pieces.flatMap fun piece =>
        Arrival.reportsOf id piece (Reassembler.empty.pushAll (piece.map Arrival.block)).2 := by
  induction pieces generalizing reception with
  | nil =>
      rfl
  | cons piece rest inductionHypothesis =>
      obtain ⟨arrival, others, isPiece⟩ : ∃ arrival others, piece = arrival :: others :=
        List.exists_cons_of_ne_nil fun isNil => nonempty (isNil ▸ List.mem_cons_self)
      obtain ⟨⟨command, isCommand⟩, restUniform⟩ := List.forall_mem_cons.mp uniform
      subst isPiece
      have isFirst : arrival.command = command := isCommand arrival List.mem_cons_self
      have turns : reception.reassembler = .empty ∨ reception.command ≠ arrival.command :=
        ready.imp_right fun differs => differs _ rfl arrival List.mem_cons_self
      let outcome := Reassembler.empty.pushAll ((arrival :: others).map Arrival.block)
      have restReady : ∀ next ∈ rest.head?, ∀ other ∈ next, arrival.command ≠ other.command := by
        cases rest with
        | nil =>
            nofun
        | cons next later =>
            intro piece isHead
            cases isHead
            exact differs_of_turning ⟨command, isCommand⟩ (restUniform next List.mem_cons_self)
              (List.isChain_cons_cons.mp turning).1 arrival List.mem_cons_self
      have later := @inductionHypothesis { reassembler := outcome.1, command := arrival.command }
        (fun isNil => nonempty (List.mem_cons_of_mem _ isNil)) restUniform turning.tail
        (Reassembler.WellFormed.empty.pushAll _) (.inr restReady)
      rw [List.flatten_cons, List.flatMap_cons, List.cons_append, ← reports_turned,
        turned_of_turns wellFormed turns, ← List.cons_append]
      have same : ∀ other ∈ arrival :: others, other.command = arrival.command := by
        intro other member
        rw [isFirst, isCommand other member]
      exact (reports_piece_append same rest.flatten).trans (congrArg _ later)

/-- Where each block is of the same direction as the next, all are of one direction. -/
theorem exists_command_of_chain
    {piece : List Arrival}
    (chained : piece.IsChain fun one other => (one.command == other.command) = true) :
    ∃ command, ∀ arrival ∈ piece, arrival.command = command := by
  induction piece with
  | nil =>
      exact ⟨true, nofun⟩
  | cons arrival rest inductionHypothesis =>
      refine ⟨arrival.command, List.forall_mem_cons.mpr ⟨rfl, ?_⟩⟩
      cases rest with
      | nil =>
          nofun
      | cons next others =>
          obtain ⟨same, restChained⟩ := List.isChain_cons_cons.mp chained
          obtain ⟨command, isCommand⟩ := inductionHypothesis restChained
          intro other member
          rw [isCommand other member, ← isCommand next List.mem_cons_self]
          exact (eq_of_beq same).symm

/-- After a reassembler was cleared every piece is reported as by a new one. -/
theorem reports_eq
    (cleared : reception.reassembler = .empty)
    (arrivals : List Arrival) :
    reception.reports id arrivals = Arrival.reports id arrivals := by
  let pieces := Arrival.pieces arrivals
  have nonempty : [] ∉ pieces := List.nil_notMem_splitBy _ arrivals
  have wellFormed : reception.reassembler.WellFormed := by
    rw [cleared]
    exact .empty
  have uniform : ∀ piece ∈ pieces, ∃ command, ∀ arrival ∈ piece, arrival.command = command := by
    intro piece isPiece
    exact exists_command_of_chain (List.isChain_of_mem_splitBy isPiece)
  have turning : pieces.IsChain fun one other =>
      ∃ last ∈ one, ∃ first ∈ other, last.command ≠ first.command := by
    refine (List.isChain_getLast_head_splitBy _ arrivals).imp ?_
    rintro one other ⟨oneNonempty, otherNonempty, turns⟩
    exact ⟨_, List.getLast_mem oneNonempty, _, List.head_mem otherNonempty,
      ne_of_beq_false turns⟩
  have flattened : reception.reports id pieces.flatten = _ :=
    reports_flatten nonempty uniform turning wellFormed (.inl cleared)
  rw [Arrival.flatten_pieces] at flattened
  exact flattened

end Reception

end StationLink
