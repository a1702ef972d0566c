import StationLink.Proofs.Reception

namespace StationLink

/-!
# Messages of which only the first blocks arrive

The writing of a message may break off, and then the blocks that were written
are not followed by the others. A reassembler does not learn this: it holds what
it has of such transmissions (`Transmission.BrokeOff`) and puts it in front of
what comes next in the same direction. `Reception.Gathers` says what a
reassembler holds while transmissions, whole or broken off, arrive block by
block, and `Reception.Gathers.take` what a block makes of it.
-/

/-- A message that was to be sent, and how much of it was written. -/
structure Transmission where
  command : Bool
  message : List UInt8
  /-- How many frames were written. -/
  written : Nat
  deriving Repr, DecidableEq

namespace Transmission

/-- The blocks that were written. -/
def blocks (transmission : Transmission) : List Block :=
  (Train.cut transmission.message).take transmission.written

/-- The bytes that were written. -/
def content (transmission : Transmission) : List UInt8 :=
  transmission.blocks.flatMap Block.payload

/-- Something of it was written. -/
def isBegun (transmission : Transmission) : Bool :=
  !transmission.blocks.isEmpty

/-- All of it was written. -/
def IsWhole (transmission : Transmission) : Prop :=
  transmission.blocks = Train.cut transmission.message

instance (transmission : Transmission) : Decidable transmission.IsWhole :=
  inferInstanceAs (Decidable (transmission.blocks = Train.cut transmission.message))

/-- The last transmissions of a list broke off, all in one direction. -/
structure BrokeOff
    (arrived : List Transmission)
    (command : Bool)
    (parts : List Transmission) : Prop where
  last : parts <:+ arrived
  broken : ∀ part ∈ parts, ¬ part.IsWhole
  sameDirection : ∀ part ∈ parts, part.command = command

theorem content_of_isWhole
    {transmission : Transmission}
    (isWhole : transmission.IsWhole) :
    transmission.content = transmission.message := by
  rw [content, isWhole, Train.flatMap_payload_cut]

/-- Parts break off one after another. -/
theorem BrokeOff.append
    {arrived parts : List Transmission}
    {current : Transmission}
    (brokeOff : BrokeOff arrived current.command parts)
    (broken : ¬ current.IsWhole) :
    BrokeOff (arrived ++ [current]) current.command (parts ++ [current]) := by
  constructor
  · rcases brokeOff.last with ⟨front, shape⟩
    exact ⟨front, by rw [← shape, List.append_assoc]⟩
  · intro part member
    rcases List.mem_append.mp member with isEarlier | isLast
    · exact brokeOff.broken part isEarlier
    · rw [List.mem_singleton.mp isLast]
      exact broken
  · intro part member
    rcases List.mem_append.mp member with isEarlier | isLast
    · exact brokeOff.sameDirection part isEarlier
    · rw [List.mem_singleton.mp isLast]

section Split

variable {transmission : Transmission} {before rest : List Block} {block : Block}

theorem cut_eq_blocks_append
    (transmission : Transmission) :
    ∃ unwritten, Train.cut transmission.message = transmission.blocks ++ unwritten :=
  ⟨_, (List.take_append_drop transmission.written _).symm⟩

/-- The block with which a message ends was written last, and so was all of it. -/
theorem isWhole_of_last
    (split : transmission.blocks = before ++ block :: rest)
    (isLast : block.more = false) :
    rest = [] ∧ transmission.IsWhole := by
  rcases cut_eq_blocks_append transmission with ⟨unwritten, isCut⟩
  have all := isCut
  rw [split, List.append_assoc, List.cons_append] at all
  have nothing : rest ++ unwritten = [] := by
    apply Decidable.not_not.mp
    intro remains
    rw [(Train.more_iff_of_cut all).mpr remains] at isLast
    cases isLast
  rcases List.append_eq_nil_iff.mp nothing with ⟨noRest, noneUnwritten⟩
  refine ⟨noRest, ?_⟩
  rw [IsWhole, isCut, noneUnwritten, List.append_nil]

/-- A transmission whose last written block is not its last one is not whole. -/
theorem not_isWhole_of_more
    (split : transmission.blocks = before ++ [block])
    (more : block.more = true) :
    ¬ transmission.IsWhole := by
  intro isWhole
  have isCut : Train.cut transmission.message = before ++ [block] :=
    isWhole.symm.trans split
  exact (Train.more_iff_of_cut isCut).mp more rfl

end Split

end Transmission

/-! ## Joining what arrives -/

namespace Reception

open Transmission

/--
The reassembler holds some bytes of the train being received, behind what the
transmissions that broke off last have left, or it throws blocks away.
-/
structure Gathers
    (reception : Reception)
    (arrived : List Transmission)
    (bytes : List UInt8) : Prop where
  wellFormed : reception.reassembler.WellFormed
  holds :
    reception.reassembler.discarding = true ∨
      ∃ parts, BrokeOff arrived reception.command parts ∧
        reception.reassembler.buffer = parts.flatMap Transmission.content ++ bytes

variable {reception : Reception} {arrived : List Transmission}

theorem gathers_of_empty
    (isEmpty : reception.reassembler = .empty)
    (arrived : List Transmission) :
    reception.Gathers arrived [] := by
  constructor
  · rw [isEmpty]
    exact .empty
  · refine Or.inr ⟨[], ⟨List.nil_suffix, nofun, nofun⟩, ?_⟩
    rw [isEmpty]
    rfl

theorem Gathers.turned
    (gathers : reception.Gathers arrived [])
    (command : Bool) :
    (reception.turned command).Gathers arrived [] := by
  cases pending : reception.reassembler.isPending with
  | false =>
      apply gathers_of_empty
      rw [turned_of_idle pending]
      exact gathers.wellFormed.eq_empty pending
  | true =>
      by_cases same : reception.command = command
      · rw [← same, turned_of_same]
        exact gathers
      · apply gathers_of_empty
        rw [Reception.turned, if_pos ⟨pending, same⟩]

/-- What becomes of a reassembler that takes in a block of a transmission. -/
structure Advances
    (after : Reception)
    (message? : Option (List UInt8))
    (arrived : List Transmission)
    (current : Transmission)
    (bytes : List UInt8)
    (rest : List Block) : Prop where
  command : after.command = current.command
  amid : rest ≠ [] → after.Gathers arrived bytes
  between : rest = [] → after.Gathers (arrived ++ [current]) []
  completed :
    ∀ message, message? = some message →
      current.IsWhole ∧
        ∃ parts, BrokeOff arrived current.command parts ∧
          message = parts.flatMap Transmission.content ++ current.message

section Split

variable {current : Transmission} {before rest : List Block} {block : Block}

/-- A block that is thrown away leaves nothing, once its train is over. -/
theorem advances_of_discarded
    (split : current.blocks = before ++ block :: rest)
    {reassembler : Reassembler}
    (wellFormed : reassembler.WellFormed)
    (noBlocks : reassembler.blocks = 0)
    (discards : reassembler.discarding = block.more)
    (bytes : List UInt8) :
    Advances { reassembler, command := current.command } none arrived current bytes rest := by
  cases more : block.more with
  | true =>
      have throwsAway : reassembler.discarding = true := discards.trans more
      exact ⟨rfl, fun _ => ⟨wellFormed, Or.inl throwsAway⟩,
        fun _ => ⟨wellFormed, Or.inl throwsAway⟩, nofun⟩
  | false =>
      have isOver : rest = [] := (isWhole_of_last split more).1
      have idle : reassembler.isPending = false := by
        simp only [Reassembler.isPending, noBlocks, discards, more, Nat.lt_irrefl,
          decide_false, Bool.or_self]
      have isEmpty : reassembler = .empty := wellFormed.eq_empty idle
      exact ⟨rfl, fun goesOn => (goesOn isOver).elim,
        fun _ => gathers_of_empty isEmpty _, nofun⟩

/-- A reassembler in the right direction takes in the next block of a transmission. -/
theorem Gathers.take
    (gathers :
      (reception.turned current.command).Gathers arrived (before.flatMap Block.payload))
    (split : current.blocks = before ++ block :: rest) :
    Advances (reception.take current.command block).1
      (reception.take current.command block).2 arrived current
      ((before ++ [block]).flatMap Block.payload) rest := by
  have wellFormed := gathers.wellFormed.push block
  have joined : before.flatMap Block.payload ++ block.payload =
      (before ++ [block]).flatMap Block.payload := by
    rw [List.flatMap_append, List.flatMap_singleton]
  simp only [Reception.take]
  unfold Reassembler.push at wellFormed ⊢
  -- Thrown away, one too many, or joined; and then it ends its message or does not.
  split
  · next discarding =>
      rw [if_pos discarding] at wellFormed
      exact advances_of_discarded split wellFormed
        (gathers.wellFormed.blocks_of_discarding discarding) rfl _
  · next keeps =>
      rw [if_neg keeps] at wellFormed
      rcases gathers.holds.resolve_left keeps with ⟨parts, brokeOff, held⟩
      split
      · next isFull =>
          rw [if_pos isFull] at wellFormed
          exact advances_of_discarded split wellFormed rfl rfl _
      · next room =>
          rw [if_neg room] at wellFormed
          cases more : block.more with
          | true =>
              simp only [more, if_true] at wellFormed ⊢
              refine ⟨rfl, fun _ => ?_, fun isOver => ?_,
                fun message isMessage => (Option.some_ne_none message isMessage.symm).elim⟩
              · refine ⟨wellFormed, Or.inr ⟨parts, brokeOff, ?_⟩⟩
                simp only [held, List.append_assoc, joined]
              · subst rest
                have broken : ¬ current.IsWhole := not_isWhole_of_more split more
                refine ⟨wellFormed, Or.inr ⟨parts ++ [current], brokeOff.append broken, ?_⟩⟩
                simp only [held, List.append_assoc, joined, ← split]
                rw [List.flatMap_append, List.flatMap_singleton, List.append_nil,
                  Transmission.content]
          | false =>
              rcases isWhole_of_last split more with ⟨isOver, isWhole⟩
              subst rest
              have completes :
                  (before ++ [block]).flatMap Block.payload = current.message := by
                rw [← split]
                exact content_of_isWhole isWhole
              simp only [more, Bool.false_eq_true, if_false] at wellFormed ⊢
              refine ⟨rfl, fun goesOn => (goesOn rfl).elim, fun _ => ?_, ?_⟩
              · apply gathers_of_empty
                apply wellFormed.eq_empty
                simp only [Reassembler.isPending, Nat.lt_irrefl, decide_false,
                  Bool.false_or, Bool.eq_false_iff]
                exact keeps
              · intro message isMessage
                cases isMessage
                refine ⟨isWhole, parts, brokeOff, ?_⟩
                rw [held, List.append_assoc, joined, completes]

end Split

end Reception

end StationLink
