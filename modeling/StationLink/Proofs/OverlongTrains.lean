import StationLink.Proofs.Sending

namespace StationLink

/-!
# Trains that are too long

Commands and events are not encoded if they do not fit into a train. A message
that is sent as it is may be of any length: it is cut into as many blocks as it
takes and all are written. What the receiver makes of them depends on the length
alone (`Multiplexer.received_of_send`). A message that fits is completed by its
last block; of one that does not, the receiver reports the first block beyond the
limit and throws away the rest, so that it is lost although sending it succeeded.
-/

/-- The blocks in the frames of a message are those that it was cut into. -/
theorem Frame.map_block_ofMessage
    (id : InterfaceId)
    (command : Bool)
    (message : List UInt8) :
    (Frame.ofMessage id command message).map Frame.block = Train.cut message := by
  simp only [Frame.ofMessage, List.map_map]
  exact List.map_id _

namespace Multiplexer

variable {mux : Multiplexer} {id : InterfaceId} {command : Bool} {message : List UInt8}

/--
What a receiver makes of a message that was sent as it is with success, whatever
it has received before, as long as it is between trains. A message that fits into
a train is completed by the last block that was written. One that does not is
reported as too long at the first block beyond the limit and is never completed.
Either way the receiver is between trains again.
-/
theorem received_of_send
    (isOk : (mux.send id command message).1 = .ok ())
    {earlier : List Block}
    (idle : (Reassembler.empty.pushAll earlier).1.isPending = false) :
    let blocks := (written (mux.send id command message).2.journal).map Frame.block
    let received := (Reassembler.empty.pushAll earlier).1.pushAll blocks
    received.1.isPending = false ∧
      (message.length ≤ maxTrainBytes →
        received.2 = List.replicate (blocks.length - 1) (.ok none) ++ [.ok (some message)]) ∧
      (maxTrainBytes < message.length →
        received.2 =
          List.replicate maxTrainBlocks (.ok none) ++
            .error (.trainTooLong maxTrainBlocks) ::
              List.replicate (blocks.length - maxTrainBlocks - 1) (.ok none)) := by
  intro blocks received
  rcases written_of_send_ok isOk with ⟨nonempty, isWritten⟩
  have areBlocks : blocks = Train.cut message :=
    (congrArg (List.map Frame.block) isWritten).trans (Frame.map_block_ofMessage id command message)
  have isNew : (Reassembler.empty.pushAll earlier).1 = .empty :=
    (Reassembler.WellFormed.empty.pushAll earlier).eq_empty idle
  have isReceived : received = Reassembler.empty.pushAll (Train.cut message) := by
    simp only [received, areBlocks, isNew]
  rw [isReceived, areBlocks]
  by_cases fits : message.length ≤ maxTrainBytes
  · rw [Reassembler.pushAll_empty_cut nonempty fits]
    exact ⟨rfl, fun _ => rfl, fun long => absurd fits (Nat.not_le_of_lt long)⟩
  · rw [Reassembler.pushAll_empty_cut_of_long (Nat.lt_of_not_le fits)]
    exact ⟨rfl, fun alsoFits => absurd alsoFits fits, fun _ => rfl⟩

/-- The longest message that fits, after a train of two blocks. -/
theorem received_of_longest_message :
    let mux := ((onLine {} {}).run
      [.addInterface 1 none 0, .raise 1 0, .receive [.ack 1] 0]).mux
    let message := List.replicate maxTrainBytes 0x42
    let earlier : List Block :=
      [{ payload := [1], more := true }, { payload := [2], more := false }]
    let blocks := (written (mux.send 1 true message).2.journal).map Frame.block
    (mux.send 1 true message).1 = .ok () ∧
      (Reassembler.empty.pushAll earlier).1.isPending = false ∧
      ((Reassembler.empty.pushAll earlier).1.pushAll blocks).2 =
        List.replicate (blocks.length - 1) (.ok none) ++ [.ok (some message)] := by
  intro mux message earlier blocks
  have running : mux.table.state 1 = .running := by
    decide +kernel
  have nonempty : message ≠ [] := List.cons_ne_nil _ _
  have taken : ∀ index < (Frame.ofMessage 1 true message).length, mux.line.takes index = true :=
    fun _ _ => rfl
  have isOk := (written_send_of_taken rfl running nonempty taken).1
  have idle : (Reassembler.empty.pushAll earlier).1.isPending = false := by
    decide
  have fits : message.length ≤ maxTrainBytes := Nat.le_of_eq List.length_replicate
  exact ⟨isOk, idle, (received_of_send isOk idle).2.1 fits⟩

/-- One more byte is sent with success, but the receiver never completes the message. -/
theorem lost_though_sent :
    let mux := ((onLine {} {}).run
      [.addInterface 1 none 0, .raise 1 0, .receive [.ack 1] 0]).mux
    let message := List.replicate (maxTrainBytes + 1) 0x00
    let blocks := (written (mux.send 1 false message).2.journal).map Frame.block
    mux.table.state 1 = .running ∧ (mux.send 1 false message).1 = .ok () ∧
      (Reassembler.empty.pushAll blocks).2 =
        List.replicate maxTrainBlocks (.ok none) ++
          [.error (.trainTooLong maxTrainBlocks)] := by
  intro mux message blocks
  have running : mux.table.state 1 = .running := by
    decide +kernel
  have nonempty : message ≠ [] := List.cons_ne_nil _ _
  have taken : ∀ index < (Frame.ofMessage 1 false message).length, mux.line.takes index = true :=
    fun _ _ => rfl
  rcases written_send_of_taken rfl running nonempty taken with ⟨isOk, isWritten⟩
  have isLong : message.length = maxTrainBytes + 1 := List.length_replicate
  have oneTooMany : (Train.cut message).length - maxTrainBlocks - 1 = 0 := by
    rw [Train.length_cut, isLong]
    rfl
  have areBlocks : blocks = Train.cut message :=
    (congrArg (List.map Frame.block) isWritten).trans (Frame.map_block_ofMessage 1 false message)
  refine ⟨running, isOk, ?_⟩
  rw [areBlocks, Reassembler.pushAll_empty_cut_of_long (by omega), oneTooMany,
    List.replicate_zero]

end Multiplexer

end StationLink
