import StationLink.Message.Error

namespace StationLink

/-!
# Trains

A message that does not fit into one frame travels as a train of blocks. Every
block but the last is full and is marked as having more to come. A train may
have at most sixteen blocks.

`Train.cut` cuts a message into blocks and `Reassembler.push` joins blocks into
messages again. A train that turns out too long is reported once and its
remaining blocks are thrown away.
-/

/-- The most bytes a block can carry. -/
def maxBlockPayload : Nat := 255

/-- The most blocks a train can have. -/
def maxTrainBlocks : Nat := 16

/-- The most bytes a message can have. -/
def maxTrainBytes : Nat := maxTrainBlocks * maxBlockPayload

/-- One block of a train. -/
structure Block where
  payload : List UInt8
  /-- Another block of the same train follows. -/
  more : Bool
  deriving Repr, DecidableEq

namespace Train

/-- How many blocks a message of a given number of bytes takes. -/
def blockCount (length : Nat) : Nat :=
  (length + maxBlockPayload - 1) / maxBlockPayload

/-- The message in full pieces and a last one that holds the rest. -/
def pieces (message : List UInt8) : List (List UInt8) :=
  if message = [] then
    []
  else
    message.take maxBlockPayload :: pieces (message.drop maxBlockPayload)
termination_by message.length
decreasing_by
  next nonempty =>
    have positive : 0 < message.length := List.length_pos_iff.mpr nonempty
    rw [List.length_drop, maxBlockPayload]
    omega

/-- Cut a message into blocks. Which of them is the last is told by their count. -/
def cut (message : List UInt8) : List Block :=
  let count := blockCount message.length
  (pieces message).mapIdx fun index payload => { payload, more := decide (index + 1 < count) }

end Train

/-- The received part of a train. -/
structure Reassembler where
  /-- The payloads received so far, joined. -/
  buffer : List UInt8 := []
  /-- How many blocks the buffer was joined from. -/
  blocks : Nat := 0
  /-- The train is too long and its remaining blocks are thrown away. -/
  discarding : Bool := false
  deriving Repr, DecidableEq

namespace Reassembler

/-- The reassembler that has received nothing. -/
def empty : Reassembler := {}

/-- Whether a train has begun and not ended. -/
def isPending (reassembler : Reassembler) : Bool :=
  decide (0 < reassembler.blocks) || reassembler.discarding

/-- The bytes received of the current train. -/
def pendingLength (reassembler : Reassembler) : Nat :=
  reassembler.buffer.length

/--
Take in a block. The result is the message if the block completes one, and an
error if it is the first block beyond the limit.
-/
def push
    (reassembler : Reassembler)
    (block : Block) :
    Reassembler × Except DecodeError (Option (List UInt8)) :=
  if reassembler.discarding then
    ({ reassembler with discarding := block.more }, .ok none)
  else if reassembler.blocks = maxTrainBlocks then
    ({ empty with discarding := block.more }, .error (.trainTooLong maxTrainBlocks))
  else
    let buffer := reassembler.buffer ++ block.payload
    if block.more then
      ({ reassembler with buffer, blocks := reassembler.blocks + 1 }, .ok none)
    else
      ({ reassembler with buffer := [], blocks := 0 }, .ok (some buffer))

/-- Take in blocks one after another and collect the results. -/
def pushAll
    (reassembler : Reassembler) :
    List Block →
    Reassembler × List (Except DecodeError (Option (List UInt8)))
  | [] => (reassembler, [])
  | block :: rest =>
      let (next, result) := reassembler.push block
      let (last, results) := next.pushAll rest
      (last, result :: results)

end Reassembler

end StationLink
