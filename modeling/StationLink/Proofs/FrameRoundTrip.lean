import StationLink.Proofs.ReadSize

namespace StationLink

/-!
# Finding the frames that were written

The bytes of a frame say where it ends, so a decoder that starts at the first of
them finds the frame and goes on right behind it, whatever its payload contains.
-/

namespace Frame

/-- The part of a frame that its bytes can carry. -/
def clipped (frame : Frame) : Frame :=
  { frame with payload := frame.payload.take maxBlockPayload }

theorem clipped_of_length_le
    {frame : Frame}
    (short : frame.payload.length ≤ maxBlockPayload) :
    frame.clipped = frame := by
  rw [clipped, List.take_of_length_le short]

/-- The number of an interface is put together again from its two bytes. -/
theorem join_id_bytes
    (id : InterfaceId) :
    (id >>> 8).toUInt8.toUInt16 <<< 8 ||| id.toUInt8.toUInt16 = id := by
  have bound : id.toNat < 65536 := id.toNat_lt
  have low : id.toNat % 256 < 2 ^ 8 := Nat.mod_lt _ (by decide)
  have high : id.toNat / 256 % 256 * 256 % 65536 = 2 ^ 8 * (id.toNat / 256) := by
    omega
  apply UInt16.toNat_inj.mp
  simp only [UInt16.toNat_or, UInt16.toNat_shiftLeft, UInt8.toNat_toUInt16,
    UInt16.toNat_toUInt8, UInt16.toNat_shiftRight]
  simp only [UInt16.reduceToNat, Nat.reduceMod, Nat.reducePow,
    Nat.shiftRight_eq_div_pow, Nat.shiftLeft_eq]
  rw [high, ← Nat.two_pow_add_eq_or_of_lt low]
  omega

end Frame

namespace FrameDecoder

/-- The bytes of a frame are judged to be that frame, whatever follows them. -/
theorem examine_encode_append
    (frame : Frame)
    (rest : List UInt8) :
    examine ((frame.encode ++ rest).tail) = .frame frame.clipped rest := by
  have sized :
      (frame.payload.take maxBlockPayload).length.toUInt8.toNat =
        (frame.payload.take maxBlockPayload).length := by
    have bound : (frame.payload.take maxBlockPayload).length ≤ 255 :=
      List.length_take_le _ _
    rw [Nat.toUInt8_eq, UInt8.toNat_ofNat']
    omega
  simp only [Frame.encode, List.cons_append, List.tail_cons, examine,
    FrameControl.ofByte?_byte, sized, List.take_left, List.drop_left, if_true,
    Frame.join_id_bytes]
  rfl

theorem scan_encode_append
    (frame : Frame)
    (rest : List UInt8) :
    scan (frame.encode ++ rest) = (some frame.clipped, rest) := by
  have judged := examine_encode_append frame rest
  rw [Frame.encode, List.cons_append, List.tail_cons] at judged
  rw [Frame.encode, List.cons_append, scan, if_pos rfl, judged]

/-- Frames written one after another are all found, and nothing else. -/
theorem scanAll_flatMap_encode
    (frames : List Frame) :
    scanAll (frames.flatMap Frame.encode) = (frames.map Frame.clipped, []) := by
  induction frames with
  | nil =>
      exact scanAll_of_none rfl
  | cons frame rest inductionHypothesis =>
      rw [List.flatMap_cons, scanAll_of_some (scan_encode_append frame _),
        inductionHypothesis, List.map_cons]

end FrameDecoder

end StationLink
