import StationLink.Proofs.FrameRoundTrip

namespace StationLink

/-!
# Frames among other bytes

A stream may hold bytes in front of its frames, between them and behind the last
one that belong to no frame. If none of them is a synchronising byte, exactly
the frames that were written are found (`FrameDecoder.decode_of_quiet`).

Whatever a stream holds, every byte of it is accounted for: it belongs to the
encoding of a frame that was found, or it cannot start a frame, or it is left
over from a frame that is not complete (`FrameDecoder.exists_segments_of_decode`).
-/

/-- A frame in a stream and the bytes that stand in front of it. -/
structure Segment where
  debris : List UInt8
  frame : Frame

namespace Segment

def bytes (segment : Segment) : List UInt8 :=
  segment.debris ++ segment.frame.encode

/-- The bytes of segments, and of what stands behind the last frame. -/
def stream (segments : List Segment) (last : List UInt8) : List UInt8 :=
  segments.flatMap bytes ++ last

theorem stream_cons
    (segment : Segment)
    (rest : List Segment)
    (last : List UInt8) :
    stream (segment :: rest) last =
      segment.debris ++ (segment.frame.encode ++ stream rest last) := by
  simp only [stream, List.flatMap_cons, bytes, List.append_assoc]

end Segment

/-- A byte that says nothing about a frame: a reserved bit is set or the kind is unknown. -/
def FrameControl.Foreign (byte : UInt8) : Prop :=
  byte &&& 0xC0 ≠ 0 ∨ 3 < byte &&& 0x0F

theorem FrameControl.foreign_of_ofByte? :
    ∀ {byte : UInt8}, ofByte? byte = none → Foreign byte := by
  have small : ∀ number : Fin 256, ofByte? (UInt8.ofFin number) = none →
      UInt8.ofFin number &&& 0xC0 ≠ 0 ∨ 3 < UInt8.ofFin number &&& 0x0F := by
    decide +kernel
  intro byte unknown
  exact small byte.toFin unknown

/-- The two bytes of an interface number are found again in the number. -/
theorem Frame.split_id_bytes
    (high low : UInt8) :
    ((high.toUInt16 <<< 8 ||| low.toUInt16) >>> 8).toUInt8 = high ∧
      (high.toUInt16 <<< 8 ||| low.toUInt16).toUInt8 = low := by
  have lowBound : low.toNat < 2 ^ 8 := low.toNat_lt
  have highBound : high.toNat < 256 := high.toNat_lt
  have joined :
      (high.toUInt16 <<< 8 ||| low.toUInt16).toNat = 2 ^ 8 * high.toNat + low.toNat := by
    have shifted : high.toNat * 256 % 65536 = 2 ^ 8 * high.toNat := by
      omega
    simp only [UInt16.toNat_or, UInt16.toNat_shiftLeft, UInt8.toNat_toUInt16]
    simp only [UInt16.reduceToNat, Nat.reduceMod, Nat.reducePow, Nat.shiftLeft_eq]
    rw [shifted, Nat.two_pow_add_eq_or_of_lt lowBound]
  constructor
  · apply UInt8.toNat_inj.mp
    rw [UInt16.toNat_toUInt8, UInt16.toNat_shiftRight, joined]
    simp only [UInt16.reduceToNat, Nat.reduceMod, Nat.shiftRight_eq_div_pow]
    omega
  · apply UInt8.toNat_inj.mp
    rw [UInt16.toNat_toUInt8, joined]
    omega

namespace FrameDecoder

/-! ## Streams without false starts -/

theorem scan_of_quiet
    {debris : List UInt8}
    (quiet : syncByte ∉ debris)
    (rest : List UInt8) :
    scan (debris ++ rest) = scan rest := by
  induction debris with
  | nil =>
      rfl
  | cons byte others inductionHypothesis =>
      rw [List.mem_cons, not_or] at quiet
      rcases quiet with ⟨notSync, othersQuiet⟩
      rw [List.cons_append, scan, if_neg (Ne.symm notSync),
        inductionHypothesis othersQuiet]

theorem scanAll_of_quiet
    {segments : List Segment}
    {last : List UInt8}
    (quiet : ∀ segment ∈ segments, syncByte ∉ segment.debris)
    (quietLast : syncByte ∉ last) :
    scanAll (Segment.stream segments last) =
      (segments.map fun segment => segment.frame.clipped, []) := by
  induction segments with
  | nil =>
      apply scanAll_of_none
      have nothing := scan_of_quiet quietLast []
      rw [List.append_nil] at nothing
      exact nothing
  | cons segment rest inductionHypothesis =>
      have restQuiet : ∀ segment ∈ rest, syncByte ∉ segment.debris :=
        fun segment member => quiet segment (List.mem_cons_of_mem _ member)
      have found :
          scan (Segment.stream (segment :: rest) last) =
            (some segment.frame.clipped, Segment.stream rest last) := by
        rw [Segment.stream_cons, scan_of_quiet (quiet segment List.mem_cons_self),
          scan_encode_append]
      rw [scanAll_of_some found, inductionHypothesis restQuiet, List.map_cons]

/--
Frames written among bytes that are no synchronising bytes are all found, in
order and without any other, up to what their bytes can carry of the payload;
then nothing is left. It makes no difference how the stream is cut.
-/
theorem decode_of_quiet
    {segments : List Segment}
    {last : List UInt8}
    (quiet : ∀ segment ∈ segments, syncByte ∉ segment.debris)
    (quietLast : syncByte ∉ last)
    {calls : List Call}
    (delivers : pushed calls = Segment.stream segments last) :
    empty.decode calls =
      (segments.map fun segment => segment.frame.clipped, empty) := by
  have whole : empty.push (pushed calls) = { buffer := pushed calls } := rfl
  rw [decode_eq_drain_push, whole, drain, delivers, scanAll_of_quiet quiet quietLast]
  rfl

/-- A payload that spells a frame is none, and noise may stand in front and behind. -/
theorem decode_of_spelled_payload :
    let inner := (Frame.ack 7).encode
    let segments : List Segment :=
      [{ debris := [0x00, 0x02], frame := { Frame.ack 3 with kind := .data, payload := inner } },
        { debris := [], frame := Frame.disconnect 3 }]
    (∀ segment ∈ segments, syncByte ∉ segment.debris) ∧ syncByte ∉ [0x30] ∧
      empty.decode
          [.push ((Segment.stream segments [0x30]).take 4), .next,
            .push ((Segment.stream segments [0x30]).drop 4)] =
        (segments.map Segment.frame, empty) := by
  intro inner segments
  have quiet : ∀ segment ∈ segments, syncByte ∉ segment.debris := by
    decide
  have quietLast : syncByte ∉ [0x30] := by
    decide
  exact ⟨quiet, quietLast, decode_of_quiet quiet quietLast rfl⟩

/-! ## Streams of any bytes -/

/-- No frame begins with a byte when the given bytes follow it. -/
def CannotStart (byte : UInt8) (behind : List UInt8) : Prop :=
  byte ≠ syncByte ∨
    ∃ control rest, behind = control :: rest ∧ FrameControl.Foreign control

/-- No frame begins anywhere in `dropped` when the bytes `behind` follow. -/
def Droppable (dropped behind : List UInt8) : Prop :=
  ∀ before byte after, dropped = before ++ byte :: after →
    CannotStart byte (after ++ behind)

namespace Droppable

variable {dropped behind : List UInt8} {byte : UInt8}

theorem nil : Droppable [] behind := by
  intro before byte after shape
  exact (List.append_ne_nil_of_right_ne_nil before (List.cons_ne_nil _ _) shape.symm).elim

theorem cons
    (cannotStart : CannotStart byte (dropped ++ behind))
    (droppable : Droppable dropped behind) :
    Droppable (byte :: dropped) behind := by
  intro before other after shape
  rcases before with _ | ⟨first, others⟩
  · rcases List.cons_eq_cons.mp shape with ⟨rfl, rfl⟩
    exact cannotStart
  · rcases List.cons_eq_cons.mp shape with ⟨_, rest⟩
    exact droppable others other after rest

end Droppable

/-- A frame that is found is spelled exactly by the bytes it was found in. -/
theorem encode_append_of_examine
    {bytes rest : List UInt8}
    {frame : Frame}
    (found : examine bytes = .frame frame rest) :
    frame.encode ++ rest = syncByte :: bytes := by
  unfold examine at found
  split at found
  · next control high low length tail =>
      split at found
      · cases found
      · next meaning known =>
          simp only at found
          split at found
          · next complete =>
              have short : (tail.take length.toNat).length ≤ maxBlockPayload := by
                rw [complete]
                exact Nat.le_of_lt_succ length.toNat_lt
              have sized : (tail.take length.toNat).length.toUInt8 = length := by
                rw [complete, Nat.toUInt8_eq, UInt8.ofNat_toNat]
              rcases Frame.split_id_bytes high low with ⟨isHigh, isLow⟩
              cases found
              simp only [Frame.encode, Frame.control, List.take_of_length_le short, sized,
                isHigh, isLow, FrameControl.byte_of_ofByte? known, List.cons_append,
                List.take_append_drop]
          · cases found
  · cases found

theorem exists_foreign_of_examine
    {bytes : List UInt8}
    (found : examine bytes = .noise) :
    ∃ control rest, bytes = control :: rest ∧ FrameControl.Foreign control := by
  obtain ⟨control, _, _, _, _, rfl, unknown⟩ := exists_header_of_noise found
  exact ⟨control, _, rfl, FrameControl.foreign_of_ofByte? unknown⟩

theorem length_of_incomplete
    {bytes : List UInt8}
    (found : examine bytes = .incomplete) :
    bytes.length + 1 < maxFrameLength := by
  simp only [maxFrameLength, frameHeaderLength, maxBlockPayload]
  unfold examine at found
  split at found
  · next control high low length tail =>
      split at found
      · cases found
      · simp only at found
        split at found
        · cases found
        · next notComplete =>
            have bound : length.toNat < 256 := length.toNat_lt
            rw [List.length_take] at notComplete
            simp only [List.length_cons]
            omega
  · next notHeader =>
      rcases bytes with _ | ⟨control, _ | ⟨high, _ | ⟨low, _ | ⟨length, tail⟩⟩⟩⟩
      · simp
      · simp
      · simp
      · simp
      · exact (notHeader control high low length tail rfl).elim

/-- What may be left of a stream: nothing, or the beginning of a frame. -/
structure Unfinished (tail : List UInt8) : Prop where
  starts : tail = [] ∨ ∃ rest, tail = syncByte :: rest
  short : tail.length < maxFrameLength

/-- Up to the first frame, or the bytes left, nothing is skipped that can start a frame. -/
theorem exists_dropped_of_scan
    {bytes rest : List UInt8}
    {frame? : Option Frame}
    (scanned : scan bytes = (frame?, rest)) :
    ∃ dropped,
      bytes = dropped ++ (frame?.elim [] Frame.encode ++ rest) ∧
        Droppable dropped (frame?.elim [] Frame.encode ++ rest) ∧
        (frame? = none → Unfinished rest) := by
  induction bytes with
  | nil =>
      cases scanned
      exact ⟨[], rfl, .nil, fun _ => ⟨Or.inl rfl, by decide⟩⟩
  | cons byte tail inductionHypothesis =>
      -- A byte that is skipped goes in front of those skipped after it.
      have skipped :
          scan tail = (frame?, rest) →
          CannotStart byte tail →
          ∃ dropped,
            byte :: tail = dropped ++ (frame?.elim [] Frame.encode ++ rest) ∧
              Droppable dropped (frame?.elim [] Frame.encode ++ rest) ∧
              (frame? = none → Unfinished rest) := by
        intro scannedTail cannotStart
        rcases inductionHypothesis scannedTail with ⟨dropped, shape, droppable, unfinished⟩
        refine ⟨byte :: dropped, ?_, .cons ?_ droppable, unfinished⟩
        · rw [List.cons_append, ← shape]
        · rw [← shape]
          exact cannotStart
      unfold scan at scanned
      split at scanned
      · next isSync =>
          subst byte
          split at scanned
          · next examined =>
              cases scanned
              exact ⟨[], (encode_append_of_examine examined).symm, .nil, nofun⟩
          · next examined =>
              cases scanned
              refine ⟨[], rfl, .nil, fun _ => ⟨Or.inr ⟨tail, rfl⟩, ?_⟩⟩
              exact length_of_incomplete examined
          · next examined =>
              exact skipped scanned (Or.inr (exists_foreign_of_examine examined))
      · next notSync =>
          exact skipped scanned (Or.inl notSync)

/--
The bytes of a stream are those of its segments, bytes behind the last frame and
a tail that is left over; apart from frames and tail there is no byte that could
start a frame.
-/
structure Accounts
    (bytes : List UInt8)
    (segments : List Segment)
    (last tail : List UInt8) : Prop where
  shape : bytes = Segment.stream segments (last ++ tail)
  debris :
    ∀ before segment after, segments = before ++ segment :: after →
      Droppable segment.debris
        (segment.frame.encode ++ Segment.stream after (last ++ tail))
  last : Droppable last tail
  unfinished : Unfinished tail

/-- A segment may be put in front of a stream that is accounted for. -/
theorem Accounts.cons
    {bytes last tail : List UInt8}
    {segments : List Segment}
    (accounts : Accounts bytes segments last tail)
    (segment : Segment)
    (droppable : Droppable segment.debris (segment.frame.encode ++ bytes)) :
    Accounts (segment.debris ++ (segment.frame.encode ++ bytes)) (segment :: segments)
      last tail := by
  constructor
  · rw [Segment.stream_cons, ← accounts.shape]
  · intro before other after shape
    rcases before with _ | ⟨first, others⟩
    · rcases List.cons_eq_cons.mp shape with ⟨rfl, rfl⟩
      rw [← accounts.shape]
      exact droppable
    · rcases List.cons_eq_cons.mp shape with ⟨_, rest⟩
      exact accounts.debris others other after rest
  · exact accounts.last
  · exact accounts.unfinished

theorem exists_segments_of_scanAll
    (bytes : List UInt8) :
    ∃ segments last,
      Accounts bytes segments last (scanAll bytes).2 ∧
        (scanAll bytes).1 = segments.map Segment.frame := by
  induction sized : bytes.length using Nat.strongRecOn generalizing bytes with
  | ind size inductionHypothesis =>
      rcases scanned : scan bytes with ⟨_ | frame, rest⟩
      · rcases exists_dropped_of_scan scanned with ⟨last, shape, droppable, unfinished⟩
        rw [scanAll_of_none scanned]
        refine ⟨[], last, ⟨shape, ?_, droppable, unfinished rfl⟩, rfl⟩
        intro before segment after isNil
        exact (List.append_ne_nil_of_right_ne_nil before (List.cons_ne_nil _ _)
          isNil.symm).elim
      · rcases exists_dropped_of_scan scanned with ⟨debris, shape, droppable, _⟩
        have shorter : rest.length < size := by
          rw [← sized]
          exact length_lt_of_scan scanned
        rcases inductionHypothesis rest.length shorter rest rfl with
          ⟨segments, last, accounts, frames⟩
        rw [scanAll_of_some scanned]
        refine ⟨{ debris, frame } :: segments, last, ?_, ?_⟩
        · rw [shape]
          exact accounts.cons { debris, frame } droppable
        · rw [List.map_cons, frames]

/--
Whatever bytes come in and however they are cut, they are exactly the encodings
of the frames found, bytes that cannot start a frame, and an unfinished rest
that is kept.
-/
theorem exists_segments_of_decode
    (calls : List Call) :
    ∃ segments last,
      Accounts (pushed calls) segments last (empty.decode calls).2.buffer ∧
        (empty.decode calls).1 = segments.map Segment.frame := by
  rw [decode_eq_drain_push]
  exact exists_segments_of_scanAll (pushed calls)

end FrameDecoder

end StationLink
