import StationLink.Frame.Decoder

namespace StationLink.FrameDecoder

/-!
# Reads of any size

A decoder may be asked for frames at any time, also while the bytes of a frame
are still coming in. Whatever it finds or throws away is settled by the bytes
seen so far: bytes that follow never change it (`scan_append_of_some`,
`scan_append_of_none`). So all frames of a stream, and the bytes left over, are
those found in the whole stream at once (`decode_eq_drain_push`), and two ways of
cutting a stream into reads cannot be told apart.
-/

/-! ## Bytes that follow -/

/-- A complete frame is found whatever bytes follow it. -/
theorem examine_append_of_frame
    {bytes rest : List UInt8}
    {frame : Frame}
    (found : examine bytes = .frame frame rest)
    (more : List UInt8) :
    examine (bytes ++ more) = .frame frame (rest ++ more) := by
  unfold examine at found
  split at found
  · next control high low length tail =>
      split at found
      · cases found
      · next meaning known =>
          simp only at found
          split at found
          · next complete =>
              have enough : length.toNat ≤ tail.length := by
                rw [List.length_take] at complete
                omega
              cases found
              simp only [List.cons_append, examine, known,
                List.take_append_of_le_length enough,
                List.drop_append_of_le_length enough, complete, if_true]
          · cases found
  · cases found

/-- Noise begins with the bytes of a header, of which the first belongs to no frame. -/
theorem exists_header_of_noise
    {bytes : List UInt8}
    (found : examine bytes = .noise) :
    ∃ control high low length tail,
      bytes = control :: high :: low :: length :: tail ∧ FrameControl.ofByte? control = none := by
  unfold examine at found
  split at found
  · next control high low length tail =>
      split at found
      · next unknown =>
          exact ⟨control, high, low, length, tail, rfl, unknown⟩
      · simp only at found
        split at found <;> cases found
  · cases found

/-- A control byte that belongs to no frame is noise whatever bytes follow. -/
theorem examine_append_of_noise
    {bytes : List UInt8}
    (found : examine bytes = .noise)
    (more : List UInt8) :
    examine (bytes ++ more) = .noise := by
  obtain ⟨control, high, low, length, tail, rfl, unknown⟩ := exists_header_of_noise found
  simp only [List.cons_append, examine, unknown]

/-- The first frame of a stream is found whatever bytes follow it. -/
theorem scan_append_of_some
    {bytes rest : List UInt8}
    {frame : Frame}
    (found : scan bytes = (some frame, rest))
    (more : List UInt8) :
    scan (bytes ++ more) = (some frame, rest ++ more) := by
  induction bytes with
  | nil =>
      simp [scan] at found
  | cons byte tail inductionHypothesis =>
      rw [List.cons_append]
      unfold scan at found ⊢
      split at found
      · next isSync =>
          rw [if_pos isSync]
          split at found
          · next examined =>
              cases found
              rw [examine_append_of_frame examined more]
          · cases found
          · next examined =>
              rw [examine_append_of_noise examined more]
              exact inductionHypothesis found
      · next notSync =>
          rw [if_neg notSync]
          exact inductionHypothesis found

/-- Bytes thrown away before a frame is complete are not missed later. -/
theorem scan_append_of_none
    {bytes rest : List UInt8}
    (found : scan bytes = (none, rest))
    (more : List UInt8) :
    scan (bytes ++ more) = scan (rest ++ more) := by
  induction bytes with
  | nil =>
      simp only [scan, Prod.mk.injEq, true_and] at found
      subst rest
      rfl
  | cons byte tail inductionHypothesis =>
      unfold scan at found
      split at found
      · next isSync =>
          split at found
          · cases found
          · cases found
            rfl
          · next examined =>
              rw [List.cons_append, scan, if_pos isSync,
                examine_append_of_noise examined more]
              exact inductionHypothesis found
      · next notSync =>
          rw [List.cons_append, scan, if_neg notSync]
          exact inductionHypothesis found

/-! ## All frames of a stream -/

/-- A stream in which no frame is complete has no frames. -/
theorem scanAll_of_none
    {bytes rest : List UInt8}
    (found : scan bytes = (none, rest)) :
    scanAll bytes = ([], rest) := by
  rw [scanAll]
  split
  · next other =>
      rw [found] at other
      cases other
      rfl
  · next other =>
      rw [found] at other
      cases other

/-- The frames of a stream are its first one and those of the rest. -/
theorem scanAll_of_some
    {bytes rest : List UInt8}
    {frame : Frame}
    (found : scan bytes = (some frame, rest)) :
    scanAll bytes = (frame :: (scanAll rest).1, (scanAll rest).2) := by
  rw [scanAll]
  split
  · next other =>
      rw [found] at other
      cases other
  · next other =>
      rw [found] at other
      cases other
      rfl

/-- The first frame may be taken away before more bytes come in. -/
theorem scanAll_append_of_some
    {bytes rest : List UInt8}
    {frame : Frame}
    (found : scan bytes = (some frame, rest))
    (more : List UInt8) :
    scanAll (bytes ++ more) =
      (frame :: (scanAll (rest ++ more)).1, (scanAll (rest ++ more)).2) :=
  scanAll_of_some (scan_append_of_some found more)

/-- Bytes may be thrown away before more bytes come in. -/
theorem scanAll_append_of_none
    {bytes rest : List UInt8}
    (found : scan bytes = (none, rest))
    (more : List UInt8) :
    scanAll (bytes ++ more) = scanAll (rest ++ more) := by
  have sameScan : scan (bytes ++ more) = scan (rest ++ more) :=
    scan_append_of_none found more
  cases whole : scan (rest ++ more) with
  | mk frame? last =>
      rw [whole] at sameScan
      cases frame? with
      | none =>
          rw [scanAll_of_none sameScan, scanAll_of_none whole]
      | some frame =>
          rw [scanAll_of_some sameScan, scanAll_of_some whole]

/-! ## Calls of a decoder -/

/-- What can be asked of a decoder. -/
inductive Call where
  /-- Take in bytes of the stream. -/
  | push (bytes : List UInt8)
  /-- Find the next frame. -/
  | next
  deriving Repr, DecidableEq

/-- The bytes that calls hand over, joined. -/
def pushed : List Call → List UInt8
  | [] => []
  | .push bytes :: rest => bytes ++ pushed rest
  | .next :: rest => pushed rest

/-- Take calls one after another; also the frames found meanwhile. -/
def run (decoder : FrameDecoder) : List Call → List Frame × FrameDecoder
  | [] => ([], decoder)
  | .push bytes :: rest => (decoder.push bytes).run rest
  | .next :: rest =>
      let (frame?, decoder) := decoder.next
      let (frames, last) := decoder.run rest
      (frame?.toList ++ frames, last)

/-- Take calls one after another and then find frames until there is none. -/
def decode
    (decoder : FrameDecoder)
    (calls : List Call) :
    List Frame × FrameDecoder :=
  let (frames, decoder) := decoder.run calls
  let (others, last) := decoder.drain
  (frames ++ others, last)

/-- Draining ends where no frame is found any more. -/
theorem drain_of_next_none
    {decoder last : FrameDecoder}
    (found : decoder.next = (none, last)) :
    decoder.drain = ([], last) := by
  cases scanned : scan decoder.buffer with
  | mk frame? buffer =>
      simp only [next, scanned, Prod.mk.injEq] at found
      obtain ⟨isNone, rfl⟩ := found
      subst frame?
      simp only [drain, scanAll_of_none scanned]

/-- Draining begins with the next frame and goes on behind it. -/
theorem drain_of_next_some
    {decoder last : FrameDecoder}
    {frame : Frame}
    (found : decoder.next = (some frame, last)) :
    decoder.drain = (frame :: last.drain.1, last.drain.2) := by
  cases scanned : scan decoder.buffer with
  | mk frame? buffer =>
      simp only [next, scanned, Prod.mk.injEq] at found
      obtain ⟨isSome, rfl⟩ := found
      subst frame?
      simp only [drain, scanAll_of_some scanned]

/-- Looking for a frame before more bytes come in does not change what is found. -/
theorem drain_push
    (decoder : FrameDecoder)
    (bytes : List UInt8) :
    (decoder.push bytes).drain =
      (decoder.next.1.toList ++ (decoder.next.2.push bytes).drain.1,
        (decoder.next.2.push bytes).drain.2) := by
  cases scanned : scan decoder.buffer with
  | mk frame? buffer =>
      cases frame? with
      | none =>
          simp only [next, push, drain, scanned,
            scanAll_append_of_none scanned, Option.toList_none, List.nil_append]
      | some frame =>
          simp only [next, push, drain, scanned,
            scanAll_append_of_some scanned, Option.toList_some,
            List.singleton_append]

/-- Taking all frames before more bytes come in does not change what is found. -/
theorem drain_push_of_drain
    (decoder : FrameDecoder)
    (bytes : List UInt8) :
    (decoder.push bytes).drain =
      (decoder.drain.1 ++ (decoder.drain.2.push bytes).drain.1,
        (decoder.drain.2.push bytes).drain.2) := by
  -- Every frame that is taken away leaves fewer bytes in the buffer.
  induction sized : decoder.buffer.length using Nat.strongRecOn
      generalizing decoder with
  | ind size inductionHypothesis =>
      rcases found : decoder.next with ⟨_ | frame, last⟩
      · rw [drain_push, drain_of_next_none found, found]
        rfl
      · have shorter : last.buffer.length < size := by
          have scanned : scan decoder.buffer = (some frame, last.buffer) := by
            simp only [next, Prod.mk.injEq] at found
            rw [← found.1, ← found.2]
          rw [← sized]
          exact length_lt_of_scan scanned
        have later := inductionHypothesis last.buffer.length shorter last rfl
        rw [drain_push, drain_of_next_some found, found, later]
        rfl

/-- However calls are mixed, they find what is found in the whole stream at once. -/
theorem decode_eq_drain_push
    (decoder : FrameDecoder)
    (calls : List Call) :
    decoder.decode calls = (decoder.push (pushed calls)).drain := by
  induction calls generalizing decoder with
  | nil =>
      simp [decode, run, pushed, push]
  | cons call rest inductionHypothesis =>
      cases call with
      | push bytes =>
          have joined :
              (decoder.push bytes).push (pushed rest) =
                decoder.push (pushed (.push bytes :: rest)) := by
            simp [push, pushed]
          rw [← joined]
          exact inductionHypothesis (decoder.push bytes)
      | next =>
          have later := inductionHypothesis decoder.next.2
          rw [pushed, drain_push, ← later]
          simp only [decode, run, List.append_assoc]

/--
Two ways of delivering a stream, with any number of frames looked for between
the pieces, give the same frames and leave the same bytes.
-/
theorem decode_eq_of_pushed_eq
    (decoder : FrameDecoder)
    {one other : List Call}
    (sameStream : pushed one = pushed other) :
    decoder.decode one = decoder.decode other := by
  rw [decode_eq_drain_push, decode_eq_drain_push, sameStream]

/-- A frame behind a false start is found also if reads cut the headers of both. -/
theorem decode_eq_of_cut_headers :
    pushed [.push [0xD5, 0xD5, 0x02], .next, .push [], .push [0x00, 0x07], .next, .push [0x00]] =
        pushed [.push [0xD5, 0xD5, 0x02, 0x00, 0x07, 0x00], .next] ∧
      empty.decode
          [.push [0xD5, 0xD5, 0x02], .next, .push [], .push [0x00, 0x07], .next, .push [0x00]] =
        empty.decode [.push [0xD5, 0xD5, 0x02, 0x00, 0x07, 0x00], .next] :=
  ⟨rfl, decode_eq_of_pushed_eq empty rfl⟩

end StationLink.FrameDecoder
