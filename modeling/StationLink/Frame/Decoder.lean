import StationLink.Frame

namespace StationLink

/-!
# Finding frames in a byte stream

A stream may start in the middle of a frame and may contain noise. The decoder
keeps the bytes it has not used yet. It skips bytes up to a synchronising byte
and skips that byte too if the control byte behind it cannot belong to a frame;
it waits while a header or payload is incomplete. `FrameDecoder.next` finds the
next frame, `FrameDecoder.drain` all complete ones.
-/

/-- The bytes of a stream that belong to no frame found so far. -/
structure FrameDecoder where
  buffer : List UInt8 := []
  deriving Repr, DecidableEq

namespace FrameDecoder

/-- The decoder that has seen no byte. -/
def empty : FrameDecoder := {}

/-- What the bytes at a synchronising byte amount to. -/
inductive Found where
  /-- A complete frame, and the bytes behind it. -/
  | frame (frame : Frame) (rest : List UInt8)
  /-- The beginning of a frame. -/
  | incomplete
  /-- Not a frame. -/
  | noise
  deriving Repr, DecidableEq

/-- Judge the bytes behind a synchronising byte. -/
def examine : List UInt8 → Found
  | control :: high :: low :: length :: rest =>
      match FrameControl.ofByte? control with
      | none => .noise
      | some meaning =>
          let payload := rest.take length.toNat
          if payload.length = length.toNat then
            .frame
              {
                id := high.toUInt16 <<< 8 ||| low.toUInt16
                kind := meaning.kind
                command := meaning.command
                more := meaning.more
                payload
              }
              (rest.drop length.toNat)
          else
            .incomplete
  | _ => .incomplete

/-- Find the first frame in a stream; also the bytes left after it. -/
def scan : List UInt8 → Option Frame × List UInt8
  | [] => (none, [])
  | byte :: rest =>
      if byte = syncByte then
        match examine rest with
        | .frame frame rest => (some frame, rest)
        | .incomplete => (none, byte :: rest)
        | .noise => scan rest
      else
        scan rest

theorem length_lt_of_examine
    {bytes rest : List UInt8}
    {frame : Frame}
    (found : examine bytes = .frame frame rest) :
    rest.length < bytes.length := by
  unfold examine at found
  split at found
  · split at found
    · cases found
    · simp only at found
      split at found
      · cases found
        simp only [List.length_drop, List.length_cons]
        omega
      · cases found
  · cases found

/-- A frame that is found takes bytes away from the stream. -/
theorem length_lt_of_scan
    {bytes rest : List UInt8}
    {frame : Frame}
    (found : scan bytes = (some frame, rest)) :
    rest.length < bytes.length := by
  induction bytes with
  | nil => simp [scan] at found
  | cons byte tail induction =>
      unfold scan at found
      split at found
      · split at found
        · next examined =>
            have shorter := length_lt_of_examine examined
            cases found
            simp only [List.length_cons]
            omega
        · cases found
        · have shorter := induction found
          simp only [List.length_cons]
          omega
      · have shorter := induction found
        simp only [List.length_cons]
        omega

/-- Take in bytes of the stream. -/
def push (decoder : FrameDecoder) (bytes : List UInt8) : FrameDecoder where
  buffer := decoder.buffer ++ bytes

/-- The next complete frame, if there is one. -/
def next (decoder : FrameDecoder) : Option Frame × FrameDecoder :=
  let (frame?, buffer) := scan decoder.buffer
  (frame?, { buffer })

/-- Every frame in a stream, and the bytes left after the last one. -/
def scanAll (bytes : List UInt8) : List Frame × List UInt8 :=
  match found : scan bytes with
  | (none, rest) => ([], rest)
  | (some frame, rest) =>
      have := length_lt_of_scan found
      let (frames, last) := scanAll rest
      (frame :: frames, last)
termination_by bytes.length

/-- Every complete frame, in order. -/
def drain (decoder : FrameDecoder) : List Frame × FrameDecoder :=
  let (frames, buffer) := scanAll decoder.buffer
  (frames, { buffer })

end FrameDecoder

end StationLink
