import StationLink.KeysetBank
import StationLink.Proofs.Delivery
import StationLink.Proofs.KeysetHistory
import StationLink.Proofs.SortedMap

namespace StationLink.KeysetBank

/-!
# Reception of a bank

However the bytes of a stream of frames are cut before a bank reads them, each of its
keysets receives just the frames of its number, in order (`get?_receiveAll_of_cut`).
-/

/-- The bank after chunks of bytes were read. -/
def receiveAll (bank : KeysetBank) (chunks : List (List UInt8)) : KeysetBank :=
  chunks.foldl (fun bank bytes => (bank.receive bytes).1) bank

theorem decoder_receiveFrames
    (bank : KeysetBank)
    (frames : List Frame) :
    (bank.receiveFrames frames).1.decoder = bank.decoder := by
  induction frames generalizing bank with
  | nil =>
      rfl
  | cons frame rest inductionHypothesis =>
      have same : (bank.receiveFrame frame).1.decoder = bank.decoder := by
        unfold receiveFrame
        split <;> rfl
      exact (inductionHypothesis _).trans same

/-- A frame comes to the keyset of its number and to no other. -/
theorem get?_receiveFrame
    (bank : KeysetBank)
    (frame : Frame)
    (id : InterfaceId) :
    (bank.receiveFrame frame).1.keysets.get? id =
      (bank.keysets.get? id).map (·.receiveAll ([frame].filter (·.id = id))) := by
  unfold receiveFrame
  by_cases isOwn : frame.id = id
  · subst isOwn
    cases found : bank.keysets.get? frame.id <;> simp [found, Keyset.receiveAll]
  · have isOther : id ≠ frame.id := Ne.symm isOwn
    cases bank.keysets.get? frame.id <;> simp [isOwn, isOther, Keyset.receiveAll]

theorem get?_receiveFrames
    (bank : KeysetBank)
    (frames : List Frame)
    (id : InterfaceId) :
    (bank.receiveFrames frames).1.keysets.get? id =
      (bank.keysets.get? id).map (·.receiveAll (frames.filter (·.id = id))) := by
  induction frames generalizing bank with
  | nil =>
      simp [receiveFrames, Keyset.receiveAll]
  | cons frame rest inductionHypothesis =>
      have later := inductionHypothesis (bank.receiveFrame frame).1
      rw [get?_receiveFrame, Option.map_map] at later
      rw [← List.singleton_append, List.filter_append]
      refine later.trans ?_
      simp only [Function.comp_def, Keyset.receiveAll_append]

/-- What a keyset receives of chunks of bytes are the frames of its number in the stream. -/
theorem get?_receiveAll
    (bank : KeysetBank)
    (chunks : List (List UInt8))
    (id : InterfaceId) :
    (bank.receiveAll chunks).keysets.get? id =
      (bank.keysets.get? id).map
        (·.receiveAll (((bank.decoder.arrivals (chunks.map (0, ·))).map Prod.snd).filter
          (·.id = id))) := by
  induction chunks generalizing bank with
  | nil =>
      simp [receiveAll, FrameDecoder.arrivals, Keyset.receiveAll]
  | cons bytes rest inductionHypothesis =>
      have found : (bank.receive bytes).1.keysets.get? id = _ :=
        get?_receiveFrames { bank with decoder := (bank.decoder.push bytes).drain.2 }
          (bank.decoder.push bytes).drain.1 id
      have decoder : (bank.receive bytes).1.decoder = (bank.decoder.push bytes).drain.2 :=
        decoder_receiveFrames _ _
      have later := inductionHypothesis (bank.receive bytes).1
      rw [found, decoder, Option.map_map] at later
      refine later.trans ?_
      simp [FrameDecoder.arrivals, Function.comp_def, Keyset.receiveAll_append]

/-- However the bytes of frames are cut, each keyset receives the frames of its number. -/
theorem get?_receiveAll_of_cut
    {bank : KeysetBank}
    (atStart : bank.decoder = .empty)
    {stream : List Frame}
    (whole : ∀ frame ∈ stream, frame.clipped = frame)
    {chunks : List (List UInt8)}
    (cut : chunks.flatten = stream.flatMap Frame.encode)
    (id : InterfaceId) :
    (bank.receiveAll chunks).keysets.get? id =
      (bank.keysets.get? id).map (·.receiveAll (stream.filter (·.id = id))) := by
  have timed : (chunks.map ((0 : Nat), ·)).flatMap Prod.snd = chunks.flatten := by
    simp [List.flatMap_map, List.flatMap_id']
  have arrived := FrameDecoder.arrivals_of_cut whole (timed.trans cut)
  rw [get?_receiveAll, atStart, arrived]

end StationLink.KeysetBank
