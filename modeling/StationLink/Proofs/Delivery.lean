import StationLink.Proofs.FrameRoundTrip
import StationLink.Proofs.LastingProperty
import StationLink.Proofs.MessageRoundTrip

namespace StationLink

/-!
# Delivery from end to end

Commands and events are written as messages, cut into blocks, framed, and sent
on many interfaces over one stream. However the frames of the interfaces are
interleaved and however the stream is cut into chunks, the link table at the
other end reports on each interface what was sent on it, in order.
-/

/-- What can be sent on an interface. -/
inductive Traffic where
  | command (asked : Command)
  | event (observed : Event)
  deriving Repr, DecidableEq

namespace Traffic

/-- Whether it goes towards the station. -/
def isCommand : Traffic → Bool
  | .command _ => true
  | .event _ => false

/-- The message that carries it. -/
def encode : Traffic → Except EncodeError (List UInt8)
  | .command asked => asked.encode
  | .event observed => observed.encode

/-- Whether it is not an event that stands for a message that makes no sense. -/
def makesSense : Traffic → Bool
  | .command _ => true
  | .event observed => !observed.kind.isUnknown

/-- The frames that carry it on an interface; none if it cannot be written. -/
def frames (id : InterfaceId) (traffic : Traffic) : List Frame :=
  match traffic.encode with
  | .ok message => Frame.ofMessage id traffic.isCommand message
  | .error _ => []

/-- The report of its arrival on an interface with a hardware name. -/
def report (id : InterfaceId) (hardwareName : String) : Traffic → Report
  | .command asked => .command id (asked.withStation hardwareName)
  | .event observed => .event id (observed.withStation hardwareName)

/-- It makes sense and can be written. -/
structure Sendable (traffic : Traffic) : Prop where
  makesSense : traffic.makesSense = true
  written : ∃ message, traffic.encode = .ok message

variable {traffic : Traffic} {message : List UInt8}

/-- A message that carries traffic has a header and fits into a train. -/
theorem nonempty_and_fits
    (makesSense : traffic.makesSense = true)
    (written : traffic.encode = .ok message) :
    message ≠ [] ∧ message.length ≤ maxTrainBytes := by
  have isWritten : ∃ messageClass code control fields,
      Message.write messageClass code control fields = .ok message := by
    cases traffic with
    | command asked =>
        exact ⟨_, _, _, _, written⟩
    | event observed =>
        have known : observed.kind.isUnknown = false := by
          simpa [Traffic.makesSense] using makesSense
        obtain ⟨code, fields, writes, _⟩ :=
          Event.exists_write_of_encode known written
        exact ⟨_, _, _, _, writes⟩
  obtain ⟨messageClass, code, control, fields, writes⟩ := isWritten
  obtain ⟨_, fits, shape⟩ := Message.write_eq_ok writes
  refine ⟨?_, fits⟩
  rw [shape]
  exact List.cons_ne_nil _ _

theorem frames_of_encode
    (written : traffic.encode = .ok message)
    (id : InterfaceId) :
    traffic.frames id = Frame.ofMessage id traffic.isCommand message := by
  rw [frames, written]

theorem exists_block_of_mem_frames
    {id : InterfaceId}
    {frame : Frame}
    (member : frame ∈ traffic.frames id) :
    ∃ message, ∃ block ∈ Train.cut message,
      frame = Frame.ofBlock id traffic.isCommand block := by
  unfold frames at member
  cases written : traffic.encode with
  | error error =>
      rw [written] at member
      cases member
  | ok message =>
      rw [written] at member
      obtain ⟨block, cut, isFrame⟩ := List.mem_map.mp member
      exact ⟨message, block, cut, isFrame.symm⟩

/-- The frames of traffic are blocks, and no bytes are lost when they are written. -/
theorem data_of_mem_frames
    {id : InterfaceId}
    {frame : Frame}
    (member : frame ∈ traffic.frames id) :
    frame.kind = .data ∧ frame.clipped = frame := by
  obtain ⟨message, block, cut, isFrame⟩ := exists_block_of_mem_frames member
  subst frame
  exact ⟨rfl, Frame.clipped_of_length_le (Train.length_payload_of_mem_cut cut)⟩

/-- The frames of traffic are all on its interface. -/
theorem filter_frames
    (traffic : Traffic)
    (id other : InterfaceId) :
    ((traffic.frames id).filter fun frame => frame.id = other) =
      if id = other then traffic.frames id else [] := by
  have own : ∀ frame ∈ traffic.frames id, frame.id = id := by
    intro frame member
    obtain ⟨message, block, _, isFrame⟩ := exists_block_of_mem_frames member
    rw [isFrame, Frame.ofBlock]
  by_cases same : id = other
  · rw [if_pos same]
    exact List.filter_eq_self.mpr fun frame member =>
      decide_eq_true ((own frame member).trans same)
  · rw [if_neg same]
    exact List.filter_eq_nil_iff.mpr fun frame member isOther =>
      same ((own frame member).symm.trans (of_decide_eq_true isOther))

/-- If the frames of every interface are those of its mail, all are whole blocks. -/
theorem data_of_inOrder
    {mail : InterfaceId → List Traffic}
    {stream : List Frame}
    (inOrder : ∀ id, (stream.filter fun frame => frame.id = id) =
      (mail id).flatMap (Traffic.frames id))
    {frame : Frame}
    (member : frame ∈ stream) :
    frame.kind = .data ∧ frame.clipped = frame := by
  have own : frame ∈ stream.filter fun other => other.id = frame.id :=
    List.mem_filter.mpr ⟨member, decide_eq_true rfl⟩
  rw [inOrder frame.id] at own
  obtain ⟨traffic, _, isFrame⟩ := List.mem_flatMap.mp own
  exact data_of_mem_frames isFrame

end Traffic

namespace FrameDecoder

/-- The frames that chunks of a stream complete, each at the time of the chunk. -/
def arrivals (decoder : FrameDecoder) : List (Nat × List UInt8) → List (Nat × Frame)
  | [] => []
  | (now, bytes) :: rest =>
      let (frames, decoder) := (decoder.push bytes).drain
      frames.map (now, ·) ++ decoder.arrivals rest

/-- The frames of chunks, behind those found at first, are the frames of the stream. -/
theorem drain_append_arrivals
    (decoder : FrameDecoder)
    (chunks : List (Nat × List UInt8)) :
    decoder.drain.1 ++ (decoder.drain.2.arrivals chunks).map Prod.snd =
      (decoder.push (chunks.flatMap Prod.snd)).drain.1 := by
  induction chunks generalizing decoder with
  | nil =>
      simp [arrivals, push]
  | cons chunk rest inductionHypothesis =>
      obtain ⟨now, bytes⟩ := chunk
      have later := inductionHypothesis (decoder.drain.2.push bytes)
      have joined :
          (decoder.drain.2.push bytes).push (rest.flatMap Prod.snd) =
            decoder.drain.2.push (((now, bytes) :: rest).flatMap Prod.snd) := by
        simp [push]
      rw [drain_push_of_drain, ← joined, ← later]
      simp [arrivals, Function.comp_def]

theorem arrivals_empty
    (chunks : List (Nat × List UInt8)) :
    (empty.arrivals chunks).map Prod.snd =
      (scanAll (chunks.flatMap Prod.snd)).1 := by
  have nothing : empty.drain = ([], empty) := drain_of_next_none rfl
  have found := drain_append_arrivals empty chunks
  rw [nothing] at found
  exact found

/-- Frames written without loss arrive as they were, however their bytes were cut. -/
theorem arrivals_of_cut
    {stream : List Frame}
    (whole : ∀ frame ∈ stream, frame.clipped = frame)
    {chunks : List (Nat × List UInt8)}
    (cut : chunks.flatMap Prod.snd = stream.flatMap Frame.encode) :
    (empty.arrivals chunks).map Prod.snd = stream := by
  have unclipped : stream.map Frame.clipped = stream :=
    (List.map_congr_left whole).trans (List.map_id stream)
  rw [arrivals_empty, cut, scanAll_flatMap_encode, unclipped]

end FrameDecoder

namespace LinkTable

/-- Chunks of a stream arrive, each at its time, and complete frames are handled. -/
def onChunks
    (table : LinkTable)
    (decoder : FrameDecoder) :
    List (Nat × List UInt8) → LinkTable × List Action
  | [] => (table, [])
  | (now, bytes) :: rest =>
      let (frames, decoder) := (decoder.push bytes).drain
      let (table, actions) := table.onFrames now frames
      let (table, others) := table.onChunks decoder rest
      (table, actions ++ others)

theorem onArrivals_append
    (table : LinkTable)
    (now : Nat)
    (frames : List Frame)
    (rest : List (Nat × Frame)) :
    table.onArrivals (frames.map (now, ·) ++ rest) =
      (((table.onFrames now frames).1.onArrivals rest).1,
        (table.onFrames now frames).2 ++
          ((table.onFrames now frames).1.onArrivals rest).2) := by
  induction frames generalizing table with
  | nil =>
      rfl
  | cons frame others inductionHypothesis =>
      have later := inductionHypothesis (table.onFrame frame now).1
      simp only [List.map_cons, List.cons_append, onArrivals, later, onFrames,
        List.append_assoc]

theorem onChunks_eq_onArrivals
    (table : LinkTable)
    (decoder : FrameDecoder)
    (chunks : List (Nat × List UInt8)) :
    table.onChunks decoder chunks = table.onArrivals (decoder.arrivals chunks) := by
  induction chunks generalizing table decoder with
  | nil =>
      rfl
  | cons chunk rest inductionHypothesis =>
      obtain ⟨now, bytes⟩ := chunk
      simp only [onChunks, FrameDecoder.arrivals, onArrivals_append,
        inductionHypothesis]

section Mail

variable {table : LinkTable} (unfiltered : table.filter? = none)
include unfiltered

/-- A message that carries traffic is reported as that traffic. -/
theorem interpret_of_encode
    {traffic : Traffic}
    {message : List UInt8}
    (makesSense : traffic.makesSense = true)
    (written : traffic.encode = .ok message)
    (id : InterfaceId)
    (hardwareName : String) :
    table.interpret id hardwareName traffic.isCommand message =
      some (traffic.report id hardwareName) := by
  have acceptsCommands : table.acceptsCommands hardwareName = true := by
    rw [LinkTable.acceptsCommands, unfiltered]
  have acceptsEvents : table.acceptsEvents hardwareName = true := by
    rw [LinkTable.acceptsEvents, unfiltered]
  cases traffic with
  | command asked =>
      have decoded : Command.decode message = .ok (asked.withStation "") :=
        Command.decode_of_encode written
      simp only [interpret, Traffic.isCommand, if_true, decoded, acceptsCommands]
      rfl
  | event observed =>
      have known : observed.kind.isUnknown = false := by
        simpa [Traffic.makesSense] using makesSense
      have decoded : Event.decode message = observed.withStation "" :=
        Event.decode_of_encode known written
      simp only [interpret, Traffic.isCommand, Bool.false_eq_true, if_false, decoded,
        acceptsEvents, if_true]
      rfl

/-- Between trains the frames of traffic are reported as that traffic, in order. -/
theorem interpret_messages_of_frames
    (last : Bool)
    (id : InterfaceId)
    (hardwareName : String)
    {mail : List Traffic}
    (sendable : ∀ traffic ∈ mail, traffic.Sendable) :
    ({ command := last : Reception }.messages
          (mail.flatMap (Traffic.frames id))).filterMap
        (fun (command, message) => table.interpret id hardwareName command message) =
      mail.map (Traffic.report id hardwareName) := by
  induction mail generalizing last with
  | nil =>
      rfl
  | cons traffic rest inductionHypothesis =>
      obtain ⟨makesSense, message, written⟩ := sendable traffic List.mem_cons_self
      obtain ⟨nonempty, fits⟩ := Traffic.nonempty_and_fits makesSense written
      have later := inductionHypothesis traffic.isCommand
        (fun other member => sendable other (List.mem_cons_of_mem _ member))
      rw [List.flatMap_cons, Traffic.frames_of_encode written,
        Reception.messages_ofMessage_append last id traffic.isCommand nonempty fits]
      simp only [List.filterMap_cons, List.map_cons, later,
        interpret_of_encode unfiltered makesSense written]

/--
If the frames of every interface are in order, the reports about an interface
are its mail, however frames are interleaved and their bytes cut into chunks.
-/
theorem about_onChunks_of_empty
    {mail : InterfaceId → List Traffic}
    (sendable : ∀ id, ∀ traffic ∈ mail id, traffic.Sendable)
    (ready : ∀ id, mail id ≠ [] → ∃ record, table.get? id = some record ∧
      record.running = true ∧ record.reassembler = .empty)
    {stream : List Frame}
    (inOrder : ∀ id, (stream.filter fun frame => frame.id = id) =
      (mail id).flatMap (Traffic.frames id))
    {chunks : List (Nat × List UInt8)}
    (cut : chunks.flatMap Prod.snd = stream.flatMap Frame.encode)
    (id : InterfaceId) :
    Report.about id (Action.reports (table.onChunks .empty chunks).2) =
      (mail id).map (Traffic.report id ((table.hardwareName? id).getD "")) := by
  have arrived : (FrameDecoder.empty.arrivals chunks).map Prod.snd = stream :=
    FrameDecoder.arrivals_of_cut
      (fun _ member => (Traffic.data_of_inOrder inOrder member).2) cut
  have fromStream :
      ∀ arrival ∈ FrameDecoder.empty.arrivals chunks, arrival.2 ∈ stream := by
    intro arrival arrives
    rw [← arrived]
    exact List.mem_map_of_mem arrives
  rw [onChunks_eq_onArrivals]
  by_cases noMail : mail id = []
  · have absent :
        ∀ arrival ∈ FrameDecoder.empty.arrivals chunks, arrival.2.id ≠ id := by
      intro arrival arrives isOwn
      have own : arrival.2 ∈ stream.filter fun frame => frame.id = id :=
        List.mem_filter.mpr ⟨fromStream arrival arrives, decide_eq_true isOwn⟩
      rw [inOrder id, noMail] at own
      cases own
    rw [about_onArrivals_of_absent table absent, noMail]
    rfl
  · obtain ⟨record, found, running, idle⟩ := ready id noMail
    have named : (table.hardwareName? id).getD "" = record.hardwareName := by
      rw [hardwareName?, found]
      rfl
    have fresh : record.reception = { command := record.receivingCommand } := by
      rw [LinkRecord.reception, idle]
    have areData :
        ∀ arrival ∈ FrameDecoder.empty.arrivals chunks,
          arrival.2.id = id → arrival.2.kind = .data :=
      fun arrival arrives _ =>
        (Traffic.data_of_inOrder inOrder (fromStream arrival arrives)).1
    rw [about_onArrivals_of_running found running areData, arrived, inOrder id,
      fresh, named]
    exact interpret_messages_of_frames unfiltered record.receivingCommand id
      record.hardwareName (sendable id)

end Mail

/--
End-to-end delivery. Whatever a table has been through, if no filter is installed
and every interface with mail is running between two trains, the reports about
each interface are its mail, in order and complete, however the frames of the
interfaces are interleaved and their bytes cut into chunks.
-/
theorem about_onChunks_of_mail
    (settings : LinkSettings)
    (operations : List Operation)
    {table : LinkTable}
    (reached : ((ofSettings settings).run operations).1 = table)
    (unfiltered : table.filter? = none)
    {mail : InterfaceId → List Traffic}
    (sendable : ∀ id, ∀ traffic ∈ mail id, traffic.Sendable)
    (ready : ∀ id, mail id ≠ [] → ∃ record, table.get? id = some record ∧
      record.running = true ∧ record.reassembler.isPending = false)
    {stream : List Frame}
    (inOrder : ∀ id, (stream.filter fun frame => frame.id = id) =
      (mail id).flatMap (Traffic.frames id))
    {chunks : List (Nat × List UInt8)}
    (cut : chunks.flatMap Prod.snd = stream.flatMap Frame.encode)
    (id : InterfaceId) :
    Report.about id (Action.reports (table.onChunks .empty chunks).2) =
      (mail id).map (Traffic.report id ((table.hardwareName? id).getD "")) := by
  have readyAnew : ∀ id, mail id ≠ [] → ∃ record, table.get? id = some record ∧
      record.running = true ∧ record.reassembler = .empty := by
    intro other hasMail
    obtain ⟨record, found, running, idle⟩ := ready other hasMail
    subst reached
    exact ⟨record, found, running, reassembler_eq_empty found idle⟩
  exact about_onChunks_of_empty unfiltered sendable readyAnew inOrder cut id

/-- A lamp is lit on one interface and a handset lifted on another; a header is cut. -/
theorem about_onChunks_of_lamp_and_handset :
    let table := ((ofSettings {}).run
      [.add 1 (some { channel := 1, hardwareName? := some "desk" }) 0, .up 1 0,
        .add 2 (some { channel := 1, hardwareName? := some "door" }) 0, .up 2 0,
        .frame (.ack 1) 3, .frame (.ack 2) 4]).1
    let lamp : Traffic :=
      .command { station := "", control := "k1", kind := .led .red .steady }
    let handset : Traffic :=
      .event { station := "", control := "", kind := .offHook }
    let bytes := (lamp.frames 2 ++ handset.frames 1).flatMap Frame.encode
    let actions := (table.onChunks .empty [(5, bytes.take 3), (8, bytes.drop 3)]).2
    Report.about 1 (Action.reports actions) = [handset.report 1 "desk"] ∧
      Report.about 2 (Action.reports actions) = [lamp.report 2 "door"] := by
  intro table lamp handset bytes actions
  let mail : InterfaceId → List Traffic := fun id =>
    if id = 1 then [handset] else if id = 2 then [lamp] else []
  have sendable : ∀ id, ∀ traffic ∈ mail id, traffic.Sendable := by
    intro id traffic member
    simp only [mail] at member
    split at member
    · rw [List.mem_singleton.mp member]
      exact ⟨rfl, _, rfl⟩
    · split at member
      · rw [List.mem_singleton.mp member]
        exact ⟨rfl, _, rfl⟩
      · cases member
  have ready : ∀ id, mail id ≠ [] → ∃ record, table.get? id = some record ∧
      record.running = true ∧ record.reassembler.isPending = false := by
    intro id hasMail
    simp only [mail] at hasMail
    split at hasMail
    · subst id
      exact ⟨_, rfl, rfl, rfl⟩
    · split at hasMail
      · subst id
        exact ⟨_, rfl, rfl, rfl⟩
      · exact (hasMail rfl).elim
  have inOrder : ∀ id,
      ((lamp.frames 2 ++ handset.frames 1).filter fun frame => frame.id = id) =
        (mail id).flatMap (Traffic.frames id) := by
    intro id
    rw [List.filter_append, Traffic.filter_frames, Traffic.filter_frames]
    by_cases isOne : id = 1
    · subst id
      simp [mail]
    · by_cases isTwo : id = 2
      · subst id
        simp [mail]
      · simp [mail, isOne, isTwo, Ne.symm isOne, Ne.symm isTwo]
  have cut : [(5, bytes.take 3), (8, bytes.drop 3)].flatMap Prod.snd =
      (lamp.frames 2 ++ handset.frames 1).flatMap Frame.encode := by
    simp [bytes]
  have delivered := about_onChunks_of_mail {} _ rfl rfl sendable ready inOrder cut
  exact ⟨delivered 1, delivered 2⟩

end LinkTable

end StationLink
