import StationLink.Proofs.LinkStatus
import StationLink.Proofs.TrainRoundTrip

namespace StationLink

/-!
# Reception on one interface

What a running interface makes of the blocks that arrive on it depends on
nothing but the train being received and its direction. `Reception.messages`
lists the messages that frames complete on a single interface. Frames of other
interfaces in between make no difference
(`LinkTable.about_onArrivals_of_running`).
-/

/-- The train being received on an interface. -/
structure Reception where
  reassembler : Reassembler := .empty
  /-- Whether it is a train of commands. -/
  command : Bool

namespace Reception

/-- Be ready for a block of a direction: a train of the other one is given up. -/
def turned (reception : Reception) (command : Bool) : Reception where
  reassembler :=
    if reception.reassembler.isPending ∧ reception.command ≠ command then
      .empty
    else
      reception.reassembler
  command

/-- Take in a block of a direction; also the message it completes. -/
def take
    (reception : Reception)
    (command : Bool)
    (block : Block) :
    Reception × Option (List UInt8) :=
  let turned := reception.turned command
  let (reassembler, result) := turned.reassembler.push block
  ({ turned with reassembler },
    match result with
    | .ok message? => message?
    | .error _ => none)

/-- The messages that data frames complete, each with its direction. -/
def messages (reception : Reception) : List Frame → List (Bool × List UInt8)
  | [] => []
  | frame :: rest =>
      let (reception, message?) := reception.take frame.command frame.block
      (message?.map (frame.command, ·)).toList ++ reception.messages rest

/-- A message may turn to the other kind where no train is pending. -/
theorem turned_of_idle
    {reception : Reception}
    (idle : reception.reassembler.isPending = false)
    (command : Bool) :
    reception.turned command = { reception with command } := by
  rw [turned, if_neg fun turns => Bool.false_ne_true (idle.symm.trans turns.1)]

/-- A reception that takes the kind that it has taken before does not turn. -/
theorem turned_of_same
    (reception : Reception) :
    reception.turned reception.command = reception := by
  rw [turned, if_neg fun turns => turns.2 rfl]

/-- The messages among the results of a reassembler. -/
def completed
    (results : List (Except DecodeError (Option (List UInt8)))) :
    List (List UInt8) :=
  results.filterMap fun result =>
    match result with
    | .ok message? => message?
    | .error _ => none

/-- Blocks of the direction being received go straight to the reassembler. -/
theorem messages_ofBlock_append
    (reception : Reception)
    (id : InterfaceId)
    (blocks : List Block)
    (rest : List Frame) :
    reception.messages (blocks.map (Frame.ofBlock id reception.command) ++ rest) =
      (completed (reception.reassembler.pushAll blocks).2).map
          (reception.command, ·) ++
        { reassembler := (reception.reassembler.pushAll blocks).1
          command := reception.command : Reception }.messages rest := by
  induction blocks generalizing reception with
  | nil =>
      rfl
  | cons block others inductionHypothesis =>
      have later := inductionHypothesis
        { reception with reassembler := (reception.reassembler.push block).1 }
      rw [List.map_cons, List.cons_append, messages]
      simp only [Frame.ofBlock, Frame.block, take, turned_of_same] at later ⊢
      rw [later]
      simp only [Reassembler.pushAll, completed]
      rcases (reception.reassembler.push block).2 with error | message?
      · rfl
      · rcases message? with _ | message <;> rfl

/-- Being ready for the direction of the first block makes no difference. -/
theorem messages_turned
    (reception : Reception)
    (frame : Frame)
    (rest : List Frame) :
    (reception.turned frame.command).messages (frame :: rest) =
      reception.messages (frame :: rest) := by
  have same :
      (reception.turned frame.command).turned frame.command =
        reception.turned frame.command :=
    turned_of_same (reception.turned frame.command)
  simp only [messages, take, same]

/-- A message that comes after blocks without one is the only one that is completed. -/
theorem completed_replicate_append
    (count : Nat)
    (message : List UInt8) :
    completed (List.replicate count (.ok none) ++ [.ok (some message)]) = [message] := by
  simp only [completed, List.filterMap_append, List.filterMap_replicate, List.nil_append,
    List.filterMap_cons, List.filterMap_nil]

/-- Between trains the frames of a message complete that message and nothing else. -/
theorem messages_ofMessage_append
    (last : Bool)
    (id : InterfaceId)
    (command : Bool)
    {message : List UInt8}
    (nonempty : message ≠ [])
    (fits : message.length ≤ maxTrainBytes)
    (rest : List Frame) :
    { command := last : Reception }.messages
        (Frame.ofMessage id command message ++ rest) =
      (command, message) :: { command : Reception }.messages rest := by
  have joined := Reassembler.pushAll_empty_cut nonempty fits
  have ready :
      { command := last : Reception }.messages
          (Frame.ofMessage id command message ++ rest) =
        { command : Reception }.messages
          (Frame.ofMessage id command message ++ rest) := by
    obtain ⟨first, others, shape⟩ :=
      List.exists_cons_of_ne_nil (Train.cut_ne_nil nonempty)
    rw [Frame.ofMessage, shape, List.map_cons, List.cons_append, ← messages_turned,
      turned_of_idle rfl]
    rfl
  rw [ready, Frame.ofMessage, messages_ofBlock_append { command } id, joined,
    completed_replicate_append]
  rfl

end Reception

/-- The train being received on an interface. -/
def LinkRecord.reception (record : LinkRecord) : Reception where
  reassembler := record.reassembler
  command := record.receivingCommand

/-- An interface on which a train is being received. -/
def LinkRecord.receiving
    (record : LinkRecord)
    (reception : Reception) :
    LinkRecord :=
  { record with
    reassembler := reception.reassembler
    receivingCommand := reception.command }

/-- The reports about an interface, in order. -/
def Report.about (id : InterfaceId) (reports : List Report) : List Report :=
  reports.filter fun report => report.id = id

@[simp] theorem Report.about_append
    (id : InterfaceId)
    (first second : List Report) :
    about id (first ++ second) = about id first ++ about id second :=
  List.filter_append first second

theorem Action.reports_toList_emit
    (report? : Option Report) :
    reports (report?.map .emit).toList = report?.toList := by
  cases report? <;> rfl

namespace LinkTable

variable {table : LinkTable}

/-- The report of a message depends on nothing in the table but the filter. -/
theorem interpret_of_sameFilter
    {other : LinkTable}
    (sameFilter : other.filter? = table.filter?) :
    other.interpret = table.interpret := by
  have sameCommands : other.acceptsCommands = table.acceptsCommands := by
    funext hardwareName
    rw [acceptsCommands, acceptsCommands, sameFilter]
  have sameEvents : other.acceptsEvents = table.acceptsEvents := by
    funext hardwareName
    rw [acceptsEvents, acceptsEvents, sameFilter]
  funext id hardwareName command message
  rw [interpret, interpret, sameCommands, sameEvents]

/-- Without a filter commands for every station are accepted. -/
theorem acceptsCommands_of_unfiltered
    (unfiltered : table.filter? = none)
    (hardwareName : String) :
    table.acceptsCommands hardwareName = true := by
  rw [acceptsCommands, unfiltered]

/-- Without a filter the events of every station are handed on. -/
theorem acceptsEvents_of_unfiltered
    (unfiltered : table.filter? = none)
    (hardwareName : String) :
    table.acceptsEvents hardwareName = true := by
  rw [acceptsEvents, unfiltered]

/-- A report is about the interface whose message it was interpreted from. -/
theorem id_of_interpret
    {id : InterfaceId}
    {hardwareName : String}
    {command : Bool}
    {message : List UInt8}
    {report : Report}
    (interpreted : table.interpret id hardwareName command message = some report) :
    report.id = id := by
  rcases eq_of_interpret interpreted with ⟨received, isCommand⟩ | isEvent
  · rw [isCommand]
    rfl
  · rw [isEvent]
    rfl

/-! ## One frame -/

/-- A block is taken in, and the message it completes is reported. -/
theorem onBlock_eq
    (table : LinkTable)
    (id : InterfaceId)
    (record : LinkRecord)
    (command : Bool)
    (block : Block) :
    table.onBlock id record command block =
      (table.set id (record.receiving (record.reception.take command block).1),
        (((record.reception.take command block).2.bind
          (table.interpret id record.hardwareName command)).map .emit).toList) := by
  have same :
      (record.reception.turned command).reassembler =
        if record.reassembler.isPending ∧ record.receivingCommand ≠ command then
          .empty
        else
          record.reassembler :=
    rfl
  simp only [onBlock, Reception.take, same]
  generalize Reassembler.push _ block = outcome
  rcases outcome with ⟨reassembler, error | message?⟩
  · rfl
  · rcases message? with _ | message <;> rfl

/-- A block reports about its own interface only. -/
theorem id_of_mem_onBlock
    {id : InterfaceId}
    {record : LinkRecord}
    {command : Bool}
    {block : Block}
    {report : Report}
    (member : report ∈ Action.reports (table.onBlock id record command block).2) :
    report.id = id := by
  rw [onBlock_eq, Action.reports_toList_emit, Option.mem_toList] at member
  obtain ⟨message, _, interpreted⟩ := Option.bind_eq_some_iff.mp member
  exact id_of_interpret interpreted

/-- Losing a link leaves the filter in place. -/
theorem filter?_demote
    (table : LinkTable)
    (id : InterfaceId)
    (record : LinkRecord)
    (now : Nat) :
    (table.demote id record now).1.filter? = table.filter? := by
  simp only [demote]
  split <;> rfl

/-- A frame leaves the filter in place. -/
theorem filter?_onFrame
    (table : LinkTable)
    (frame : Frame)
    (now : Nat) :
    (table.onFrame frame now).1.filter? = table.filter? := by
  unfold onFrame
  cases table.get? frame.id with
  | none =>
      rfl
  | some record =>
      cases frame.kind with
      | probe =>
          simp only
          split
          · rfl
          · split <;> rfl
      | ack | data =>
          simp only
          split <;> rfl
      | disconnect =>
          simp only
          split
          · exact filter?_demote _ _ _ _
          · rfl

/-- Whatever a frame makes known is about its own interface. -/
theorem id_of_mem_onFrame
    {frame : Frame}
    {now : Nat}
    {report : Report}
    (member : report ∈ Action.reports (table.onFrame frame now).2) :
    report.id = frame.id := by
  unfold onFrame at member
  cases found : table.get? frame.id with
  | none =>
      rw [found] at member
      cases member
  | some record =>
      have announced : ∀ hardwareName status,
          report ∈ [Report.ofLinkStatus frame.id hardwareName status] →
            report.id = frame.id := by
        intro hardwareName status single
        rw [List.mem_singleton.mp single]
        rfl
      rw [found] at member
      cases kind : frame.kind with
      | probe =>
          simp only [kind] at member
          split at member
          · cases member
          · split at member
            · cases member
            · exact announced _ _ member
      | ack =>
          simp only [kind] at member
          split at member
          · exact announced _ _ member
          · cases member
      | disconnect =>
          simp only [kind] at member
          split at member
          · exact announced _ _ member
          · cases member
      | data =>
          simp only [kind] at member
          split at member
          · exact id_of_mem_onBlock member
          · cases member

section Data

variable {frame : Frame} {record : LinkRecord}

/-- A frame with a part of a message is heard and its block is taken in. -/
theorem onFrame_of_data
    (isData : frame.kind = .data)
    (found : table.get? frame.id = some record)
    (running : record.running = true)
    (now : Nat) :
    table.onFrame frame now =
      (table.set frame.id (record.hearing now)).onBlock frame.id (record.hearing now)
        frame.command frame.block := by
  have stillRunning : (record.hearing now).running = true := running
  unfold onFrame
  simp only [found, isData]
  exact if_pos stillRunning

/-- A frame with a part of a message changes the reception of its interface. -/
theorem get?_onFrame_of_data
    (isData : frame.kind = .data)
    (found : table.get? frame.id = some record)
    (running : record.running = true)
    (now : Nat) :
    (table.onFrame frame now).1.get? frame.id =
      some ((record.hearing now).receiving
        (record.reception.take frame.command frame.block).1) := by
  rw [onFrame_of_data isData found running now, onBlock_eq, get?_set, if_pos rfl]
  rfl

/-- A frame with the last part of a message reports what the message is interpreted as. -/
theorem reports_onFrame_of_data
    (isData : frame.kind = .data)
    (found : table.get? frame.id = some record)
    (running : record.running = true)
    (now : Nat) :
    Action.reports (table.onFrame frame now).2 =
      ((record.reception.take frame.command frame.block).2.bind
        (table.interpret frame.id record.hardwareName frame.command)).toList := by
  rw [onFrame_of_data isData found running now, onBlock_eq]
  exact Action.reports_toList_emit _

end Data

/-! ## Frames of several interfaces -/

/-- Frames arrive one after another, each at its time. -/
def onArrivals (table : LinkTable) : List (Nat × Frame) → LinkTable × List Action
  | [] => (table, [])
  | (now, frame) :: rest =>
      let (table, actions) := table.onFrame frame now
      let (table, others) := table.onArrivals rest
      (table, actions ++ others)

/-- A frame reports nothing about any other interface. -/
theorem about_onFrame_of_ne
    {frame : Frame}
    {id : InterfaceId}
    (differs : frame.id ≠ id)
    (now : Nat) :
    Report.about id (Action.reports (table.onFrame frame now).2) = [] := by
  apply List.filter_eq_nil_iff.mpr
  intro report member isAbout
  have isOwn : report.id = frame.id := id_of_mem_onFrame member
  exact differs (isOwn.symm.trans (of_decide_eq_true isAbout))

/-- All that a frame reports is about its own interface. -/
theorem about_onFrame_of_eq
    {frame : Frame}
    {id : InterfaceId}
    (same : frame.id = id)
    (now : Nat) :
    Report.about id (Action.reports (table.onFrame frame now).2) =
      Action.reports (table.onFrame frame now).2 := by
  apply List.filter_eq_self.mpr
  intro report member
  exact decide_eq_true ((id_of_mem_onFrame member).trans same)

/-- Nothing is reported about an interface none of whose frames arrive. -/
theorem about_onArrivals_of_absent
    (table : LinkTable)
    {id : InterfaceId}
    {arrivals : List (Nat × Frame)}
    (absent : ∀ arrival ∈ arrivals, arrival.2.id ≠ id) :
    Report.about id (Action.reports (table.onArrivals arrivals).2) = [] := by
  induction arrivals generalizing table with
  | nil =>
      rfl
  | cons arrival rest inductionHypothesis =>
      obtain ⟨now, frame⟩ := arrival
      have later := inductionHypothesis (table.onFrame frame now).1
        (fun arrival member => absent arrival (List.mem_cons_of_mem _ member))
      have silent : frame.id ≠ id := absent (now, frame) List.mem_cons_self
      simp only [onArrivals, Action.reports_append, Report.about_append,
        about_onFrame_of_ne silent, later, List.append_nil]

/--
What is reported about a running interface while blocks arrive is what the blocks
of that interface alone amount to.
-/
theorem about_onArrivals_of_running
    {id : InterfaceId}
    {record : LinkRecord}
    (found : table.get? id = some record)
    (running : record.running = true)
    {arrivals : List (Nat × Frame)}
    (areData : ∀ arrival ∈ arrivals, arrival.2.id = id → arrival.2.kind = .data) :
    Report.about id (Action.reports (table.onArrivals arrivals).2) =
      (record.reception.messages
          ((arrivals.map Prod.snd).filter fun frame => frame.id = id)).filterMap
        fun (command, message) =>
          table.interpret id record.hardwareName command message := by
  induction arrivals generalizing table record with
  | nil =>
      rfl
  | cons arrival rest inductionHypothesis =>
      obtain ⟨now, frame⟩ := arrival
      have restAreData :
          ∀ arrival ∈ rest, arrival.2.id = id → arrival.2.kind = .data :=
        fun arrival member => areData arrival (List.mem_cons_of_mem _ member)
      have sameInterpret :
          (table.onFrame frame now).1.interpret = table.interpret :=
        interpret_of_sameFilter (filter?_onFrame table frame now)
      simp only [onArrivals, Action.reports_append, Report.about_append,
        List.map_cons]
      -- A frame of the interface moves its reception on; any other leaves it alone.
      by_cases isOwn : frame.id = id
      · have isData : frame.kind = .data :=
          areData (now, frame) List.mem_cons_self isOwn
        subst id
        have later := inductionHypothesis
          (get?_onFrame_of_data isData found running now) running restAreData
        rw [about_onFrame_of_eq rfl,
          reports_onFrame_of_data isData found running now, later, sameInterpret,
          List.filter_cons_of_pos (by simp), Reception.messages,
          List.filterMap_append]
        rcases (record.reception.take frame.command frame.block).2 with _ | message
        · rfl
        · simp only [Option.map_some, Option.toList_some, Option.bind_some,
            List.filterMap_cons]
          rcases
            table.interpret frame.id record.hardwareName frame.command message with
            _ | report <;> rfl
      · have unchanged : (table.onFrame frame now).1.get? id = some record := by
          rw [get?_onFrame_of_ne table (Ne.symm isOwn), found]
        have later := inductionHypothesis unchanged running restAreData
        rw [about_onFrame_of_ne isOwn,
          List.filter_cons_of_neg (by simpa using isOwn), later, sameInterpret,
          List.nil_append]

end LinkTable

end StationLink
