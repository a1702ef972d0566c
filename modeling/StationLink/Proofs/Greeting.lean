import StationLink.Gateway.Loopback
import StationLink.Proofs.BankReception
import StationLink.Proofs.ControlTraffic
import StationLink.Proofs.OverlongTrains

namespace StationLink

/-!
# Greetings

When the link to a station comes up, a gateway that has nothing else to do writes the
greeting as a train of blocks. The keyset at the other end, if it was between commands,
then shows the greeting and nothing else, however the bytes were cut on the way; a greeting
that breaks off it does not show at all (`Gateway.greeting_reaches_display`).
-/

/-- The message of a command has a header and fits into a train. -/
theorem Command.nonempty_and_fits
    {command : Command}
    {message : List UInt8}
    (encoded : command.encode = .ok message) :
    message ≠ [] ∧ message.length ≤ maxTrainBytes := by
  have carried : (Traffic.command command).encode = .ok message := encoded
  exact Traffic.nonempty_and_fits rfl carried

/-! ## What is written -/

namespace Session

/-- The frames that were written, in order. -/
def writtenFrames (session : Session) : List Frame :=
  session.journal.reverse.filterMap fun entry => entry.occurrence.sent?

/-- The frames among what is observed are added to those written before. -/
theorem writtenFrames_observe
    (session : Session)
    (occurrences : List (Occurrence Report)) :
    (session.observe occurrences).writtenFrames =
      session.writtenFrames ++ Multiplexer.written occurrences := by
  have noted : (session.observe occurrences).journal =
      (occurrences.map fun occurrence => ⟨session.now, occurrence⟩).reverse ++
        session.journal :=
    List.foldl_flip_cons_eq_append
  simp [writtenFrames, noted, Multiplexer.written, List.filterMap_map]

/-- What an execution writes is added to what the session has written. -/
theorem writtenFrames_absorb
    (session : Session)
    (execution : Multiplexer.Execution) :
    (session.absorb execution).writtenFrames =
      session.writtenFrames ++ Multiplexer.written execution.journal :=
  writtenFrames_observe { session with mux := execution.mux } execution.journal

end Session

/-- How many of a number of writes a line takes until it does not take one. -/
structure Line.Reaches (line : Line) (count total : Nat) : Prop where
  notMore : count ≤ total
  taken : ∀ index < count, line.takes index = true
  stops : count < total → line.takes count = false

namespace Line.Reaches

variable {line after : Line} {count total : Nat}

/-- A line that takes no write is reached by none of the frames. -/
theorem zero_of_notTaken
    (notTaken : line.takes 0 = false)
    (total : Nat) :
    line.Reaches 0 total :=
  ⟨Nat.zero_le total, fun index impossible => (Nat.not_lt_zero index impossible).elim,
    fun _ => notTaken⟩

theorem nothing
    (line : Line) :
    line.Reaches 0 0 :=
  ⟨Nat.le_refl 0, fun index impossible => (Nat.not_lt_zero index impossible).elim,
    fun impossible => (Nat.lt_irrefl 0 impossible).elim⟩

/-- The line took one write and then reaches as far as it does from there. -/
theorem succ
    (taken : line.takes 0 = true)
    (takes : ∀ index, after.takes index = line.takes (index + 1))
    (reaches : after.Reaches count total) :
    line.Reaches (count + 1) (total + 1) where
  notMore := Nat.succ_le_succ reaches.notMore
  taken := by
    intro index isBelow
    cases index with
    | zero =>
        exact taken
    | succ index =>
        rw [← takes]
        exact reaches.taken index (Nat.lt_of_succ_lt_succ isBelow)
  stops := by
    intro isBelow
    rw [← takes]
    exact reaches.stops (Nat.lt_of_succ_lt_succ isBelow)

end Line.Reaches

namespace Gateway

/-! ## Dealing with a report -/

/-- Go on with a greeting for a number of steps at most. -/
def pursue : Nat → Gateway → Gateway
  | 0, gateway => gateway
  | count + 1, gateway =>
      match gateway.greeting?, gateway.step? with
      | some _, some next => pursue count next
      | _, _ => gateway

/-- Deal with a report to the end. A greeting takes a step to begin and one for each frame. -/
def attend (gateway : Gateway) (report : Report) : Gateway :=
  let handling := gateway.handle report
  pursue (handling.greeting?.elim 0 (·.frames.length + 1)) handling

/-- The gateway deals with nothing yet, and only it wants the line. -/
structure Attentive (gateway : Gateway) : Prop where
  notStuck : gateway.stuck = false
  free : gateway.greeting? = none
  lineFree : .worker ∉ gateway.claims

/-- Nothing stands against a greeting, whose command is spelled by a message. -/
structure Greets
    (gateway : Gateway)
    (id : InterfaceId)
    (station text : String)
    (message : List UInt8) : Prop where
  hasText : gateway.text? = some text
  encoded : (greetingCommand station text).encode = .ok message
  isOpen : gateway.session.mux.isOpen = true
  running : gateway.session.mux.table.state id = .running
  allowed : gateway.session.mux.table.checkCommand id = .ok ()

variable {gateway : Gateway} {id : InterfaceId} {station text : String}
variable {message : List UInt8}

/-- A greeting is sent as one command to an interface that is greeted. -/
theorem Greets.commandFrames
    (greets : gateway.Greets id station text message) :
    gateway.session.mux.commandFrames id (greetingCommand station text) =
      .ok (Frame.ofMessage id true message) := by
  have isRunning := (LinkTable.state_eq_running_iff _ id).mp greets.running
  obtain ⟨nonempty, _⟩ := Command.nonempty_and_fits greets.encoded
  simp only [Multiplexer.commandFrames, greets.allowed, greets.encoded]
  exact Multiplexer.messageFrames_of_running greets.isOpen isRunning nonempty true

/-- If there are frames for a greeting, nothing stands against it. -/
theorem exists_greets
    {frames : List Frame}
    (hasText : gateway.text? = some text)
    (allowed : gateway.session.mux.commandFrames id (greetingCommand station text) = .ok frames) :
    ∃ message, gateway.Greets id station text message := by
  unfold Multiplexer.commandFrames at allowed
  split at allowed
  · cases allowed
  · next isAllowed =>
      split at allowed
      · cases allowed
      · next message encoded =>
          obtain ⟨isOpen, running, _⟩ := Multiplexer.messageFrames_ok allowed
          exact ⟨message, hasText, encoded, isOpen,
            (LinkTable.state_eq_running_iff _ id).mpr running, isAllowed⟩

/-- A station that comes up is greeted next, if it is to be greeted. -/
theorem handle_of_greets
    {event : Event}
    (isUp : event.kind = .up)
    (greets : gateway.Greets id event.station text message) :
    gateway.handle (.event id event) =
      { gateway with
        greeting? := some { id, frames := Frame.ofMessage id true message } } := by
  simp only [handle, if_pos isUp, greet, greets.hasText, Option.map_some, greets.commandFrames]

/-- If something stands against the greeting, nothing is done. -/
theorem handle_of_notGreets
    {event : Event}
    (notGreets : ¬ ∃ text message, gateway.Greets id event.station text message) :
    gateway.handle (.event id event) = gateway := by
  unfold handle
  simp only
  split
  · unfold greet
    cases hasText : gateway.text? with
    | none =>
        rfl
    | some text =>
        simp only [Option.map_some]
        split
        · next frames allowed =>
            obtain ⟨message, greets⟩ := exists_greets hasText allowed
            exact (notGreets ⟨text, message, greets⟩).elim
        · rfl
  · rfl

/-! ## Writing a greeting -/

/-- The gateway may write while the worker has no claim to the line. -/
theorem mayWrite_of_lineFree
    (lineFree : .worker ∉ gateway.claims) :
    gateway.mayWrite .gateway = true := by
  unfold mayWrite
  cases claims : gateway.claims with
  | nil =>
      rfl
  | cons writer rest =>
      cases writer with
      | worker =>
          rw [claims] at lineFree
          exact (lineFree List.mem_cons_self).elim
      | gateway =>
          rfl

/-- A frame of a greeting was written; the others are left. -/
structure Wrote
    (gateway : Gateway)
    (greeting : Greeting)
    (frame : Frame)
    (rest : List Frame)
    (after : Gateway) : Prop where
  notStuck : after.stuck = false
  lineFree : .worker ∉ after.claims
  left : after.greeting? = if rest.isEmpty then none else some { greeting with frames := rest }
  takes :
    ∀ count, after.session.mux.line.takes count = gateway.session.mux.line.takes (count + 1)
  written : after.session.writtenFrames = gateway.session.writtenFrames ++ [frame]

/-- A frame of a greeting that the line takes is written, and the next one is due. -/
theorem wrote_of_taken
    (greeting : Greeting)
    (frame : Frame)
    (rest : List Frame)
    (lineFree : .worker ∉ gateway.claims)
    (taken : gateway.session.mux.line.takes 0 = true) :
    gateway.Wrote greeting frame rest (gateway.write greeting frame rest) := by
  have attempted := Multiplexer.attempted_transmit gateway.session.mux frame
  rcases outcome : gateway.session.mux.transmit frame with ⟨after, journal, attempt⟩
  rw [outcome] at attempted
  obtain rfl : attempt = .sent := attempted.sent_iff.mpr taken
  have sent : gateway.session.mux.sendFrames greeting.id [frame] =
      (.ok (), { mux := after, journal }) := by
    simp [Multiplexer.sendFrames, outcome, Multiplexer.Execution.after]
  have written := Session.writtenFrames_absorb gateway.session { mux := after, journal }
  rw [attempted.written, if_pos rfl] at written
  simp only [write, sent]
  constructor
  · rfl
  · exact fun member => lineFree (List.mem_of_mem_erase member)
  · rfl
  · exact attempted.takes
  · exact written

/-- A frame of a greeting that is not taken is the last that is tried. -/
theorem write_of_notTaken
    (greeting : Greeting)
    (frame : Frame)
    (rest : List Frame)
    (notTaken : gateway.session.mux.line.takes 0 = false) :
    (gateway.write greeting frame rest).greeting? = none ∧
      (gateway.write greeting frame rest).session.writtenFrames =
        gateway.session.writtenFrames := by
  have attempted := Multiplexer.attempted_transmit gateway.session.mux frame
  rcases outcome : gateway.session.mux.transmit frame with ⟨after, journal, attempt⟩
  rw [outcome] at attempted
  have notSent : attempt ≠ .sent := fun isSent =>
    Bool.false_ne_true (notTaken.symm.trans (attempted.sent_iff.mp isSent))
  have noneWritten : Multiplexer.written journal = [] :=
    attempted.written.trans (if_neg notSent)
  have failed : ∃ error execution,
      gateway.session.mux.sendFrames greeting.id [frame] = (.error error, execution) ∧
        Multiplexer.written execution.journal = [] := by
    have reported := Multiplexer.written_emitAll (after.writeFailed greeting.id).1 true
      (after.writeFailed greeting.id).2.toList
    cases attempt with
    | sent =>
        exact (notSent rfl).elim
    | refused | detached =>
        simp only [Multiplexer.sendFrames, outcome]
        split
        · refine ⟨_, _, rfl, ?_⟩
          simp [Multiplexer.Execution.after, noneWritten, reported]
        · exact ⟨_, _, rfl, noneWritten⟩
  obtain ⟨error, execution, isError, nothing⟩ := failed
  have written := Session.writtenFrames_absorb gateway.session execution
  rw [nothing, List.append_nil] at written
  simp only [write, isError]
  exact ⟨rfl, written⟩

/-- A greeting that was begun goes on as soon as the line is free. -/
theorem step?_of_begun
    {frame : Frame}
    {rest : List Frame}
    (notStuck : gateway.stuck = false)
    (lineFree : .worker ∉ gateway.claims)
    (begun : gateway.greeting? = some { id, begun := true, frames := frame :: rest }) :
    gateway.step? =
      some (gateway.write { id, begun := true, frames := frame :: rest } frame rest) := by
  simp [step?, notStuck, begun, mayWrite_of_lineFree lineFree]

/-- A gateway that greets nobody has nothing to pursue. -/
theorem pursue_of_free
    (free : gateway.greeting? = none)
    (count : Nat) :
    pursue count gateway = gateway := by
  cases count <;> simp [pursue, free]

/-- Going on with a greeting is nothing but some steps of the gateway. -/
theorem exists_steps_pursue
    (gateway : Gateway)
    (bound : Nat) :
    ∃ count, pursue bound gateway = steps count gateway := by
  induction bound generalizing gateway with
  | zero =>
      exact ⟨0, rfl⟩
  | succ bound inductionHypothesis =>
      cases busy : gateway.greeting? with
      | none =>
          exact ⟨0, pursue_of_free busy _⟩
      | some greeting =>
          cases step : gateway.step? with
          | none =>
              exact ⟨0, by simp [pursue, busy, step, steps]⟩
          | some next =>
              obtain ⟨count, same⟩ := inductionHypothesis next
              exact ⟨count + 1, by simp [pursue, busy, step, steps, same]⟩

/-- Frames are written until the line does not take one or all are written. -/
theorem exists_reaches_pursue
    (notStuck : gateway.stuck = false)
    (lineFree : .worker ∉ gateway.claims)
    {frames : List Frame}
    (begun : gateway.greeting? =
      if frames.isEmpty then none else some { id, begun := true, frames }) :
    ∃ count, gateway.session.mux.line.Reaches count frames.length ∧
      (pursue frames.length gateway).greeting? = none ∧
      (pursue frames.length gateway).session.writtenFrames =
        gateway.session.writtenFrames ++ frames.take count := by
  induction frames generalizing gateway with
  | nil =>
      exact ⟨0, .nothing _, begun, (List.append_nil _).symm⟩
  | cons frame rest inductionHypothesis =>
      let greeting : Greeting := { id, begun := true, frames := frame :: rest }
      have isBegun : gateway.greeting? = some greeting := begun
      have step := step?_of_begun notStuck lineFree isBegun
      have goesOn : pursue (rest.length + 1) gateway =
          pursue rest.length (gateway.write greeting frame rest) := by
        simp only [pursue, isBegun, step, greeting]
      rw [List.length_cons, goesOn]
      cases taken : gateway.session.mux.line.takes 0 with
      | false =>
          obtain ⟨isOver, same⟩ := write_of_notTaken greeting frame rest taken
          rw [pursue_of_free isOver]
          exact ⟨0, .zero_of_notTaken taken _, isOver, same.trans (List.append_nil _).symm⟩
      | true =>
          have wrote := wrote_of_taken greeting frame rest lineFree taken
          obtain ⟨count, reaches, isOver, written⟩ :=
            inductionHypothesis wrote.notStuck wrote.lineFree wrote.left
          refine ⟨count + 1, .succ taken wrote.takes reaches, isOver, ?_⟩
          rw [written, wrote.written, List.append_assoc]
          rfl

/-- A greeting against which nothing stands is written as far as the line lets it. -/
theorem exists_reaches_attend
    (attentive : gateway.Attentive)
    {event : Event}
    (isUp : event.kind = .up)
    (greets : gateway.Greets id event.station text message) :
    ∃ count,
      gateway.session.mux.line.Reaches count (Frame.ofMessage id true message).length ∧
      (gateway.attend (.event id event)).greeting? = none ∧
      (gateway.attend (.event id event)).session.writtenFrames =
        gateway.session.writtenFrames ++ (Frame.ofMessage id true message).take count := by
  let frames := Frame.ofMessage id true message
  let handling := { gateway with greeting? := some { id, frames } }
  let beginning := { gateway with greeting? := some { id, begun := true, frames } }
  obtain ⟨nonempty, _⟩ := Command.nonempty_and_fits greets.encoded
  have begins : handling.step? = some beginning := by
    have isRunning := (LinkTable.state_eq_running_iff _ id).mp greets.running
    obtain ⟨record, found, isUp⟩ := LinkTable.exists_of_isRunning isRunning
    simp [step?, handling, attentive.notStuck, begin, LinkTable.checkRunning, found, isUp,
      beginning]
  have attended : gateway.attend (.event id event) = pursue frames.length beginning := by
    have handled : gateway.handle (.event id event) = handling := handle_of_greets isUp greets
    have goesOn : pursue (frames.length + 1) handling = pursue frames.length beginning := by
      simp only [pursue, begins, handling]
    rw [attend, handled]
    exact goesOn
  have isCut : frames.isEmpty = false :=
    List.isEmpty_eq_false_iff.mpr
      (by simpa [frames, Frame.ofMessage] using Train.cut_ne_nil nonempty)
  have notStuck : beginning.stuck = false := attentive.notStuck
  have lineFree : .worker ∉ beginning.claims := attentive.lineFree
  have begun : beginning.greeting? =
      if frames.isEmpty then none else some { id, begun := true, frames } := by
    rw [isCut]
    rfl
  rw [attended]
  exact exists_reaches_pursue notStuck lineFree begun

/-! ## What the keyset makes of it -/

end Gateway

/-- A greeting is the only thing on the display when it has been applied. -/
theorem Panel.apply_greeting
    (panel : Panel)
    (station text : String) :
    panel.apply (Gateway.greetingCommand station text) =
      { panel with display := ⟨[(0, text.toList)]⟩ } := by
  have written : overwrite [] 0 text.toList = text.toList :=
    placeAll_length [] text.toList
  simp [apply, Gateway.greetingCommand, Command.display, write, erased, written,
    SortedMap.get?, SortedMap.insert, SortedMap.insertEntry, SortedMap.empty]

namespace Reassembler

/-- Every block that is received gives one result. -/
theorem length_pushAll
    (reassembler : Reassembler)
    (blocks : List Block) :
    (reassembler.pushAll blocks).2.length = blocks.length := by
  induction blocks generalizing reassembler with
  | nil =>
      rfl
  | cons block rest inductionHypothesis =>
      exact congrArg Nat.succ (inductionHypothesis _)

/-- No block of a message but the last completes anything. -/
theorem completed_take_cut
    {message : List UInt8}
    (nonempty : message ≠ [])
    (fits : message.length ≤ maxTrainBytes)
    {count : Nat}
    (isBelow : count < (Train.cut message).length) :
    Reception.completed (empty.pushAll ((Train.cut message).take count)).2 = [] := by
  have sized : (empty.pushAll ((Train.cut message).take count)).2.length = count := by
    rw [length_pushAll, List.length_take, Nat.min_eq_left (Nat.le_of_lt isBelow)]
  have others : count ≤ (Train.cut message).length - 1 :=
    Nat.le_sub_one_of_lt isBelow
  have parted := congrArg (fun outcome => outcome.2.take count)
    (pushAll_append empty ((Train.cut message).take count) ((Train.cut message).drop count))
  simp only [List.take_append_drop, pushAll_empty_cut nonempty fits, List.take_left' sized]
    at parted
  rw [← parted, List.take_append_of_le_length (by simpa using others), List.take_replicate]
  simp [Reception.completed]

end Reassembler

/-! ## At the other end -/

namespace Keyset

variable {keyset : Keyset} {command : Command} {message : List UInt8}

/-- A keyset that was between commands applies a whole command and is so again. -/
theorem gather_cut
    (idle : keyset.reassembler = .empty)
    (encoded : command.encode = .ok message) :
    keyset.gather (Train.cut message) =
      { keyset with
        commands := keyset.commands ++ [command.withStation ""]
        panel := keyset.panel.apply (command.withStation "") } := by
  obtain ⟨nonempty, fits⟩ := Command.nonempty_and_fits encoded
  have joined := Reassembler.pushAll_empty_cut nonempty fits
  have commands : Reassembler.empty.commands (Train.cut message) = [command.withStation ""] := by
    simp [Reassembler.commands, joined, Reception.completed_replicate_append, Command.spelled,
      Command.decode_of_encode encoded, Except.toOption]
  simp only [gather, idle, commands, joined, List.foldl_cons, List.foldl_nil]

/-- As long as a command is not complete the keyset applies nothing. -/
theorem gather_take_cut
    (idle : keyset.reassembler = .empty)
    (encoded : command.encode = .ok message)
    {count : Nat}
    (isBelow : count < (Train.cut message).length) :
    (keyset.gather ((Train.cut message).take count)).commands = keyset.commands ∧
      (keyset.gather ((Train.cut message).take count)).panel = keyset.panel := by
  obtain ⟨nonempty, fits⟩ := Command.nonempty_and_fits encoded
  have none : Reassembler.empty.commands ((Train.cut message).take count) = [] := by
    rw [Reassembler.commands, Reassembler.completed_take_cut nonempty fits isBelow]
    rfl
  simp [gather, idle, none]

end Keyset

/-- Where no bytes come in nothing is received. -/
theorem KeysetBank.get?_receiveAll_of_nothing
    {bank : KeysetBank}
    (atStart : bank.decoder = .empty)
    {chunks : List (List UInt8)}
    (nothing : chunks.flatten = [])
    (id : InterfaceId) :
    (bank.receiveAll chunks).keysets.get? id = bank.keysets.get? id := by
  have noFrames : chunks.flatten = ([] : List Frame).flatMap Frame.encode := nothing
  rw [get?_receiveAll_of_cut atStart (List.forall_mem_nil _) noFrames]
  exact Option.map_id'

/-- What a keyset, or any other, receives of some frames of a command on its interface. -/
theorem KeysetBank.get?_receiveAll_of_command
    {bank : KeysetBank}
    (atStart : bank.decoder = .empty)
    {id : InterfaceId}
    {message : List UInt8}
    {count : Nat}
    {chunks : List (List UInt8)}
    (cut : chunks.flatten = ((Frame.ofMessage id true message).take count).flatMap Frame.encode)
    (other : InterfaceId) :
    (bank.receiveAll chunks).keysets.get? other =
      (bank.keysets.get? other).map fun keyset =>
        if other = id then keyset.gather ((Train.cut message).take count) else keyset := by
  let frames := (Frame.ofMessage id true message).take count
  have each : ∀ frame ∈ frames, frame.id = id ∧ frame.clipped = frame ∧
      frame.kind = .data ∧ frame.command = true := by
    intro frame member
    obtain ⟨block, isBlock, rfl⟩ := List.mem_map.mp (List.mem_of_mem_take member)
    have short := Train.length_payload_of_mem_cut isBlock
    exact ⟨rfl, Frame.clipped_of_length_le short, rfl, rfl⟩
  have blocks : frames.map Frame.block = (Train.cut message).take count := by
    rw [List.map_take, Frame.map_block_ofMessage]
  have received : ∀ keyset : Keyset, keyset.receiveAll (frames.filter (·.id = other)) =
      if other = id then keyset.gather ((Train.cut message).take count) else keyset := by
    intro keyset
    by_cases isOwn : other = id
    · have all : frames.filter (·.id = other) = frames :=
        List.filter_eq_self.mpr fun frame member =>
          decide_eq_true ((each frame member).1.trans isOwn.symm)
      rw [all, Keyset.receiveAll_of_commands keyset fun frame member => (each frame member).2.2,
        blocks, if_pos isOwn]
    · have none : frames.filter (·.id = other) = [] :=
        List.filter_eq_nil_iff.mpr fun frame member isOther =>
          isOwn ((of_decide_eq_true isOther).symm.trans (each frame member).1)
      rw [none, if_neg isOwn]
      rfl
  rw [get?_receiveAll_of_cut atStart (fun frame member => (each frame member).2.1) cut]
  simp only [received]

namespace Gateway

variable {gateway : Gateway} {id : InterfaceId}

/-- Nothing happens if something stands against a greeting. -/
theorem attend_of_notGreets
    (attentive : gateway.Attentive)
    {event : Event}
    (notGreets : ¬ ∃ text message, gateway.Greets id event.station text message) :
    gateway.attend (.event id event) = gateway := by
  rw [attend, handle_of_notGreets notGreets]
  exact pursue_of_free attentive.free _

/-- The bytes of a greeting are those of its frames as far as the line takes them. -/
theorem exists_reaches_of_greets
    (attentive : gateway.Attentive)
    {event : Event}
    (isUp : event.kind = .up)
    {text : String}
    {message : List UInt8}
    (greets : gateway.Greets id event.station text message)
    {chunks : List (List UInt8)}
    (written : Loopback.written (gateway.attend (.event id event)).session.journal =
      Loopback.written gateway.session.journal ++ chunks.flatten) :
    ∃ count,
      gateway.session.mux.line.Reaches count (Frame.ofMessage id true message).length ∧
      chunks.flatten = ((Frame.ofMessage id true message).take count).flatMap Frame.encode := by
  obtain ⟨count, reaches, _, frames⟩ := exists_reaches_attend attentive isUp greets
  have bytes : Loopback.written (gateway.attend (.event id event)).session.journal =
      (gateway.session.writtenFrames ++ (Frame.ofMessage id true message).take count).flatMap
        Frame.encode :=
    congrArg (·.flatMap Frame.encode) frames
  rw [List.flatMap_append] at bytes
  exact ⟨count, reaches, List.append_cancel_left (written.symm.trans bytes)⟩

/--
A gateway that deals with nothing else is told that the link to a station has come up, and
what it writes comes in at a bank of keysets, cut in whatever way. If something stands
against a greeting, nothing happens at either end. Otherwise, if the line takes all of its
frames, the keyset of the interface, which was between commands, applies exactly one
command and shows the text on its first display row and nothing else; if it does not, the
keyset applies nothing. No other keyset receives anything.
-/
theorem greeting_reaches_display
    (attentive : gateway.Attentive)
    {event : Event}
    (isUp : event.kind = .up)
    {bank : KeysetBank}
    (atStart : bank.decoder = .empty)
    {keyset : Keyset}
    (found : bank.keysets.get? id = some keyset)
    (wellFormed : keyset.reassembler.WellFormed)
    (idle : keyset.reassembler.isPending = false)
    {chunks : List (List UInt8)}
    (written : Loopback.written (gateway.attend (.event id event)).session.journal =
      Loopback.written gateway.session.journal ++ chunks.flatten) :
    let line := gateway.session.mux.line
    let after := (bank.receiveAll chunks).keysets
    (∃ count, gateway.attend (.event id event) = steps count (gateway.handle (.event id event))) ∧
    (gateway.attend (.event id event)).greeting? = none ∧
    (∀ text message, gateway.Greets id event.station text message →
      let total := (Frame.ofMessage id true message).length
      ((∀ index < total, line.takes index = true) →
        after.get? id = some
          { keyset with
            commands := keyset.commands ++ [greetingCommand "" text]
            panel := { keyset.panel with display := ⟨[(0, text.toList)]⟩ } }) ∧
      ((∃ index < total, line.takes index = false) →
        ∃ other, after.get? id = some other ∧ other.commands = keyset.commands ∧
          other.panel = keyset.panel)) ∧
    ((¬ ∃ text message, gateway.Greets id event.station text message) →
      gateway.attend (.event id event) = gateway ∧ chunks.flatten = [] ∧
        after.get? id = some keyset) ∧
    ∀ other, other ≠ id → after.get? other = bank.keysets.get? other := by
  intro line after
  have isIdle : keyset.reassembler = .empty := wellFormed.eq_empty idle
  refine ⟨exists_steps_pursue _ _, ?_, fun text message greets => ?_, fun notGreets => ?_,
    fun other isOther => ?_⟩
  · by_cases greets : ∃ text message, gateway.Greets id event.station text message
    · obtain ⟨text, message, greets⟩ := greets
      obtain ⟨_, _, isOver, _⟩ := exists_reaches_attend attentive isUp greets
      exact isOver
    · rw [attend_of_notGreets attentive greets]
      exact attentive.free
  · obtain ⟨count, reaches, cut⟩ := exists_reaches_of_greets attentive isUp greets written
    have received : after.get? id = some (keyset.gather ((Train.cut message).take count)) := by
      simpa [found] using KeysetBank.get?_receiveAll_of_command atStart cut id
    have sized : (Frame.ofMessage id true message).length = (Train.cut message).length :=
      List.length_map _
    constructor
    · intro taken
      have isWhole : count = (Frame.ofMessage id true message).length := by
        refine Nat.le_antisymm reaches.notMore (Nat.le_of_not_lt fun isBelow => ?_)
        exact Bool.false_ne_true ((reaches.stops isBelow).symm.trans (taken count isBelow))
      rw [received, List.take_of_length_le (Nat.le_of_eq (sized.symm.trans isWhole.symm)),
        Keyset.gather_cut isIdle greets.encoded]
      exact congrArg some (by rw [← Panel.apply_greeting keyset.panel "" text]; rfl)
    · rintro ⟨index, isBelow, notTaken⟩
      have isPart : count < (Train.cut message).length := by
        rw [← sized]
        refine Nat.lt_of_le_of_lt (Nat.le_of_not_lt fun isEarlier => ?_) isBelow
        exact Bool.false_ne_true (notTaken.symm.trans (reaches.taken index isEarlier))
      exact ⟨_, received, Keyset.gather_take_cut isIdle greets.encoded isPart⟩
  · have same := attend_of_notGreets attentive notGreets
    rw [same] at written
    have nothing : chunks.flatten = [] := List.append_right_eq_self.mp written.symm
    exact ⟨same, nothing, (KeysetBank.get?_receiveAll_of_nothing atStart nothing id).trans found⟩
  · by_cases greets : ∃ text message, gateway.Greets id event.station text message
    · obtain ⟨text, message, greets⟩ := greets
      obtain ⟨count, _, cut⟩ := exists_reaches_of_greets attentive isUp greets written
      simpa [isOther] using KeysetBank.get?_receiveAll_of_command atStart cut other
    · rw [attend_of_notGreets attentive greets] at written
      have nothing : chunks.flatten = [] := List.append_right_eq_self.mp written.symm
      exact KeysetBank.get?_receiveAll_of_nothing atStart nothing other

/-- A station that showed something else is greeted, and the bytes come in one by one. -/
theorem greeting_reaches_busy_display :
    let table := ((LinkTable.ofSettings {}).run
      [.add 1 none 0, .up 1 0, .frame (.ack 1) 3]).1
    let gateway : Gateway :=
      { session := { mux := { Multiplexer.ofSettings {} with table } }, text? := some "hello" }
    let event : Event := { station := "desk", control := "", kind := .up }
    let keyset : Keyset :=
      { settings := .ofId 1, panel := { display := ⟨[(0, ['o', 'l', 'd']), (3, ['x'])]⟩ } }
    let bank : KeysetBank := { keysets := ⟨[(1, keyset)]⟩ }
    let outcome := gateway.attend (.event 1 event)
    let chunks := (Loopback.written outcome.session.journal).map ([·])
    gateway.Attentive ∧ keyset.reassembler.WellFormed ∧
      keyset.reassembler.isPending = false ∧ bank.keysets.get? 1 = some keyset ∧
      Loopback.written outcome.session.journal =
        Loopback.written gateway.session.journal ++ chunks.flatten ∧
      (bank.receiveAll chunks).keysets.get? 1 = some
        { keyset with
          commands := [greetingCommand "" "hello"]
          panel := { keyset.panel with display := ⟨[(0, "hello".toList)]⟩ } } := by
  intro table gateway event keyset bank outcome chunks
  have attentive : gateway.Attentive := ⟨rfl, rfl, List.not_mem_nil⟩
  have written : Loopback.written outcome.session.journal =
      Loopback.written gateway.session.journal ++ chunks.flatten := by
    have noneBefore : Loopback.written gateway.session.journal = [] := rfl
    rw [noneBefore, List.nil_append, ← List.flatMap_def, List.flatMap_singleton']
  have greets : gateway.Greets 1 event.station "hello"
      (commandClass :: Coded.code CommandCode.text :: 7 :: Text.utf8 "display" ++
        [0, 0, Coded.code EraseMode.display] ++ Text.utf8 "hello") :=
    ⟨rfl, rfl, rfl, rfl, rfl⟩
  obtain ⟨_, _, greeted, _⟩ := greeting_reaches_display attentive rfl rfl
    (show bank.keysets.get? 1 = some keyset from rfl) .empty rfl written
  obtain ⟨whenTaken, _⟩ := greeted "hello" _ greets
  exact ⟨attentive, .empty, rfl, rfl, written, whenTaken fun _ _ => rfl⟩

end Gateway

end StationLink
