import StationLink.Proofs.BrokenTransmissions
import StationLink.Proofs.ControlTraffic

namespace StationLink

/-!
# Two ends of a link

A multiplexer sends messages to a link table over a link that keeps frames in
order and loses none that was written; any write of the sender may fail.

A message whose writing broke off leaves its first blocks behind: the receiver
is not told, and if its end of the link stays up until the sender has trained
again it joins them with the next message of that direction
(`Pair.merged_after_training`). This is all that can happen: whatever the
receiver reports conveys a message that was written whole, behind no more than
the blocks of such messages just before it (`Pair.accounted_and_faithful_run`).
-/

namespace Report

/-- Whether a report is what a message amounts to, whatever the interface is called. -/
def conveys (report : Report) (command : Bool) (message : List UInt8) : Bool :=
  match report, command with
  | .command _ received, true =>
      match Command.decode message with
      | .ok asked => received = asked.withStation received.station
      | .error _ => false
  | .event _ observed, false =>
      observed = (Event.decode message).withStation observed.station
  | _, _ => false

/-- The report conveys a whole message behind what messages just before it have left. -/
def AccountedFor (report : Report) (sent : List Transmission) : Prop :=
  ∃ parts whole, parts ++ [whole] <:+: sent.filter Transmission.isBegun ∧
    (∀ part ∈ parts, ¬ part.IsWhole ∧ part.command = whole.command) ∧ whole.IsWhole ∧
    report.conveys whole.command
      (parts.flatMap Transmission.content ++ whole.message) = true

/-- A report that is accounted for stays so when more is sent. -/
theorem AccountedFor.append
    {report : Report}
    {sent : List Transmission}
    (conveys : report.AccountedFor sent)
    (more : List Transmission) :
    report.AccountedFor (sent ++ more) := by
  rcases conveys with ⟨parts, whole, found, isRest⟩
  refine ⟨parts, whole, ?_, isRest⟩
  rw [List.filter_append]
  exact found.trans (List.prefix_append _ _).isInfix

end Report

namespace LinkTable

/-- Whether an interface may be used. -/
def isEligible (table : LinkTable) (id : InterfaceId) : Bool :=
  (table.get? id).any (·.eligible)

/-- A report conveys the message that it was interpreted from. -/
theorem conveys_of_interpret
    {table : LinkTable}
    {id : InterfaceId}
    {hardwareName : String}
    {command : Bool}
    {message : List UInt8}
    {report : Report}
    (interpreted : table.interpret id hardwareName command message = some report) :
    report.conveys command message = true := by
  unfold interpret at interpreted
  cases command with
  | true =>
      simp only [if_true] at interpreted
      cases decoded : Command.decode message with
      | error error =>
          rw [decoded] at interpreted
          cases interpreted
      | ok asked =>
          simp only [decoded] at interpreted
          split at interpreted
          · cases interpreted
            simp only [Report.conveys, decoded]
            exact decide_eq_true rfl
          · cases interpreted
  | false =>
      simp only [Bool.false_eq_true, if_false] at interpreted
      split at interpreted
      · cases interpreted
        exact decide_eq_true rfl
      · cases interpreted

end LinkTable

namespace Transmission

/-- The transmission that an operation amounted to, if it sends on the interface. -/
def ofOperation?
    (id : InterfaceId)
    (operation : Multiplexer.Operation)
    (journal : List (Occurrence Report)) :
    Option Transmission :=
  match operation.sending? with
  | some (target, sending) =>
      match sending.encode with
      | .ok message =>
          if target = id then
            some
              { command := sending.isCommand
                message
                written := (Multiplexer.written journal).length }
          else
            none
      | .error _ => none
  | none => none

end Transmission

/-! ## The two ends -/

/-- A sender and a receiver, and what is on its way between them. -/
structure Pair where
  sender : Multiplexer
  /-- Frames that were written and have not arrived. -/
  forth : List Frame := []
  receiver : LinkTable
  /-- Frames of the receiver that have not reached the sender. -/
  back : List Frame := []
  /-- What was to be sent on the interface so far. -/
  sent : List Transmission := []
  /-- What the receiver has reported so far. -/
  reported : List Report := []

namespace Pair

/-- Something that happens to a pair. -/
inductive Move where
  /-- The sender does something of its own. -/
  | sender (operation : Multiplexer.Operation)
      (own : ∀ frames now, operation ≠ .receive frames now)
  /-- The next frame arrives at the receiver. -/
  | arrival (now : Nat)
  /-- The receiver does something of its own. -/
  | receiver (operation : LinkTable.Operation) (own : ∀ frame now, operation ≠ .frame frame now)
  /-- The next frame of the receiver reaches the sender. -/
  | answer (now : Nat)

/-- Two ends at which nothing has happened; the owner of the sender takes reports as they come. -/
def onLine (settings : LinkSettings) (line : Line) (others : LinkSettings) : Pair where
  sender := .onLine settings line
  receiver := .ofSettings others

/-- The sender does something; what it writes is underway. -/
def onSender (id : InterfaceId) (pair : Pair) (operation : Multiplexer.Operation) : Pair :=
  let execution := pair.sender.perform operation
  { pair with
    sender := execution.mux
    forth := pair.forth ++ Multiplexer.written execution.journal
    sent := pair.sent ++ (Transmission.ofOperation? id operation execution.journal).toList }

/-- Something happens at the receiver; what it transmits is underway. -/
def onReceiver (pair : Pair) (operation : LinkTable.Operation) : Pair :=
  let (receiver, actions) := pair.receiver.perform operation
  { pair with
    receiver
    back := pair.back ++ Action.frames actions
    reported := pair.reported ++ Action.reports actions }

/-- Make a move; nothing happens if no frame is underway that could arrive. -/
def step (id : InterfaceId) (pair : Pair) : Move → Pair
  | .sender operation _ => pair.onSender id operation
  | .arrival now =>
      match pair.forth with
      | [] => pair
      | frame :: rest => { pair with forth := rest }.onReceiver (.frame frame now)
  | .receiver operation _ => pair.onReceiver operation
  | .answer now =>
      match pair.back with
      | [] => pair
      | frame :: rest => { pair with back := rest }.onSender id (.receive [frame] now)

def run (id : InterfaceId) (pair : Pair) (moves : List Move) : Pair :=
  moves.foldl (step id) pair

/-- Every message that the receiver reports on the interface is one that was sent. -/
def Faithful (id : InterfaceId) (pair : Pair) : Prop :=
  ∀ report ∈ pair.reported, report.id = id → report.linkStatus? = none →
    ∃ transmission ∈ pair.sent,
      report.conveys transmission.command transmission.message = true

/-- The interface of the receiver is eligible from now on until all moves are made. -/
def isEligibleThroughout (id : InterfaceId) (pair : Pair) : List Move → Bool
  | [] => pair.receiver.isEligible id
  | move :: rest =>
      pair.receiver.isEligible id && (pair.step id move).isEligibleThroughout id rest

/--
The second block of a message is not taken by the line. The sender trains again,
and the receiver joins the first block with the next message.
-/
theorem merged_after_training :
    let pair := (onLine {} { accepts := fun number => number != 2 } {}).run 1
      [.receiver (.add 1 none 0) nofun, .receiver (.up 1 0) nofun,
        .sender (.addInterface 1 none 0) nofun]
    let moves :=
      [.sender (.raise 1 0) nofun, .sender (.sweep 0) nofun, .arrival 0, .answer 0,
        .sender (.send 1 false (List.replicate 256 0)) nofun, .arrival 0,
        .sender (.raise 1 0) nofun, .sender (.sweep 0) nofun, .arrival 0, .answer 0,
        .sender (.send 1 false [0x42, 0x07]) nofun, .arrival 0]
    pair.isEligibleThroughout 1 moves = true ∧ ¬ (pair.run 1 moves).Faithful 1 := by
  intro pair moves
  constructor
  · decide +kernel
  · unfold Faithful
    decide +kernel

/-! ## What is underway -/

/-- What is written at a time: a frame without a message, or a transmission. -/
inductive Parcel where
  | control (frame : Frame) (notData : frame.kind ≠ .data)
  | train (transmission : Transmission) (isBegun : transmission.isBegun = true)

namespace Parcel

def frames (id : InterfaceId) : Parcel → List Frame
  | .control frame _ => [frame]
  | .train transmission _ => transmission.blocks.map (Frame.ofBlock id transmission.command)

def train? : Parcel → Option Transmission
  | .control _ _ => none
  | .train transmission _ => some transmission

/-- Control frames are parcels without a train. -/
theorem exists_of_control
    (id : InterfaceId)
    {frames : List Frame}
    (notData : ∀ frame ∈ frames, frame.kind ≠ .data) :
    ∃ parcels : List Parcel,
      parcels.filterMap train? = [] ∧ parcels.flatMap (Parcel.frames id) = frames := by
  induction frames with
  | nil =>
      exact ⟨[], rfl, rfl⟩
  | cons frame rest inductionHypothesis =>
      rcases inductionHypothesis
        (fun frame member => notData frame (List.mem_cons_of_mem _ member)) with
        ⟨parcels, noTrain, isRest⟩
      refine ⟨.control frame (notData frame List.mem_cons_self) :: parcels, noTrain, ?_⟩
      rw [List.flatMap_cons, isRest]
      rfl

/-- A transmission is a parcel if something of it was written, and nothing if not. -/
theorem exists_of_transmission
    (id : InterfaceId)
    (transmission : Transmission) :
    ∃ parcels : List Parcel,
      [transmission].filter Transmission.isBegun = parcels.filterMap train? ∧
      transmission.blocks.map (Frame.ofBlock id transmission.command) =
        parcels.flatMap (Parcel.frames id) := by
  cases isBegun : transmission.isBegun with
  | true =>
      refine ⟨[.train transmission isBegun], ?_, ?_⟩
      · rw [List.filter_cons_of_pos isBegun]
        rfl
      · rw [List.flatMap_singleton]
        rfl
  | false =>
      have nothing : transmission.blocks = [] := by
        simpa only [Transmission.isBegun, Bool.not_eq_false', List.isEmpty_iff] using isBegun
      refine ⟨[], ?_, ?_⟩
      · rw [List.filter_cons_of_neg (Bool.eq_false_iff.mp isBegun)]
        rfl
      · rw [nothing]
        rfl

end Parcel

/-- The frames of an interface among others. -/
def ownFrames (id : InterfaceId) (frames : List Frame) : List Frame :=
  frames.filter fun frame => frame.id = id

/-- The frames of a message are all frames of its own interface. -/
theorem ownFrames_ofMessage_take
    (id other : InterfaceId)
    (command : Bool)
    (message : List UInt8)
    (count : Nat) :
    ownFrames id ((Frame.ofMessage other command message).take count) =
      if other = id then (Frame.ofMessage other command message).take count else [] := by
  have isOwn :
      ∀ frame ∈ (Frame.ofMessage other command message).take count, frame.id = other := by
    intro frame member
    rcases List.mem_map.mp (List.mem_of_mem_take member) with ⟨block, _, isFrame⟩
    rw [← isFrame]
    rfl
  split
  · next same =>
      apply List.filter_eq_self.mpr
      intro frame member
      exact decide_eq_true ((isOwn frame member).trans same)
  · next differs =>
      apply List.filter_eq_nil_iff.mpr
      intro frame member isId
      exact differs ((isOwn frame member).symm.trans (of_decide_eq_true isId))

/-- What was written of a message are the frames of its transmission. -/
theorem frames_of_transmission
    (id : InterfaceId)
    (command : Bool)
    (message : List UInt8)
    (count : Nat) :
    let written := (Frame.ofMessage id command message).take count
    ({ command, message, written := written.length } : Transmission).blocks.map
      (Frame.ofBlock id command) = written := by
  intro written
  have sameLength : written.length = min count (Train.cut message).length := by
    rw [List.length_take, Frame.ofMessage, List.length_map]
  rw [Transmission.blocks, sameLength, ← List.take_eq_take_min, List.map_take]
  rfl

/-- What the sender writes on an interface at a time is made up of parcels. -/
theorem exists_parcels_of_perform
    (id : InterfaceId)
    (mux : Multiplexer)
    (operation : Multiplexer.Operation) :
    ∃ parcels : List Parcel,
      (Transmission.ofOperation? id operation (mux.perform operation).journal).toList.filter
        Transmission.isBegun = parcels.filterMap Parcel.train? ∧
      ownFrames id (Multiplexer.written (mux.perform operation).journal) =
        parcels.flatMap (Parcel.frames id) := by
  cases isSending : operation.sending? with
  | none =>
      have notData : ∀ frame ∈ ownFrames id
          (Multiplexer.written (mux.perform operation).journal), frame.kind ≠ .data := by
        intro frame member
        exact Multiplexer.kind_of_mem_written_perform mux isSending
          (List.mem_filter.mp member).1
      rcases Parcel.exists_of_control id notData with ⟨parcels, noTrain, isWritten⟩
      refine ⟨parcels, ?_, isWritten.symm⟩
      rw [noTrain, Transmission.ofOperation?, isSending]
      rfl
  | some target =>
      rcases target with ⟨other, sending⟩
      rw [Multiplexer.perform_of_sending? mux isSending]
      simp only [Transmission.ofOperation?, isSending]
      cases encoded : sending.encode with
      | error error =>
          have nothing := Multiplexer.written_submit_of_error mux other encoded
          exact ⟨[], rfl, by rw [nothing]; rfl⟩
      | ok message =>
          rcases Multiplexer.written_submit_of_ok mux other encoded with ⟨count, isWritten⟩
          simp only [isWritten, ownFrames_ofMessage_take]
          by_cases same : other = id
          · subst other
            have parcels := Parcel.exists_of_transmission id
              { command := sending.isCommand
                message
                written :=
                  ((Frame.ofMessage id sending.isCommand message).take count).length }
            rw [frames_of_transmission] at parcels
            simp only [if_true]
            exact parcels
          · exact ⟨[], by rw [if_neg same]; rfl, by rw [if_neg same]; rfl⟩

/-! ## One block -/

/-- While an interface runs, what it receives has a property. -/
def Receives (P : Reception → Prop) (table : LinkTable) (id : InterfaceId) : Prop :=
  LinkTable.Holds (fun record => record.running = true → P record.reception) table id

/-- What has to hold of the reception of a link only while it is up is kept. -/
theorem kept_of_reception
    (P : Reception → Prop) :
    LinkRecord.Kept fun record => record.running = true → P record.reception where
  registered := nofun
  renamed := fun has _ _ => has
  shut := nofun
  demoted := nofun

/-- That only what broke off earlier has been gathered lasts through training. -/
theorem trained_of_gathers
    (arrived : List Transmission) :
    LinkRecord.Trained fun record =>
      record.running = true → record.reception.Gathers arrived [] where
  toKept := kept_of_reception fun reception => reception.Gathers arrived []
  hearing := fun has _ => has
  promoted := fun _ _ _ => Reception.gathers_of_empty rfl arrived

/-- What the next block of a transmission does to the receiver. -/
structure TakesBlock
    (after : LinkTable)
    (reports : List Report)
    (id : InterfaceId)
    (arrived : List Transmission)
    (current : Transmission)
    (before : List Block)
    (rest : List Block) : Prop where
  amid :
    rest ≠ [] →
      Receives (fun reception =>
        (reception.turned current.command).Gathers arrived (before.flatMap Block.payload))
        after id
  between :
    rest = [] →
      Receives (fun reception => reception.Gathers (arrived ++ [current]) []) after id
  reports :
    ∀ report ∈ reports, current.IsWhole ∧
      ∃ parts, Transmission.BrokeOff arrived current.command parts ∧
        report.conveys current.command
          (parts.flatMap Transmission.content ++ current.message) = true

/-- A block of the train that is under way is taken as the next one of it. -/
theorem takesBlock_onFrame
    {table : LinkTable}
    {id : InterfaceId}
    {arrived : List Transmission}
    {current : Transmission}
    {before rest : List Block}
    {block : Block}
    (receives :
      Receives (fun reception =>
        (reception.turned current.command).Gathers arrived (before.flatMap Block.payload))
        table id)
    (split : current.blocks = before ++ block :: rest)
    (now : Nat) :
    let outcome := table.onFrame (.ofBlock id current.command block) now
    TakesBlock outcome.1 (Action.reports outcome.2) id arrived current
      (before ++ [block]) rest := by
  intro outcome
  let frame := Frame.ofBlock id current.command block
  cases found : table.get? id with
  | none =>
      have same : outcome = (table, []) := by
        simp only [outcome, LinkTable.onFrame, Frame.ofBlock, found]
      rw [same]
      have nothing : ∀ P, Receives P table id := by
        intro P record isFound
        rw [found] at isFound
        cases isFound
      exact ⟨fun _ => nothing _, fun _ => nothing _,
        fun report isReport => (List.not_mem_nil isReport).elim⟩
  | some record =>
      cases running : record.running with
      | false =>
          have same : outcome = (table.set id (record.hearing now), []) := by
            simp only [outcome, LinkTable.onFrame, Frame.ofBlock, found, running,
              LinkRecord.hearing, Bool.false_eq_true, if_false]
          have isDown : ∀ P, Receives P (table.set id (record.hearing now)) id := by
            intro P
            apply LinkTable.Holds.set
            intro isUp
            cases running.symm.trans isUp
          rw [same]
          exact ⟨fun _ => isDown _, fun _ => isDown _,
            fun report isReport => (List.not_mem_nil isReport).elim⟩
      | true =>
          have advances := (receives record found running).take split
          have isAfter : outcome.1.get? id =
              some ((record.hearing now).receiving
                (record.reception.take current.command block).1) :=
            @LinkTable.get?_onFrame_of_data table frame record rfl found running now
          have isReported : Action.reports outcome.2 =
              ((record.reception.take current.command block).2.bind
                (table.interpret id record.hardwareName current.command)).toList :=
            @LinkTable.reports_onFrame_of_data table frame record rfl found running now
          have holds : ∀ {P : Reception → Prop},
              P (record.reception.take current.command block).1 →
                Receives P outcome.1 id := by
            intro P has after isFound _
            rw [isAfter] at isFound
            cases isFound
            exact has
          constructor
          · intro goesOn
            apply holds
            have ready := Reception.turned_of_same
              (record.reception.take current.command block).1
            rw [advances.command] at ready
            rw [ready]
            exact advances.amid goesOn
          · intro isOver
            exact holds (advances.between isOver)
          · intro report member
            rw [isReported, Option.mem_toList, Option.bind_eq_some_iff] at member
            rcases member with ⟨message, isMessage, interpreted⟩
            rcases advances.completed message isMessage with ⟨isWhole, parts, brokeOff, joined⟩
            refine ⟨isWhole, parts, brokeOff, ?_⟩
            rw [← joined]
            exact LinkTable.conveys_of_interpret interpreted

/-! ## Moves -/

/-- How far the receiver has come with what the sender has written on an interface. -/
inductive Position (id : InterfaceId) (pair : Pair) : Prop where
  /-- All that was written of the transmissions `arrived` has arrived. -/
  | between
      (arrived : List Transmission)
      (parcels : List Parcel)
      (sent :
        pair.sent.filter Transmission.isBegun = arrived ++ parcels.filterMap Parcel.train?)
      (forth : ownFrames id pair.forth = parcels.flatMap (Parcel.frames id))
      (receives : Receives (fun reception => reception.Gathers arrived []) pair.receiver id)
  /-- Some blocks of a transmission are still to arrive. -/
  | amid
      (arrived : List Transmission)
      (current : Transmission)
      (before rest : List Block)
      (parcels : List Parcel)
      (sent :
        pair.sent.filter Transmission.isBegun =
          arrived ++ current :: parcels.filterMap Parcel.train?)
      (split : current.blocks = before ++ rest)
      (remains : rest ≠ [])
      (forth :
        ownFrames id pair.forth =
          rest.map (Frame.ofBlock id current.command) ++ parcels.flatMap (Parcel.frames id))
      (receives :
        Receives (fun reception =>
          (reception.turned current.command).Gathers arrived (before.flatMap Block.payload))
          pair.receiver id)

/-- Every message that the receiver has reported on the interface is accounted for. -/
def Accounted (id : InterfaceId) (pair : Pair) : Prop :=
  ∀ report ∈ pair.reported, report.id = id → report.linkStatus? = none →
    report.AccountedFor pair.sent

/-- What holds after any moves. -/
structure Tracks (id : InterfaceId) (pair : Pair) : Prop where
  position : Position id pair
  accounted : Accounted id pair

/-- Of a longer stretch of frames an interface has its own frames of both parts. -/
theorem ownFrames_append
    (id : InterfaceId)
    (first second : List Frame) :
    ownFrames id (first ++ second) = ownFrames id first ++ ownFrames id second :=
  List.filter_append first second

variable {id : InterfaceId} {pair : Pair}

/-- A position is kept by what neither sends nor receives on the interface. -/
theorem Position.of_same
    (position : Position id pair)
    {after : Pair}
    (sameSent : after.sent = pair.sent)
    (sameFrames : ownFrames id after.forth = ownFrames id pair.forth)
    (stays : ∀ P, Receives P pair.receiver id → Receives P after.receiver id) :
    Position id after := by
  cases position with
  | between arrived parcels sent forth receives =>
      rw [← sameSent] at sent
      exact .between arrived parcels sent (sameFrames.trans forth) (stays _ receives)
  | amid arrived current before rest parcels sent split remains forth receives =>
      rw [← sameSent] at sent
      exact .amid arrived current before rest parcels sent split remains
        (sameFrames.trans forth) (stays _ receives)

/-- Reports that are accounted for may be made to the receiver. -/
theorem Accounted.onReceiver
    (accounted : Accounted id pair)
    {operation : LinkTable.Operation}
    {forth : List Frame}
    (isNew : ∀ report ∈ Action.reports (pair.receiver.perform operation).2,
      report.id = id → report.linkStatus? = none → report.AccountedFor pair.sent) :
    Accounted id ({ pair with forth }.onReceiver operation) := by
  intro report member isAbout isMessage
  rcases List.mem_append.mp member with isOld | isHere
  · exact accounted report isOld isAbout isMessage
  · exact isNew report isHere isAbout isMessage

/-- What the sender writes is underway behind all that was before. -/
theorem Tracks.onSender
    (tracks : Tracks id pair)
    (operation : Multiplexer.Operation) :
    Tracks id (pair.onSender id operation) := by
  rcases exists_parcels_of_perform id pair.sender operation with
    ⟨others, isSent, isWritten⟩
  constructor
  · cases tracks.position with
    | between arrived parcels sent forth receives =>
        refine .between arrived (parcels ++ others) ?_ ?_ receives
        · simp only [Pair.onSender, List.filter_append, sent, isSent, List.filterMap_append,
            List.append_assoc]
        · simp only [Pair.onSender, ownFrames_append, forth, isWritten, List.flatMap_append]
    | amid arrived current before rest parcels sent split remains forth receives =>
        refine .amid arrived current before rest (parcels ++ others) ?_ split remains ?_ receives
        · simp only [Pair.onSender, List.filter_append, sent, isSent, List.filterMap_append,
            List.append_assoc, List.cons_append]
        · simp only [Pair.onSender, ownFrames_append, forth, isWritten, List.flatMap_append,
            List.append_assoc]
  · intro report member isAbout isMessage
    exact (tracks.accounted report member isAbout isMessage).append _

/-- What the receiver does of its own accord lets no message arrive. -/
theorem Tracks.onReceiver
    (tracks : Tracks id pair)
    {operation : LinkTable.Operation}
    (own : ∀ frame now, operation ≠ .frame frame now) :
    Tracks id (pair.onReceiver operation) := by
  constructor
  · refine tracks.position.of_same rfl rfl ?_
    intro P receives
    exact LinkTable.Holds.perform_of_own (kept_of_reception P) receives own
      fun _ _ _ has => has
  · refine tracks.accounted.onReceiver ?_
    intro report isNew _ isMessage
    have areControl := LinkTable.isControl_perform pair.receiver own
    exact (Action.linkStatus?_of_mem_reports areControl isNew isMessage).elim

/-- A frame of another interface leaves everything in its place. -/
theorem Tracks.arrive_of_other
    (tracks : Tracks id pair)
    {frame : Frame}
    {frames : List Frame}
    (underway : pair.forth = frame :: frames)
    (differs : frame.id ≠ id)
    (now : Nat) :
    Tracks id ({ pair with forth := frames }.onReceiver (.frame frame now)) := by
  constructor
  · refine tracks.position.of_same rfl ?_ ?_
    · rw [underway, ownFrames, ownFrames, List.filter_cons_of_neg (by simpa using differs)]
      rfl
    · intro P receives
      exact receives.of_same (LinkTable.get?_onFrame_of_ne _ differs.symm now)
  · refine tracks.accounted.onReceiver ?_
    intro report isNew isAbout _
    exact (differs ((LinkTable.id_of_mem_onFrame isNew).symm.trans isAbout)).elim

/-- A block that arrives brings the train that is under way one block further. -/
theorem Accounted.arrive_of_block
    (accounted : Accounted id pair)
    {arrived : List Transmission}
    {current : Transmission}
    {before rest : List Block}
    {block : Block}
    {parcels : List Parcel}
    {frames : List Frame}
    (sent :
      pair.sent.filter Transmission.isBegun =
        arrived ++ current :: parcels.filterMap Parcel.train?)
    (split : current.blocks = before ++ block :: rest)
    (forth :
      ownFrames id frames =
        rest.map (Frame.ofBlock id current.command) ++ parcels.flatMap (Parcel.frames id))
    (receives :
      Receives (fun reception =>
        (reception.turned current.command).Gathers arrived (before.flatMap Block.payload))
        pair.receiver id)
    (now : Nat) :
    Tracks id
      ({ pair with forth := frames }.onReceiver
        (.frame (.ofBlock id current.command block) now)) := by
  have takes := takesBlock_onFrame receives split now
  constructor
  · by_cases isOver : rest = []
    · subst rest
      refine .between (arrived ++ [current]) parcels ?_ forth (takes.between rfl)
      rw [List.append_assoc]
      exact sent
    · refine .amid arrived current (before ++ [block]) rest parcels sent ?_ isOver forth
        (takes.amid isOver)
      rw [List.append_assoc]
      exact split
  · refine accounted.onReceiver ?_
    intro report isNew _ _
    rcases takes.reports report isNew with ⟨isWhole, parts, brokeOff, conveys⟩
    rcases brokeOff.last with ⟨front, shape⟩
    refine ⟨parts, current, ⟨front, parcels.filterMap Parcel.train?, ?_⟩, ?_, isWhole,
      conveys⟩
    · simp only [sent, ← shape, List.append_assoc, List.singleton_append]
    · intro part isPart
      exact ⟨brokeOff.broken part isPart, brokeOff.sameDirection part isPart⟩

/-- A control frame that arrives between trains leaves the receiver on track. -/
theorem Accounted.arrive_of_control
    (accounted : Accounted id pair)
    {arrived : List Transmission}
    {parcels : List Parcel}
    {frame : Frame}
    {frames : List Frame}
    (sent :
      pair.sent.filter Transmission.isBegun = arrived ++ parcels.filterMap Parcel.train?)
    (forth : ownFrames id frames = parcels.flatMap (Parcel.frames id))
    (notData : frame.kind ≠ .data)
    (receives : Receives (fun reception => reception.Gathers arrived []) pair.receiver id)
    (now : Nat) :
    Tracks id ({ pair with forth := frames }.onReceiver (.frame frame now)) := by
  constructor
  · exact .between arrived parcels sent forth
      (LinkTable.Holds.onFrame_of_control (trained_of_gathers arrived) receives notData now)
  · refine accounted.onReceiver ?_
    intro report isNew _ isMessage
    have areControl := LinkTable.isControl_onFrame pair.receiver notData now
    exact (Action.linkStatus?_of_mem_reports areControl isNew isMessage).elim

/-- A frame of the interface arrives, which is the next of what is underway. -/
theorem Tracks.arrive
    (tracks : Tracks id pair)
    {frame : Frame}
    {frames : List Frame}
    (underway : pair.forth = frame :: frames)
    (now : Nat) :
    Tracks id ({ pair with forth := frames }.onReceiver (.frame frame now)) := by
  by_cases isOwn : frame.id = id
  · have isNext : ownFrames id pair.forth = frame :: ownFrames id frames := by
      rw [underway, ownFrames, List.filter_cons_of_pos (by simpa using isOwn)]
      rfl
    -- What arrives is the first of what is underway, and the position tells what that is.
    cases tracks.position with
    | between arrived parcels sent forth receives =>
        rw [isNext] at forth
        cases parcels with
        | nil =>
            cases forth
        | cons parcel parcels =>
            cases parcel with
            | control control notData =>
                rw [List.flatMap_cons, Parcel.frames, List.singleton_append] at forth
                rcases List.cons.inj forth with ⟨isControl, isRest⟩
                subst control
                have sentSame :
                    pair.sent.filter Transmission.isBegun =
                      arrived ++ parcels.filterMap Parcel.train? := sent
                exact tracks.accounted.arrive_of_control sentSame isRest notData receives now
            | train current isBegun =>
                have someBlocks : current.blocks ≠ [] := by
                  simpa only [Transmission.isBegun, Bool.not_eq_true', List.isEmpty_eq_false_iff]
                    using isBegun
                rcases List.exists_cons_of_ne_nil someBlocks with ⟨block, others, shape⟩
                rw [List.flatMap_cons, Parcel.frames, shape, List.map_cons, List.cons_append]
                  at forth
                rcases List.cons.inj forth with ⟨isBlock, isRest⟩
                subst frame
                have sentCurrent :
                    pair.sent.filter Transmission.isBegun =
                      arrived ++ current :: parcels.filterMap Parcel.train? := sent
                have split : current.blocks = [] ++ block :: others := shape
                -- Before the first block nothing but a turn of direction has to be seen to.
                have turned :
                    Receives (fun reception =>
                      (reception.turned current.command).Gathers arrived
                        (([] : List Block).flatMap Block.payload)) pair.receiver id :=
                  fun record found running =>
                    (receives record found running).turned current.command
                exact tracks.accounted.arrive_of_block sentCurrent split isRest turned now
    | amid arrived current before rest parcels sent split remains forth receives =>
        rcases List.exists_cons_of_ne_nil remains with ⟨block, others, shape⟩
        subst rest
        rw [isNext, List.map_cons, List.cons_append] at forth
        rcases List.cons.inj forth with ⟨isBlock, isRest⟩
        subst frame
        exact tracks.accounted.arrive_of_block sent split isRest receives now
  · exact tracks.arrive_of_other underway isOwn now

/-- Whatever one of the two does, the receiver keeps track of what was sent. -/
theorem Tracks.step
    (tracks : Tracks id pair)
    (move : Move) :
    Tracks id (pair.step id move) := by
  cases move with
  | sender operation own =>
      exact tracks.onSender operation
  | arrival now =>
      simp only [Pair.step]
      cases underway : pair.forth with
      | nil =>
          exact tracks
      | cons frame frames =>
          exact tracks.arrive underway now
  | receiver operation own =>
      exact tracks.onReceiver own
  | answer now =>
      simp only [Pair.step]
      cases pair.back with
      | nil =>
          exact tracks
      | cons frame frames =>
          have waits : Tracks id { pair with back := frames } :=
            ⟨tracks.position.of_same rfl rfl fun _ receives => receives, tracks.accounted⟩
          exact waits.onSender (.receive [frame] now)

/-- The receiver keeps track of what was sent through any moves. -/
theorem Tracks.run
    (tracks : Tracks id pair)
    (moves : List Move) :
    Tracks id (pair.run id moves) := by
  induction moves generalizing pair with
  | nil =>
      exact tracks
  | cons move rest inductionHypothesis =>
      exact inductionHypothesis (tracks.step move)

/-- A pair on a line begins with a receiver that is on track. -/
theorem tracks_onLine
    (id : InterfaceId)
    (settings others : LinkSettings)
    (line : Line) :
    Tracks id (onLine settings line others) := by
  constructor
  · exact .between [] [] rfl rfl (LinkTable.Holds.ofSettings others)
  · nofun

/-- Without messages that broke off nothing is joined to another message. -/
theorem Accounted.faithful
    (accounted : Accounted id pair)
    (unbroken : ∀ transmission ∈ pair.sent,
      transmission.isBegun = true → transmission.IsWhole) :
    pair.Faithful id := by
  intro report member isAbout isMessage
  rcases accounted report member isAbout isMessage with
    ⟨parts, whole, found, broken, _, conveys⟩
  have wereSent : ∀ transmission ∈ parts ++ [whole],
      transmission ∈ pair.sent ∧ transmission.isBegun = true := by
    intro transmission isPart
    exact List.mem_filter.mp (found.subset isPart)
  have noPart : parts = [] := by
    apply List.eq_nil_iff_forall_not_mem.mpr
    intro part isPart
    rcases wereSent part (List.mem_append_left _ isPart) with ⟨wasSent, isBegun⟩
    exact (broken part isPart).1 (unbroken part wasSent isBegun)
  refine ⟨whole, (wereSent whole (List.mem_append_right _ List.mem_cons_self)).1, ?_⟩
  rw [noPart, List.flatMap_nil, List.nil_append] at conveys
  exact conveys

/--
Whatever the receiver reports of messages conveys a message that was written
whole, behind no more than the blocks of messages of the same direction whose
writing broke off just before it; and as long as no writing breaks off after the
first block, it is the whole of a single message that was sent.
-/
theorem accounted_and_faithful_run
    (settings others : LinkSettings)
    (line : Line)
    (id : InterfaceId)
    (moves : List Move) :
    let pair := (onLine settings line others).run id moves
    Accounted id pair ∧
      ((∀ transmission ∈ pair.sent, transmission.isBegun = true → transmission.IsWhole) →
        pair.Faithful id) := by
  intro pair
  have tracks := (tracks_onLine id settings others line).run moves
  exact ⟨tracks.accounted, tracks.accounted.faithful⟩

/-- The first write of a message fails; after training a message of two blocks arrives. -/
theorem faithful_after_refused_message :
    let pair := (onLine {} { accepts := fun number => number != 1 } {}).run 1
      [.receiver (.add 1 none 0) nofun, .receiver (.up 1 0) nofun,
        .sender (.addInterface 1 none 0) nofun,
        .sender (.raise 1 0) nofun, .sender (.sweep 0) nofun, .arrival 0, .answer 0,
        .sender (.send 1 false [0x42, 0x07]) nofun,
        .sender (.raise 1 0) nofun, .sender (.sweep 0) nofun, .arrival 0, .answer 0,
        .sender (.send 1 false (List.replicate 256 0)) nofun, .arrival 0, .arrival 0]
    pair.sent.map Transmission.written = [0, 2] ∧
      pair.reported.map Report.linkStatus? = [some .up, none] ∧ pair.Faithful 1 := by
  intro pair
  have unbroken : ∀ transmission ∈ pair.sent,
      transmission.isBegun = true → transmission.IsWhole := by
    decide +kernel
  refine ⟨?_, ?_, (accounted_and_faithful_run _ _ _ 1 _).2 unbroken⟩
  · decide +kernel
  · decide +kernel

end Pair

end StationLink
