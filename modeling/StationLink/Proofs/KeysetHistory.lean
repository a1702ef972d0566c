import StationLink.Keyset
import StationLink.Proofs.Reception

namespace StationLink

/-!
# Keysets as replays

Whatever happens to a keyset, the commands it has received are those that the blocks spell
which came in between one end of the link and the next. Apart from the ringer, which
lifting the handset silences, its panel is what these commands make of a new one
(`Keyset.shows_replay`). Probes, answers, events and all that is done with the keyset make
no difference.
-/

/-- Blocks that are received later go on where the earlier ones left off. -/
theorem Reassembler.pushAll_append
    (reassembler : Reassembler)
    (first second : List Block) :
    reassembler.pushAll (first ++ second) =
      (((reassembler.pushAll first).1.pushAll second).1,
        (reassembler.pushAll first).2 ++ ((reassembler.pushAll first).1.pushAll second).2) := by
  induction first generalizing reassembler with
  | nil =>
      rfl
  | cons block rest inductionHypothesis =>
      simp only [List.cons_append, pushAll, inductionHypothesis]

/-- The commands that complete messages spell; what does not spell one is left out. -/
def Command.spelled (messages : List (List UInt8)) : List Command :=
  messages.filterMap fun message => (Command.decode message).toOption

/-- The commands that blocks complete. -/
def Reassembler.commands (reassembler : Reassembler) (blocks : List Block) : List Command :=
  Command.spelled (Reception.completed (reassembler.pushAll blocks).2)

/-- The commands of a longer stretch are those of its parts, received one after the other. -/
theorem Reassembler.commands_append
    (reassembler : Reassembler)
    (first second : List Block) :
    reassembler.commands (first ++ second) =
      reassembler.commands first ++ (reassembler.pushAll first).1.commands second := by
  simp only [commands, Command.spelled, Reception.completed, pushAll_append,
    List.filterMap_append]

/-! ## Panels but for the ringer -/

namespace Panel

/-- The same panel when the ringer is silent. -/
def silenced (panel : Panel) : Panel :=
  { panel with ringing? := none }

/-- Commands show the same whether or not the panel was silenced before. -/
theorem silenced_apply
    (panel : Panel)
    (command : Command) :
    (panel.silenced.apply command).silenced = (panel.apply command).silenced := by
  obtain ⟨station, control, kind⟩ := command
  cases kind <;> rfl

/-- Any commands show the same whether or not the panel was silenced before. -/
theorem silenced_foldl_apply
    (panel : Panel)
    (commands : List Command) :
    (commands.foldl apply panel.silenced).silenced = (commands.foldl apply panel).silenced := by
  induction commands generalizing panel with
  | nil =>
      rfl
  | cons command rest inductionHypothesis =>
      simp only [List.foldl_cons]
      rw [← inductionHypothesis, silenced_apply, inductionHypothesis]

end Panel

namespace Keyset

/-! ## Blocks of commands -/

/-- The keyset after blocks of commands. -/
def gather (keyset : Keyset) (blocks : List Block) : Keyset :=
  { keyset with
    reassembler := (keyset.reassembler.pushAll blocks).1
    commands := keyset.commands ++ keyset.reassembler.commands blocks
    panel := (keyset.reassembler.commands blocks).foldl Panel.apply keyset.panel }

theorem gather_nil
    (keyset : Keyset) :
    keyset.gather [] = keyset := by
  simp [gather, Reassembler.commands, Reassembler.pushAll, Reception.completed, Command.spelled]

/-- Blocks may be gathered in two parts. -/
theorem gather_append
    (keyset : Keyset)
    (first second : List Block) :
    keyset.gather (first ++ second) = (keyset.gather first).gather second := by
  simp only [gather, Reassembler.pushAll_append, Reassembler.commands_append, List.append_assoc,
    List.foldl_append]

/-- A frame of a command is taken for its block. -/
theorem receive_of_command
    (keyset : Keyset)
    {frame : Frame}
    (isData : frame.kind = .data)
    (isCommand : frame.command = true) :
    (keyset.receive frame).1 = keyset.gather [frame.block] := by
  simp only [receive, isData, isCommand, if_true, gather, Reassembler.commands,
    Reassembler.pushAll, Reception.completed, Command.spelled]
  rcases keyset.reassembler.push frame.block with ⟨reassembler, error | message?⟩
  · simp
  · rcases message? with _ | message
    · simp
    · simp only [receiveMessage]
      cases decoded : Command.decode message <;> simp [decoded, apply, Except.toOption]

/-- The keyset after frames that came in one after another. -/
def receiveAll (keyset : Keyset) (frames : List Frame) : Keyset :=
  frames.foldl (fun keyset frame => (keyset.receive frame).1) keyset

/-- Frames may be received in two parts. -/
theorem receiveAll_append
    (keyset : Keyset)
    (first second : List Frame) :
    keyset.receiveAll (first ++ second) = (keyset.receiveAll first).receiveAll second :=
  List.foldl_append

/-- Frames of commands are taken for their blocks. -/
theorem receiveAll_of_commands
    (keyset : Keyset)
    {frames : List Frame}
    (areCommands : ∀ frame ∈ frames, frame.kind = .data ∧ frame.command = true) :
    keyset.receiveAll frames = keyset.gather (frames.map Frame.block) := by
  induction frames generalizing keyset with
  | nil =>
      exact (gather_nil keyset).symm
  | cons frame rest inductionHypothesis =>
      obtain ⟨isData, isCommand⟩ := areCommands frame List.mem_cons_self
      have later : ∀ other ∈ rest, other.kind = .data ∧ other.command = true :=
        fun other member => areCommands other (List.mem_cons_of_mem frame member)
      rw [receiveAll, List.foldl_cons, receive_of_command keyset isData isCommand,
        ← receiveAll, inductionHypothesis _ later, ← gather_append]
      rfl

/-! ## Histories -/

/-- Something that happens to a keyset. -/
inductive Happening where
  /-- A frame came in. -/
  | received (frame : Frame)
  /-- Somebody did something with it. -/
  | did (action : KeysetAction)
  /-- So many of its frames were taken to be sent. -/
  | taken (count : Nat)

namespace Happening

/-- The link is ended, from either end. -/
def endsLink : Happening → Bool
  | .received frame => frame.kind = .disconnect
  | .did action => action = .disconnect
  | .taken _ => false

/-- The block of a command, if one came in. -/
def block? : Happening → Option Block
  | .received frame => if frame.kind = .data ∧ frame.command then some frame.block else none
  | .did _ => none
  | .taken _ => none

end Happening

/-- What a happening makes of a keyset. -/
def undergo (keyset : Keyset) : Happening → Keyset
  | .received frame => (keyset.receive frame).1
  | .did action => keyset.perform action
  | .taken count => { keyset with output := keyset.output.drop count }

/-- All frames that a bank takes are taken like some. -/
theorem takeOutput_eq_undergo
    (keyset : Keyset) :
    keyset.takeOutput.2 = keyset.undergo (.taken keyset.output.length) := by
  simp [takeOutput, undergo]

def undergoAll (keyset : Keyset) (history : List Happening) : Keyset :=
  history.foldl undergo keyset

/-- The commands that came in, each stretch between two ends of the link by itself. -/
def commandsIn (history : List Happening) : List Command :=
  (history.splitOnP Happening.endsLink).flatMap fun stretch =>
    Reassembler.empty.commands (stretch.filterMap Happening.block?)

/-! ## One happening -/

/-- What was received and what is shown are the same; the ringer may have been silenced. -/
structure SameSight (keyset after : Keyset) : Prop where
  reassembler : after.reassembler = keyset.reassembler
  commands : after.commands = keyset.commands
  panel : after.panel.silenced = keyset.panel.silenced

/-- Keysets that received and show the same are the same to see. -/
theorem sameSight_of_same
    {keyset after : Keyset}
    (reassembler : after.reassembler = keyset.reassembler)
    (commands : after.commands = keyset.commands)
    (panel : after.panel = keyset.panel) :
    keyset.SameSight after :=
  ⟨reassembler, commands, congrArg Panel.silenced panel⟩

/-- Nothing that is done with a keyset changes its sight unless the link is ended. -/
theorem sameSight_perform
    (keyset : Keyset)
    {action : KeysetAction}
    (kept : action ≠ .disconnect) :
    keyset.SameSight (keyset.perform action) := by
  cases action with
  | inject event =>
      simp only [perform, inject]
      cases event.encode <;> exact sameSight_of_same rfl rfl rfl
  | hook lifted =>
      cases lifted <;> exact ⟨rfl, rfl, rfl⟩
  | press | dial | answer | probe =>
      exact sameSight_of_same rfl rfl rfl
  | disconnect =>
      exact (kept rfl).elim

/-- While the link is kept, a keyset is after each happening as it is after its block. -/
theorem sameSight_undergo
    (keyset : Keyset)
    {happening : Happening}
    (kept : happening.endsLink = false) :
    (keyset.gather happening.block?.toList).SameSight (keyset.undergo happening) := by
  have nothing : keyset.gather [] = keyset := gather_nil keyset
  cases happening with
  | received frame =>
      have notDisconnect : frame.kind ≠ .disconnect := of_decide_eq_false kept
      by_cases isCommand : frame.kind = .data ∧ frame.command = true
      · simp only [Happening.block?, if_pos isCommand, Option.toList_some, undergo,
          receive_of_command keyset isCommand.1 isCommand.2]
        exact ⟨rfl, rfl, rfl⟩
      · simp only [Happening.block?, if_neg isCommand, Option.toList_none, undergo, nothing,
          receive]
        cases kind : frame.kind with
        | probe =>
            simp only
            split <;> exact sameSight_of_same rfl rfl rfl
        | ack =>
            exact sameSight_of_same rfl rfl rfl
        | disconnect =>
            exact (notDisconnect kind).elim
        | data =>
            have isEvent : frame.command ≠ true := fun asks => isCommand ⟨kind, asks⟩
            simp only [if_neg isEvent]
            exact sameSight_of_same rfl rfl rfl
  | did action =>
      simp only [Happening.block?, Option.toList_none, nothing]
      exact sameSight_perform keyset (of_decide_eq_false kept)
  | taken count =>
      simp only [Happening.block?, Option.toList_none, nothing]
      exact sameSight_of_same rfl rfl rfl

/-- Ending the link makes a keyset forget the blocks of an unfinished command. -/
theorem sameSight_undergo_of_endsLink
    (keyset : Keyset)
    {happening : Happening}
    (ends : happening.endsLink = true) :
    { keyset with reassembler := .empty : Keyset }.SameSight (keyset.undergo happening) := by
  cases happening with
  | received frame =>
      have isDisconnect : frame.kind = .disconnect := of_decide_eq_true ends
      simp only [undergo, receive, isDisconnect]
      exact sameSight_of_same rfl rfl rfl
  | did action =>
      obtain rfl : action = .disconnect := of_decide_eq_true ends
      exact sameSight_of_same rfl rfl rfl
  | taken count =>
      cases ends

/-! ## Whole histories -/

/-- The commands of stretches of a history, with what is left of a command to begin with. -/
def commandsFrom (reassembler : Reassembler) : List (List Happening) → List Command
  | [] => []
  | stretch :: rest =>
      reassembler.commands (stretch.filterMap Happening.block?) ++ commandsFrom .empty rest

/-- A keyset that begins with no train has the commands of each stretch by itself. -/
theorem commandsFrom_empty
    (stretches : List (List Happening)) :
    commandsFrom .empty stretches =
      stretches.flatMap fun stretch =>
        Reassembler.empty.commands (stretch.filterMap Happening.block?) := by
  induction stretches with
  | nil =>
      rfl
  | cons stretch rest inductionHypothesis =>
      rw [commandsFrom, inductionHypothesis, List.flatMap_cons]

/-- A happening is part of the stretch that it stands in front of. -/
theorem commandsFrom_modifyHead
    (reassembler : Reassembler)
    (happening : Happening)
    {stretches : List (List Happening)}
    (nonempty : stretches ≠ []) :
    commandsFrom reassembler (stretches.modifyHead (happening :: ·)) =
      reassembler.commands happening.block?.toList ++
        commandsFrom (reassembler.pushAll happening.block?.toList).1 stretches := by
  obtain ⟨stretch, rest, rfl⟩ := List.exists_cons_of_ne_nil nonempty
  have joined : (happening :: stretch).filterMap Happening.block? =
      happening.block?.toList ++ stretch.filterMap Happening.block? := by
    cases isBlock : happening.block? <;> simp [isBlock]
  simp only [List.modifyHead_cons, commandsFrom, joined, Reassembler.commands_append,
    List.append_assoc]

/-- A keyset has the commands of the stretches between the disconnects of its history. -/
theorem commands_undergoAll
    (keyset : Keyset)
    (history : List Happening) :
    (keyset.undergoAll history).commands =
      keyset.commands ++
        commandsFrom keyset.reassembler (history.splitOnP Happening.endsLink) := by
  induction history generalizing keyset with
  | nil =>
      exact (List.append_nil _).symm
  | cons happening rest inductionHypothesis =>
      have later := inductionHypothesis (keyset.undergo happening)
      rw [undergoAll, List.foldl_cons, ← undergoAll, later,
        List.splitOnP_cons_eq_if_modifyHead]
      cases ends : happening.endsLink with
      | true =>
          have same := sameSight_undergo_of_endsLink keyset ends
          rw [same.commands, same.reassembler]
          rfl
      | false =>
          have same := sameSight_undergo keyset ends
          rw [same.commands, same.reassembler, if_neg Bool.false_ne_true,
            commandsFrom_modifyHead _ _ (List.splitOnP_ne_nil _ _)]
          exact List.append_assoc _ _ _

/-- A keyset shows what its commands make of a panel. -/
def Shows (keyset : Keyset) (start : Panel) : Prop :=
  keyset.panel.silenced = (keyset.commands.foldl Panel.apply start).silenced

/-- A keyset that looks the same shows the same. -/
theorem Shows.of_sameSight
    {keyset after : Keyset}
    {start : Panel}
    (shows : keyset.Shows start)
    (same : keyset.SameSight after) :
    after.Shows start := by
  rw [Shows, same.panel, same.commands]
  exact shows

/-- A keyset still shows its commands when it has gathered more blocks. -/
theorem Shows.gather
    {keyset : Keyset}
    {start : Panel}
    (shows : keyset.Shows start)
    (blocks : List Block) :
    (keyset.gather blocks).Shows start := by
  simp only [Shows, Keyset.gather, List.foldl_append]
  rw [← Panel.silenced_foldl_apply, shows, Panel.silenced_foldl_apply]

/-- A keyset still shows its commands whatever happens to it. -/
theorem Shows.undergo
    {keyset : Keyset}
    {start : Panel}
    (shows : keyset.Shows start)
    (happening : Happening) :
    (keyset.undergo happening).Shows start := by
  cases ends : happening.endsLink with
  | true =>
      have forgetting : { keyset with reassembler := .empty : Keyset }.Shows start := shows
      exact forgetting.of_sameSight (sameSight_undergo_of_endsLink keyset ends)
  | false =>
      exact (shows.gather _).of_sameSight (sameSight_undergo keyset ends)

/-- A keyset shows its commands after any history. -/
theorem Shows.undergoAll
    {keyset : Keyset}
    {start : Panel}
    (shows : keyset.Shows start)
    (history : List Happening) :
    (keyset.undergoAll history).Shows start := by
  induction history generalizing keyset with
  | nil =>
      exact shows
  | cons happening rest inductionHypothesis =>
      exact inductionHypothesis (shows.undergo happening)

/-- What a keyset shows is what its commands do to the panel. -/
theorem panel_foldl_apply
    (keyset : Keyset)
    (commands : List Command) :
    (commands.foldl apply keyset).panel = commands.foldl Panel.apply keyset.panel := by
  induction commands generalizing keyset with
  | nil =>
      rfl
  | cons command rest inductionHypothesis =>
      exact inductionHypothesis (keyset.apply command)

/--
A keyset has received the commands that came in, each stretch between two ends of the link
by itself. Its lamps, its display, its key labels, its speaker and the use of its keypad
are what applying them in order makes of a new keyset.
-/
theorem shows_replay
    (settings : KeysetSettings)
    (history : List Happening) :
    let keyset := (ofSettings settings).undergoAll history
    let replayed := keyset.commands.foldl apply (ofSettings settings)
    keyset.commands = commandsIn history ∧
      keyset.panel.lamps = replayed.panel.lamps ∧
      keyset.panel.display = replayed.panel.display ∧
      keyset.panel.labels = replayed.panel.labels ∧
      keyset.panel.speakerOn = replayed.panel.speakerOn ∧
      keyset.panel.keypadMode = replayed.panel.keypadMode := by
  intro keyset replayed
  have isNew : (ofSettings settings).Shows {} := rfl
  have shows : keyset.panel.silenced = replayed.panel.silenced := by
    rw [panel_foldl_apply]
    exact isNew.undergoAll history
  have received := commands_undergoAll (ofSettings settings) history
  exact ⟨received.trans (commandsFrom_empty _), (congrArg Panel.lamps shows :),
    (congrArg Panel.display shows :), (congrArg Panel.labels shows :),
    (congrArg Panel.speakerOn shows :), (congrArg Panel.keypadMode shows :)⟩

end Keyset

end StationLink
