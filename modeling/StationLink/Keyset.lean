import StationLink.Frame
import StationLink.Keyset.Panel
import StationLink.Message.Reader

namespace StationLink

/-!
# Keysets

A virtual keyset is the far end of an interface. It answers probes, puts
command trains together and applies them to its panel, and sends events when
somebody uses it. Frames that it has to send are queued in `output`.
-/

/-- How a keyset is set up. -/
structure KeysetSettings where
  /-- The interface that the keyset answers on. -/
  id : InterfaceId
  name : String
  /-- The logical channel named in its probes. -/
  channel : UInt8
  /-- Whether it answers probes. -/
  answerProbes : Bool
  deriving Repr, DecidableEq

/-- The set-up of a keyset about which nothing was chosen. -/
def KeysetSettings.ofId (id : InterfaceId) : KeysetSettings where
  id
  name := s!"station{id}"
  channel := 1
  answerProbes := true

/-- What a received frame did to a keyset. -/
inductive KeysetUpdate where
  /-- The link came up. -/
  | linkUp
  /-- The link was ended. -/
  | linkDown
  /-- A complete command arrived and was applied. -/
  | command (received : Command)
  deriving Repr, DecidableEq

/-- A virtual keyset. -/
structure Keyset where
  settings : KeysetSettings
  linked : Bool := false
  reassembler : Reassembler := .empty
  /-- Frames waiting to be sent. -/
  output : List Frame := []
  /-- The commands received, in order. -/
  commands : List Command := []
  panel : Panel := {}
  deriving Repr, DecidableEq

/-- Something that somebody does with a keyset. -/
inductive KeysetAction where
  /-- Send an event as it is. -/
  | inject (event : Event)
  /-- Press and release a button. -/
  | press (control : String)
  /-- Dial digits. -/
  | dial (digits : String)
  /-- Lift or replace the handset. -/
  | hook (lifted : Bool)
  /-- Begin or cease to answer probes. -/
  | answer (answering : Bool)
  /-- Probe the link from this end. -/
  | probe
  /-- End the link from this end. -/
  | disconnect
  deriving Repr, DecidableEq

namespace Keyset

/-- A keyset that nothing has happened to. -/
def ofSettings (settings : KeysetSettings) : Keyset := { settings }

/-- The interface that the keyset answers on. -/
def id (keyset : Keyset) : InterfaceId :=
  keyset.settings.id

/-- Queue frames. -/
def queue (keyset : Keyset) (frames : List Frame) : Keyset :=
  { keyset with output := keyset.output ++ frames }

/-- Queue the train of an event, unless the event cannot be sent. -/
def inject (keyset : Keyset) (event : Event) : Except EncodeError Keyset :=
  event.encode.map fun message => keyset.queue (Frame.ofMessage keyset.id false message)

/-- The train of an event at a control; none of an event that cannot be sent. -/
def train (keyset : Keyset) (control : String) (kind : EventKind) : List Frame :=
  match ({ station := "", control, kind } : Event).encode with
  | .ok message => Frame.ofMessage keyset.id false message
  | .error _ => []

/-- Queue the train of an event at a control. -/
def signal (keyset : Keyset) (control : String) (kind : EventKind) : Keyset :=
  keyset.queue (keyset.train control kind)

/-- Press and release a button. -/
def press (keyset : Keyset) (control : String) : Keyset :=
  (keyset.signal control .keyPress).signal control .keyRelease

/-- Dial the bytes of a text. -/
def dial (keyset : Keyset) (digits : String) : Keyset :=
  keyset.queue
    ((Text.utf8 digits).flatMap fun digit =>
      keyset.train "" (.padPress digit) ++ keyset.train "" (.padRelease digit))

/-- Lift the handset, which stops the ringer. -/
def liftHandset (keyset : Keyset) : Keyset :=
  { keyset with panel := { keyset.panel with ringing? := none } }.signal "" .offHook

/-- Replace the handset. -/
def replaceHandset (keyset : Keyset) : Keyset :=
  keyset.signal "" .onHook

/-- Begin or cease to answer probes. -/
def setAnswering (keyset : Keyset) (answering : Bool) : Keyset :=
  { keyset with settings := { keyset.settings with answerProbes := answering } }

/-- Probe the link from this end. -/
def probe (keyset : Keyset) : Keyset :=
  keyset.queue [.probe keyset.id keyset.settings.channel]

/-- End the link from this end. -/
def disconnect (keyset : Keyset) : Keyset :=
  { keyset with linked := false, reassembler := .empty }.queue [.disconnect keyset.id]

/-- Do something with a keyset. -/
def perform (keyset : Keyset) : KeysetAction → Keyset
  | .inject event =>
      match keyset.inject event with
      | .ok keyset => keyset
      | .error _ => keyset
  | .press control => keyset.press control
  | .dial digits => keyset.dial digits
  | .hook lifted => if lifted then keyset.liftHandset else keyset.replaceHandset
  | .answer answering => keyset.setAnswering answering
  | .probe => keyset.probe
  | .disconnect => keyset.disconnect

/-- Apply a command to the panel. -/
def apply (keyset : Keyset) (command : Command) : Keyset :=
  { keyset with panel := keyset.panel.apply command }

/-- The link is up. -/
def linkUp (keyset : Keyset) : Keyset × Option KeysetUpdate :=
  ({ keyset with linked := true }, if keyset.linked then none else some .linkUp)

/-- Deal with a complete message. -/
def receiveMessage (keyset : Keyset) (message : List UInt8) : Keyset × Option KeysetUpdate :=
  match Command.decode message with
  | .ok command =>
      ({ keyset.apply command with commands := keyset.commands ++ [command] },
        some (.command command))
  | .error _ => (keyset, none)

/-- Deal with a frame received from the other end. -/
def receive (keyset : Keyset) (frame : Frame) : Keyset × Option KeysetUpdate :=
  match frame.kind with
  | .probe =>
      if keyset.settings.answerProbes then
        (keyset.queue [.ack keyset.id]).linkUp
      else
        (keyset, none)
  | .ack => keyset.linkUp
  | .disconnect =>
      ({ keyset with linked := false, reassembler := .empty },
        if keyset.linked then some .linkDown else none)
  | .data =>
      if frame.command then
        let (reassembler, result) := keyset.reassembler.push frame.block
        let keyset := { keyset with reassembler }
        match result with
        | .ok (some message) => keyset.receiveMessage message
        | .ok none => (keyset, none)
        | .error _ => (keyset, none)
      else
        (keyset, none)

theorem id_receive
    (keyset : Keyset)
    (frame : Frame) :
    (keyset.receive frame).1.id = keyset.id := by
  unfold receive
  cases frame.kind with
  | probe =>
      simp only
      split <;> rfl
  | ack | disconnect =>
      rfl
  | data =>
      simp only
      split
      · split
        · unfold receiveMessage
          split <;> rfl
        · rfl
        · rfl
      · rfl

theorem output_receiveMessage
    (keyset : Keyset)
    (message : List UInt8) :
    (keyset.receiveMessage message).1.output = keyset.output := by
  unfold receiveMessage
  split <;> rfl

/-- Only a probe has a keyset queue something, and that is a single frame. -/
theorem output_receive
    (keyset : Keyset)
    (frame : Frame) :
    (keyset.receive frame).1.output =
      keyset.output ++
        if frame.kind = .probe ∧ keyset.settings.answerProbes = true then
          [.ack keyset.id]
        else
          [] := by
  unfold receive
  cases kind : frame.kind with
  | probe =>
      simp only [true_and]
      split
      · rfl
      · exact (List.append_nil _).symm
  | ack | disconnect =>
      exact (List.append_nil _).symm
  | data =>
      have notProbe : ¬ (FrameKind.data = .probe ∧ keyset.settings.answerProbes = true) :=
        fun answered => nomatch answered.1
      rw [if_neg notProbe, List.append_nil]
      simp only
      split
      · split
        · exact output_receiveMessage _ _
        · rfl
        · rfl
      · rfl

/-- Take the queued frames. -/
def takeOutput (keyset : Keyset) : List Frame × Keyset :=
  (keyset.output, { keyset with output := [] })

end Keyset

end StationLink
