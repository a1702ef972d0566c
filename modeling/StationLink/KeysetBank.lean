import StationLink.Frame.Decoder
import StationLink.Keyset
import StationLink.Stimulus

namespace StationLink

/-!
# Keyset banks

A bank is a number of virtual keysets on one transport. Each frame that comes
in goes to the keyset of its number, and what the keysets have to send goes out
by growing number after every read and after every action. The bank ends when
it is told to, when the transport ends, or when a frame cannot be written.
-/

/-- What a bank reports. -/
inductive BankReport where
  /-- A frame came in, for whichever keyset. -/
  | frame (frame : Frame)
  /-- The link of a keyset came up. -/
  | linkUp (id : InterfaceId)
  /-- The link of a keyset was ended by the other end. -/
  | linkDown (id : InterfaceId)
  /-- A keyset applied a command. -/
  | command (id : InterfaceId) (received : Command)
  deriving Repr, DecidableEq

/-- The report of what a frame did to a keyset. -/
def BankReport.ofUpdate (id : InterfaceId) : KeysetUpdate → BankReport
  | .linkUp => .linkUp id
  | .linkDown => .linkDown id
  | .command received => .command id received

/-- Keysets that share a transport. -/
structure KeysetBank where
  keysets : SortedMap InterfaceId Keyset := .empty
  decoder : FrameDecoder := .empty
  deriving Repr, DecidableEq

namespace KeysetBank

/-- A bank of keysets; of several with one number the last one counts. -/
def ofKeysets (keysets : List Keyset) : KeysetBank where
  keysets := .ofList (keysets.map fun each => (each.id, each))

/-- A bank of keysets that nothing has happened to. -/
def ofSettings (settings : List KeysetSettings) : KeysetBank :=
  ofKeysets (settings.map Keyset.ofSettings)

/-- Deal with one frame. -/
def receiveFrame (bank : KeysetBank) (frame : Frame) : KeysetBank × List BankReport :=
  match bank.keysets.get? frame.id with
  | none => (bank, [.frame frame])
  | some keyset =>
      let (keyset, update?) := keyset.receive frame
      ({ bank with keysets := bank.keysets.insert frame.id keyset },
        .frame frame :: (update?.map (BankReport.ofUpdate frame.id)).toList)

/-- Deal with frames one after another. -/
def receiveFrames (bank : KeysetBank) : List Frame → KeysetBank × List BankReport
  | [] => (bank, [])
  | frame :: rest =>
      let (bank, reports) := bank.receiveFrame frame
      let (bank, others) := bank.receiveFrames rest
      (bank, reports ++ others)

/-- Deal with bytes that were read. -/
def receive (bank : KeysetBank) (bytes : List UInt8) : KeysetBank × List BankReport :=
  let (frames, decoder) := (bank.decoder.push bytes).drain
  { bank with decoder }.receiveFrames frames

/-- Do something with the keyset of a number, if there is one. -/
def perform (bank : KeysetBank) (id : InterfaceId) (action : KeysetAction) : KeysetBank :=
  match bank.keysets.get? id with
  | some keyset => { bank with keysets := bank.keysets.insert id (keyset.perform action) }
  | none => bank

/-- Take the queued frames of all keysets, by growing number. -/
def takeOutput (bank : KeysetBank) : List Frame × KeysetBank :=
  (bank.keysets.values.flatMap (·.output),
    { bank with
      keysets := ⟨bank.keysets.entries.map fun entry => (entry.1, entry.2.takeOutput.2)⟩ })

end KeysetBank

/-- How the work of a bank ended. -/
inductive BankOutcome where
  | stopped
  | readFailed
  | writeFailed
  deriving Repr, DecidableEq

/-- A bank at work on a transport. -/
structure BankSession where
  now : Nat := 0
  bank : KeysetBank
  line : Line := {}
  inbound : Inbound := {}
  outcome? : Option BankOutcome := none
  /-- Reports that the owner has not taken. -/
  waiting : List BankReport := []
  /-- The owner takes reports as they come. -/
  reading : Bool := true
  /-- The owner still wants reports. -/
  hasOwner : Bool := true
  /-- What was observed, latest first. -/
  journal : List (Entry BankReport) := []

namespace BankSession

/-- Note what was observed at this instant. -/
def observe (session : BankSession) (occurrences : List (Occurrence BankReport)) : BankSession :=
  { session with
    journal := occurrences.foldl (fun journal occurrence => ⟨session.now, occurrence⟩ :: journal)
      session.journal }

/-- Report to the owner. -/
def report (session : BankSession) (reports : List BankReport) : BankSession :=
  if ¬ session.hasOwner then
    session
  else if session.reading then
    session.observe (reports.map .reported)
  else
    { session with waiting := session.waiting ++ reports }

/-- The work ends. -/
def stop (session : BankSession) (outcome : BankOutcome) : BankSession :=
  let session := { session with outcome? := some outcome }
  if session.reading ∧ session.hasOwner then
    { session with hasOwner := false }.observe [.ended]
  else
    session

/-- Write frames up to the first that cannot be written. -/
def send (session : BankSession) : List Frame → BankSession
  | [] => session
  | frame :: rest =>
      let (line, attempt) := session.line.write
      let session := { session with line }.observe (attempt.occurrence? frame).toList
      if attempt = .sent then
        session.send rest
      else
        session.stop .writeFailed

/-- Send what the keysets have queued. -/
def flush (session : BankSession) : BankSession :=
  let (frames, bank) := session.bank.takeOutput
  { session with bank }.send frames

/-- Read once, if there is anything to read. -/
def read? (session : BankSession) : Option BankSession :=
  if session.outcome?.isSome then
    none
  else
    match session.inbound.read with
    | (.nothing, _) => none
    | (.bytes bytes, inbound) =>
        let (bank, reports) := session.bank.receive bytes
        some ({ session with inbound, bank }.report reports).flush
    | (.ended .finished, _) => some (session.stop .stopped)
    | (.ended .failed, _) => some (session.stop .readFailed)

/-- Read a number of times at most. -/
def reads : Nat → BankSession → BankSession
  | 0, session => session
  | count + 1, session =>
      match session.read? with
      | some session => reads count session
      | none => session

/-- Read everything that has come in. -/
def settle (session : BankSession) : BankSession :=
  reads (session.inbound.bytes.length + 1) session

/-- Bytes come in. -/
def receive (session : BankSession) (bytes : List UInt8) : BankSession :=
  { session with inbound := session.inbound.push bytes }.settle

/-- Nothing more comes in. -/
def finish (session : BankSession) (ending : Ending) : BankSession :=
  { session with inbound := session.inbound.finish ending }.settle

/-- Do something with a keyset; says whether the bank was still at work. -/
def perform
    (session : BankSession)
    (id : InterfaceId)
    (action : KeysetAction) :
    Bool × BankSession :=
  if session.outcome?.isSome then
    (false, session)
  else
    (true, { session with bank := session.bank.perform id action }.flush)

/-- End the work, unless it has ended; says how it did. -/
def shutdown (session : BankSession) : BankOutcome × BankSession :=
  match session.outcome? with
  | some outcome => (outcome, session)
  | none => (.stopped, session.stop .stopped)

/-- The owner stops taking reports as they come. -/
def hold (session : BankSession) : BankSession :=
  { session with reading := false }

/-- The owner takes the waiting reports and from now on all others as they come. -/
def resume (session : BankSession) : BankSession :=
  if session.reading ∨ ¬ session.hasOwner then
    { session with reading := true }
  else
    let resumed :=
      { session with waiting := [], reading := true }.observe (session.waiting.map .reported)
    if session.outcome?.isSome then
      { resumed with hasOwner := false }.observe [.ended]
    else
      resumed

/-- The owner does not want reports any more. -/
def abandonReports (session : BankSession) : BankSession :=
  { session with waiting := [], hasOwner := false }

/-- Something happens from outside; time means nothing to a bank. -/
def undergo (session : BankSession) : Stimulus → BankSession
  | .receive bytes => session.receive bytes
  | .finish ending => session.finish ending
  | .limitWrites limit? => { session with line := session.line.limit limit? }
  | .advance milliseconds => { session with now := session.now + milliseconds }
  | .jump milliseconds => { session with now := session.now + milliseconds }
  | .hold => session.hold
  | .resume => session.resume
  | .abandonReports => session.abandonReports

end BankSession

end StationLink
