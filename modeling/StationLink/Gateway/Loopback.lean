import StationLink.Gateway
import StationLink.KeysetBank

namespace StationLink

/-!
# Loopback

In loopback there is no link: the line of the session leads to a bank of
virtual keysets, one for each configured interface. What either side writes
comes in on the other at the same instant.

The way from the bank to the session has room for `pipeSize` bytes. When there
is no room the bank waits with the rest of what it has to write, and until it is
rid of that it neither reads nor does what is asked of its keysets. When one
side has ended, the other reads what is left and then the end, and whatever it
writes is refused.
-/

/-- How many unread bytes the way from the bank to the session can hold. -/
def pipeSize : Nat := 65536

/-- A session and the keysets at the other end of its line. -/
structure Loopback where
  session : Session
  bank : BankSession
  /-- What the bank is about to write, waiting for room. -/
  outgoing : List UInt8 := []
  /-- What the keysets were asked to do while the bank was writing. -/
  requests : List (InterfaceId × KeysetAction) := []
  /-- What was observed of the session, latest first. -/
  journal : List (Entry Report) := []

namespace Loopback

/-- The keyset behind a configured interface. -/
def keysetSettings (settings : InterfaceSettings) : KeysetSettings :=
  let standard := KeysetSettings.ofId settings.id
  { standard with
    channel := settings.channel
    name := settings.hardwareName?.getD standard.name }

/-- What a write is blamed on that is refused because the other side has ended. -/
def refusal : String := "broken pipe"

/-- A loopback that nothing has happened to. -/
def ofSettings (settings : GatewaySettings) : Loopback where
  session := (Session.ofMultiplexer (Gateway.multiplexer settings)).setLine ({ · with refusal })
  bank :=
    { bank := .ofSettings (settings.interfaces.map keysetSettings)
      line := { refusal }
      hasOwner := false }

/-- The bytes of the frames that were written, in order. -/
def written {ρ : Type} (journal : List (Entry ρ)) : List UInt8 :=
  (journal.reverse.filterMap fun entry => entry.occurrence.sent?).flatMap Frame.encode

/-- Whether the session has let go of its transport. -/
def sessionGone (loopback : Loopback) : Bool :=
  loopback.session.worker = .stopped && !loopback.session.mux.line.attached

/-- What the session wrote comes in at the bank. -/
def forward (loopback : Loopback) : Loopback :=
  let session := loopback.session
  let inbound := loopback.bank.inbound.push (written session.journal)
  let inbound := if session.mux.line.attached then inbound else inbound.finish .finished
  { loopback with
    session := { session with journal := [] }
    bank := { loopback.bank with now := session.now, inbound }
    journal := session.journal ++ loopback.journal }

/-- The bank has done something; what its keysets have to say is about to be written. -/
def setBank (loopback : Loopback) (bank : BankSession) : Loopback :=
  { loopback with
    bank := { bank with journal := [] }
    outgoing := loopback.outgoing ++ written bank.journal }

/-- The bank writes as much as there is room for; it gives up if there will never be room. -/
def write? (loopback : Loopback) : Option Loopback :=
  let session := loopback.session
  match pipeSize - session.inbound.bytes.length with
  | 0 =>
      if loopback.sessionGone then
        some { loopback with bank := loopback.bank.stop .writeFailed, outgoing := [] }
      else
        none
  | room =>
      some
        { loopback with
          session :=
            { session with inbound := session.inbound.push (loopback.outgoing.take room) }
          outgoing := loopback.outgoing.drop room }

/-- The bank does the next thing that it can do. -/
def bankTurn? (loopback : Loopback) : Option Loopback :=
  if loopback.bank.outcome?.isSome then
    none
  else if ¬ loopback.outgoing.isEmpty then
    loopback.write?
  else
    match loopback.requests with
    | (id, action) :: requests =>
        some ({ loopback with requests }.setBank (loopback.bank.perform id action).2)
    | [] => loopback.bank.read?.map loopback.setBank

/-- The bank does a number of things at most. -/
def bankTurns : Nat → Loopback → Loopback
  | 0, loopback => loopback
  | count + 1, loopback =>
      match loopback.bankTurn? with
      | some loopback => bankTurns count loopback
      | none => loopback

/-- How many bytes, requests and entries have not been dealt with. -/
def load (loopback : Loopback) : Nat :=
  let session := loopback.session
  loopback.outgoing.length + loopback.requests.length + loopback.bank.inbound.bytes.length
    + session.inbound.bytes.length + session.journal.length

/-- The session learns it when the bank has ended. -/
def announce (loopback : Loopback) : Loopback :=
  if loopback.bank.outcome?.isSome then
    let session := loopback.session.setLine (·.failAfter 0)
    { loopback with session := { session with inbound := session.inbound.finish .finished } }
  else
    loopback

/-- Let bank and session go on in turns, a number of times at most. -/
def exchange : Nat → Loopback → Loopback
  | 0, loopback => loopback
  | count + 1, loopback =>
      let loopback := { loopback with session := loopback.session.settle }.forward
      match loopback.bankTurn? with
      | some next => exchange count (bankTurns (2 * loopback.load) next).announce
      | none => loopback

/-- Everything happens that can happen without time passing. -/
def settle (loopback : Loopback) : Loopback :=
  exchange (loopback.load + 8) loopback

/-- How time passes in a loopback. -/
def clock : Clock Loopback where
  alarm? loopback := loopback.session.alarm?
  runAt now loopback := { loopback with session := { loopback.session with now } }.settle

/-- Time passes and everything happens when it is due. -/
def advance (loopback : Loopback) (milliseconds : Nat) : Loopback :=
  let now := loopback.session.now
  clock.advance now (now + milliseconds) loopback

/-- Time leaps and what became due meanwhile happens late. -/
def jump (loopback : Loopback) (milliseconds : Nat) : Loopback :=
  clock.runAt (loopback.session.now + milliseconds) loopback

/-- Do something with the session. -/
def setSession (loopback : Loopback) (session : Session) : Loopback :=
  { loopback with session }.settle

/-- Something happens from outside. What comes in and which writes succeed is up to the
keysets alone, so that nothing else can come in, end or fail. -/
def undergo (loopback : Loopback) : Stimulus → Loopback
  | .advance milliseconds => loopback.advance milliseconds
  | .jump milliseconds => loopback.jump milliseconds
  | .hold => loopback.setSession loopback.session.hold
  | .resume => loopback.setSession loopback.session.resume
  | .abandonReports => loopback.setSession loopback.session.abandonReports
  | .receive _ => loopback
  | .finish _ => loopback
  | .limitWrites _ => loopback

/-- Do something with a keyset; says whether the bank was still at work. -/
def perform
    (loopback : Loopback)
    (id : InterfaceId)
    (action : KeysetAction) :
    Bool × Loopback :=
  if loopback.bank.outcome?.isSome then
    (false, loopback)
  else
    (true, { loopback with requests := loopback.requests ++ [(id, action)] }.settle)

/-- End the work of the bank; says how it ended. -/
def shutdownBank (loopback : Loopback) : BankOutcome × Loopback :=
  let (outcome, bank) := loopback.bank.shutdown
  (outcome, { loopback with bank }.announce.settle)

end Loopback

end StationLink
