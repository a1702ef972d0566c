import StationLink.Frame

namespace StationLink

/-!
# Lines

A line is the way out of a transport and `Inbound` is what has come in and has
not been read. A line takes a frame as a whole or refuses it; which writes it
refuses is not known beforehand. What happens on a line and what is reported
meanwhile is kept as a list of occurrences.
-/

/-- Something that can be observed at a transport or its owner. -/
inductive Occurrence (ρ : Type) where
  /-- A frame was written. -/
  | sent (frame : Frame)
  /-- A frame could not be written. -/
  | refused (frame : Frame)
  /-- The owner received a report. -/
  | reported (report : ρ)
  /-- The transport was shut down. -/
  | shutdown
  /-- The owner learnt that no more reports will come. -/
  | ended
  deriving Repr, DecidableEq

/-- An occurrence and when it was observed. -/
structure Entry (ρ : Type) where
  time : Nat
  occurrence : Occurrence ρ
  deriving Repr, DecidableEq

namespace Occurrence

variable {ρ : Type}

/-- The frame that was written, if one was. -/
def sent? : Occurrence ρ → Option Frame
  | .sent frame => some frame
  | _ => none

/-- The report that was received, if one was. -/
def reported? : Occurrence ρ → Option ρ
  | .reported report => some report
  | _ => none

/-- Whether it is observed by the owner and not at the transport. -/
def isReport : Occurrence ρ → Bool
  | .reported _ => true
  | .ended => true
  | _ => false

end Occurrence

/-- The way out of a transport. -/
structure Line where
  /-- Whether the write of a given number is taken. -/
  accepts : Nat → Bool := fun _ => true
  /-- How many writes were attempted. -/
  attempts : Nat := 0
  /-- The line has not been given up. -/
  attached : Bool := true
  /-- What a refused write is blamed on. -/
  refusal : String := "write refused"

namespace Line

/-- How an attempt to write ended. -/
inductive Attempt where
  | sent
  | refused
  /-- The line had been given up. -/
  | detached
  deriving Repr, DecidableEq

/-- Try to write one frame. -/
def write (line : Line) : Line × Attempt :=
  if line.attached then
    ({ line with attempts := line.attempts + 1 },
      if line.accepts line.attempts then .sent else .refused)
  else
    (line, .detached)

/-- What can be observed of an attempt to write a frame. -/
def Attempt.occurrence? {ρ : Type} (frame : Frame) : Attempt → Option (Occurrence ρ)
  | .sent => some (.sent frame)
  | .refused => some (.refused frame)
  | .detached => none

/-- Let a given number of further writes succeed and all later ones fail. -/
def failAfter (line : Line) (count : Nat) : Line :=
  { line with accepts := fun number => number < line.attempts + count }

/-- Let all further writes succeed. -/
def recover (line : Line) : Line :=
  { line with accepts := fun _ => true }

/-- Let so many further writes succeed, or all if there is no number. -/
def limit (line : Line) (limit? : Option Nat) : Line :=
  limit?.elim line.recover line.failAfter

end Line

/-- How the way in of a transport ends. -/
inductive Ending where
  | finished
  | failed
  deriving Repr, DecidableEq

/-- What has come in and has not been read. -/
structure Inbound where
  bytes : List UInt8 := []
  ending? : Option Ending := none
  deriving Repr, DecidableEq

namespace Inbound

/-- The most bytes that one read takes. -/
def readSize : Nat := 1024

/-- What one read finds. -/
inductive Found where
  | nothing
  | bytes (bytes : List UInt8)
  | ended (ending : Ending)
  deriving Repr, DecidableEq

/-- Read once: bytes if there are any, else the end if it has been reached. -/
def read (inbound : Inbound) : Found × Inbound :=
  match inbound.bytes with
  | [] =>
      match inbound.ending? with
      | some ending => (.ended ending, inbound)
      | none => (.nothing, inbound)
  | bytes =>
      (.bytes (bytes.take readSize), { inbound with bytes := bytes.drop readSize })

/-- More bytes come in. -/
def push (inbound : Inbound) (bytes : List UInt8) : Inbound :=
  { inbound with bytes := inbound.bytes ++ bytes }

/-- Nothing more comes in; the first ending counts. -/
def finish (inbound : Inbound) (ending : Ending) : Inbound :=
  { inbound with ending? := some (inbound.ending?.getD ending) }

end Inbound

end StationLink
