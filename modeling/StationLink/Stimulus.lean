import StationLink.Line

namespace StationLink

/-!
# Stimuli

What can happen from outside to something that works on a transport and reports
to an owner, whatever it is doing: bytes come in or end, writes begin to fail,
time passes, and the owner takes reports, stops taking them or goes away.
-/

/-- Something that happens from outside. -/
inductive Stimulus where
  /-- Bytes come in. -/
  | receive (bytes : List UInt8)
  /-- Nothing more comes in. -/
  | finish (ending : Ending)
  /-- So many further writes succeed, or all if there is no number. -/
  | limitWrites (limit? : Option Nat)
  /-- Time passes and everything happens when it is due. -/
  | advance (milliseconds : Nat)
  /-- Time leaps and what became due meanwhile happens late. -/
  | jump (milliseconds : Nat)
  /-- The owner stops taking reports as they come. -/
  | hold
  /-- The owner takes all reports again. -/
  | resume
  /-- The owner does not want reports any more. -/
  | abandonReports
  deriving Repr, DecidableEq

end StationLink
