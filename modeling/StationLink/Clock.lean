namespace StationLink

/-!
# Letting time pass

A system that waits names the instant at which it wants to be run again. Time
is moved to each such instant in turn, and at last to the instant aimed at, so
that nothing happens late.
-/

/-- How a system is run as time passes. -/
structure Clock (σ : Type) where
  /-- When the system wants to be run again. -/
  alarm? : σ → Option Nat
  /-- Run the system at an instant until it waits again. -/
  runAt : Nat → σ → σ

namespace Clock

variable {σ : Type}

/-- Let time pass from one instant to a later one. -/
def advance (clock : Clock σ) (time target : Nat) (state : σ) : σ :=
  match clock.alarm? state with
  | some wake =>
      if time < wake ∧ wake ≤ target then
        clock.advance wake target (clock.runAt wake state)
      else
        clock.runAt target state
  | none => clock.runAt target state
termination_by target - time

end Clock

end StationLink
