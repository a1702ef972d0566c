import StationLink.Interface
import StationLink.Message.Error

namespace StationLink

/-!
# Link settings

The times and sizes a multiplexer works with. All three intervals have to be
positive, since a timer that is set again for the instant at which it fires
would never let time pass.
-/

/-- Times and sizes of a multiplexer. -/
structure LinkSettings where
  /-- Milliseconds between probes while a link is trained. -/
  retryInterval : Nat := 1000
  /-- Milliseconds between probes on a running link. -/
  keepaliveInterval : Nat := 5000
  /-- Milliseconds of silence after which a running link is lost. -/
  deadInterval : Nat := 15000
  /-- How many reports may wait for the owner. -/
  reportBuffer : Nat := 256
  /-- The logical channel of interfaces registered without one. -/
  defaultChannel : UInt8 := 1
  /-- Buckets of the hardware name index; zero stands for the default. -/
  nameBuckets : Nat := 64
  deriving Repr, DecidableEq

/-- The intervals that settings choose. -/
inductive Interval where
  | retry
  | keepalive
  | dead
  deriving Repr, DecidableEq

/-- The name of an interval in settings. -/
def Interval.settingName : Interval → String
  | .retry => "retry_interval_ms"
  | .keepalive => "keepalive_interval_ms"
  | .dead => "dead_interval_ms"

/-- Why the multiplexer refuses or abandons an operation. -/
inductive LinkError where
  | interfaceNotFound (id : InterfaceId)
  | notRunning (id : InterfaceId)
  | filtered (id : InterfaceId) (hardwareName : String)
  | emptyMessage
  | transportClosed
  | invalidInterval (interval : Interval)
  | noRuntime
  | encode (error : EncodeError)
  | io (reason : String)
  deriving Repr, DecidableEq

/-- The wording of a link error. -/
def LinkError.text : LinkError → String
  | .interfaceNotFound id => s!"interface not found: {id}"
  | .notRunning id => s!"interface {id} is not running"
  | .filtered id hardwareName => s!"commands for {hardwareName} (interface {id}) are filtered"
  | .emptyMessage => "empty message"
  | .transportClosed => "transport closed"
  | .invalidInterval interval =>
      "invalid configuration: " ++ interval.settingName ++ " must be positive"
  | .noRuntime => "no async runtime available for the worker"
  | .encode error => "encode error: " ++ error.text
  | .io reason => s!"I/O error: {reason}"

namespace LinkSettings

/-- The length of an interval. -/
def length (settings : LinkSettings) : Interval → Nat
  | .retry => settings.retryInterval
  | .keepalive => settings.keepaliveInterval
  | .dead => settings.deadInterval

/-- Refuse settings with an interval of zero, naming the first one. -/
def validate (settings : LinkSettings) : Except LinkError Unit :=
  match [Interval.retry, .keepalive, .dead].find? fun interval => settings.length interval == 0 with
  | some interval => .error (.invalidInterval interval)
  | none => .ok ()

theorem validate_eq_ok_iff
    (settings : LinkSettings) :
    settings.validate = .ok () ↔ ∀ interval, 0 < settings.length interval := by
  have every : ∀ interval, interval ∈ [Interval.retry, .keepalive, .dead] := by
    intro interval
    cases interval <;> decide
  unfold validate
  split
  · next interval found =>
      have isZero := List.find?_some found
      simp only [reduceCtorEq, false_iff, Classical.not_forall]
      exact ⟨interval, by simpa using isZero⟩
  · next found =>
      simp only [true_iff]
      intro interval
      have notZero := List.find?_eq_none.mp found interval (every interval)
      simp only [beq_iff_eq] at notZero
      omega

end LinkSettings

end StationLink
