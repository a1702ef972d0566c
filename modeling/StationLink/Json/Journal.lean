import StationLink.Json.Frames
import StationLink.Json.Messages
import StationLink.KeysetBank
import StationLink.Report

namespace StationLink.Json

/-!
# Journals as JSON

An entry of a journal is written as one object: the time in milliseconds and
what was observed. Frames that were written or refused appear as the bytes they
have on the line.
-/

/-- A report of a multiplexer. -/
def reportMembers (report : Report) : Members :=
  [("id", ofWord report.id),
    ("status", ofOptional (fun status => .integer status.number) report.linkStatus?),
    match report with
    | .event _ observed => ("event", ofEvent observed)
    | .command _ received => ("command", ofCommand received)]

/-- A report of a keyset bank. -/
def bankReportMembers : BankReport → Members
  | .frame frame => [("frame", ofFrame frame)]
  | .linkUp id => [("link_up", ofWord id)]
  | .linkDown id => [("link_down", ofWord id)]
  | .command id received => [("id", ofWord id), ("command", ofCommand received)]

/-- What was observed, given how reports are written. -/
def occurrenceMembers {ρ : Type} (members : ρ → Members) : Occurrence ρ → Members
  | .sent frame => [("id", ofWord frame.id), ("tx", ofBytes frame.encode)]
  | .refused frame => [("id", ofWord frame.id), ("failed", ofBytes frame.encode)]
  | .reported report => members report
  | .shutdown => [("shutdown", .boolean true)]
  | .ended => [("end", .boolean true)]

/-- An entry of a journal, given how reports are written. -/
def ofEntry {ρ : Type} (members : ρ → Members) (entry : Entry ρ) : Json :=
  ofMembers (("t", ofNat entry.time) :: occurrenceMembers members entry.occurrence)

end StationLink.Json
