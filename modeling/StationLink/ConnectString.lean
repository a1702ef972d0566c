import StationLink.Text.Blank
import StationLink.Text.Quoted

namespace StationLink

/-!
# Connect strings

A connect string names the transport that leads to the link:

- `tcp:host:port`, where the host may stand in brackets;
- `serial:path` or `serial:path@baud`;
- `loopback`, virtual keysets instead of a link.

Blanks around a connect string do not count. `Transport.parse` is exact about
which of several faults it reports.
-/

/-- The speed of a serial line for which none is given. -/
def defaultBaud : Nat := 9600

/-- A transport that leads to the link. -/
inductive Transport where
  | tcp (host : String) (port : Nat)
  | serial (path : String) (baud : Nat)
  | loopback
  deriving Repr, DecidableEq

/-- A part of a connect string that may not be empty. -/
inductive TransportPart where
  | host
  | serialPath
  deriving Repr, DecidableEq

/-- The name of a part in error texts. -/
def TransportPart.name : TransportPart → String
  | .host => "host"
  | .serialPath => "serial path"

/-- Why a connect string names no transport. -/
inductive TransportError where
  | unknownScheme (text : String)
  | missingPort (text : String)
  | invalidPort (text : String)
  | invalidBaud (text : String)
  | empty (part : TransportPart)
  deriving Repr, DecidableEq

/-- The wording of a transport error. -/
def TransportError.text : TransportError → String
  | .unknownScheme text => "unknown transport scheme in " ++ Text.quote text
  | .missingPort text => "missing port in " ++ Text.quote text
  | .invalidPort text => "invalid port in " ++ Text.quote text
  | .invalidBaud text => "invalid baud rate in " ++ Text.quote text
  | .empty part => "empty " ++ part.name ++ " in transport string"

namespace Transport

/-- What follows a beginning, if a text has it. -/
def behind? : List Char → List Char → Option (List Char)
  | [], text => some text
  | start :: beginning, char :: text => if start = char then behind? beginning text else none
  | _ :: _, [] => none

/-- The two sides of the last occurrence of a character. -/
def splitLast? (separator : Char) : List Char → Option (List Char × List Char)
  | [] => none
  | char :: rest =>
      match splitLast? separator rest with
      | some (left, right) => some (char :: left, right)
      | none => if char = separator then some ([], rest) else none

/-- The number below a bound that decimal digits spell, after a plus sign if there is one. -/
def number? (bound : Nat) (text : List Char) : Option Nat :=
  let digits :=
    match text with
    | '+' :: digits => digits
    | digits => digits
  if ¬ digits.isEmpty ∧ digits.all Char.isDigit then
    let value := digits.foldl (fun value digit => value * 10 + (digit.toNat - 48)) 0
    if value < bound then some value else none
  else
    none

/-- A host without the brackets around it. -/
def unbracket (host : List Char) : List Char :=
  Text.dropTrailing (· == ']') (host.dropWhile (· == '['))

/-- The TCP transport that stands behind its scheme in a connect string. -/
def parseTcp (whole : String) (text : List Char) : Except TransportError Transport :=
  match splitLast? ':' text with
  | none => .error (.missingPort whole)
  | some (left, right) =>
      let host := unbracket left
      if host.isEmpty then
        .error (.empty .host)
      else
        match number? 0x10000 right with
        | some port => .ok (.tcp (String.ofList host) port)
        | none => .error (.invalidPort whole)

/-- The serial transport that stands behind its scheme in a connect string. -/
def parseSerial (whole : String) (text : List Char) : Except TransportError Transport :=
  let ofPath (path : List Char) (baud : Nat) : Except TransportError Transport :=
    if path.isEmpty then .error (.empty .serialPath) else .ok (.serial (String.ofList path) baud)
  match splitLast? '@' text with
  | none => ofPath text defaultBaud
  | some (path, right) =>
      match number? 0x100000000 right with
      | some baud => ofPath path baud
      | none => .error (.invalidBaud whole)

/-- The transport that a connect string names. -/
def parse (text : String) : Except TransportError Transport :=
  let trimmed := Text.trim text.toList
  let whole := String.ofList trimmed
  if whole = "loopback" then
    .ok .loopback
  else
    match behind? "tcp:".toList trimmed with
    | some rest => parseTcp whole rest
    | none =>
        match behind? "serial:".toList trimmed with
        | some rest => parseSerial whole rest
        | none => .error (.unknownScheme whole)

end Transport

end StationLink
