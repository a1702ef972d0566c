import StationLink.Command
import StationLink.SortedMap

namespace StationLink

/-!
# Keyset panels

The panel is what a person in front of a keyset sees and hears: lamps, display
rows, key labels, ringer, speaker and the use of the keypad. `Panel.apply` is
the effect of a command on it.

Display rows are counted in characters. A write puts its text at a column,
filling up with blanks if the row is too short and keeping what stands behind
the text.
-/

/-- What a keyset presents. -/
structure Panel where
  /-- Lamps that are not off, by control. -/
  lamps : SortedMap String (LampColor × LampMode) := .empty
  /-- Display rows. -/
  display : SortedMap UInt8 (List Char) := .empty
  /-- Labels of soft keys, by slot. -/
  labels : SortedMap UInt8 String := .empty
  ringing? : Option RingPattern := none
  speakerOn : Bool := false
  keypadMode : KeypadMode := .dial
  deriving Repr, DecidableEq

namespace Panel

/-- Put a character at a position of a row, or behind the row if it ends before that. -/
def place (row : List Char) (position : Nat) (character : Char) : List Char :=
  if position < row.length then row.set position character else row ++ [character]

/-- Put characters one after another, from a position on. -/
def placeAll (row : List Char) (position : Nat) : List Char → List Char
  | [] => row
  | character :: rest => placeAll (place row position character) (position + 1) rest

/-- Characters put behind a row are appended to it. -/
theorem placeAll_length
    (row content : List Char) :
    placeAll row row.length content = row ++ content := by
  induction content generalizing row with
  | nil =>
      exact (List.append_nil row).symm
  | cons character rest inductionHypothesis =>
      have appended : place row row.length character = row ++ [character] :=
        if_neg (Nat.lt_irrefl _)
      have later := inductionHypothesis (row ++ [character])
      rw [List.length_append, List.length_singleton] at later
      rw [placeAll, appended, later, List.append_assoc, List.singleton_append]

/-- Write characters over a row at a column; a row that ends before it is filled up first. -/
def overwrite (row : List Char) (column : Nat) (content : List Char) : List Char :=
  placeAll (row ++ List.replicate (column - row.length) ' ') column content

/-- What a write leaves of the display before it puts its text there. -/
def erased
    (display : SortedMap UInt8 (List Char))
    (row : UInt8)
    (column : Nat) :
    EraseMode → SortedMap UInt8 (List Char)
  | .nothing => display
  | .toEndOfLine =>
      match display.get? row with
      | some line => display.insert row (line.take column)
      | none => display
  | .line => display.erase row
  | .display => .empty

/-- Write a text on the display. -/
def write
    (display : SortedMap UInt8 (List Char))
    (row column : UInt8)
    (erase : EraseMode)
    (content : String) :
    SortedMap UInt8 (List Char) :=
  let display := erased display row column.toNat erase
  let line := (display.get? row).getD []
  display.insert row (overwrite line column.toNat content.toList)

/-- The panel after a command. -/
def apply (panel : Panel) (command : Command) : Panel :=
  match command.kind with
  | .led color mode =>
      let lamps :=
        if mode = .off then
          panel.lamps.erase command.control
        else
          panel.lamps.insert command.control (color, mode)
      { panel with lamps }
  | .program slot label => { panel with labels := panel.labels.insert slot label }
  | .text row column erase content =>
      { panel with display := write panel.display row column erase content }
  | .offHook => { panel with speakerOn := true }
  | .onHook => { panel with speakerOn := false }
  | .ring pattern => { panel with ringing? := some pattern }
  | .ringOff => { panel with ringing? := none }
  | .keypadMode mode => { panel with keypadMode := mode }
  | .identify => { panel with lamps := .empty, display := .empty, ringing? := none }
  | .beep _ => panel
  | .timer _ => panel
  | .echo _ => panel
  | .scroll _ => panel

/-- The text on a display row. -/
def row? (panel : Panel) (row : UInt8) : Option String :=
  (panel.display.get? row).map String.ofList

end Panel

end StationLink
