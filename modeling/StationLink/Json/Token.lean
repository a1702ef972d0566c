import StationLink.Text.Hex

namespace StationLink.Json

/-!
# JSON tokens

`Token.scan` splits JSON text into tokens. White space between tokens is the
four characters that JSON allows. A text token holds its characters, or nothing
if it contains an escaped surrogate without its partner; a raw control
character or an unknown escape is an error.
-/

/-- The smallest meaningful piece of JSON text. -/
inductive Token where
  | beginArray
  | endArray
  | beginObject
  | endObject
  | comma
  | colon
  | null
  | boolean (value : Bool)
  | integer (value : Int)
  | inexact
  | text (content : Option String)
  deriving Repr, DecidableEq

/-- Whether JSON allows a character between tokens. -/
def isBlank (char : Char) : Bool :=
  char == ' ' || char == '\t' || char == '\n' || char == '\r'

/-- The number that four hexadecimal digits stand for. -/
def hexUnit? (first second third fourth : Char) : Option Nat := do
  let first ← Text.hexValue? first
  let second ← Text.hexValue? second
  let third ← Text.hexValue? third
  let fourth ← Text.hexValue? fourth
  pure (((first * 16 + second) * 16 + third) * 16 + fourth)

/-- The character that a one-letter escape stands for. -/
def escaped? : Char → Option Char
  | '"' => some '"'
  | '\\' => some '\\'
  | '/' => some '/'
  | 'b' => some '\x08'
  | 'f' => some '\x0c'
  | 'n' => some '\n'
  | 'r' => some '\r'
  | 't' => some '\t'
  | _ => none

/--
Read a text up to its closing quote. Each character is given by its number;
escaped surrogates stand apart.
-/
def scanText : List Char → Option (List Nat × List Char)
  | [] => none
  | '"' :: rest => some ([], rest)
  | '\\' :: 'u' :: first :: second :: third :: fourth :: rest => do
      let unit ← hexUnit? first second third fourth
      let (units, rest) ← scanText rest
      pure (unit :: units, rest)
  | '\\' :: char :: rest => do
      let char ← escaped? char
      let (units, rest) ← scanText rest
      pure (char.toNat :: units, rest)
  | char :: rest =>
      if char.toNat < 0x20 then
        none
      else do
        let (units, rest) ← scanText rest
        pure (char.toNat :: units, rest)

/-- Join surrogates into characters; none if one has no partner. -/
def joinUnits? : List Nat → Option (List Char)
  | [] => some []
  | unit :: rest =>
      if 0xD800 ≤ unit ∧ unit < 0xDC00 then
        match rest with
        | low :: rest =>
            if 0xDC00 ≤ low ∧ low < 0xE000 then
              (joinUnits? rest).map
                (Char.ofNat (0x10000 + (unit - 0xD800) * 0x400 + (low - 0xDC00)) :: ·)
            else
              none
        | [] => none
      else if 0xDC00 ≤ unit ∧ unit < 0xE000 then
        none
      else
        (joinUnits? rest).map (Char.ofNat unit :: ·)

/-- Whether a character can occur in a number. -/
def isNumeric (char : Char) : Bool :=
  char.isDigit || char == '-' || char == '+' || char == '.' || char == 'e' || char == 'E'

/-- The number that decimal digits stand for. -/
def decimal (digits : List Char) : Nat :=
  digits.foldl (fun value digit => value * 10 + (digit.toNat - 48)) 0

/-- Whether characters are an exponent: a sign at most, then digits. -/
def isExponent : List Char → Bool
  | '+' :: digits => !digits.isEmpty && digits.all Char.isDigit
  | '-' :: digits => !digits.isEmpty && digits.all Char.isDigit
  | digits => !digits.isEmpty && digits.all Char.isDigit

/-- Whether characters may follow the integer digits of a number that is no integer. -/
def isTail : List Char → Bool
  | '.' :: rest =>
      let digits := rest.takeWhile Char.isDigit
      match rest.dropWhile Char.isDigit with
      | [] => !digits.isEmpty
      | char :: exponent => !digits.isEmpty && (char == 'e' || char == 'E') && isExponent exponent
  | 'e' :: exponent => isExponent exponent
  | 'E' :: exponent => isExponent exponent
  | _ => false

/--
The token of a number. A leading zero stands alone, and minus zero counts as a
number that is no integer.
-/
def numberToken? (lexeme : List Char) : Option Token :=
  let negative := lexeme.head? == some '-'
  let unsigned := if negative then lexeme.drop 1 else lexeme
  let digits := unsigned.takeWhile Char.isDigit
  let tail := unsigned.dropWhile Char.isDigit
  if digits.isEmpty || (digits.head? == some '0' && 1 < digits.length) then
    none
  else if tail.isEmpty then
    let value := decimal digits
    if negative then
      some (if value = 0 then .inexact else .integer (-(value : Int)))
    else
      some (.integer value)
  else if isTail tail then
    some .inexact
  else
    none

theorem length_le_of_scanText
    {chars rest : List Char}
    {units : List Nat}
    (found : scanText chars = some (units, rest)) :
    rest.length ≤ chars.length := by
  fun_induction scanText chars generalizing units rest with
  | case1 => cases found
  | case2 => cases found; simp
  | case3 first second third fourth tail induction =>
      simp only [bind, Option.bind_eq_some_iff, pure] at found
      obtain ⟨_, _, ⟨inner, last⟩, scanned, same⟩ := found
      cases same
      have shorter := induction scanned
      simp only [List.length_cons]
      omega
  | case4 char tail _ induction =>
      simp only [bind, Option.bind_eq_some_iff, pure] at found
      obtain ⟨_, _, ⟨inner, last⟩, scanned, same⟩ := found
      cases same
      have shorter := induction scanned
      simp only [List.length_cons]
      omega
  | case5 => cases found
  | case6 char tail _ _ _ _ induction =>
      simp only [bind, Option.bind_eq_some_iff, pure] at found
      obtain ⟨⟨inner, last⟩, scanned, same⟩ := found
      cases same
      have shorter := induction scanned
      simp only [List.length_cons]
      omega

/-- The first token of a text that does not start with white space, and what follows it. -/
def scanOne : List Char → Option (Token × List Char)
  | '[' :: rest => some (.beginArray, rest)
  | ']' :: rest => some (.endArray, rest)
  | '\x7b' :: rest => some (.beginObject, rest)
  | '\x7d' :: rest => some (.endObject, rest)
  | ',' :: rest => some (.comma, rest)
  | ':' :: rest => some (.colon, rest)
  | 'n' :: 'u' :: 'l' :: 'l' :: rest => some (.null, rest)
  | 't' :: 'r' :: 'u' :: 'e' :: rest => some (.boolean true, rest)
  | 'f' :: 'a' :: 'l' :: 's' :: 'e' :: rest => some (.boolean false, rest)
  | '"' :: rest =>
      (scanText rest).map fun (units, rest) =>
        (.text ((joinUnits? units).map String.ofList), rest)
  | char :: rest =>
      if isNumeric char then
        (numberToken? (char :: rest.takeWhile isNumeric)).map
          fun token => (token, rest.dropWhile isNumeric)
      else
        none
  | [] => none

theorem length_lt_of_scanOne
    {chars rest : List Char}
    {token : Token}
    (found : scanOne chars = some (token, rest)) :
    rest.length < chars.length := by
  unfold scanOne at found
  split at found
  case h_10 =>
    simp only [Option.map_eq_some_iff] at found
    obtain ⟨⟨units, last⟩, scanned, same⟩ := found
    cases same
    have shorter := length_le_of_scanText scanned
    simp only [List.length_cons]
    omega
  case h_11 char tail _ _ _ _ _ _ _ _ _ _ =>
    split at found
    · simp only [Option.map_eq_some_iff] at found
      obtain ⟨_, _, same⟩ := found
      cases same
      have suffix := (List.dropWhile_suffix isNumeric (l := tail)).length_le
      simp only [List.length_cons]
      omega
    · cases found
  case h_12 => cases found
  all_goals
    cases found
    simp only [List.length_cons]
    omega

/-- The tokens of a text, unless some piece is not a token. -/
def scan (chars : List Char) : Option (List Token) :=
  match trimmed : chars.dropWhile isBlank with
  | [] => some []
  | start :: tail =>
      match found : scanOne (start :: tail) with
      | none => none
      | some (token, rest) =>
          have : rest.length < chars.length := by
            have shorter := length_lt_of_scanOne found
            have suffix := (List.dropWhile_suffix isBlank (l := chars)).length_le
            rw [trimmed] at suffix
            omega
          (scan rest).map (token :: ·)
termination_by chars.length

end StationLink.Json
