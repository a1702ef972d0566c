namespace StationLink.Text

/-!
# Hexadecimal bytes

Error texts show single bytes as two upper-case hexadecimal digits. Strings of
bytes are written with two lower-case digits a byte; they are read in either
case.
-/

/-- The upper-case hexadecimal digit of a number below sixteen. -/
def hexDigit (value : Nat) : Char :=
  if value < 10 then Char.ofNat (48 + value) else Char.ofNat (55 + value)

/-- A byte as two upper-case hexadecimal digits. -/
def hexByte (byte : UInt8) : String :=
  String.ofList [hexDigit (byte.toNat / 16), hexDigit (byte.toNat % 16)]

/-- The lower-case hexadecimal digit of a number below sixteen. -/
def lowerHexDigit (value : Nat) : Char :=
  (hexDigit value).toLower

/-- Bytes as lower-case hexadecimal digits. -/
def hex (bytes : List UInt8) : String :=
  String.ofList (bytes.flatMap fun byte =>
    [lowerHexDigit (byte.toNat / 16), lowerHexDigit (byte.toNat % 16)])

/-- The number that a hexadecimal digit stands for. -/
def hexValue? (char : Char) : Option Nat :=
  if '0' ≤ char ∧ char ≤ '9' then
    some (char.toNat - 48)
  else if 'a' ≤ char ∧ char ≤ 'f' then
    some (char.toNat - 87)
  else if 'A' ≤ char ∧ char ≤ 'F' then
    some (char.toNat - 55)
  else
    none

/-- The bytes that hexadecimal digits spell, two digits a byte. -/
def ofHexDigits? : List Char → Option (List UInt8)
  | [] => some []
  | [_] => none
  | high :: low :: rest => do
      let high ← hexValue? high
      let low ← hexValue? low
      let bytes ← ofHexDigits? rest
      pure ((high * 16 + low).toUInt8 :: bytes)

/-- The bytes that a hexadecimal text spells. -/
def ofHex? (text : String) : Option (List UInt8) :=
  ofHexDigits? text.toList

end StationLink.Text
