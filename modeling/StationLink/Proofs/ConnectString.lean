import Mathlib.Data.List.Basic
import StationLink.ConnectString

namespace StationLink.Transport

/-!
# What connect strings denote

`Denotes` says which transport a connect string stands for, by the forms that it
can have: a host between any number of brackets and a port, a path with or without
a speed, or the word for virtual keysets. A port or a speed stands behind the last
separator, so that hosts and paths may contain others. What `parse` accepts is just
what denotes a transport once the blanks around it are gone (`parse_eq_ok_iff`), and
a transport that is written in one of the plain forms is read back as it was
(`parse_exact`).
-/

variable {text left right rest host path numeral : List Char} {separator : Char}
  {whole : String} {transport : Transport} {bound value port baud : Nat}

/-! ## Beginnings and separators -/

/-- What stands behind a beginning is the rest of a text that begins so. -/
theorem behind?_eq_some_iff
    {beginning : List Char} :
    behind? beginning text = some rest ↔ text = beginning ++ rest := by
  induction beginning generalizing text with
  | nil =>
      rw [behind?, Option.some_inj, List.nil_append]
  | cons start beginning inductionHypothesis =>
      cases text with
      | nil =>
          simp only [behind?, List.cons_append, reduceCtorEq]
      | cons char text =>
          rw [behind?, List.cons_append, List.cons.injEq]
          by_cases same : start = char
          · rw [if_pos same, inductionHypothesis, and_iff_right same.symm]
          · simp only [if_neg same, Ne.symm same, reduceCtorEq, false_and]

/-- Only a text without the separator cannot be divided by it. -/
theorem splitLast?_eq_none_iff :
    splitLast? separator text = none ↔ separator ∉ text := by
  induction text with
  | nil =>
      simp only [splitLast?, List.not_mem_nil, not_false_eq_true]
  | cons char rest inductionHypothesis =>
      rw [splitLast?, List.mem_cons, not_or, ← inductionHypothesis]
      cases splitLast? separator rest with
      | none =>
          by_cases same : char = separator
          · simp [same]
          · simp [same, Ne.symm same]
      | some sides =>
          simp

/-- A text is split at the one separator behind which there is no other. -/
theorem splitLast?_eq_some_iff :
    splitLast? separator text = some (left, right) ↔
      text = left ++ separator :: right ∧ separator ∉ right := by
  constructor
  · intro found
    induction text generalizing left with
    | nil =>
        cases found
    | cons char rest inductionHypothesis =>
        rw [splitLast?] at found
        -- This character can be the last separator only if there is none in the rest.
        cases later : splitLast? separator rest with
        | some sides =>
            rw [later] at found
            cases found
            obtain ⟨shape, isLast⟩ := inductionHypothesis later
            exact ⟨congrArg (char :: ·) shape, isLast⟩
        | none =>
            rw [later] at found
            by_cases same : char = separator
            · simp only [if_pos same, Option.some.injEq, Prod.mk.injEq] at found
              obtain ⟨rfl, rfl⟩ := found
              exact ⟨congrArg (· :: rest) same, splitLast?_eq_none_iff.mp later⟩
            · simp only [if_neg same, reduceCtorEq] at found
  · rintro ⟨rfl, isLast⟩
    induction left with
    | nil =>
        rw [List.nil_append, splitLast?, splitLast?_eq_none_iff.mpr isLast, if_pos rfl]
    | cons char left inductionHypothesis =>
        rw [List.cons_append, splitLast?, inductionHypothesis]

/-! ## Numerals -/

/-- A sequence of decimal digits that is not empty. -/
structure IsDecimal (digits : List Char) : Prop where
  nonempty : digits ≠ []
  isDigit : ∀ digit ∈ digits, digit.isDigit

/-- The number that a numeral spells, which may have a plus sign and leading zeros. -/
inductive Spells : List Char → Nat → Prop where
  | unsigned {digits : List Char} (decimal : IsDecimal digits) :
      Spells digits (Nat.ofDigitChars 10 digits 0)
  | signed {digits : List Char} (decimal : IsDecimal digits) :
      Spells ('+' :: digits) (Nat.ofDigitChars 10 digits 0)

/-- A text is decimal if it has characters and all of them are digits. -/
theorem isDecimal_iff :
    IsDecimal text ↔ ¬ text.isEmpty ∧ text.all Char.isDigit := by
  rw [List.isEmpty_iff, List.all_eq_true]
  exact ⟨fun decimal => ⟨decimal.nonempty, decimal.isDigit⟩,
    fun ⟨nonempty, isDigit⟩ => ⟨nonempty, isDigit⟩⟩

/-- A plus sign in front of a numeral makes no difference to its value. -/
theorem spells_signed_iff :
    Spells ('+' :: rest) value ↔ IsDecimal rest ∧ Nat.ofDigitChars 10 rest 0 = value := by
  constructor
  · intro spelled
    cases spelled with
    | unsigned decimal =>
        exact absurd (decimal.isDigit '+' List.mem_cons_self) (by decide)
    | signed decimal =>
        exact ⟨decimal, rfl⟩
  · rintro ⟨decimal, rfl⟩
    exact .signed decimal

/-- Digits spell the number that they have as decimal digits. -/
theorem spells_unsigned_iff
    (noSign : ∀ digits, text ≠ '+' :: digits) :
    Spells text value ↔ IsDecimal text ∧ Nat.ofDigitChars 10 text 0 = value := by
  constructor
  · intro spelled
    cases spelled with
    | unsigned decimal =>
        exact ⟨decimal, rfl⟩
    | signed _ =>
        exact (noSign _ rfl).elim
  · rintro ⟨decimal, rfl⟩
    exact .unsigned decimal

/-- The numerals that are read are those of numbers below the bound. -/
theorem number?_eq_some_iff :
    number? bound text = some value ↔ Spells text value ∧ value < bound := by
  unfold number?
  extract_lets digits spelled
  have spells_iff : Spells text value ↔ IsDecimal digits ∧ spelled = value := by
    have isValue : spelled = Nat.ofDigitChars 10 digits 0 := by
      simp only [spelled, Nat.ofDigitChars, Nat.mul_comm]
      rfl
    rw [isValue]
    -- A plus sign is no digit, so a numeral that begins with one is a signed one.
    simp only [digits]
    split
    · exact spells_signed_iff
    · next noSign =>
        exact spells_unsigned_iff noSign
  rw [spells_iff, isDecimal_iff]
  by_cases decimal : ¬ digits.isEmpty ∧ digits.all Char.isDigit
  · rw [if_pos decimal, and_iff_right decimal, Option.ite_none_right_eq_some, Option.some.injEq]
    constructor
    · rintro ⟨inRange, rfl⟩
      exact ⟨rfl, inRange⟩
    · rintro ⟨rfl, inRange⟩
      exact ⟨inRange, rfl⟩
  · rw [if_neg decimal]
    simp only [decimal, reduceCtorEq, false_and]

/-- The decimal digits of a number are a decimal text. -/
theorem isDecimal_toDigits (value : Nat) : IsDecimal (Nat.toDigits 10 value) where
  nonempty := Nat.toDigits_ne_nil
  isDigit _ member := Nat.isDigit_of_mem_toDigits (by decide) (by decide) member

/-- The decimal digits of a number spell it. -/
theorem spells_toDigits (value : Nat) : Spells (Nat.toDigits 10 value) value := by
  have spelled := Spells.unsigned (isDecimal_toDigits value)
  rwa [Nat.ofDigitChars_toDigits (by decide) (by decide)] at spelled

/-- A text that ends in digits does not end in a blank. -/
theorem IsDecimal.last_notBlank
    (decimal : IsDecimal right)
    (left : List Char) :
    ∀ char ∈ (left ++ right).getLast?, ¬ Text.isBlank char := by
  intro char isLast
  rw [List.getLast?_append_of_ne_nil left decimal.nonempty] at isLast
  exact Text.notBlank_of_isDigit (decimal.isDigit char (List.mem_of_getLast? isLast))

/-- No character but digits and a plus sign occurs in a numeral. -/
theorem Spells.notMem
    (spelled : Spells numeral value)
    (notDigit : ¬ separator.isDigit)
    (notSign : separator ≠ '+') :
    separator ∉ numeral := by
  intro member
  cases spelled with
  | unsigned decimal =>
      exact notDigit (decimal.isDigit separator member)
  | signed decimal =>
      rcases List.mem_cons.mp member with isSign | isLater
      · exact notSign isSign
      · exact notDigit (decimal.isDigit separator isLater)

/-! ## Hosts between brackets -/

/-- What can be left as a host when the brackets around it are gone. -/
structure IsHost (host : List Char) : Prop where
  nonempty : host ≠ []
  unopened : host.head? ≠ some '['
  unclosed : host.getLast? ≠ some ']'

/-- Without its brackets a text is a host exactly if the host stands between brackets only. -/
theorem unbracket_eq_iff
    (nonempty : host ≠ []) :
    unbracket text = host ↔
      (∃ opening closing, text = opening ++ host ++ closing ∧
        (∀ char ∈ opening, char = '[') ∧ ∀ char ∈ closing, char = ']') ∧ IsHost host := by
  rw [unbracket, Text.dropTrailing_dropWhile_eq_iff]
  simp only [beq_iff_eq]
  refine and_congr_right fun _ => ?_
  constructor
  · rintro ⟨firstStays, lastStays⟩
    exact ⟨nonempty, fun isFirst => firstStays _ isFirst rfl, fun isLast => lastStays _ isLast rfl⟩
  · intro isHost
    constructor
    · rintro _ isFirst rfl
      exact isHost.unopened isFirst
    · rintro _ isLast rfl
      exact isHost.unclosed isLast

/-! ## Forms of connect strings -/

/-- The transport that a connect string without blanks around it stands for. -/
inductive Denotes : List Char → Transport → Prop where
  | tcp {opening host closing numeral : List Char} {port : Nat}
      (opens : ∀ char ∈ opening, char = '[')
      (isHost : IsHost host)
      (closes : ∀ char ∈ closing, char = ']')
      (spelled : Spells numeral port)
      (inRange : port < 0x10000) :
      Denotes ("tcp:".toList ++ (opening ++ host ++ closing ++ ':' :: numeral))
        (.tcp (String.ofList host) port)
  | serial {path numeral : List Char} {baud : Nat}
      (nonempty : path ≠ [])
      (spelled : Spells numeral baud)
      (inRange : baud < 0x100000000) :
      Denotes ("serial:".toList ++ (path ++ '@' :: numeral)) (.serial (String.ofList path) baud)
  | serialDefault {path : List Char}
      (nonempty : path ≠ [])
      (unmarked : '@' ∉ path) :
      Denotes ("serial:".toList ++ path) (.serial (String.ofList path) 9600)
  | loopback :
      Denotes "loopback".toList .loopback

/-- What is accepted as a host with a port denotes the transport it is taken for. -/
theorem denotes_of_parseTcp
    (accepted : parseTcp whole text = .ok transport) :
    Denotes ("tcp:".toList ++ text) transport := by
  rw [parseTcp] at accepted
  cases found : splitLast? ':' text with
  | none =>
      rw [found] at accepted
      cases accepted
  | some sides =>
      obtain ⟨left, numeral⟩ := sides
      simp only [found, List.isEmpty_iff] at accepted
      by_cases isEmpty : unbracket left = []
      · rw [if_pos isEmpty] at accepted
        cases accepted
      rw [if_neg isEmpty] at accepted
      cases read : number? 0x10000 numeral with
      | none =>
          rw [read] at accepted
          cases accepted
      | some port =>
          rw [read] at accepted
          cases accepted
          obtain ⟨rfl, -⟩ := splitLast?_eq_some_iff.mp found
          obtain ⟨spelled, inRange⟩ := number?_eq_some_iff.mp read
          obtain ⟨⟨opening, closing, shape, opens, closes⟩, isHost⟩ :=
            (unbracket_eq_iff isEmpty).mp rfl
          have denotes := Denotes.tcp opens isHost closes spelled inRange
          rwa [← shape] at denotes

/-- A host with its port is accepted, whether or not there are brackets around it. -/
theorem parseTcp_of_host
    {opening closing : List Char}
    (opens : ∀ char ∈ opening, char = '[')
    (isHost : IsHost host)
    (closes : ∀ char ∈ closing, char = ']')
    (spelled : Spells numeral port)
    (inRange : port < 0x10000)
    (whole : String) :
    parseTcp whole (opening ++ host ++ closing ++ ':' :: numeral) =
      .ok (.tcp (String.ofList host) port) := by
  have isLast : ':' ∉ numeral := spelled.notMem (by decide) (by decide)
  have isInside : unbracket (opening ++ host ++ closing) = host :=
    (unbracket_eq_iff isHost.nonempty).mpr ⟨⟨opening, closing, rfl, opens, closes⟩, isHost⟩
  have read := number?_eq_some_iff.mpr ⟨spelled, inRange⟩
  rw [parseTcp, splitLast?_eq_some_iff.mpr ⟨rfl, isLast⟩]
  simp only [isInside, List.isEmpty_iff, if_neg isHost.nonempty, read]

/-- What is accepted as a serial path denotes the transport it is taken for. -/
theorem denotes_of_parseSerial
    (accepted : parseSerial whole text = .ok transport) :
    Denotes ("serial:".toList ++ text) transport := by
  simp only [parseSerial, List.isEmpty_iff] at accepted
  cases found : splitLast? '@' text with
  | none =>
      rw [found] at accepted
      by_cases isEmpty : text = []
      · simp only [if_pos isEmpty, reduceCtorEq] at accepted
      · simp only [if_neg isEmpty, Except.ok.injEq] at accepted
        subst accepted
        exact .serialDefault isEmpty (splitLast?_eq_none_iff.mp found)
  | some sides =>
      obtain ⟨path, numeral⟩ := sides
      simp only [found] at accepted
      cases read : number? 0x100000000 numeral with
      | none =>
          rw [read] at accepted
          cases accepted
      | some baud =>
          rw [read] at accepted
          by_cases isEmpty : path = []
          · simp only [if_pos isEmpty, reduceCtorEq] at accepted
          · simp only [if_neg isEmpty, Except.ok.injEq] at accepted
            subst accepted
            obtain ⟨rfl, -⟩ := splitLast?_eq_some_iff.mp found
            obtain ⟨spelled, inRange⟩ := number?_eq_some_iff.mp read
            exact .serial isEmpty spelled inRange

/-- A path with its rate is accepted. -/
theorem parseSerial_of_path
    (nonempty : path ≠ [])
    (spelled : Spells numeral baud)
    (inRange : baud < 0x100000000)
    (whole : String) :
    parseSerial whole (path ++ '@' :: numeral) = .ok (.serial (String.ofList path) baud) := by
  have isLast : '@' ∉ numeral := spelled.notMem (by decide) (by decide)
  have read := number?_eq_some_iff.mpr ⟨spelled, inRange⟩
  rw [parseSerial, splitLast?_eq_some_iff.mpr ⟨rfl, isLast⟩]
  simp only [read, List.isEmpty_iff, if_neg nonempty]

/-- A path without a mark is accepted at the default rate. -/
theorem parseSerial_of_unmarked
    (nonempty : path ≠ [])
    (unmarked : '@' ∉ path)
    (whole : String) :
    parseSerial whole path = .ok (.serial (String.ofList path) defaultBaud) := by
  rw [parseSerial, splitLast?_eq_none_iff.mpr unmarked]
  simp only [List.isEmpty_iff, if_neg nonempty]

/-! ## Whole connect strings -/

section

variable {input : String}

/-- A text that names the network is parsed as a host with a port. -/
theorem parse_of_tcp
    (isTcp : Text.trim input.toList = "tcp:".toList ++ rest) :
    parse input = parseTcp (String.ofList ("tcp:".toList ++ rest)) rest := by
  have notLoopback : String.ofList ("tcp:".toList ++ rest) ≠ "loopback" := by
    intro same
    have first := congrArg (·.toList.head?) same
    simp at first
  simp only [parse, isTcp, if_neg notLoopback, behind?_eq_some_iff.mpr rfl]

/-- A text that names a serial line is parsed as a path. -/
theorem parse_of_serial
    (isSerial : Text.trim input.toList = "serial:".toList ++ rest) :
    parse input = parseSerial (String.ofList ("serial:".toList ++ rest)) rest := by
  have notLoopback : String.ofList ("serial:".toList ++ rest) ≠ "loopback" := by
    intro same
    have first := congrArg (·.toList.head?) same
    simp at first
  have notTcp : behind? "tcp:".toList ("serial:".toList ++ rest) = none := rfl
  simp only [parse, isSerial, if_neg notLoopback, notTcp, behind?_eq_some_iff.mpr rfl]

/-- What is accepted denotes the transport that it is taken for. -/
theorem denotes_of_parse
    (accepted : parse input = .ok transport) :
    Denotes (Text.trim input.toList) transport := by
  simp only [parse] at accepted
  split at accepted
  · next isLoopback =>
      cases accepted
      have isTrimmed := congrArg String.toList isLoopback
      rw [String.toList_ofList] at isTrimmed
      rw [isTrimmed]
      exact .loopback
  · cases isTcp : behind? "tcp:".toList (Text.trim input.toList) with
    | some rest =>
        rw [isTcp] at accepted
        rw [behind?_eq_some_iff.mp isTcp]
        exact denotes_of_parseTcp accepted
    | none =>
        rw [isTcp] at accepted
        cases isSerial : behind? "serial:".toList (Text.trim input.toList) with
        | some rest =>
            rw [isSerial] at accepted
            rw [behind?_eq_some_iff.mp isSerial]
            exact denotes_of_parseSerial accepted
        | none =>
            rw [isSerial] at accepted
            cases accepted

/-- Exactly those texts are accepted that denote a transport, and as that transport. -/
theorem parse_eq_ok_iff :
    parse input = .ok transport ↔ Denotes (Text.trim input.toList) transport := by
  refine ⟨denotes_of_parse, fun denotes => ?_⟩
  generalize isTrimmed : Text.trim input.toList = trimmed at denotes
  cases denotes with
  | tcp opens isHost closes spelled inRange =>
      rw [parse_of_tcp isTrimmed]
      exact parseTcp_of_host opens isHost closes spelled inRange _
  | serial nonempty spelled inRange =>
      rw [parse_of_serial isTrimmed]
      exact parseSerial_of_path nonempty spelled inRange _
  | serialDefault nonempty unmarked =>
      rw [parse_of_serial isTrimmed]
      exact parseSerial_of_unmarked nonempty unmarked _
  | loopback =>
      simp only [parse, isTrimmed]
      rfl

/-- A text that denotes a transport does not begin with a blank. -/
theorem Denotes.first_notBlank
    (denotes : Denotes text transport) :
    ∀ char ∈ text.head?, ¬ Text.isBlank char := by
  intro char isFirst
  cases denotes <;> cases isFirst <;> decide

/-- A connect string in one of the forms is read as what it denotes if no blank is trimmed. -/
theorem parse_of_denotes
    (denotes : Denotes input.toList transport)
    (last : ∀ char ∈ input.toList.getLast?, ¬ Text.isBlank char) :
    parse input = .ok transport := by
  rw [parse_eq_ok_iff, Text.trim_eq_self denotes.first_notBlank last]
  exact denotes

/-- The connect string of a host and a port leads to both. -/
theorem parse_tcp
    {host : String}
    {opening closing : List Char}
    (opens : ∀ char ∈ opening, char = '[')
    (isHost : IsHost host.toList)
    (closes : ∀ char ∈ closing, char = ']')
    (port : UInt16)
    (shape : input.toList = "tcp:".toList ++
      (opening ++ host.toList ++ closing ++ ':' :: (toString port).toList)) :
    parse input = .ok (.tcp host port.toNat) := by
  have isDecimal : (toString port).toList = Nat.toDigits 10 port.toNat := Nat.toList_repr
  have denotes := Denotes.tcp opens isHost closes (spells_toDigits port.toNat) port.toNat_lt
  rw [← isDecimal, ← shape, String.ofList_toList] at denotes
  refine parse_of_denotes denotes ?_
  rw [shape, isDecimal, List.append_cons, ← List.append_assoc]
  exact (isDecimal_toDigits port.toNat).last_notBlank _

/-- The connect string of a path and a rate leads to both. -/
theorem parse_serial
    {path : String}
    (nonempty : path ≠ "")
    (baud : UInt32)
    (shape : input.toList = "serial:".toList ++ (path.toList ++ '@' :: (toString baud).toList)) :
    parse input = .ok (.serial path baud.toNat) := by
  have isDecimal : (toString baud).toList = Nat.toDigits 10 baud.toNat := Nat.toList_repr
  have someChar : path.toList ≠ [] := mt String.toList_eq_nil_iff.mp nonempty
  have denotes := Denotes.serial someChar (spells_toDigits baud.toNat) baud.toNat_lt
  rw [← isDecimal, ← shape, String.ofList_toList] at denotes
  refine parse_of_denotes denotes ?_
  rw [shape, isDecimal, List.append_cons, ← List.append_assoc]
  exact (isDecimal_toDigits baud.toNat).last_notBlank _

/-- The connect string of a path alone leads to it at the default rate. -/
theorem parse_serialDefault
    {path : String}
    (nonempty : path ≠ "")
    (unmarked : '@' ∉ path.toList)
    (last : ∀ char ∈ path.toList.getLast?, ¬ Text.isBlank char) :
    parse ("serial:" ++ path) = .ok (.serial path 9600) := by
  have someChar : path.toList ≠ [] := mt String.toList_eq_nil_iff.mp nonempty
  have denotes := Denotes.serialDefault someChar unmarked
  rw [← String.toList_append, String.ofList_toList] at denotes
  refine parse_of_denotes denotes ?_
  rw [String.toList_append, List.getLast?_append_of_ne_nil _ someChar]
  exact last

/-- Blanks around a connect string make no difference. -/
theorem parse_surrounded
    {front back : String}
    (isFront : ∀ char ∈ front.toList, Text.isBlank char)
    (isBack : ∀ char ∈ back.toList, Text.isBlank char)
    (input : String) :
    parse (front ++ input ++ back) = parse input := by
  have isTrimmed := Text.trim_surrounded isFront isBack input.toList
  rw [← String.toList_append, ← String.toList_append] at isTrimmed
  simp only [parse, isTrimmed]

end

/--
A host with a port behind it, in brackets or not, and a path with a speed behind it, or
without one if no blank would be trimmed, are read as they stand, and blanks around a
connect string do not matter. A connect string is accepted if and only if it is in one of
the forms once it is trimmed, and then it is read as what it denotes.
-/
theorem parse_exact :
    (∀ (host : String) (port : UInt16),
      host ≠ "" → host.toList.head? ≠ some '[' → host.toList.getLast? ≠ some ']' →
        parse ("tcp:" ++ host ++ ":" ++ toString port) = .ok (.tcp host port.toNat) ∧
          parse ("tcp:[" ++ host ++ "]:" ++ toString port) = .ok (.tcp host port.toNat)) ∧
      (∀ (path : String) (baud : UInt32), path ≠ "" →
        parse ("serial:" ++ path ++ "@" ++ toString baud) = .ok (.serial path baud.toNat)) ∧
      (∀ path : String,
        path ≠ "" → '@' ∉ path.toList → (∀ char ∈ path.toList.getLast?, ¬ Text.isBlank char) →
          parse ("serial:" ++ path) = .ok (.serial path 9600)) ∧
      (∀ front input back : String,
        (∀ char ∈ front.toList, Text.isBlank char) → (∀ char ∈ back.toList, Text.isBlank char) →
          parse (front ++ input ++ back) = parse input) ∧
      (∀ (input : String) (transport : Transport),
        parse input = .ok transport ↔ Denotes (Text.trim input.toList) transport) := by
  refine ⟨?_, ?_, ?_, ?_, fun _ _ => parse_eq_ok_iff⟩
  · intro host port nonempty unopened unclosed
    have isHost : IsHost host.toList :=
      ⟨mt String.toList_eq_nil_iff.mp nonempty, unopened, unclosed⟩
    constructor
    · have noBracket (bracket : Char) : ∀ char ∈ [], char = bracket := List.forall_mem_nil _
      exact parse_tcp (noBracket '[') isHost (noBracket ']') port (by simp)
    · have oneBracket (bracket : Char) : ∀ char ∈ [bracket], char = bracket :=
        fun _ => List.mem_singleton.mp
      exact parse_tcp (oneBracket '[') isHost (oneBracket ']') port (by simp)
  · intro path baud nonempty
    exact parse_serial nonempty baud (by simp)
  · intro path nonempty unmarked last
    exact parse_serialDefault nonempty unmarked last
  · intro front input back isFront isBack
    exact parse_surrounded isFront isBack input

/--
Separators inside a host and a path, the largest port and speed, blanks at the beginning of
a path, and two brackets that are opened but not closed around a host with a signed port.
-/
theorem parse_exact_at_limits :
    ("fe80::1@[a] b" ≠ "" ∧ "fe80::1@[a] b".toList.head? ≠ some '[' ∧
      "fe80::1@[a] b".toList.getLast? ≠ some ']' ∧
      parse "tcp:fe80::1@[a] b:65535" = .ok (.tcp "fe80::1@[a] b" 65535) ∧
      parse "tcp:[fe80::1@[a] b]:65535" = .ok (.tcp "fe80::1@[a] b" 65535)) ∧
    ("/dev/by@id:0" ≠ "" ∧
      parse "serial:/dev/by@id:0@4294967295" = .ok (.serial "/dev/by@id:0" 4294967295)) ∧
    (" COM:3" ≠ "" ∧ '@' ∉ " COM:3".toList ∧
      (∀ char ∈ " COM:3".toList.getLast?, ¬ Text.isBlank char) ∧
      parse "serial: COM:3" = .ok (.serial " COM:3" 9600)) ∧
    ((∀ char ∈ "\t\u2003".toList, Text.isBlank char) ∧
      (∀ char ∈ "\n".toList, Text.isBlank char) ∧
      parse "\t\u2003serial:@115200\n" = parse "serial:@115200") ∧
    Denotes "tcp:[[desk:+0080".toList (.tcp "desk" 80) := by
  obtain ⟨tcp, serial, serialDefault, surrounded, accepted⟩ := parse_exact
  have nonempty : "fe80::1@[a] b" ≠ "" := by decide
  have unopened : "fe80::1@[a] b".toList.head? ≠ some '[' := by decide
  have unclosed : "fe80::1@[a] b".toList.getLast? ≠ some ']' := by decide
  have path : "/dev/by@id:0" ≠ "" := by decide
  have port : " COM:3" ≠ "" := by decide
  have unmarked : '@' ∉ " COM:3".toList := by decide
  have last : ∀ char ∈ " COM:3".toList.getLast?, ¬ Text.isBlank char := by
    intro char isLast
    cases isLast
    decide
  have front : ∀ char ∈ "\t\u2003".toList, Text.isBlank char := List.all_eq_true.mp rfl
  have back : ∀ char ∈ "\n".toList, Text.isBlank char := List.all_eq_true.mp rfl
  refine ⟨⟨nonempty, unopened, unclosed, ?_, ?_⟩, ⟨path, ?_⟩, ⟨port, unmarked, last, ?_⟩,
    ⟨front, back, ?_⟩, ?_⟩
  · exact (tcp "fe80::1@[a] b" 65535 nonempty unopened unclosed).1
  · exact (tcp "fe80::1@[a] b" 65535 nonempty unopened unclosed).2
  · exact serial "/dev/by@id:0" 4294967295 path
  · exact serialDefault " COM:3" port unmarked last
  · exact surrounded "\t\u2003" "serial:@115200" "\n" front back
  · exact (accepted " tcp:[[desk:+0080 " (.tcp "desk" 80)).mp rfl

end StationLink.Transport
