import TieredTerms.Datum
import TieredTerms.Duration.CalendarDate
import TieredTerms.Number.Decimal
import TieredTerms.Text.Digit

/-!
# Texts and scalars of TOML

The readers of keys, strings, numbers and moments.  A reader takes characters and gives what it
read with the characters left, or the fault of the document.

* `Toml.readBasic` and `Toml.readLiteral` read strings on one line, `Toml.readMultiline` the
  others.
* `Toml.readMoment?` and `Toml.readNumber?` read dates, times and numbers.
-/

namespace TieredTerms.Toml

/-- Why a text is no TOML document. -/
inductive Fault where
  /-- The text does not follow the grammar. -/
  | invalid
  /-- A whole number has too many digits. -/
  | tooManyDigits (count : Nat)
  deriving DecidableEq

/-- Whether a character may not stand in strings and comments. -/
def isControl (c : Char) : Bool :=
  (c.toNat < 0x20 && c != '\t') || c.toNat == 0x7f

/-- Whether a character separates the parts of a line. -/
def isSpace (c : Char) : Bool :=
  c == ' ' || c == '\t'

/-- The characters from the first one on that is neither a space nor a tab. -/
def skipSpace (cs : List Char) : List Char :=
  cs.dropWhile isSpace

/-- The characters from the first one on that is neither a space nor a tab nor a line end. -/
def skipSpaceAndLines (cs : List Char) : List Char :=
  cs.dropWhile fun c => isSpace c || c == '\n'

/-- The characters behind a comment, if there is one. -/
def skipComment : List Char → Except Fault (List Char)
  | '#' :: cs =>
    if (cs.takeWhile (· ≠ '\n')).any isControl then .error .invalid
    else .ok (cs.dropWhile (· ≠ '\n'))
  | cs => .ok cs

/-! ## Strings -/

/-- The value of hexadecimal digits. -/
def hexValue? (cs : List Char) : Option Nat :=
  cs.foldlM (fun n c =>
    if '0' ≤ c ∧ c ≤ '9' then some (16 * n + (c.toNat - '0'.toNat))
    else if 'a' ≤ c ∧ c ≤ 'f' then some (16 * n + (c.toNat - 'a'.toNat + 10))
    else if 'A' ≤ c ∧ c ≤ 'F' then some (16 * n + (c.toNat - 'A'.toNat + 10))
    else none) 0

/-- The character of an escape with `count` hexadecimal digits. -/
def readHex (count : Nat) (cs : List Char) : Except Fault (Char × List Char) :=
  let digits := cs.take count
  match hexValue? digits with
  | some n =>
    if digits.length = count ∧ n.isValidChar then .ok (Char.ofNat n, cs.drop count)
    else .error .invalid
  | none => .error .invalid

/-- The character of an escape of one letter. -/
def escaped? : Char → Option Char
  | 'b' => some '\x08'
  | 't' => some '\t'
  | 'n' => some '\n'
  | 'f' => some '\x0c'
  | 'r' => some '\r'
  | '"' => some '"'
  | '\\' => some '\\'
  | _ => none

/-- The characters of an escape behind its backslash.  In a string of several lines, a backslash
at the end of a line takes the blanks up to the next character away. -/
def readEscape (multiline : Bool) : List Char → Except Fault (List Char × List Char)
  | [] => .error .invalid
  | 'u' :: cs => do
    let (c, rest) ← readHex 4 cs
    return ([c], rest)
  | 'U' :: cs => do
    let (c, rest) ← readHex 8 cs
    return ([c], rest)
  | e :: cs =>
    if multiline && (isSpace e || e == '\n') then
      match skipSpace (e :: cs) with
      | [] => .ok ([], [])
      | '\n' :: rest => .ok ([], skipSpaceAndLines rest)
      | _ => .error .invalid
    else
      match escaped? e with
      | some c => .ok ([c], cs)
      | none => .error .invalid

/-- The characters of a string with escapes, up to its closing quotes.  The fuel bounds the number
of characters. -/
def readQuoted (multiline : Bool) : Nat → List Char → Except Fault (List Char × List Char)
  | 0, _ => .error .invalid
  | _ + 1, [] => .error .invalid
  | fuel + 1, '"' :: cs =>
    if !multiline then .ok ([], cs)
    else
      match cs with
      | '"' :: '"' :: rest => .ok ([], rest)
      | _ => do
        let (tail, rest) ← readQuoted multiline fuel cs
        return ('"' :: tail, rest)
  | fuel + 1, '\\' :: cs => do
    let (chars, rest) ← readEscape multiline cs
    let (tail, rest) ← readQuoted multiline fuel rest
    return (chars ++ tail, rest)
  | fuel + 1, c :: cs => do
    if isControl c && !(multiline && c == '\n') then throw .invalid
    let (tail, rest) ← readQuoted multiline fuel cs
    return (c :: tail, rest)

/-- A string with escapes on one line, behind its opening quote. -/
def readBasic (cs : List Char) : Except Fault (List Char × List Char) :=
  readQuoted false (cs.length + 1) cs

/-- A string without escapes on one line, behind its opening quote. -/
def readLiteral (cs : List Char) : Except Fault (List Char × List Char) :=
  let chars := cs.takeWhile (· ≠ '\'')
  match cs.dropWhile (· ≠ '\'') with
  | _ :: rest => if chars.any isControl then .error .invalid else .ok (chars, rest)
  | [] => .error .invalid

/-- The characters before three closing quotes, and what follows these. -/
def untilTriple? : List Char → Option (List Char × List Char)
  | '\'' :: '\'' :: '\'' :: rest => some ([], rest)
  | c :: cs => (untilTriple? cs).map fun (chars, rest) => (c :: chars, rest)
  | [] => none

/-- Up to two more quotes behind the closing ones belong to the string. -/
def trailingQuotes (quote : Char) (chars rest : List Char) : List Char × List Char :=
  match rest with
  | a :: b :: rest' =>
    if a = quote then
      if b = quote then (chars ++ [quote, quote], rest') else (chars ++ [quote], b :: rest')
    else (chars, rest)
  | [a] => if a = quote then (chars ++ [quote], []) else (chars, rest)
  | [] => (chars, [])

/-- A string of several lines, behind its opening quotes.  A line end right behind them is
dropped. -/
def readMultiline (quote : Char) (cs : List Char) : Except Fault (List Char × List Char) := do
  let cs := match cs with
    | '\n' :: rest => rest
    | cs => cs
  if quote = '"' then
    let (chars, rest) ← readQuoted true (cs.length + 1) cs
    return trailingQuotes quote chars rest
  else
    match untilTriple? cs with
    | some (chars, rest) =>
      if chars.any fun c => isControl c && c != '\n' then throw .invalid
      return trailingQuotes quote chars rest
    | none => throw .invalid

/-! ## Keys -/

/-- Whether a character may stand in a key without quotes. -/
def isBareKey (c : Char) : Bool :=
  c.isAlpha || isAsciiDigit c || c == '-' || c == '_'

/-- One part of a key. -/
def readKeyPart (cs : List Char) : Except Fault (String × List Char) := do
  match cs with
  | '"' :: rest =>
    let (chars, rest) ← readBasic rest
    return (String.ofList chars, rest)
  | '\'' :: rest =>
    let (chars, rest) ← readLiteral rest
    return (String.ofList chars, rest)
  | cs =>
    let chars := cs.takeWhile isBareKey
    if chars.isEmpty then throw .invalid
    return (String.ofList chars, cs.dropWhile isBareKey)

/-- The parts of a key from one part on, with dots between.  The fuel bounds their number. -/
def readKeyParts : Nat → List Char → Except Fault (List String × List Char)
  | 0, _ => .error .invalid
  | fuel + 1, cs => do
    let (part, rest) ← readKeyPart cs
    match skipSpace rest with
    | '.' :: rest =>
      let (parts, rest) ← readKeyParts fuel (skipSpace rest)
      return (part :: parts, rest)
    | rest => return ([part], rest)

/-- A key, and the characters behind the spaces that follow it. -/
def readKey (cs : List Char) : Except Fault (List String × List Char) :=
  readKeyParts (cs.length + 1) cs

/-! ## Moments -/

/-- The value of two digits that is at most `most`, and what follows them. -/
def twoDigits? (most : Nat) : List Char → Option (Nat × List Char)
  | a :: b :: cs =>
    if isAsciiDigit a && isAsciiDigit b then
      let n := digitsValue [a, b]
      if n ≤ most then some (n, cs) else none
    else none
  | _ => none

/-- The characters behind a given one. -/
def after? (mark : Char) : List Char → Option (List Char)
  | c :: cs => if c = mark then some cs else none
  | [] => none

/-- The characters behind a time of day. -/
def afterTime? (cs : List Char) : Option (List Char) := do
  let (_, cs) ← twoDigits? 23 cs
  let (_, cs) ← twoDigits? 59 (← after? ':' cs)
  let (_, cs) ← twoDigits? 59 (← after? ':' cs)
  match cs with
  | '.' :: rest =>
    if (rest.takeWhile isAsciiDigit).isEmpty then return cs
    else return rest.dropWhile isAsciiDigit
  | cs => return cs

/-- The characters behind an offset from universal time, if there is one. -/
def afterOffset (cs : List Char) : List Char :=
  match cs with
  | [] => []
  | sign :: rest =>
    if sign == 'Z' || sign == 'z' then rest
    else if sign == '+' || sign == '-' then
      let behind := do
        let (_, rest) ← twoDigits? 23 rest
        let (_, rest) ← twoDigits? 59 (← after? ':' rest)
        return rest
      behind.getD cs
    else cs

/-- A date at the start of the characters, and what follows it. -/
def readDate? (cs : List Char) : Option ((Nat × Nat × Nat) × List Char) := do
  let year := cs.take 4
  guard (year.length = 4 ∧ year.all isAsciiDigit)
  let (month, rest) ← twoDigits? 12 (← after? '-' (cs.drop 4))
  let (day, rest) ← twoDigits? 31 (← after? '-' rest)
  guard (1 ≤ month ∧ 1 ≤ day)
  return ((digitsValue year, month, day), rest)

/-- The characters behind a time of day and an offset that may follow a date. -/
def afterDateTime (cs : List Char) : List Char :=
  match cs with
  | mark :: rest =>
    if mark == 'T' || mark == 't' || mark == ' ' then
      ((afterTime? rest).map afterOffset).getD cs
    else cs
  | [] => []

/-- The characters that were read when `rest` is left of `cs`. -/
def consumed (cs rest : List Char) : String :=
  String.ofList (cs.take (cs.length - rest.length))

/-- A date, a date with a time, or a time at the start of the characters.  A date has to exist. -/
def readMoment? (cs : List Char) : Option (Except Fault (Datum × List Char)) :=
  match readDate? cs with
  | some ((year, month, day), rest) =>
    let rest := afterDateTime rest
    match CalendarDate.ofParts? year month day with
    | some _ => some (.ok (.moment (consumed cs rest), rest))
    | none => some (.error .invalid)
  | none => (afterTime? cs).map fun rest => .ok (.moment (consumed cs rest), rest)

/-! ## Numbers -/

/-- Digits of a kind with single underscores between them, and what follows. -/
def readDigits (isDigit : Char → Bool) : List Char → List Char × List Char
  | c :: cs =>
    if isDigit c then
      match cs with
      | '_' :: d :: rest =>
        if isDigit d then
          let (digits, rest) := readDigits isDigit (d :: rest)
          (c :: digits, rest)
        else ([c], cs)
      | cs =>
        let (digits, rest) := readDigits isDigit cs
        (c :: digits, rest)
    else ([], c :: cs)
  | [] => ([], [])

/-- The digits of a number in base sixteen, two or eight behind its mark. -/
def readBased? (mark : Char) (cs : List Char) : Option (Nat × List Char) :=
  let (base, isDigit) : Nat × (Char → Bool) :=
    match mark with
    | 'x' => (16, fun c => (hexValue? [c]).isSome)
    | 'b' => (2, fun c => c == '0' || c == '1')
    | _ => (8, fun c => '0' ≤ c && c ≤ '7')
  let (digits, rest) := readDigits isDigit cs
  if digits.isEmpty then none
  else some (digits.foldl (fun n c => base * n + (hexValue? [c]).getD 0) 0, rest)

/-- The digits of a fraction behind its point, if there are any. -/
def readFraction (cs : List Char) : List Char × List Char :=
  match cs with
  | '.' :: rest =>
    let (digits, rest) := readDigits isAsciiDigit rest
    if digits.isEmpty then ([], cs) else (digits, rest)
  | _ => ([], cs)

/-- The exponent behind its mark, if there is one. -/
def readExponent (cs : List Char) : Option Int × List Char :=
  match cs with
  | mark :: rest =>
    if mark == 'e' || mark == 'E' then
      let (negative, rest) :=
        match rest with
        | '-' :: rest => (true, rest)
        | '+' :: rest => (false, rest)
        | rest => (false, rest)
      let (digits, rest) := readDigits isAsciiDigit rest
      if digits.isEmpty then (none, cs)
      else (some (IntegerText.value ⟨negative, digits⟩), rest)
    else (none, cs)
  | [] => (none, cs)

/-- The whole digits of a decimal number: a zero alone, or digits that start with another. -/
def readWhole (cs : List Char) : List Char × List Char :=
  match cs with
  | '0' :: rest => (['0'], rest)
  | cs => readDigits isAsciiDigit cs

/-- A decimal number behind its sign. -/
def readDecimal? (negative : Bool) (cs : List Char) :
    Option (Except Fault (Datum × List Char)) :=
  let (whole, rest) := readWhole cs
  if whole.isEmpty then none
  else
    let (fraction, rest) := readFraction rest
    let (exponent, rest) := readExponent rest
    if fraction.isEmpty && exponent.isNone then
      if digitLimit < whole.length then some (.error (.tooManyDigits whole.length))
      else some (.ok (.int (IntegerText.value ⟨negative, whole⟩), rest))
    else
      let decimal : Decimal :=
        ⟨negative, digitsValue (whole ++ fraction), exponent.getD 0 - fraction.length⟩
      some (.ok (.real decimal.toBinary64, rest))

/-- An infinity or no number behind its sign. -/
def readSpecial? (negative : Bool) : List Char → Option (Datum × List Char)
  | 'i' :: 'n' :: 'f' :: rest => some (.real (.infinite negative), rest)
  | 'n' :: 'a' :: 'n' :: rest => some (.real .nan, rest)
  | _ => none

/-- A number with an optional sign. -/
def readSigned? (cs : List Char) : Option (Except Fault (Datum × List Char)) :=
  let (negative, rest) :=
    match cs with
    | '-' :: rest => (true, rest)
    | '+' :: rest => (false, rest)
    | cs => (false, cs)
  (readDecimal? negative rest).or ((readSpecial? negative rest).map .ok)

/-- A number at the start of the characters. -/
def readNumber? (cs : List Char) : Option (Except Fault (Datum × List Char)) :=
  let based :=
    match cs with
    | '0' :: mark :: rest =>
      if mark == 'x' || mark == 'b' || mark == 'o' then readBased? mark rest else none
    | _ => none
  match based with
  | some (n, rest) => some (.ok (.int n, rest))
  | none => readSigned? cs

end TieredTerms.Toml
