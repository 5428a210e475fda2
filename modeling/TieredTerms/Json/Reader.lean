import TieredTerms.Datum
import TieredTerms.Number.Decimal
import TieredTerms.Text.Digit
import TieredTerms.Text.LoneUnit

/-!
# Reading JSON

A reader of JSON documents.  Every reader takes characters and gives what it read with what is
left of them; a failure tells what is left at the place where it arose, so that a place is a
suffix of the text until `Json.parse` turns it into a position.

* `Json.parse` reads a whole document.
* `Malformed` is the fault of a text that is no document: the reason and the place.  Documents that
  are nested too deep, or have numbers that are too long, are faults of their own.
-/

namespace TieredTerms.Json

/-- What a text lacks that is no JSON document. -/
inductive Reason where
  | byteOrderMark
  | value
  | comma
  | colon
  | name
  | stringEnd
  | controlCharacter
  | escape
  | unicodeEscape
  | extraData
  deriving DecidableEq

/-- The words for a reason. -/
def Reason.text : Reason → String
  | .byteOrderMark => "Unexpected UTF-8 BOM (decode using utf-8-sig)"
  | .value => "Expecting value"
  | .comma => "Expecting ',' delimiter"
  | .colon => "Expecting ':' delimiter"
  | .name => "Expecting property name enclosed in double quotes"
  | .stringEnd => "Unterminated string starting at"
  | .controlCharacter => "Invalid control character at"
  | .escape => "Invalid \\escape"
  | .unicodeEscape => "Invalid \\uXXXX escape"
  | .extraData => "Extra data"

/-- A reason and its place: the number of characters before it, its line and its column. -/
structure Malformed where
  reason : String
  position : Nat
  line : Nat
  column : Nat
  deriving DecidableEq

namespace Malformed

/-- The fault at a position of a text. -/
def atPosition (reason : String) (text : List Char) (position : Nat) : Malformed :=
  let before := text.take position
  let lineStart := before.reverse.takeWhile (· ≠ '\n')
  { reason, position, line := before.count '\n' + 1, column := lineStart.length + 1 }

/-- The words for a fault. -/
def message (m : Malformed) : String :=
  m.reason ++ ": line " ++ natText m.line ++ " column " ++ natText m.column ++
    " (char " ++ natText m.position ++ ")"

end Malformed

/-- What holds other values. -/
inductive Container where
  | array
  | object
  deriving DecidableEq

/-- The word for a container. -/
def Container.word : Container → String
  | .array => "array"
  | .object => "object"

/-- Why reading stopped: the text is malformed before what is left of it, or holds a whole number
of too many digits, or a container inside too many others. -/
inductive Stop where
  | malformed (reason : Reason) (left : List Char)
  | tooManyDigits (count : Nat)
  | tooDeep (container : Container)

/-- Whether a character may stand between the parts of a document. -/
def isSpace (c : Char) : Bool :=
  c == ' ' || c == '\t' || c == '\n' || c == '\r'

/-- The characters from the first one on that is no space. -/
def skipSpace (cs : List Char) : List Char :=
  cs.dropWhile isSpace

/-! ## Strings -/

/-- The value of a hexadecimal digit. -/
def hexValue? (c : Char) : Option Nat :=
  if '0' ≤ c ∧ c ≤ '9' then some (c.toNat - '0'.toNat)
  else if 'a' ≤ c ∧ c ≤ 'f' then some (c.toNat - 'a'.toNat + 10)
  else if 'A' ≤ c ∧ c ≤ 'F' then some (c.toNat - 'A'.toNat + 10)
  else none

/-- The unit of four hexadecimal digits, with what follows them; something has to follow. -/
def hexUnit? : List Char → Option (Nat × List Char)
  | a :: b :: c :: d :: e :: rest => do
    let a ← hexValue? a
    let b ← hexValue? b
    let c ← hexValue? c
    let d ← hexValue? d
    return (((a * 16 + b) * 16 + c) * 16 + d, e :: rest)
  | _ => none

/-- The character of an escape of one letter. -/
def escaped? (c : Char) : Option Char :=
  match c with
  | '"' => some '"'
  | '\\' => some '\\'
  | '/' => some '/'
  | 'b' => some '\x08'
  | 'f' => some '\x0c'
  | 'n' => some '\n'
  | 'r' => some '\r'
  | 't' => some '\t'
  | _ => none

/-- The character that a unit stands for by itself, or the one that stands in for half of a pair. -/
def unitChar [StandIns] (unit : Nat) : Char :=
  if isFirstHalf unit || isSecondHalf unit then standIn unit else Char.ofNat unit

/-- The character of an escape after its `u`, and what follows it.  A first half joins the escape
of a second half behind it. -/
def readUnicode [StandIns] (u : List Char) (cs : List Char) : Except Stop (Char × List Char) :=
  match hexUnit? cs with
  | none => .error (.malformed .unicodeEscape u)
  | some (unit, rest) =>
    match rest with
    | '\\' :: 'u' :: rest' =>
      if isFirstHalf unit then
        match hexUnit? rest' with
        | none => .error (.malformed .unicodeEscape ('u' :: rest'))
        | some (second, rest'') =>
          if isSecondHalf second then
            .ok (Char.ofNat (0x10000 + (unit - 0xd800) * 0x400 + (second - 0xdc00)), rest'')
          else .ok (unitChar unit, rest)
      else .ok (unitChar unit, rest)
    | _ => .ok (unitChar unit, rest)

/-- The characters of a string up to its closing quote, whose opening quote is at `start`.  The
fuel bounds the number of characters. -/
def readString [StandIns] (start : List Char) :
    Nat → List Char → Except Stop (List Char × List Char)
  | 0, _ => .error (.malformed .stringEnd start)
  | _ + 1, [] => .error (.malformed .stringEnd start)
  | _ + 1, '"' :: rest => .ok ([], rest)
  | _ + 1, ['\\'] => .error (.malformed .stringEnd start)
  | fuel + 1, '\\' :: 'u' :: cs => do
    let (c, rest) ← readUnicode ('u' :: cs) cs
    let (tail, rest) ← readString start fuel rest
    return (c :: tail, rest)
  | fuel + 1, '\\' :: e :: cs => do
    let some c := escaped? e | throw (.malformed .escape ('\\' :: e :: cs))
    let (tail, rest) ← readString start fuel cs
    return (c :: tail, rest)
  | fuel + 1, c :: cs => do
    if c.toNat < 0x20 then throw (.malformed .controlCharacter (c :: cs))
    let (tail, rest) ← readString start fuel cs
    return (c :: tail, rest)

/-- The string after an opening quote; `cs` holds what follows the quote. -/
def readText [StandIns] (fuel : Nat) (cs : List Char) : Except Stop (String × List Char) := do
  let (chars, rest) ← readString ('"' :: cs) fuel cs
  return (String.ofList chars, rest)

/-! ## Numbers -/

/-- The digits of a whole part: a zero alone, or digits that start with another. -/
def wholeDigits (cs : List Char) : List Char × List Char :=
  match cs with
  | '0' :: rest => (['0'], rest)
  | cs => (cs.takeWhile isAsciiDigit, cs.dropWhile isAsciiDigit)

/-- The digits of a fraction behind a point, if there are any. -/
def fractionPart (cs : List Char) : List Char × List Char :=
  match cs with
  | '.' :: rest =>
    let digits := rest.takeWhile isAsciiDigit
    if digits.isEmpty then ([], cs) else (digits, rest.dropWhile isAsciiDigit)
  | _ => ([], cs)

/-- The exponent behind an `e`, if there is one. -/
def exponentPart (cs : List Char) : Option Int × List Char :=
  match cs with
  | mark :: rest =>
    if mark == 'e' || mark == 'E' then
      let (negative, digitsOn) :=
        match rest with
        | '-' :: rest => (true, rest)
        | '+' :: rest => (false, rest)
        | rest => (false, rest)
      let digits := digitsOn.takeWhile isAsciiDigit
      if digits.isEmpty then (none, cs)
      else
        let value : Int := digitsValue digits
        (some (if negative then -value else value), digitsOn.dropWhile isAsciiDigit)
    else (none, cs)
  | [] => (none, cs)

/-- The number after its sign, or nothing where no digit stands. -/
def readNumber? (negative : Bool) (cs : List Char) : Option (Except Stop (Datum × List Char)) :=
  let (whole, rest) := wholeDigits cs
  if whole.isEmpty then none
  else
    let (fraction, rest) := fractionPart rest
    let (exponent, rest) := exponentPart rest
    if fraction.isEmpty && exponent.isNone then
      if digitLimit < whole.length then some (.error (.tooManyDigits whole.length))
      else some (.ok (.int (IntegerText.value ⟨negative, whole⟩), rest))
    else
      let decimal : Decimal :=
        ⟨negative, digitsValue (whole ++ fraction), exponent.getD 0 - fraction.length⟩
      some (.ok (.real decimal.toBinary64, rest))

/-! ## Documents -/

/-- The word at the start of the characters, and what follows it. -/
def afterWord? (word : String) (cs : List Char) : Option (List Char) :=
  if word.toList.isPrefixOf cs then some (cs.drop word.length) else none

/-- A value that is a word or a number. -/
def readScalar (cs : List Char) : Except Stop (Datum × List Char) :=
  let words : List (String × Datum) :=
    [("null", .null), ("true", .bool true), ("false", .bool false), ("NaN", .real .nan),
     ("Infinity", .real (.infinite false)), ("-Infinity", .real (.infinite true))]
  match words.findSome? fun (word, value) => (afterWord? word cs).map (value, ·) with
  | some result => .ok result
  | none =>
    let number :=
      match cs with
      | '-' :: rest => readNumber? true rest
      | cs => readNumber? false cs
    number.getD (.error (.malformed .value cs))

/-- The number of containers that may stand inside each other. -/
def depthLimit : Nat := 980

mutual

/-- One value, in which so many containers may stand inside each other.  Every character takes at
most two units of fuel. -/
def readValue [StandIns] : Nat → Nat → List Char → Except Stop (Datum × List Char)
  | 0, _, cs => .error (.malformed .value cs)
  | fuel + 1, depth, cs =>
    match cs, depth with
    | '"' :: rest, _ => do
      let (text, rest) ← readText fuel rest
      return (.text text, rest)
    | '[' :: _, 0 => .error (.tooDeep .array)
    | '[' :: rest, depth + 1 =>
      match skipSpace rest with
      | ']' :: rest => .ok (.array [], rest)
      | rest => do
        let (items, rest) ← readItems fuel depth rest
        return (.array items, rest)
    | '{' :: _, 0 => .error (.tooDeep .object)
    | '{' :: rest, depth + 1 =>
      match skipSpace rest with
      | '}' :: rest => .ok (.object [], rest)
      | rest => do
        let (pairs, rest) ← readFields fuel depth rest
        return (.object (Fields.ofPairs pairs), rest)
    | cs, _ => readScalar cs

/-- The items of an array from one item on, and its closing bracket. -/
def readItems [StandIns] : Nat → Nat → List Char → Except Stop (List Datum × List Char)
  | 0, _, cs => .error (.malformed .value cs)
  | fuel + 1, depth, cs => do
    let (item, rest) ← readValue fuel depth cs
    match skipSpace rest with
    | ']' :: rest => return ([item], rest)
    | ',' :: rest =>
      let (items, rest) ← readItems fuel depth (skipSpace rest)
      return (item :: items, rest)
    | rest => throw (.malformed .comma rest)

/-- The fields of an object from one field on, and its closing brace. -/
def readFields [StandIns] : Nat → Nat → List Char → Except Stop (List (String × Datum) × List Char)
  | 0, _, cs => .error (.malformed .name cs)
  | fuel + 1, depth, cs =>
    match cs with
    | '"' :: rest => do
      let (name, rest) ← readText fuel rest
      match skipSpace rest with
      | ':' :: rest =>
        let (value, rest) ← readValue fuel depth (skipSpace rest)
        match skipSpace rest with
        | '}' :: rest => return ([(name, value)], rest)
        | ',' :: rest =>
          let (fields, rest) ← readFields fuel depth (skipSpace rest)
          return ((name, value) :: fields, rest)
        | rest => throw (.malformed .comma rest)
      | rest => throw (.malformed .colon rest)
    | cs => .error (.malformed .name cs)

end

/-- Why a text gives no document. -/
inductive ParseFault where
  | malformed (fault : Malformed)
  | tooManyDigits (count : Nat)
  | tooDeep (container : Container)

/-- The document that the characters hold, and nothing after it. -/
def readDocument [StandIns] (cs : List Char) : Except Stop Datum := do
  if cs.head? = some '\uFEFF' then throw (.malformed .byteOrderMark cs)
  let (value, rest) ← readValue (2 * cs.length + 2) depthLimit (skipSpace cs)
  match skipSpace rest with
  | [] => return value
  | left => throw (.malformed .extraData left)

/-- The document that a text holds. -/
def parse [StandIns] (text : String) : Except ParseFault Datum :=
  let cs := text.toList
  match readDocument cs with
  | .ok value => .ok value
  | .error (.malformed reason left) =>
    .error (.malformed (.atPosition reason.text cs (cs.length - left.length)))
  | .error (.tooManyDigits count) => .error (.tooManyDigits count)
  | .error (.tooDeep container) => .error (.tooDeep container)

end TieredTerms.Json
