import TieredTerms.Datum
import TieredTerms.Text.Digit
import TieredTerms.Text.Quoted

/-!
# Writing JSON

Two forms of JSON are written: a compact one on a single line, in ASCII alone, and an indented one
with every printable character as it is.

* `Json.compact` writes the first with given separators, `Json.indented` the second.
* `Json.asciiText` and `Json.plainText` are the texts of strings in the two forms.
-/

namespace TieredTerms.Json

/-! ## Strings -/

/-- The escape that a character has of its own. -/
def shortEscape? (c : Char) : Option Char :=
  if c = '"' then some '"'
  else if c = '\\' then some '\\'
  else if c = '\n' then some 'n'
  else if c = '\r' then some 'r'
  else if c = '\t' then some 't'
  else if c = '\x08' then some 'b'
  else if c = '\x0c' then some 'f'
  else none

/-- A UTF-16 unit as an escape of four hexadecimal digits. -/
def unitEscape (unit : Nat) : List Char :=
  '\\' :: 'u' :: paddedHex 4 unit

/-- A character as escapes of its UTF-16 units. -/
def unitsEscape (c : Char) : List Char :=
  if c.toNat < 0x10000 then unitEscape c.toNat
  else
    let above := c.toNat - 0x10000
    unitEscape (0xd800 + above / 0x400) ++ unitEscape (0xdc00 + above % 0x400)

/-- A character of a string in which only printable ASCII stands for itself.  A lone unit is escaped
as itself. -/
def asciiChar [StandIns] (c : Char) : List Char :=
  match shortEscape? c with
  | some e => ['\\', e]
  | none =>
    if 0x20 ≤ c.toNat ∧ c.toNat ≤ 0x7e then [c]
    else
      match loneUnit? c with
      | some unit => unitEscape unit
      | none => unitsEscape c

/-- A character of a string in which only control characters are escaped. -/
def plainChar (c : Char) : List Char :=
  match shortEscape? c with
  | some e => ['\\', e]
  | none => if 0x20 ≤ c.toNat then [c] else unitsEscape c

/-- A string in ASCII. -/
def asciiText [StandIns] (s : String) : List Char :=
  '"' :: s.toList.flatMap asciiChar ++ ['"']

/-- A string with its characters as they are. -/
def plainText (s : String) : List Char :=
  '"' :: s.toList.flatMap plainChar ++ ['"']

/-! ## Numbers -/

/-- Doubles in the compact form: positional from `1e-4` to below `1e16`, and the numbers that JSON
has no text for by name. -/
def compactReal : FloatLayout :=
  { leastPoint := -4, mostPoint := 16, plusSign := true, exponentWidth := 2
    infinity := "Infinity", nan := "NaN" }

/-- Doubles in the indented form: positional from `1e-5` to below `1e16`. -/
def indentedReal : FloatLayout :=
  { leastPoint := -5, mostPoint := 16, plusSign := true, exponentWidth := 1
    infinity := "null", nan := "null" }

/-- The indented text of a double; what is not finite is written as null. -/
def indentedRealText (x : Binary64) : List Char :=
  match x.toRat? with
  | some _ => (indentedReal.write x).toList
  | none => "null".toList

/-! ## Documents -/

/-- The separators of the compact form. -/
structure Separators where
  item : List Char
  key : List Char

/-- A comma and a colon, each before a space. -/
def spaced : Separators := ⟨[',', ' '], [':', ' ']⟩

/-- A comma and a colon alone. -/
def tight : Separators := ⟨[','], [':']⟩

mutual

/-- A document on one line. -/
def compact [StandIns] (sep : Separators) : Datum → List Char
  | .null => "null".toList
  | .bool b => (if b then "true" else "false").toList
  | .int n => (intText n).toList
  | .real x => (compactReal.write x).toList
  | .text s => asciiText s
  | .moment written => asciiText written
  | .array [] => ['[', ']']
  | .array (item :: items) => '[' :: compact sep item ++ compactItems sep items
  | .object [] => ['{', '}']
  | .object ((name, value) :: fields) =>
    '{' :: asciiText name ++ sep.key ++ compact sep value ++ compactFields sep fields

/-- The items after the first, each behind a separator, and the closing bracket. -/
def compactItems [StandIns] (sep : Separators) : List Datum → List Char
  | [] => [']']
  | item :: items => sep.item ++ compact sep item ++ compactItems sep items

/-- The fields after the first, each behind a separator, and the closing brace. -/
def compactFields [StandIns] (sep : Separators) : List (String × Datum) → List Char
  | [] => ['}']
  | (name, value) :: fields =>
    sep.item ++ asciiText name ++ sep.key ++ compact sep value ++ compactFields sep fields

end

/-- A line end and the indentation of a level, two spaces each. -/
def newLine (level : Nat) : List Char :=
  '\n' :: List.replicate (2 * level) ' '

mutual

/-- A document over several lines, whose first line is at the given level. -/
def indented (level : Nat) : Datum → List Char
  | .null => "null".toList
  | .bool b => (if b then "true" else "false").toList
  | .int n => (intText n).toList
  | .real x => indentedRealText x
  | .text s => plainText s
  | .moment written => plainText written
  | .array [] => ['[', ']']
  | .array (item :: items) =>
    '[' :: newLine (level + 1) ++ indented (level + 1) item ++ indentedItems level items
  | .object [] => ['{', '}']
  | .object ((name, value) :: fields) =>
    '{' :: newLine (level + 1) ++ plainText name ++ [':', ' '] ++ indented (level + 1) value ++
      indentedFields level fields

/-- The items after the first, each on a line of its own, and the closing bracket. -/
def indentedItems (level : Nat) : List Datum → List Char
  | [] => newLine level ++ [']']
  | item :: items =>
    ',' :: newLine (level + 1) ++ indented (level + 1) item ++ indentedItems level items

/-- The fields after the first, each on a line of its own, and the closing brace. -/
def indentedFields (level : Nat) : List (String × Datum) → List Char
  | [] => newLine level ++ ['}']
  | (name, value) :: fields =>
    ',' :: newLine (level + 1) ++ plainText name ++ [':', ' '] ++ indented (level + 1) value ++
      indentedFields level fields

end

/-- The compact text with spaces behind the separators. -/
def compactText [StandIns] (d : Datum) : String :=
  String.ofList (compact spaced d)

/-- The compact text without spaces. -/
def tightText [StandIns] (d : Datum) : String :=
  String.ofList (compact tight d)

/-- The indented text. -/
def indentedText (d : Datum) : String :=
  String.ofList (indented 0 d)

end TieredTerms.Json
