import TieredTerms.Number.FixedDigits
import TieredTerms.Value

/-!
# Texts with marks

A mark in a text stands for an argument and tells how it is written: `%s` as a text of its own,
`%r` by its form in messages, `%d` and its like as a number.  Between the percent sign and the
letter may stand the name of an argument, flags, a width and a precision.

* `pieces?` cuts a text into characters and marks.
* `Mark.written?` writes one argument at a mark.
* `filled?` writes a text with all of its arguments.  It fails where marks and arguments do not
  agree.
-/

namespace TieredTerms

/-! ## Marks -/

/-- A width or a precision: none, a number, or the next argument. -/
inductive Extent where
  | none
  | given (n : Nat)
  | argument
  deriving DecidableEq

/-- A mark: the name of its argument, its flags, and how the argument is written. -/
structure Mark where
  name : Option String
  flags : List Char
  width : Extent
  precision : Extent
  letter : Char

/-- A part of a text with marks. -/
inductive Piece where
  | char (c : Char)
  | mark (m : Mark)

/-- The name up to the closing bracket that belongs to an opening one, with what follows; `depth`
brackets inside it are open. -/
def readName? (depth : Nat) : List Char → Option (List Char × List Char)
  | [] => none
  | ')' :: cs =>
    match depth with
    | 0 => some ([], cs)
    | depth + 1 => (readName? depth cs).map fun (name, rest) => (')' :: name, rest)
  | c :: cs =>
    (readName? (if c = '(' then depth + 1 else depth) cs).map fun (name, rest) => (c :: name, rest)

/-- The width or precision that characters start with, with what follows. -/
def readExtent (empty : Extent) (cs : List Char) : Extent × List Char :=
  match cs with
  | '*' :: rest => (.argument, rest)
  | cs =>
    let digits := cs.takeWhile isAsciiDigit
    (if digits.isEmpty then empty else .given (digitsValue digits), cs.dropWhile isAsciiDigit)

/-- The mark behind a percent sign, with what follows it. -/
def readMark? (cs : List Char) : Option (Mark × List Char) := do
  let (name, cs) ← match cs with
    | '(' :: rest => (readName? 0 rest).map fun (name, rest) => (some (String.ofList name), rest)
    | cs => some (none, cs)
  let isFlag (c : Char) : Bool := ['-', '+', ' ', '#', '0'].contains c
  let flags := cs.takeWhile isFlag
  let (width, cs) := readExtent .none (cs.dropWhile isFlag)
  let (precision, cs) :=
    match cs with
    | '.' :: rest => readExtent (.given 0) rest
    | cs => (.none, cs)
  let cs :=
    match cs with
    | c :: rest => if ['h', 'l', 'L'].contains c then rest else cs
    | [] => cs
  match cs with
  | letter :: rest => some (⟨name, flags, width, precision, letter⟩, rest)
  | [] => none

/-- The pieces of a text with marks.  The fuel bounds their number. -/
def readPieces? : Nat → List Char → Option (List Piece)
  | _, [] => some []
  | 0, _ => none
  | fuel + 1, '%' :: cs => do
    let (mark, rest) ← readMark? cs
    return .mark mark :: (← readPieces? fuel rest)
  | fuel + 1, c :: cs => do return .char c :: (← readPieces? fuel cs)

/-- The pieces of a text with marks. -/
def pieces? (text : String) : Option (List Piece) :=
  readPieces? text.length text.toList

/-! ## Arguments -/

namespace Mark

/-- Whether a mark has a flag. -/
def has (m : Mark) (flag : Char) : Bool :=
  m.flags.contains flag

/-- Whether a mark is for a number, which has a place for its sign. -/
def isNumeric (m : Mark) : Bool :=
  "diuxXoeEfFgG".toList.contains m.letter

/-- Whether a mark is for a number in another base, which may have the base in front. -/
def hasBase (m : Mark) : Bool :=
  "xXo".toList.contains m.letter

/-- A text at a mark, filled up to the width.  The fill stands in front, but behind it where the
mark is to the left; zeros stand behind a sign and a base. -/
def laidOut (m : Mark) (width : Option Nat) (text : List Char) : List Char :=
  let (sign, text) :=
    match m.isNumeric, text with
    | true, '-' :: rest => (['-'], rest)
    | true, text => (if m.has '+' then ['+'] else if m.has ' ' then [' '] else [], text)
    | false, text => ([], text)
  let base := if m.has '#' && m.hasBase then text.take 2 else []
  let body := text.drop base.length
  let fill := List.replicate ((width.getD 0) - (sign.length + base.length + body.length))
  if m.has '-' then sign ++ base ++ body ++ fill ' '
  else if m.isNumeric && m.has '0' then sign ++ base ++ fill '0' ++ body
  else fill ' ' ++ sign ++ base ++ body

/-- A whole number in the base of the mark, with at least so many digits. -/
def integerText (m : Mark) (precision : Option Nat) (n : Int) : List Char :=
  let (base, mark) : Nat × List Char :=
    if m.letter = 'x' ∨ m.letter = 'X' then (16, ['0', 'x'])
    else if m.letter = 'o' then (8, ['0', 'o'])
    else (10, [])
  let digits := Nat.toDigits base n.natAbs
  let text := (if m.has '#' then mark else []) ++
    List.replicate ((precision.getD 0) - digits.length) '0' ++ digits
  (if n < 0 then ['-'] else []) ++ (if m.letter = 'X' then text.map Char.toUpper else text)

/-- A double in the form of the mark, with the usual six digits where no precision is given. -/
def realText (m : Mark) (precision : Option Nat) (x : Binary64) : List Char :=
  let precision := precision.getD 6
  let cased (text : String) : List Char :=
    if m.letter.isUpper then text.toUpper.toList else text.toList
  let magnitude (q : Rat) : List Char :=
    match m.letter.toLower with
    | 'e' => scientificText (m.has '#') m.letter precision q
    | 'f' => fixedText (m.has '#') precision q
    | _ => generalText (m.has '#') (if m.letter = 'G' then 'E' else 'e') precision q
  match x with
  | .nan => cased "nan"
  | .infinite negative => (if negative then ['-'] else []) ++ cased "inf"
  | .finite negative significand exponent =>
    (if negative then ['-'] else []) ++ magnitude ((significand : Rat) * 2 ^ exponent)

/-- A text with the characters beyond ASCII escaped. -/
def asciiOnly [StandIns] (cs : List Char) : List Char :=
  cs.flatMap fun c =>
    if c.toNat < 0x80 then [c] else codePointEscape ((loneUnit? c).getD c.toNat)

/-- The whole number that a mark takes from a value: doubles lose their fractions in base ten, and
are no whole numbers in another. -/
def integerOf? (m : Mark) (v : Value) : Option Int :=
  match v with
  | .real x => if m.hasBase then none else x.toRat?.map Binary64.integerPart
  | v => v.asIndex?

/-- The double that a value is. -/
def realOf? (v : Value) : Option Binary64 :=
  match v with
  | .real x => some x
  | v => do
    match Binary64.ofInt (← v.asIndex?) with
    | .infinite _ => none
    | x => some x

/-- The character that a value is: one of a text, or one by its number. -/
def charOf? [StandIns] (v : Value) : Option Char :=
  match v.asText?, v.asIndex? with
  | some s, _ => if s.length = 1 then s.toList.head? else none
  | none, some n =>
    if n < 0 ∨ 0x10ffff < n then none
    else if isFirstHalf n.toNat || isSecondHalf n.toNat then some (standIn n.toNat)
    else some (Char.ofNat n.toNat)
  | none, none => none

/-- The characters of an argument before they are laid out. -/
def body? [StandIns] (m : Mark) (precision : Option Nat) (v : Value) : Option (List Char) :=
  let cut (s : String) : List Char :=
    match precision with
    | some n => s.toList.take n
    | none => s.toList
  match m.letter with
  | 's' => v.plain?.map cut
  | 'r' => v.shown?.map cut
  | 'a' => v.shown?.map fun s => cut (String.ofList (asciiOnly s.toList))
  | 'c' => (charOf? v).map ([·])
  | letter =>
    if "eEfFgG".toList.contains letter then (realOf? v).map (m.realText precision)
    else if m.hasBase then (m.integerOf? v).map (m.integerText precision)
    else if "diu".toList.contains letter then do
      let n ← m.integerOf? v
      let _ ← intShown? n
      return m.integerText precision n
    else none

/-- An argument as it is written at a mark. -/
def written? [StandIns] (m : Mark) (width precision : Option Nat) (v : Value) :
    Option (List Char) :=
  (m.body? precision v).map (m.laidOut width)

end Mark

/-! ## Texts -/

/-- The next argument, with those behind it. -/
def nextArgument? : List Value → Option (Value × List Value)
  | [] => none
  | v :: args => some (v, args)

/-- A width or precision with the argument that it may be, and the arguments that are left. -/
def resolveExtent? (args : List Value) : Extent → Option (Option Int × List Value)
  | .none => some (none, args)
  | .given n => some (some n, args)
  | .argument => do
    let (v, args) ← nextArgument? args
    return (some (← v.asIndex?), args)

/-- The pieces of a text with their arguments.  Named arguments are looked up in `named`, and take
the place of those that are left. -/
def fillPieces? [StandIns] (named : Option (List (String × Value))) :
    List Piece → List Value → Option (List Char)
  | [], args => if args.isEmpty || named.isSome then some [] else none
  | .char c :: pieces, args => (fillPieces? named pieces args).map (c :: ·)
  | .mark m :: pieces, args => do
    let args ← match m.name with
      | some name => (named.bind (·.lookup name)).map ([·])
      | none => some args
    let (width, args) ← resolveExtent? args m.width
    let (precision, args) ← resolveExtent? args m.precision
    if m.letter = '%' then return '%' :: (← fillPieces? named pieces args)
    let (v, args) ← nextArgument? args
    let m := if width.any (· < 0) then { m with flags := '-' :: m.flags } else m
    let written ← m.written? (width.map Int.natAbs) (precision.map Int.toNat) v
    return written ++ (← fillPieces? named pieces args)

/-- A text with its marks filled in by arguments.  A single dictionary that is not empty gives named
arguments, of which not all need be asked for. -/
def filled? [StandIns] (text : String) (args : List Value) : Option String := do
  let named :=
    match args with
    | [.dict (field :: fields)] => some (field :: fields)
    | _ => none
  return String.ofList (← fillPieces? named (← pieces? text) args)

end TieredTerms
