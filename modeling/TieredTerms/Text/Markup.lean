import TieredTerms.Text.Digit
import TieredTerms.Text.Emoji

/-!
# Marked up texts

A text for a screen can hold tags in brackets, as in `[bold]now[/bold]`: a tag opens a style, and
one with a slash closes the style of its name, or the last one where it has no name.  A tag starts
with a small letter, `#`, `/` or `@`; other brackets are text.  A backslash before a tag makes it
text.

* `Style.ofText?` reads the words of a style and `Style.name` is its one name, so that a style can
  be closed by other words than it was opened with.
* `markupPieces` divides a text into tags and what stands between them.
* `unmarked` is the text alone, its emoji codes replaced; `MarkupFault` tells of a closing tag that
  closes nothing.
-/

namespace TieredTerms

/-! ## Styles -/

/-- The attributes of styles in the order of their naming, each with its other names. -/
def styleAttributes : List (String × List String) :=
  [("bold", ["b"]), ("dim", ["d"]), ("italic", ["i"]), ("underline", ["u"]), ("blink", []),
   ("blink2", []), ("reverse", ["r"]), ("conceal", ["c"]), ("strike", ["s"]),
   ("underline2", ["uu"]), ("frame", []), ("encircle", []), ("overline", ["o"])]

/-- The attribute that a word names. -/
def attributeOf? (word : String) : Option String :=
  (styleAttributes.find? fun (name, others) => name = word || others.contains word).map Prod.fst

/-- The names of colors. -/
def colorNames : String :=
  "aquamarine1 aquamarine3 black blue blue1 blue3 blue_violet bright_black bright_blue
    bright_cyan bright_green bright_magenta bright_red bright_white bright_yellow cadet_blue
    chartreuse1 chartreuse2 chartreuse3 chartreuse4 cornflower_blue cornsilk1 cyan cyan1 cyan2
    cyan3 dark_blue dark_cyan dark_goldenrod dark_green dark_khaki dark_magenta dark_olive_green1
    dark_olive_green2 dark_olive_green3 dark_orange dark_orange3 dark_red dark_sea_green
    dark_sea_green1 dark_sea_green2 dark_sea_green3 dark_sea_green4 dark_slate_gray1
    dark_slate_gray2 dark_slate_gray3 dark_turquoise dark_violet deep_pink1 deep_pink2 deep_pink3
    deep_pink4 deep_sky_blue1 deep_sky_blue2 deep_sky_blue3 deep_sky_blue4 dodger_blue1
    dodger_blue2 dodger_blue3 gold1 gold3 gray0 gray100 gray11 gray15 gray19 gray23 gray27 gray3
    gray30 gray35 gray37 gray39 gray42 gray46 gray50 gray53 gray54 gray58 gray62 gray63 gray66
    gray69 gray7 gray70 gray74 gray78 gray82 gray84 gray85 gray89 gray93 green green1 green3
    green4 green_yellow grey0 grey100 grey11 grey15 grey19 grey23 grey27 grey3 grey30 grey35
    grey37 grey39 grey42 grey46 grey50 grey53 grey54 grey58 grey62 grey63 grey66 grey69 grey7
    grey70 grey74 grey78 grey82 grey84 grey85 grey89 grey93 honeydew2 hot_pink hot_pink2
    hot_pink3 indian_red indian_red1 khaki1 khaki3 light_coral light_cyan1 light_cyan3
    light_goldenrod1 light_goldenrod2 light_goldenrod3 light_green light_pink1 light_pink3
    light_pink4 light_salmon1 light_salmon3 light_sea_green light_sky_blue1 light_sky_blue3
    light_slate_blue light_slate_gray light_slate_grey light_steel_blue light_steel_blue1
    light_steel_blue3 light_yellow3 magenta magenta1 magenta2 magenta3 medium_orchid
    medium_orchid1 medium_orchid3 medium_purple medium_purple1 medium_purple2 medium_purple3
    medium_purple4 medium_spring_green medium_turquoise medium_violet_red misty_rose1 misty_rose3
    navajo_white1 navajo_white3 navy_blue orange1 orange3 orange4 orange_red1 orchid orchid1
    orchid2 pale_green1 pale_green3 pale_turquoise1 pale_turquoise4 pale_violet_red1 pink1 pink3
    plum1 plum2 plum3 plum4 purple purple3 purple4 red red1 red3 rosy_brown royal_blue1 salmon1
    sandy_brown sea_green1 sea_green2 sea_green3 sky_blue1 sky_blue2 sky_blue3 slate_blue1
    slate_blue3 spring_green1 spring_green2 spring_green3 spring_green4 steel_blue steel_blue1
    steel_blue3 tan thistle1 thistle3 turquoise2 turquoise4 violet wheat1 wheat4 white yellow
    yellow1 yellow2 yellow3 yellow4"

/-- The characters between the start and the end that they have. -/
def between? (start finish : String) (cs : List Char) : Option (List Char) :=
  if start.toList.isPrefixOf cs && finish.toList.isSuffixOf cs
      && start.length + finish.length ≤ cs.length then
    some ((cs.drop start.length).take (cs.length - start.length - finish.length))
  else none

/-- Whether a text of digits is a number that fits into a byte. -/
def isByteText (cs : List Char) : Bool :=
  !cs.isEmpty && cs.all isAsciiDigit && digitsValue cs ≤ 255

/-- Whether a word in small letters is a color: a name, a number, or its red, green and blue
parts. -/
def isColor (word : String) : Bool :=
  let cs := word.toList
  let isHex (c : Char) : Bool := isAsciiDigit c || ('a' ≤ c && c ≤ 'f')
  word == "default" || ((colorNames.toList.splitOnP (·.isWhitespace)).contains cs && cs ≠ []) ||
    (cs.length == 7 && cs.head? == some '#' && cs.tail.all isHex) ||
    ((between? "color(" ")" cs).any fun digits => digits.length ≤ 3 && isByteText digits) ||
    ((between? "rgb(" ")" cs).any fun parts =>
      let parts := parts.splitOn ','
      parts.length == 3 && parts.all isByteText)

/-- A style: the attributes that are set or unset, the colors, and the target of a link. -/
structure Style where
  attributes : List (String × Bool)
  color : Option String
  background : Option String
  link : Option String

namespace Style

/-- The style where nothing is said. -/
def plain : Style := ⟨[], none, none, none⟩

/-- The style with an attribute set or unset. -/
def withAttribute (s : Style) (name : String) (isSet : Bool) : Style :=
  { s with attributes := (name, isSet) :: s.attributes.filter fun known => known.1 ≠ name }

/-- A style with what words say added to it. -/
def addWords (s : Style) : List String → Option Style
  | [] => some s
  | word :: rest =>
    let word := word.toLower
    if word = "on" then
      match rest with
      | color :: rest =>
        if isColor color.toLower then addWords { s with background := some color.toLower } rest
        else none
      | [] => none
    else if word = "not" then
      match rest with
      | name :: rest =>
        match attributeOf? name with
        | some name => addWords (s.withAttribute name false) rest
        | none => none
      | [] => none
    else if word = "link" then
      match rest with
      | target :: rest => addWords { s with link := some target } rest
      | [] => none
    else
      match attributeOf? word with
      | some name => addWords (s.withAttribute name true) rest
      | none => if isColor word then addWords { s with color := some word } rest else none

/-- The style of a text of words. -/
def ofText? (text : List Char) : Option Style :=
  let words := (text.splitOnP isBlank).filter (· ≠ [])
  if words = ["none".toList] then some .plain else addWords .plain (words.map String.ofList)

/-- The words that a style is named by: its attributes in their order, and its colors. -/
def words (s : Style) : List String :=
  (styleAttributes.filterMap fun (name, _) =>
    (s.attributes.lookup name).map fun isSet => if isSet then name else "not " ++ name) ++
  s.color.toList ++ (s.background.toList.map ("on " ++ ·)) ++ s.link.toList.map ("link " ++ ·)

/-- The name of a style. -/
def name (s : Style) : String :=
  if s.words.isEmpty then "none" else " ".intercalate s.words

end Style

/-- The one name of the style that a text says; a text that says none is its own name. -/
def styleName (text : List Char) : String :=
  match Style.ofText? text with
  | some style => style.name
  | none => (String.ofList (stripChars text)).toLower

/-! ## Tags -/

/-- What stands in brackets: a name, and parameters behind an equals sign. -/
structure Tag where
  name : List Char
  parameters : Option (List Char)

namespace Tag

/-- The tag of what stands in brackets. -/
def ofBody (body : List Char) : Tag :=
  let name := body.takeWhile (· ≠ '=')
  let rest := body.drop name.length
  ⟨name, if rest.isEmpty then none else some rest.tail⟩

/-- The tag in brackets. -/
def written (t : Tag) : String :=
  String.ofList ('[' :: t.name ++ ((t.parameters.map ('=' :: ·)).getD []) ++ [']'])

end Tag

/-- A piece of a marked up text: text, or a tag with its position. -/
inductive MarkupPiece where
  | text (cs : List Char)
  | tag (position : Nat) (tag : Tag)

/-- What stands between an opening bracket and the next closing one, if it is a tag. -/
def tagBody? (cs : List Char) : Option (List Char) :=
  let body := cs.takeWhile fun c => c ≠ '[' && c ≠ ']'
  let startsTag (c : Char) : Bool := ('a' ≤ c && c ≤ 'z') || c == '#' || c == '/' || c == '@'
  if body.head?.any startsTag && (cs.drop body.length).head? == some ']' then some body else none

/-- A piece of text where there is any. -/
def textPiece (cs : List Char) : List MarkupPiece :=
  if cs.isEmpty then [] else [.text cs]

/-- The pieces of a text whose first character is at `position`, where `pending` is the text in
front of it in reverse.  Of the backslashes before a tag two stand for one, and one that is left
over makes the tag text.  The fuel bounds the number of characters. -/
def piecesFrom : Nat → (position : Nat) → (pending : List Char) → List Char → List MarkupPiece
  | 0, _, pending, cs => textPiece (pending.reverse ++ cs)
  | _ + 1, _, pending, [] => textPiece pending.reverse
  | fuel + 1, position, pending, c :: cs =>
    let slashes := ((c :: cs).takeWhile (· = '\\')).length
    match (c :: cs).drop slashes with
    | '[' :: behind =>
      match tagBody? behind with
      | some body =>
        let literal := List.replicate (slashes / 2) '\\'
        let piece : MarkupPiece :=
          if slashes % 2 = 1 then .text ('[' :: body ++ [']'])
          else .tag (position + slashes) (.ofBody body)
        textPiece pending.reverse ++ textPiece literal ++ piece ::
          piecesFrom fuel (position + slashes + body.length + 2) []
            (behind.drop (body.length + 1))
      | none =>
        piecesFrom fuel (position + slashes + 1)
          ('[' :: List.replicate slashes '\\' ++ pending) behind
    | _ => piecesFrom fuel (position + 1) (c :: pending) cs

/-- The pieces of a marked up text. -/
def markupPieces (cs : List Char) : List MarkupPiece :=
  piecesFrom cs.length 0 [] cs

/-! ## The text alone -/

/-- A closing tag that closes nothing. -/
inductive MarkupFault where
  /-- No style is open. -/
  | nothingOpen (position : Nat)
  /-- No style of that name is open. -/
  | notOpen (tag : String) (position : Nat)
  deriving DecidableEq

/-- The words for a fault. -/
def MarkupFault.message : MarkupFault → String
  | .nothingOpen position =>
    "closing tag '[/]' at position " ++ natText position ++ " has nothing to close"
  | .notOpen tag position =>
    "closing tag '" ++ tag ++ "' at position " ++ natText position ++
      " doesn't match any open tag"

/-- A text whose opening brackets have no backslash before them. -/
def withoutEscapes : List Char → List Char
  | [] => []
  | '\\' :: '[' :: cs => '[' :: withoutEscapes cs
  | c :: cs => c :: withoutEscapes cs

/-- The text of pieces, where styles of the given names are open, the last opened one first. -/
def textOfPieces : (opened : List String) → List MarkupPiece → Except MarkupFault (List Char)
  | _, [] => .ok []
  | opened, .text cs :: pieces => do
    return withEmoji (withoutEscapes cs) ++ (← textOfPieces opened pieces)
  | opened, .tag position tag :: pieces =>
    match tag.name with
    | '/' :: name =>
      let name := stripChars name
      if name.isEmpty then
        match opened with
        | [] => .error (.nothingOpen position)
        | _ :: opened => textOfPieces opened pieces
      else
        let style := styleName name
        if opened.contains style then textOfPieces (opened.erase style) pieces
        else .error (.notOpen tag.written position)
    | name => textOfPieces (styleName name :: opened) pieces

/-- A marked up text without its tags, its emoji codes replaced. -/
def unmarked (text : String) : Except MarkupFault String := do
  let cs := text.toList
  if cs.contains '[' then return String.ofList (← textOfPieces [] (markupPieces cs))
  return String.ofList (withEmoji cs)

end TieredTerms
