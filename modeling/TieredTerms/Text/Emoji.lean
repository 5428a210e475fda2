import TieredTerms.Text.Blank
import TieredTerms.Text.EmojiNames

/-!
# Emoji codes

A text can give an emoji by its name between colons.  Behind the name `-text` or `-emoji` may ask
for one of the two ways in which the emoji can be shown.

* `withEmoji` is a text with the emoji in the stead of their codes.
-/

namespace TieredTerms

/-- The characters before the next colon, and those behind it.  No blank stands before it. -/
def beforeColon? : List Char → Option (List Char × List Char)
  | [] => none
  | c :: cs =>
    if c = ':' then some ([], cs)
    else if isBlank c then none
    else (beforeColon? cs).map fun (name, rest) => (c :: name, rest)

/-- A character in lower case, for the letters of western Europe. -/
def lowerLetter (c : Char) : Char :=
  let n := c.toNat
  if 0xc0 ≤ n ∧ n ≤ 0xde ∧ n ≠ 0xd7 then Char.ofNat (n + 0x20) else c.toLower

/-- A code without what asks for a way to show the emoji, and the selector of that way. -/
def codeParts (code : List Char) : List Char × List Char :=
  match endingIn "-text", endingIn "-emoji" with
  | some name, _ => (name, ['\ufe0e'])
  | none, some name => (name, ['\ufe0f'])
  | none, none => (code, [])
where
  /-- The code before an ending that it has. -/
  endingIn (ending : String) : Option (List Char) :=
    if ending.toList.isSuffixOf code then some (code.take (code.length - ending.length)) else none

/-- The emoji that a code between colons stands for. -/
def emojiOfCode? (code : List Char) : Option (List Char) :=
  let (name, selector) := codeParts code
  (emojiOf? (String.ofList (name.map lowerLetter))).map fun emoji => emoji.toList ++ selector

/-- A text with the emoji in the stead of their codes.  What stands between two colons and is no
code is left as it is, both colons with it.  The fuel bounds the number of characters. -/
def replaceCodes : Nat → List Char → List Char
  | 0, cs => cs
  | _ + 1, [] => []
  | fuel + 1, c :: cs =>
    if c = ':' then
      match beforeColon? cs with
      | some (code, rest) =>
        (emojiOfCode? code).getD (':' :: code ++ [':']) ++ replaceCodes fuel rest
      | none => c :: replaceCodes fuel cs
    else c :: replaceCodes fuel cs

/-- A text with the emoji in the stead of their codes. -/
def withEmoji (cs : List Char) : List Char :=
  replaceCodes cs.length cs

end TieredTerms
