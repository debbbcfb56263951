import RuleConsult.Text.Ranges

/-!
# White space

The white space that surrounds command lines, answers and facts: the characters of the database's
white space property together with the four information separators. A zero width space is none.
-/

namespace RuleConsult.Text

/-- White space as ascending ranges of code points. -/
def spaceRanges : List (Nat × Nat) :=
  [ (0x9, 0xD), (0x1C, 0x20), (0x85, 0x85), (0xA0, 0xA0), (0x1680, 0x1680), (0x2000, 0x200A),
    (0x2028, 0x2029), (0x202F, 0x202F), (0x205F, 0x205F), (0x3000, 0x3000) ]

/-- Whether the character is white space. -/
def isSpace (c : Char) : Bool :=
  inRanges spaceRanges c.toNat

/-- The list without the leading elements that satisfy `p`, and without the trailing ones. -/
def trimList {α : Type} (p : α → Bool) (xs : List α) : List α :=
  ((xs.dropWhile p).reverse.dropWhile p).reverse

/-- The text without white space at either end. -/
def trim (text : String) : String :=
  String.ofList (trimList isSpace text.toList)

/-- The maximal runs of characters that are not white space, in order. -/
def words (text : String) : List String :=
  ((text.toList.splitBy (fun a b => isSpace a == isSpace b)).filter
    (fun run => !run.all isSpace)).map String.ofList

end RuleConsult.Text
