import RuleConsult.Text.CharacterName.A
import RuleConsult.Text.CharacterName.B
import RuleConsult.Text.CharacterName.C
import RuleConsult.Text.CharacterName.DToG
import RuleConsult.Text.CharacterName.HToL
import RuleConsult.Text.CharacterName.MToP
import RuleConsult.Text.CharacterName.QToS
import RuleConsult.Text.CharacterName.TToZ
import RuleConsult.Text.Ranges

/-!
# Names of characters

Characters have names in capitals, digits, spaces and hyphens; some have several. Most names are
listed. They are written as a tree: what may follow the beginning of a name stands after it in
parentheses, and alternatives are kept apart by commas. Syllables are named by their sounds, and
unified ideographs by their code points.

* `isCharacterName` tells whether a character has a name.
-/

namespace RuleConsult.Text

namespace CharacterName

/-- Whether the tree that a text writes has a name. `here` is what remains of the name for the
alternatives, and `left` is what remains after what was read of the present one, or nothing if that
differs from the name. `depth` counts the open parentheses of an alternative that is passed over. -/
def isInTree (here : List Char) (left : Option (List Char)) (depth : Nat) : List Char → Bool
  | [] => left == some []
  | c :: rest =>
    if depth != 0 then
      let depth := if c == '(' then depth + 1 else if c == ')' then depth - 1 else depth
      isInTree here left depth rest
    else if c == '(' then
      match left with
      | some left => isInTree left left 0 rest
      | none => isInTree here none 1 rest
    else if c == ',' then left == some [] || isInTree here here 0 rest
    -- Alternatives begin differently, so the name can be in no other branch.
    else if c == ')' then left == some []
    else
      match left with
      | some (next :: left) => isInTree here (if next == c then some left else none) 0 rest
      | _ => isInTree here none 0 rest

/-- The trees of listed names. -/
def trees : List (List String) :=
  [namesWithA, namesWithB, namesWithC, namesDToG, namesHToL, namesMToP, namesQToS, namesTToZ]

/-- Whether a name in capitals is listed. -/
def isListed (name : List Char) : Bool :=
  trees.any fun tree => isInTree name name 0 (tree.flatMap String.toList)

/-- The sounds that a syllable begins with. -/
def leads : List String :=
  ["G", "GG", "N", "D", "DD", "R", "M", "B", "BB", "S", "SS", "", "J", "JJ", "C", "K", "T", "P",
    "H"]

/-- The vowels of syllables. -/
def vowels : List String :=
  ["A", "AE", "YA", "YAE", "EO", "E", "YEO", "YE", "O", "WA", "WAE", "OE", "YO", "U", "WEO", "WE",
    "WI", "YU", "EU", "YI", "I"]

/-- The sounds that a syllable ends with. -/
def tails : List String :=
  ["", "G", "GG", "GS", "N", "NJ", "NH", "D", "L", "LG", "LM", "LB", "LS", "LT", "LP", "LH", "M",
    "B", "BS", "S", "SS", "NG", "J", "C", "K", "T", "P", "H"]

/-- Whether the sounds are those of a syllable. -/
def isSyllable (sounds : List Char) : Bool :=
  leads.any fun lead => vowels.any fun vowel => tails.any fun tail =>
    sounds == (lead ++ vowel ++ tail).toList

/-- The unified ideographs, as ascending ranges of code points. -/
def ideographRanges : List (Nat × Nat) :=
  [ (0x3400, 0x4DBF), (0x4E00, 0x9FFF), (0x20000, 0x2A6DF), (0x2A700, 0x2B738),
    (0x2B740, 0x2B81D), (0x2B820, 0x2CEA1), (0x2CEB0, 0x2EBE0), (0x30000, 0x3134A) ]

/-- The value of a hexadecimal digit in capitals. -/
def digitValue? (c : Char) : Option Nat :=
  if c.isDigit then some (c.toNat - '0'.toNat)
  else if 'A' ≤ c ∧ c ≤ 'F' then some (c.toNat - 'A'.toNat + 10)
  else none

/-- Whether the digits, four or five of them, are the code point of a unified ideograph. -/
def isIdeographCode (digits : List Char) : Bool :=
  match digits.mapM digitValue? with
  | some values =>
    (values.length == 4 || values.length == 5) &&
      inRanges ideographRanges (values.foldl (fun n value => 16 * n + value) 0)
  | none => false

/-- What follows a beginning. -/
def after? (beginning : String) (name : List Char) : Option (List Char) :=
  if beginning.toList.isPrefixOf name then some (name.drop beginning.length) else none

end CharacterName

/-- Whether a character has the name. Listed names may be in small letters. -/
def isCharacterName (name : List Char) : Bool :=
  match CharacterName.after? "HANGUL SYLLABLE " name with
  | some sounds => CharacterName.isSyllable sounds
  | none =>
    match CharacterName.after? "CJK UNIFIED IDEOGRAPH-" name with
    | some digits => CharacterName.isIdeographCode digits
    | none => CharacterName.isListed (name.map Char.toUpper)

end RuleConsult.Text
