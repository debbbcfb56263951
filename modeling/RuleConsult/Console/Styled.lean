import RuleConsult.Console.Style
import RuleConsult.Text.Width

/-!
# Styled texts

A styled text is characters together with the stretches of them that have a style. On its way to the
screen it is parted at the ends of its lines, and within a line after every tab. A stretch is drawn
in each part that it shares a character with; only if the text is not parted at all, stretches
without characters are drawn as well.

* `layOut` is a text as it is laid out: tabs lead to a multiple of eight cells.
* `StyledText.drawn` lists the stretches in the order in which they are drawn.
-/

namespace RuleConsult

open Text

/-! ## Layout -/

/-- Whether a character only moves the cursor or rings the bell, so that it is never written. -/
def isCursorControl (c : Char) : Bool :=
  c.toNat == 7 || c.toNat == 8 || (11 ≤ c.toNat && c.toNat ≤ 13)

/-- The characters but those that are never written. -/
def dropControls (chars : List Char) : List Char :=
  chars.filter fun c => !isCursorControl c

/-- A line without its tabs: each stretch but the last is followed by one space and as many more as
lead to a multiple of eight cells. -/
def expandTabs (column : Nat) : List String → String
  | [] => ""
  | [stretch] => stretch
  | stretch :: rest =>
    let reached := column + width (stretch.toList ++ [' '])
    let fill := (8 - reached % 8) % 8
    stretch ++ String.ofList (List.replicate (fill + 1) ' ') ++ expandTabs (reached + fill) rest

/-- The characters as they are laid out. -/
def layOut (chars : List Char) : String :=
  String.intercalate "\n" <|
    ((String.ofList chars).splitOn "\n").map fun line => expandTabs 0 (line.splitOn "\t")

/-! ## Styles -/

/-- A stretch of a text in a style. -/
structure Span where
  /-- The place of the first character. -/
  start : Nat
  /-- The place after the last character. -/
  stop : Nat
  /-- The description of the style. -/
  style : String
  deriving DecidableEq, Repr

/-- Whether the stretch shares a character with the characters between two places. -/
def Span.meets (span : Span) (start stop : Nat) : Bool :=
  max span.start start < min span.stop stop

/-- Characters with styles. -/
structure StyledText where
  chars : List Char
  /-- The stretches by where they begin; of two that begin together the outer one comes first. -/
  spans : List Span
  deriving DecidableEq, Repr

namespace StyledText

/-- The parts of characters: lines, without what ends them, and in a line the stretches up to and
with each tab. `start` is where the part began that is being read, and `place` is where the
characters begin. -/
def parts (start place : Nat) : List Char → List (Nat × Nat)
  | [] => [(start, place)]
  | c :: rest =>
    if c == '\n' then (start, place) :: parts (place + 1) (place + 1) rest
    else if c == '\t' then (start, place + 1) :: parts (place + 1) (place + 1) rest
    else parts start (place + 1) rest

/-- The stretches in the order in which they are drawn, once for each part that they are in. -/
def drawn (text : StyledText) : List Span :=
  match parts 0 0 text.chars with
  | [_] => text.spans
  | parts => parts.flatMap fun part => text.spans.filter fun span => span.meets part.1 part.2

/-- Draws the stretches. A description of no style changes nothing. -/
def draw (text : StyledText) : Except NumeralFault Unit :=
  text.drawn.forM fun span =>
    match Style.read span.style with
    | .error (.numeral fault) => .error fault
    | _ => .ok ()

end StyledText

end RuleConsult
