import RuleConsult.Json.Reader
import RuleConsult.Settings.Document

/-!
# Documents

A configuration file is a document: one JSON value, perhaps after a mark of the order of bytes. A
document is read by lines. A quoted text may go on over several lines: white space around the end of
a line is left out, and the end of a single line counts as a space. The name of a field stands in
one line with its colon, and not far from it.

* `Document.read` is the value of a document.
-/

namespace RuleConsult

open Text

namespace Document

/-! ## Lines -/

/-- Whether the character may stand in a document. -/
def isAllowed (c : Char) : Bool :=
  let n := c.toNat
  n == 9 || n == 10 || n == 13 || (0x20 ≤ n && n ≤ 0x7E) || n == 0x85 ||
    (0xA0 ≤ n && n ≤ 0xFFFD) || 0x10000 ≤ n

/-- Whether the character ends a line. -/
def isLineEnd (c : Char) : Bool :=
  c == '\n' || c.toNat == 0x85 || c.toNat == 0x2028 || c.toNat == 0x2029

/-- Whether the character is a blank within a line. -/
def isBlank (c : Char) : Bool := c == ' ' || c == '\t'

/-- The end of a line as it counts in a text: the ends of paragraphs stay, others are line feeds. -/
def lineEnd (c : Char) : Char := if c.toNat == 0x85 then '\n' else c

/-- Blanks in a text, with the ends of lines among them. -/
inductive Gap where
  /-- Blanks within a line, the last one first. -/
  | blanks (held : List Char)
  /-- The end of a line and the ends of further lines, the last one first. -/
  | lines (first : Char) (more : List Char)
  deriving DecidableEq, Repr

namespace Gap

/-- No blanks. -/
def empty : Gap := .blanks []

/-- What the gap stands for. -/
def toList : Gap → List Char
  | .blanks held => held.reverse
  | .lines first more =>
    if first != '\n' then first :: more.reverse
    else if more.isEmpty then [' ']
    else more.reverse

/-- The gap with another blank or the end of another line. -/
def push (c : Char) : Gap → Gap
  | .blanks held => if isLineEnd c then .lines (lineEnd c) [] else .blanks (c :: held)
  | .lines first more => .lines first (if isLineEnd c then lineEnd c :: more else more)

end Gap

/-- The document with each quoted text in one line. The gap is what was read of the text since its
last other character; there is none outside texts. -/
def joinLines : Option Gap → List Char → List Char
  | gap, [] => (gap.map Gap.toList).getD []
  | none, c :: rest => c :: joinLines (if c == '"' then some .empty else none) rest
  | some gap, '\\' :: c :: rest => gap.toList ++ '\\' :: c :: joinLines (some .empty) rest
  | some gap, c :: rest =>
    if isBlank c || isLineEnd c then joinLines (some (gap.push c)) rest
    else gap.toList ++ c :: joinLines (if c == '"' then none else some .empty) rest

/-! ## Faults -/

/-- The greatest distance of a colon from the beginning of the name before it. -/
def maxNameDistance : Nat := 1024

/-- What precedes a place in a document. -/
structure Context where
  /-- Whether the place is in a text. -/
  quoted : Bool
  /-- The distance from the beginning of the last text. -/
  distance : Nat
  /-- Whether a line ended since the last text began. -/
  broken : Bool
  deriving DecidableEq, Repr

/-- The context at the beginning of a document. -/
def Context.start : Context := ⟨false, 0, false⟩

/-- Whether a line begins with the mark that stands between documents. -/
def beginsSeparator (line : List Char) : Bool :=
  (line.take 3 == ['-', '-', '-'] || line.take 3 == ['.', '.', '.']) &&
    (line.drop 3).head?.all fun c => isBlank c || isLineEnd c

/-- The first fault in the lines of a document. -/
def lineFault? (context : Context) : List Char → Option DocumentFault
  | [] => none
  | '\\' :: c :: rest =>
    lineFault? { context with distance := context.distance + 2,
                              broken := context.broken || isLineEnd c } rest
  | c :: rest =>
    let next := { context with distance := context.distance + 1,
                               broken := context.broken || isLineEnd c }
    if context.quoted then
      if c == '"' then lineFault? { next with quoted := false } rest
      else if isLineEnd c && beginsSeparator rest then some .separator
      else lineFault? next rest
    else if c == '"' then lineFault? ⟨true, 1, false⟩ rest
    else if c == '\t' then some .tab
    else if c == ':' && (context.broken || maxNameDistance < context.distance) then some .name
    else lineFault? next rest

mutual

/-- The number of digits of the first number in a value that has too many. -/
def longNumeral? : Datum → Option Nat
  | .int value =>
    let digits := (toString value.natAbs).length
    if maxNumeralDigits < digits then some digits else none
  | .list items => longItem? items
  | .record fields => longField? fields
  | _ => none

/-- The same for the items of a list. -/
def longItem? : List Datum → Option Nat
  | [] => none
  | item :: rest => (longNumeral? item).orElse fun _ => longItem? rest

/-- The same for the fields of a record. -/
def longField? : List (String × Datum) → Option Nat
  | [] => none
  | (_, value) :: rest => (longNumeral? value).orElse fun _ => longField? rest

end

/-! ## Reading -/

/-- The characters of a document without a mark of the order of bytes. -/
def dropMark : List Char → List Char
  | c :: rest => if c.toNat == 0xFEFF then rest else c :: rest
  | [] => []

/-- The value of a document. -/
def read (text : String) : Except DocumentFault Datum :=
  let chars := dropMark text.toList
  if !chars.all isAllowed then .error .unprintable
  else
    match lineFault? .start chars with
    | some fault => .error fault
    | none =>
      let value := Datum.ofText (String.ofList (joinLines none chars))
      match longNumeral? value with
      | some digits => .error (.numeral (.tooLong digits))
      | none => .ok value

end Document

end RuleConsult
