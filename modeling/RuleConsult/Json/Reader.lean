import RuleConsult.Datum
import RuleConsult.Table
import RuleConsult.Text.Space

/-!
# Reading JSON

A text holds one JSON value. Numbers are integers, and of two fields of one name the later counts.
An empty text holds null, and a text that is no JSON value counts as a text value, so reading never
fails.

* `Datum.ofText` is the value written in a text.
-/

namespace RuleConsult

namespace Json

/-- The text without the white space at its beginning. -/
def skipSpace (text : List Char) : List Char :=
  text.dropWhile fun c => c == ' ' || c == '\t' || c == '\n' || c == '\r'

/-! ## Texts -/

/-- The value of a hexadecimal digit. -/
def hexValue? (c : Char) : Option Nat :=
  if c.isDigit then some (c.toNat - 48)
  else if 'a' ≤ c ∧ c ≤ 'f' then some (c.toNat - 87)
  else if 'A' ≤ c ∧ c ≤ 'F' then some (c.toNat - 55)
  else none

/-- The number written in four hexadecimal digits. -/
def hexNumber? (a b c d : Char) : Option Nat := do
  return (← hexValue? a) * 4096 + (← hexValue? b) * 256 + (← hexValue? c) * 16 + (← hexValue? d)

/-- What an escape of one letter stands for. -/
def shortEscape? (c : Char) : Option Nat :=
  match c with
  | '"' | '\\' | '/' => some c.toNat
  | 'b' => some 8
  | 'f' => some 12
  | 'n' => some 10
  | 'r' => some 13
  | 't' => some 9
  | _ => none

/-- The code units up to the closing quotation mark, and what follows it. A character beyond the
first plane counts as one unit if it stands for itself. -/
def readUnits : List Char → Option (List Nat × List Char)
  | [] => none
  | '"' :: rest => some ([], rest)
  | '\\' :: 'u' :: a :: b :: c :: d :: rest => do
    let unit ← hexNumber? a b c d
    let (units, rest) ← readUnits rest
    return (unit :: units, rest)
  | '\\' :: c :: rest => do
    let unit ← shortEscape? c
    let (units, rest) ← readUnits rest
    return (unit :: units, rest)
  | c :: rest => do
    let (units, rest) ← readUnits rest
    return (c.toNat :: units, rest)

/-- The characters of code units: a high surrogate and the low one after it make one character. -/
def joinUnits : List Nat → List Char
  | high :: low :: rest =>
    if 0xD800 ≤ high ∧ high < 0xDC00 ∧ 0xDC00 ≤ low ∧ low < 0xE000 then
      Char.ofNat (0x10000 + (high - 0xD800) * 0x400 + (low - 0xDC00)) :: joinUnits rest
    else Char.ofNat high :: joinUnits (low :: rest)
  | units => units.map Char.ofNat

/-- A text after its opening quotation mark. -/
def readText (text : List Char) : Option (String × List Char) := do
  let (units, rest) ← readUnits text
  return (String.ofList (joinUnits units), rest)

/-! ## Numbers -/

/-- The number written in decimal digits. -/
def decimal (digits : List Char) : Nat :=
  digits.foldl (fun n c => 10 * n + (c.toNat - 48)) 0

/-- An integer: digits, after a minus sign if it is negative. -/
def readInt (text : List Char) : Option (Int × List Char) :=
  match text with
  | '-' :: rest =>
    let digits := rest.takeWhile Char.isDigit
    if digits.isEmpty then none else some (-(decimal digits : Int), rest.dropWhile Char.isDigit)
  | _ =>
    let digits := text.takeWhile Char.isDigit
    if digits.isEmpty then none else some (decimal digits, text.dropWhile Char.isDigit)

/-! ## Values -/

mutual

/-- A value and what follows it. The first argument bounds the nesting and the number of items. -/
def readValue : Nat → List Char → Option (Datum × List Char)
  | 0, _ => none
  | fuel + 1, text =>
    match skipSpace text with
    | 'n' :: 'u' :: 'l' :: 'l' :: rest => some (.null, rest)
    | 't' :: 'r' :: 'u' :: 'e' :: rest => some (.bool true, rest)
    | 'f' :: 'a' :: 'l' :: 's' :: 'e' :: rest => some (.bool false, rest)
    | '"' :: rest => (readText rest).map fun read => (.text read.1, read.2)
    | '[' :: rest =>
      match skipSpace rest with
      | ']' :: rest => some (.list [], rest)
      | _ => (readItems fuel rest).map fun read => (.list read.1, read.2)
    | '\x7b' :: rest =>
      match skipSpace rest with
      | '\x7d' :: rest => some (.record [], rest)
      | _ =>
        (readFields fuel rest).map fun read => (.record (Table.ofList read.1).entries, read.2)
    | text => (readInt text).map fun read => (.int read.1, read.2)

/-- The items of a list up to its closing bracket. -/
def readItems : Nat → List Char → Option (List Datum × List Char)
  | 0, _ => none
  | fuel + 1, text => do
    let (item, rest) ← readValue fuel text
    match skipSpace rest with
    | ']' :: rest => return ([item], rest)
    | ',' :: rest =>
      let (items, rest) ← readItems fuel rest
      return (item :: items, rest)
    | _ => none

/-- The fields of a record up to its closing brace. -/
def readFields : Nat → List Char → Option (List (String × Datum) × List Char)
  | 0, _ => none
  | fuel + 1, text =>
    match skipSpace text with
    | '"' :: rest => do
      let (name, rest) ← readText rest
      match skipSpace rest with
      | ':' :: rest =>
        let (value, rest) ← readValue fuel rest
        match skipSpace rest with
        | '\x7d' :: rest => return ([(name, value)], rest)
        | ',' :: rest =>
          let (fields, rest) ← readFields fuel rest
          return ((name, value) :: fields, rest)
        | _ => none
      | _ => none
    | _ => none

end

end Json

/-- The value written in a text. Each character accounts for at most two steps of reading. -/
def Datum.ofText (text : String) : Datum :=
  let chars := text.toList
  if (Json.skipSpace chars).isEmpty then .null
  else
    match Json.readValue (2 * chars.length + 1) chars with
    | some (value, rest) => if (Json.skipSpace rest).isEmpty then value else .text (Text.trim text)
    | none => .text (Text.trim text)

end RuleConsult
