import RuleConsult.Text.CharacterName
import RuleConsult.Text.Encoding
import RuleConsult.Text.Numeral

/-!
# Tokens of literals

A literal is written in lines. Between brackets the ends of lines do not matter, and a backslash at
the end of a line lets the line go on in the next one. Outside brackets no line may be indented.
White space, comments and lines without anything else are left out.

* `Literal.tokens?` are the tokens of a text.
-/

namespace RuleConsult

open Text

namespace Literal

/-! ## Tokens -/

/-- The smallest parts of a literal. -/
inductive Token where
  /-- A quoted text, or quoted bytes. -/
  | quoted (bytes : Bool)
  | number (imaginary : Bool)
  | name (chars : List Char)
  | punctuation (char : Char)
  | ellipsis
  /-- The end of a line outside brackets. -/
  | lineEnd
  deriving DecidableEq, Repr

/-- Whether the character may stand in a name. -/
def isNameChar (c : Char) : Bool := c.isAlphanum || c == '_' || 128 ≤ c.toNat

/-- Digits in which two may be kept apart by one low line, and what follows them; nothing if there
is no digit first. -/
def digitRun? (isDigit : Char → Bool) : List Char → Option (List Char × List Char)
  | [] => none
  | [c] => if isDigit c then some ([c], []) else none
  | c :: '_' :: rest =>
    if isDigit c then
      match digitRun? isDigit rest with
      | some (digits, later) => some (c :: digits, later)
      | none => none
    else none
  | c :: next :: rest =>
    if !isDigit c then none
    else if isDigit next then
      match digitRun? isDigit (next :: rest) with
      | some (digits, later) => some (c :: digits, later)
      | none => none
    else some ([c], next :: rest)

/-- Whether the character is a digit of the base. -/
def isBaseDigit (base : Nat) (c : Char) : Bool :=
  if base == 16 then c.isDigit || ('a' ≤ c.toLower && c.toLower ≤ 'f')
  else c.isDigit && c.toNat < '0'.toNat + base

/-- What follows an exponent: the digits after the letter and a sign are left out. A letter after
which no digits come begins no exponent. -/
def afterExponent? (text : List Char) : Option (List Char) :=
  match text with
  | e :: rest =>
    if e.toLower == 'e' then
      let digits := match rest with
        | '+' :: digits | '-' :: digits => digits
        | digits => digits
      (digitRun? Char.isDigit digits).map Prod.snd
    else none
  | [] => none

/-- A number after its digits before the point: whether it is imaginary, and what follows. -/
def numberEnd (whole : List Char) (rest : List Char) : Option (Bool × List Char) :=
  let (fraction, rest) := match rest with
    | '.' :: rest =>
      match digitRun? Char.isDigit rest with
      | some (_, later) => (true, later)
      | none => (true, rest)
    | _ => (false, rest)
  let (exponent, rest) := match afterExponent? rest with
    | some later => (true, later)
    | none => (false, rest)
  match rest with
  | 'j' :: later | 'J' :: later => some (true, later)
  | _ =>
    -- A whole number begins with no zero unless it is zero, and its length is bounded.
    if fraction || exponent then some (false, rest)
    else if whole.all (· == '0') then some (false, rest)
    else if whole.head? == some '0' || maxNumeralDigits < whole.length then none
    else some (false, rest)

/-- A number, and what follows it. -/
def number? (text : List Char) : Option (Token × List Char) :=
  let based (base : Nat) (rest : List Char) : Option (Bool × List Char) :=
    let digits := match rest with
      | '_' :: digits => digits
      | digits => digits
    (digitRun? (isBaseDigit base) digits).map fun run => (false, run.2)
  let found := match text with
    | '0' :: mark :: rest =>
      if mark.toLower == 'x' then based 16 rest
      else if mark.toLower == 'o' then based 8 rest
      else if mark.toLower == 'b' then based 2 rest
      else (digitRun? Char.isDigit text).bind fun run => numberEnd run.1 run.2
    | '.' :: _ => numberEnd [] text
    | _ => (digitRun? Char.isDigit text).bind fun run => numberEnd run.1 run.2
  match found with
  | some (imaginary, rest) =>
    if rest.head?.any isNameChar then none else some (.number imaginary, rest)
  | none => none

/-! ## Quoted texts -/

/-- How a quoted text is written. -/
structure Quoting where
  quote : Char
  /-- Whether there are three quotes on either side, so that the text may have several lines. -/
  tripled : Bool
  /-- Whether backslashes stand for themselves. -/
  raw : Bool
  bytes : Bool

/-- Whether the text begins with as many hexadecimal digits. -/
def beginsHex (count : Nat) (text : List Char) : Bool :=
  let digits := text.take count
  digits.length == count && digits.all (isBaseDigit 16)

/-- Whether what follows a backslash is in order: the code of a character is complete. -/
def escapeFits (quoting : Quoting) : List Char → Bool
  | 'x' :: rest => quoting.raw || beginsHex 2 rest
  | 'u' :: rest => quoting.raw || quoting.bytes || beginsHex 4 rest
  | 'U' :: rest =>
    quoting.raw || quoting.bytes ||
      (beginsHex 8 rest && (rest.take 3 == ['0', '0', '0'] || rest.take 4 == ['0', '0', '1', '0']))
  | 'N' :: rest =>
    quoting.raw || quoting.bytes ||
      match rest with
      | '\x7b' :: name => name.contains '\x7d' && isCharacterName (name.takeWhile (· != '\x7d'))
      | _ => false
  | _ => true

/-- What follows the closing quotes of a quoted text. -/
def afterQuoted? (quoting : Quoting) : List Char → Option (List Char)
  | [] => none
  | '\\' :: c :: rest =>
    if (quoting.bytes && 128 ≤ c.toNat) || !escapeFits quoting (c :: rest) then none
    else afterQuoted? quoting rest
  | c :: rest =>
    if c == quoting.quote then
      if !quoting.tripled then some rest
      else if rest.take 2 == [c, c] then some (rest.drop 2)
      else afterQuoted? quoting rest
    else if (c == '\n' && !quoting.tripled) || (quoting.bytes && 128 ≤ c.toNat) then none
    else afterQuoted? quoting rest

/-- A quoted text after the letters that say how it is written, and what follows it. -/
def quoted? (letters text : List Char) : Option (Token × List Char) :=
  let letters := letters.map Char.toLower
  let known := [[], ['u'], ['r'], ['b'], ['b', 'r'], ['r', 'b']]
  match text with
  | quote :: rest =>
    if !known.contains letters then none
    else
      let tripled := rest.take 2 == [quote, quote]
      let quoting := ⟨quote, tripled, letters.contains 'r', letters.contains 'b'⟩
      (afterQuoted? quoting (if tripled then rest.drop 2 else rest)).map fun later =>
        (.quoted quoting.bytes, later)
  | [] => none

/-! ## Reading tokens -/

/-- Whether the character is a quote. -/
def isQuote (c : Char) : Bool := c == '\'' || c == '"'

/-- Whether the character separates tokens within a line. -/
def isGap (c : Char) : Bool := c == ' ' || c == '\t' || c.toNat == 12

/-- The token that a text begins with, and what follows it. -/
def token? (text : List Char) : Option (Token × List Char) :=
  match text with
  | [] => none
  | '.' :: '.' :: '.' :: rest => some (.ellipsis, rest)
  | c :: rest =>
    if c.isDigit || (c == '.' && rest.head?.any Char.isDigit) then number? text
    else if isQuote c then quoted? [] text
    else if isNameChar c then
      let name := text.takeWhile isNameChar
      let later := text.dropWhile isNameChar
      if later.head?.any isQuote then quoted? name later
      else some (.name name, later)
    else if ['(', ')', '\x7b', '\x7d', ',', ':', '+', '-'].contains c then
      some (.punctuation c, rest)
    else none

/-- How many brackets may be open at once. -/
def maxDepth : Nat := 200

/-- Where in a line a text begins. -/
inductive Place where
  /-- Before anything but white space, at a column. If lines were joined there, `joined` is the
  column at which the first of them ended, unless that is the first column. -/
  | margin (column joined : Nat)
  /-- Later. A blank line has no more than a comment. -/
  | inside (blank : Bool)
  deriving DecidableEq, Repr

/-- The tokens of a text in which every line end is a line feed. `depth` counts the open brackets,
and each character takes at most two steps of fuel. -/
def tokensFrom? (depth : Nat) (place : Place) : Nat → List Char → Option (List Token)
  | 0, _ => none
  | fuel + 1, text =>
    match text, place with
    | [], _ => some []
    | '\\' :: '\n' :: rest, place =>
      let place := match place with
        | .margin column 0 => .margin column column
        | place => place
      if rest.isEmpty then none else tokensFrom? depth place fuel rest
    | c :: rest, .margin column joined =>
      if c == ' ' then tokensFrom? depth (.margin (column + 1) joined) fuel rest
      else if c == '\t' then tokensFrom? depth (.margin ((column / 8 + 1) * 8) joined) fuel rest
      else if c.toNat == 12 then tokensFrom? depth (.margin 0 joined) fuel rest
      else if c == '#' || c == '\n' then tokensFrom? depth (.inside true) fuel text
      else if depth == 0 && (if joined == 0 then column else joined) != 0 then none
      else tokensFrom? depth (.inside false) fuel text
    | c :: rest, .inside blank =>
      if isGap c then tokensFrom? depth place fuel rest
      else if c == '#' then tokensFrom? depth place fuel (rest.dropWhile (· != '\n'))
      else if c == '\n' then
        let later := tokensFrom? depth (.margin 0 0) fuel rest
        if blank || depth != 0 then later else later.map (.lineEnd :: ·)
      else
        match token? text with
        | none => none
        | some (token, later) =>
          let opens := token == .punctuation '(' || token == .punctuation '\x7b'
          let closes := token == .punctuation ')' || token == .punctuation '\x7d'
          if opens && maxDepth ≤ depth then none
          else
            let depth := if opens then depth + 1 else if closes then depth - 1 else depth
            (tokensFrom? depth place fuel later).map (token :: ·)

/-- The tokens of a text. A text with a null character has none. -/
def tokens? (text : List Char) : Option (List Token) :=
  let chars := unifyLineEnds text
  if chars.any fun c => c.toNat == 0 then none
  else tokensFrom? 0 (.margin 0 0) (2 * chars.length + 1) chars

end Literal

end RuleConsult
