import RuleConsult.Text.Printable

/-!
# Quoted text

Messages show a text between quote marks, with everything that could not be read off the page
escaped. The marks are apostrophes, unless the text holds an apostrophe and no double quote.
-/

namespace RuleConsult.Text

/-- The lower-case hexadecimal digits of a number, padded with zeros to the given width. -/
def hexText (width n : Nat) : List Char :=
  let digits := Nat.toDigits 16 n
  List.replicate (width - digits.length) '0' ++ digits

/-- The mark that encloses a text. -/
def quoteMark (text : List Char) : Char :=
  if text.contains '\x27' && !text.contains '"' then '"' else '\x27'

/-- How one character is written between the given marks: itself if printable, a short escape for
the mark, the backslash and the common controls, else its code in two, four or eight digits. -/
def quotedChar (mark c : Char) : List Char :=
  if c == '\\' || c == mark then ['\\', c]
  else if c == '\n' then ['\\', 'n']
  else if c == '\r' then ['\\', 'r']
  else if c == '\t' then ['\\', 't']
  else if isPrintable c then [c]
  else if c.toNat < 0x100 then '\\' :: 'x' :: hexText 2 c.toNat
  else if c.toNat < 0x10000 then '\\' :: 'u' :: hexText 4 c.toNat
  else '\\' :: 'U' :: hexText 8 c.toNat

/-- The text between quote marks, escaped. -/
def quoted (text : String) : String :=
  let chars := text.toList
  let mark := quoteMark chars
  String.ofList (mark :: chars.flatMap (quotedChar mark) ++ [mark])

end RuleConsult.Text
