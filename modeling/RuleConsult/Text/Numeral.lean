import RuleConsult.Text.Digit
import RuleConsult.Text.Quoted

/-!
# Numerals

A rule number is written in decimal digits of any script. Reading one fails for a digit without a
place value, and for a numeral of more than 4300 digits (leading zeros count).
-/

namespace RuleConsult.Text

/-- The greatest number of digits that a numeral may have. -/
def maxNumeralDigits : Nat := 4300

/-- Why a text is not read as a number. -/
inductive NumeralFault where
  /-- The text holds something other than decimal digits. -/
  | notDecimal (text : String)
  /-- The text begins with more digits than are converted. -/
  | tooLong (digits : Nat)
  deriving DecidableEq, Repr

/-- The wording of a numeral fault. A text in it is cut after two hundred characters. -/
def NumeralFault.message : NumeralFault → String
  | .notDecimal text =>
    "invalid literal for int() with base 10: " ++ String.ofList ((quoted text).toList.take 200)
  | .tooLong digits =>
    s!"Exceeds the limit ({maxNumeralDigits} digits) for integer string conversion: " ++
      s!"value has {digits} digits; use sys.set_int_max_str_digits() to increase the limit"

/-- The number written by a list of decimal values, most significant first. -/
def ofDecimals (values : List Nat) : Nat :=
  values.foldl (fun n value => 10 * n + value) 0

/-- Reads a numeral. The length of the leading digits is checked before what follows them. -/
def readNumeral (text : String) : Except NumeralFault Nat :=
  let chars := text.toList
  let leading := chars.takeWhile fun c => (decimalValue? c).isSome
  if maxNumeralDigits < leading.length then .error (.tooLong leading.length)
  else if chars.isEmpty || leading.length < chars.length then .error (.notDecimal text)
  else .ok (ofDecimals (chars.filterMap decimalValue?))

end RuleConsult.Text
