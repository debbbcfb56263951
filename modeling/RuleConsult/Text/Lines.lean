/-!
# Lines of input

Input is taken line by line. A line keeps the line feed that ends it, so that the lines joined
together are the input.
-/

namespace RuleConsult.Text

/-- Splits characters into lines, each but perhaps the last ending with a line feed. `current` holds
the characters of the line at hand, last one first. -/
def splitLinesFrom (current : List Char) : List Char → List (List Char)
  | [] => if current.isEmpty then [] else [current.reverse]
  | c :: rest =>
    if c == '\n' then ((c :: current).reverse) :: splitLinesFrom [] rest
    else splitLinesFrom (c :: current) rest

/-- The lines of a text. -/
def splitLines (text : String) : List String :=
  (splitLinesFrom [] text.toList).map String.ofList

/-- The text that consists of the given lines. -/
def joinLines (lines : List String) : String := String.join lines

/-- A line without the line feed at its end. -/
def dropLineFeed (line : String) : String :=
  match line.toList.reverse with
  | '\n' :: chars => String.ofList chars.reverse
  | _ => line

/-- A line without the carriage returns and line feeds at its end. -/
def dropLineEnd (line : String) : String :=
  String.ofList ((line.toList.reverse.dropWhile fun c => c == '\n' || c == '\r').reverse)

end RuleConsult.Text
