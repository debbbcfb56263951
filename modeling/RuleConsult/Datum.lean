import RuleConsult.Text.Quoted

/-!
# Untyped values

What a caller or a configuration file hands over before it is known to be a word, a number or a
table of settings. Messages about an unacceptable value show it in the notation of `Datum.shown`.
-/

namespace RuleConsult

open Text

/-- A value of a configuration file. -/
inductive Datum where
  | null
  | bool (value : Bool)
  | int (value : Int)
  | text (value : String)
  | list (items : List Datum)
  | record (fields : List (String × Datum))
  deriving Inhabited, Repr

namespace Datum

mutual

/-- The notation of a value in a message: texts are quoted, lists bracketed, records braced. -/
def shown : Datum → String
  | .null => "None"
  | .bool true => "True"
  | .bool false => "False"
  | .int value => toString value
  | .text value => quoted value
  | .list items => "[" ++ String.intercalate ", " (shownItems items) ++ "]"
  | .record fields => "\x7b" ++ String.intercalate ", " (shownFields fields) ++ "\x7d"

/-- The notations of the items of a list. -/
def shownItems : List Datum → List String
  | [] => []
  | item :: rest => item.shown :: shownItems rest

/-- The notations of the fields of a record. -/
def shownFields : List (String × Datum) → List String
  | [] => []
  | (name, value) :: rest => (quoted name ++ ": " ++ value.shown) :: shownFields rest

end

/-- The value as it is spliced into a sentence: a text stands as it is. -/
def plain : Datum → String
  | .text value => value
  | other => other.shown

/-- Whether the value counts as absent: null, false, zero, and everything empty. -/
def isVacant : Datum → Bool
  | .null => true
  | .bool value => !value
  | .int value => value == 0
  | .text value => value.isEmpty
  | .list items => items.isEmpty
  | .record fields => fields.isEmpty

/-- The text of a value that is one. -/
def text? : Datum → Option String
  | .text value => some value
  | _ => none

end Datum

end RuleConsult
