import RuleConsult.Binding
import RuleConsult.Rule

/-!
# Entries

An entry is a rule or a binding as it was written down, before anything about it is checked. Reading
a text yields entries; a caller may also make them by hand, so an entry may lack a conclusion or
hold words that are no tokens.
-/

namespace RuleConsult

/-- What was written. -/
inductive EntryBody where
  | rule (number : String) (conditions : List Pair) (conclusion : Option Pair)
  | binding (kind : BindingKind) (category : String) (text : String)
  deriving DecidableEq, Repr, Inhabited

/-- What was written and where. -/
structure Entry where
  /-- The number of characters before the entry. -/
  offset : Nat
  /-- The line of the entry, counted from one. -/
  line : Int
  /-- The column of the entry, counted from one. -/
  column : Nat
  body : EntryBody
  deriving DecidableEq, Repr, Inhabited

end RuleConsult
