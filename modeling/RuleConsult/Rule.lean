import RuleConsult.Keywords
import RuleConsult.Table

/-!
# Rules

A rule says that a conclusion holds where all its conditions hold. Conditions and conclusion are
pairs of a category and a value; what is known during a consultation is a table from categories to
values. A rule is written as `number IF pair AND pair THEN pair`, a pair as `category-value`.
-/

namespace RuleConsult

/-- A category with a value: a fact, a condition or a conclusion. -/
structure Pair where
  category : String
  value : String
  deriving DecidableEq, Repr, Inhabited

/-- The written form of a pair. -/
def Pair.toText (pair : Pair) : String :=
  pair.category ++ "-" ++ pair.value

/-- What is known: a value for each known category, in the order in which they became known. -/
abbrev Facts := Table String String

/-- A numbered rule. -/
structure Rule where
  id : Int
  conditions : List Pair
  conclusion : Pair
  /-- The line on which the rule was written, if it was read from a text. -/
  line : Option Int
  deriving DecidableEq, Repr, Inhabited

namespace Rule

/-- The categories of the conditions, in order, one for each condition. -/
def conditionCategories (rule : Rule) : List String :=
  rule.conditions.map Pair.category

/-- Whether all conditions hold. -/
def isSatisfiedBy (rule : Rule) (facts : Facts) : Bool :=
  rule.conditions.all fun pair => facts.get? pair.category == some pair.value

/-- The categories of the conditions on which nothing is known, in order. -/
def missingIn (rule : Rule) (facts : Facts) : List String :=
  rule.conditionCategories.filter fun category => !facts.contains category

/-- The categories of the conditions for which another value is known, in order. -/
def contradictedBy (rule : Rule) (facts : Facts) : List String :=
  (rule.conditions.filter fun pair =>
    match facts.get? pair.category with
    | some value => value != pair.value
    | none => false).map Pair.category

/-- The same rule, whatever line it was written on. -/
def same (a b : Rule) : Bool :=
  a.id == b.id && a.conditions == b.conditions && a.conclusion == b.conclusion

/-- The written form of a rule. -/
def toText (keywords : Keywords) (rule : Rule) : String :=
  let words := keywords.words
  let conditions :=
    String.intercalate s!" {words.ruleAnd} " (rule.conditions.map Pair.toText)
  s!"{rule.id} {words.ruleIf} {conditions} {words.ruleThen} {rule.conclusion.toText}"

end Rule

end RuleConsult
