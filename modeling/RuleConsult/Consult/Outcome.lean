import RuleConsult.Rule

/-!
# Outcomes

Wherever a consultation stops it has an outcome: a conclusion, a question, or the finding that there
is neither.
-/

namespace RuleConsult

/-- Where a consultation stands when it stops. -/
inductive Outcome where
  /-- The target has a value. -/
  | resolved (pair : Pair) (fired : List Int)
  /-- A category has to be asked for; the choices are the values that rules mention. -/
  | needsInput (category prompt : String) (choices : List String)
  /-- No rule can fire and nothing is to be asked. If a category was wanted for which there is no
  question, it is named. -/
  | exhausted (unanswered : Option String) (fired : List Int)
  deriving DecidableEq, Repr

/-- Whether the consultation is over. -/
def Outcome.isFinal : Outcome → Bool
  | .needsInput .. => false
  | _ => true

end RuleConsult
