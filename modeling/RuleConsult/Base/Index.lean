import RuleConsult.Rule

/-!
# Indexes by category

A consultation asks again and again which rules conclude a category, which rules are conditioned on
it and which values it can take. An index answers from tables that are filled in one pass over the
rules, in the order of the rules.
-/

namespace RuleConsult

/-- The table with `item` at the end of the list under `key`. -/
def Table.push {κ α : Type} [DecidableEq κ] (table : Table κ (List α)) (key : κ) (item : α) :
    Table κ (List α) :=
  table.insert key ((table.get? key).getD [] ++ [item])

/-- What is known about the categories of a list of rules. -/
structure Index where
  /-- The rules conditioned on a category, once for each such condition. -/
  conditionedOn : Table String (List Rule)
  /-- The rules that conclude a category. -/
  concluding : Table String (List Rule)
  /-- The values with which a category is mentioned, without repetition. -/
  values : Table String (List String)

namespace Index

/-- The index of no rules. -/
def empty : Index := ⟨Table.empty, Table.empty, Table.empty⟩

/-- The table of values with one more mention noted. -/
def noteValue (values : Table String (List String)) (pair : Pair) : Table String (List String) :=
  if pair.value ∈ (values.get? pair.category).getD [] then values
  else values.push pair.category pair.value

/-- The index with one more rule. -/
def add (index : Index) (rule : Rule) : Index where
  conditionedOn :=
    rule.conditionCategories.foldl (fun table category => table.push category rule)
      index.conditionedOn
  concluding := index.concluding.push rule.conclusion.category rule
  values := (rule.conditions ++ [rule.conclusion]).foldl noteValue index.values

/-- The index of a list of rules. -/
def ofRules (rules : List Rule) : Index :=
  rules.foldl add empty

/-- The rules that use the category in a condition. -/
def rulesConditionedOn (index : Index) (category : String) : List Rule :=
  (index.conditionedOn.get? category).getD []

/-- The rules whose conclusion is about the category. -/
def rulesConcluding (index : Index) (category : String) : List Rule :=
  (index.concluding.get? category).getD []

/-- The values with which the category is mentioned. -/
def valuesOf (index : Index) (category : String) : List String :=
  (index.values.get? category).getD []

/-- The categories that are mentioned, in order of their first mention. -/
def categories (index : Index) : List String := index.values.keys

/-- The categories that some rule concludes, in the order of the rules. -/
def conclusionCategories (index : Index) : List String := index.concluding.keys

/-- The final categories: concluded by a rule and used in no condition. If there are none, every
category that is concluded counts as final. -/
def goalCategories (index : Index) : List String :=
  let goals := index.conclusionCategories.filter fun category =>
    !index.conditionedOn.contains category
  if goals.isEmpty then index.conclusionCategories else goals

end Index

end RuleConsult
