import RuleConsult.Base.Reach
import RuleConsult.Binding

/-!
# Rule bases

A rule base holds rules in ascending order of their numbers, bindings of the three kinds, and the
index of its rules. It never changes, so any number of consultations may use it. `Base.ofParts`
makes a base of any rules and bindings; whether these fit together is checked where a base is built
from entries.
-/

namespace RuleConsult

/-- A rule base. -/
structure Base where
  rules : List Rule
  /-- The questions. -/
  advice : BindingTable
  /-- The labels. -/
  translations : BindingTable
  tips : BindingTable
  index : Index
  /-- Rules are in ascending order of their numbers. -/
  sorted : rules.Pairwise fun a b => a.id ≤ b.id
  /-- The index is that of the rules. -/
  index_eq : index = Index.ofRules rules

namespace Base

/-! ## Making -/

/-- The base of the given rules and bindings. Rules with the same number stay in the given order; a
category that is bound twice keeps its first place and takes the last binding. -/
def ofParts (rules : List Rule) (advice translations tips : List Binding) : Base where
  rules := rules.mergeSort fun a b => decide (a.id ≤ b.id)
  advice := .ofList advice
  translations := .ofList translations
  tips := .ofList tips
  index := .ofRules (rules.mergeSort fun a b => decide (a.id ≤ b.id))
  sorted := by
    have h := @List.pairwise_mergeSort Rule (fun a b => decide (a.id ≤ b.id))
      (fun a b c => by simp only [decide_eq_true_eq]; omega)
      (fun a b => by simp only [Bool.or_eq_true, decide_eq_true_eq]; omega) rules
    exact h.imp fun hab => by simpa using hab
  index_eq := rfl

/-- The base without rules and bindings. -/
def empty : Base := ofParts [] [] [] []

instance : Inhabited Base := ⟨empty⟩

/-! ## Rules and categories -/

/-- The rule of a number; of several, the last. -/
def rule? (base : Base) (id : Int) : Option Rule :=
  base.rules.reverse.find? fun rule => rule.id == id

/-- The rules that use the category in a condition, once for each such condition. -/
def rulesConditionedOn (base : Base) (category : String) : List Rule :=
  base.index.rulesConditionedOn category

/-- The rules whose conclusion is about the category. -/
def rulesConcluding (base : Base) (category : String) : List Rule :=
  base.index.rulesConcluding category

/-- The numbers of the rules that may contribute to the target, ascending. -/
def relevantRules (base : Base) (target : String) : List Int :=
  let reached := base.index.reach target
  ((base.rules.filter fun rule => reached.contains rule.conclusion.category).map
    Rule.id).eraseDups

/-- The categories mentioned in rules, in order of their first mention. -/
def categories (base : Base) : List String := base.index.categories

/-- The values with which rules mention the category. -/
def valuesFor (base : Base) (category : String) : List String :=
  base.index.valuesOf category

/-- The categories that some rule concludes. -/
def conclusionCategories (base : Base) : List String := base.index.conclusionCategories

/-- The final categories. -/
def goalCategories (base : Base) : List String := base.index.goalCategories

/-! ## Texts -/

/-- The bindings of a kind. -/
def bindings (base : Base) : BindingKind → BindingTable
  | .advice => base.advice
  | .translation => base.translations
  | .tip => base.tips

/-- The question for a category. -/
def question? (base : Base) (category : String) : Option String :=
  base.advice.text? category

/-- The label given to a category. -/
def translation? (base : Base) (category : String) : Option String :=
  base.translations.text? category

/-- The tip for a category. -/
def tip? (base : Base) (category : String) : Option String :=
  base.tips.text? category

/-- A text that is not empty. -/
def nonEmpty? (text : Option String) : Option String :=
  text.filter fun t => !t.isEmpty

/-- How a category is shown to a reader: by its label, or by its name if it has none. -/
def label (base : Base) (category : String) : String :=
  (nonEmpty? (base.translation? category)).getD category

/-! ## Written form, summary and equality -/

/-- All bindings: questions, labels, tips. -/
def allBindings (base : Base) : List Binding :=
  base.advice.toList ++ base.translations.toList ++ base.tips.toList

/-- The written form of a base: rules, then bindings, each on a line of its own. -/
def toText (base : Base) (keywords : Keywords) : String :=
  String.intercalate "\n"
    (base.rules.map (Rule.toText keywords) ++ base.allBindings.map (Binding.toText keywords)) ++
      "\n"

/-- Counts of what a base holds, and its final categories. -/
structure Summary where
  rules : Nat
  categories : Nat
  questions : Nat
  translations : Nat
  tips : Nat
  goals : List String
  deriving DecidableEq, Repr

/-- The summary of a base. -/
def summary (base : Base) : Summary where
  rules := base.rules.length
  categories := base.categories.length
  questions := base.advice.size
  translations := base.translations.size
  tips := base.tips.size
  goals := base.goalCategories

/-- A one-line description of a base. -/
def describe (base : Base) : String :=
  s!"KnowledgeBase(rules={base.rules.length}, questions={base.advice.size}, " ++
    s!"translations={base.translations.size}, tips={base.tips.size})"

/-- Whether two lists of rules are the same up to the lines they were written on. -/
def sameRules : List Rule → List Rule → Bool
  | [], [] => true
  | a :: as, b :: bs => a.same b && sameRules as bs
  | _, _ => false

/-- Whether two bases hold the same knowledge: the same rules in the same order and the same
bindings in any order, wherever they were written. -/
def same (a b : Base) : Bool :=
  sameRules a.rules b.rules && a.advice.same b.advice &&
    a.translations.same b.translations && a.tips.same b.tips

end Base

end RuleConsult
