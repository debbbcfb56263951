import RuleConsult.Binding
import RuleConsult.Rule

/-!
# Issues and notices

An issue makes entries unfit to be a rule base. A notice points out something in a base that is
probably not meant, such as a condition that can never be known; it does not stand in the way.
-/

namespace RuleConsult

open Text

/-! ## Issues -/

/-- What is wrong with an entry. -/
inductive Defect where
  /-- The number was taken by an earlier rule, on the given line. -/
  | duplicateRule (id : Int) (firstLine : Int)
  /-- The number is not written in digits, or conclusion or conditions are missing. -/
  | malformedRule
  /-- A category or value is not a token. -/
  | malformedToken (token : String)
  /-- The rule requires two values of one category. -/
  | contradiction (id : Int) (category first other : String)
  /-- The rule concludes a category on which it is conditioned. -/
  | selfReference (id : Int) (category : String)
  /-- The category was bound earlier by a binding of the same kind. -/
  | duplicateBinding (kind : BindingKind) (category : String)
  deriving DecidableEq, Repr

/-- A defect with the line of its entry. -/
structure Issue where
  defect : Defect
  line : Int
  deriving DecidableEq, Repr

namespace Issue

/-- The code of the kind of defect. -/
def code (issue : Issue) : String :=
  match issue.defect with
  | .duplicateRule .. => "duplicate_rule_id"
  | .malformedRule | .malformedToken _ => "malformed_token"
  | .contradiction .. => "contradictory_conditions"
  | .selfReference .. => "self_reference"
  | .duplicateBinding .. => "duplicate_binding"

/-- The wording of an issue, without its line. -/
def message (issue : Issue) : String :=
  match issue.defect with
  | .duplicateRule id firstLine => s!"Regra {id} duplicada (primeira na linha {firstLine})"
  | .malformedRule => "Regra malformada"
  | .malformedToken token => s!"Token inválido: {quoted token}"
  | .contradiction id category first other =>
    s!"Regra {id} exige '{category}' igual a '{first}' e a '{other}'"
  | .selfReference id category =>
    s!"Regra {id} conclui '{category}', que também é sua condição"
  | .duplicateBinding kind category =>
    s!"'{kind.name}' duplicado para a categoria '{category}'"

/-- The number of the rule that is at fault, where it is known. -/
def ruleId? (issue : Issue) : Option Int :=
  match issue.defect with
  | .duplicateRule id _ | .contradiction id .. | .selfReference id _ => some id
  | _ => none

/-- The category that is at fault. -/
def category? (issue : Issue) : Option String :=
  match issue.defect with
  | .contradiction _ category .. | .selfReference _ category | .duplicateBinding _ category =>
    some category
  | _ => none

/-- The kind of the binding that is at fault. -/
def kind? (issue : Issue) : Option BindingKind :=
  match issue.defect with
  | .duplicateBinding kind _ => some kind
  | _ => none

/-- The wording of an issue with its line. Line zero is no line. -/
def describe (issue : Issue) : String :=
  if issue.line == 0 then issue.message else s!"Linha {issue.line}: {issue.message}"

/-- The wording of a list of issues that keep a base from being built. -/
def summarize (issues : List Issue) : String :=
  s!"{issues.length} inconsistência(s) na base: " ++
    String.intercalate "; " (issues.map describe)

end Issue

/-! ## Notices -/

/-- Something in a base that is probably not meant. -/
inductive Notice where
  /-- A rule states a condition twice. -/
  | repeatedCondition (line : Int) (condition : Pair) (id : Int)
  /-- A category is required by rules, but no rule concludes it and there is no question for it. -/
  | uncovered (category : String)
  /-- There is a question for a category that no rule requires. -/
  | unusedQuestion (line : Option Int) (category : String)
  /-- There is a label or a tip for a category that no rule mentions. -/
  | unknownCategory (line : Option Int) (kind : BindingKind) (category : String)
  deriving DecidableEq, Repr

/-- The line of a notice in words. -/
def lineText : Option Int → String
  | some line => toString line
  | none => "None"

/-- The wording of a notice. -/
def Notice.message : Notice → String
  | .repeatedCondition line condition id =>
    s!"Linha {line}: condição '{condition.toText}' repetida na regra {id}"
  | .uncovered category =>
    s!"Categoria '{category}' é usada em condições, mas nenhuma regra a conclui " ++
      "e não há pergunta para ela"
  | .unusedQuestion line category =>
    s!"Linha {lineText line}: pergunta para '{category}', que não aparece em nenhuma condição"
  | .unknownCategory line kind category =>
    s!"Linha {lineText line}: '{kind.name}' para categoria desconhecida '{category}'"

end RuleConsult
