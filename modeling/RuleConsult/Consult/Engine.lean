import RuleConsult.Base
import RuleConsult.Consult.Outcome

/-!
# The inference engine

The engine chains forward over a rule base: it fires the first rule, by number, that has not fired
and whose conditions hold, until the target has a value or no rule is left to fire. A conclusion
replaces what was known about its category. Then it asks for the first category that a rule still
lacks, and goes on when the answer is supplied. Without a target, any final category will do.

An engine in focused mode asks only for what may still lead to the target: it passes over rules that
cannot contribute to the target, and over rules with a condition that is contradicted in a category
which no rule left can conclude.

* `Engine.start` checks target and facts and makes an engine.
* `Engine.run` goes on to the next stop; `Engine.supply` answers the question asked at one.
* A rule number fires at most once, so the number of rules left bounds the chaining.
-/

namespace RuleConsult

open Text

/-! ## State -/

/-- A consultation over a rule base. -/
structure Engine where
  base : Base
  /-- The category to be concluded, if one is named. -/
  target : Option String
  focused : Bool
  /-- What is known. -/
  memory : Facts
  /-- The numbers of the rules that fired, in the order of firing. -/
  fired : List Int
  /-- The category that was asked for and not answered. -/
  pending : Option String
  /-- The outcome of the last run. -/
  outcome : Option Outcome

/-- Facts as values that are still to be checked. -/
def Facts.toData (facts : Facts) : List (Datum × Datum) :=
  facts.entries.map fun fact => (.text fact.1, .text fact.2)

/-- Why an engine is not started. -/
inductive StartFault where
  | badTarget (target : Datum)
  | badFact (category value : Datum)
  deriving Repr

/-- The wording of a start fault. -/
def StartFault.message : StartFault → String
  | .badTarget target => s!"Categoria alvo inválida: {target.shown}"
  | .badFact category value => s!"Fato inválido: {category.shown}={value.shown}"

/-- Why an answer is refused. -/
inductive AnswerFault where
  /-- Nothing was asked. -/
  | nothingPending
  /-- Another category was asked for. -/
  | otherCategory (given : Datum) (pending : String)
  /-- The value is not a token. -/
  | badValue (category : String) (value : Datum)
  deriving Repr

/-- The wording of an answer fault. -/
def AnswerFault.message : AnswerFault → String
  | .nothingPending => "Nenhuma pergunta pendente para responder"
  | .otherCategory given pending =>
    s!"Resposta para '{given.plain}', mas a pergunta pendente é '{pending}'"
  | .badValue category value => s!"Valor inválido para '{category}': {value.shown}"

/-- The token that a value is, if it is one. -/
def Datum.token? (value : Datum) : Option String :=
  value.text?.filter isToken

namespace Engine

/-! ## Starting -/

/-- The engine that has not run. -/
def fresh (base : Base) (target : Option String) (facts : Facts) (focused : Bool) : Engine :=
  { base, target, focused, memory := facts, fired := [], pending := none, outcome := none }

/-- The target named by a value; null names none. -/
def checkTarget : Datum → Except StartFault (Option String)
  | .null => .ok none
  | target =>
    match target.token? with
    | some category => .ok (some category)
    | none => .error (.badTarget target)

/-- The facts among named values, of which both names and values must be tokens. Of two values under
one name the later counts. -/
def checkFacts (given : List (Datum × Datum)) : Except StartFault Facts :=
  given.foldlM (fun facts entry =>
    match entry.1.token?, entry.2.token? with
    | some category, some value => .ok (facts.insert category value)
    | _, _ => .error (.badFact entry.1 entry.2)) Table.empty

/-- An engine for a target, from the facts that are known at the start. -/
def start (base : Base) (target : Datum) (facts : List (Datum × Datum)) (focused : Bool) :
    Except StartFault Engine := do
  let target ← checkTarget target
  let facts ← checkFacts facts
  return fresh base target facts focused

/-! ## Chaining -/

/-- The pair that resolves the consultation: the target, or the first final category that is
known. -/
def reached? (engine : Engine) : Option Pair :=
  let wanted := match engine.target with
    | some target => [target]
    | none => engine.base.goalCategories
  wanted.findSome? fun category => (engine.memory.get? category).map (Pair.mk category)

/-- The rules that have not fired. -/
def unfired (engine : Engine) : List Rule :=
  engine.base.rules.filter fun rule => !engine.fired.contains rule.id

/-- The first rule that has not fired and whose conditions hold. -/
def eligible? (engine : Engine) : Option Rule :=
  engine.unfired.find? fun rule => rule.isSatisfiedBy engine.memory

/-- The engine after firing a rule. -/
def fire (engine : Engine) (rule : Rule) : Engine :=
  { engine with
    memory := engine.memory.insert rule.conclusion.category rule.conclusion.value
    fired := engine.fired ++ [rule.id] }

/-- After firing, the rules left are those of another number. -/
theorem unfired_fire (engine : Engine) (rule : Rule) :
    (engine.fire rule).unfired = engine.unfired.filter fun other => other.id ≠ rule.id := by
  simp only [unfired, fire, List.filter_filter]
  congr 1
  funext other
  by_cases h : other.id = rule.id <;> simp [h]

/-- Firing leaves fewer rules to fire. -/
theorem length_unfired_fire_lt {engine : Engine} {rule : Rule} (h : rule ∈ engine.unfired) :
    (engine.fire rule).unfired.length < engine.unfired.length := by
  rw [unfired_fire]
  -- If nothing were left out, the fired rule would have a number other than its own.
  refine Nat.lt_of_le_of_ne (List.length_filter_le _ _) fun heq => ?_
  have hall := List.length_filter_eq_length_iff.1 heq rule h
  simp at hall

/-! ## Asking -/

/-- The numbers of the rules that may contribute to the target, for an engine that keeps to them. -/
def scope? (engine : Engine) : Option (List Int) :=
  if engine.focused then engine.target.map engine.base.relevantRules else none

/-- Whether a rule is worth a question. Outside focused mode every rule is. -/
def isWorthAsking (engine : Engine) (rule : Rule) : Bool :=
  !engine.focused ||
    (engine.scope?.all fun ids => ids.contains rule.id) &&
      (rule.contradictedBy engine.memory).all fun category =>
        engine.unfired.any fun other => other.conclusion.category == category

/-- The category to ask for: the first one on which nothing is known that is required by a rule
worth a question. -/
def nextMissing? (engine : Engine) : Option String :=
  (engine.unfired.filter engine.isWorthAsking).findSome? fun rule =>
    (rule.missingIn engine.memory).head?

/-- The question for a category: its text, or else its label. -/
def prompt (base : Base) (category : String) : String :=
  (Base.nonEmpty? (base.question? category)).getD (base.label category)

/-- The outcome where no rule can fire. -/
def stuckOutcome (engine : Engine) : Outcome :=
  match engine.nextMissing? with
  | none => .exhausted none engine.fired
  | some category =>
    -- A category that is bound to an empty question is still asked for, by its label.
    if engine.base.advice.contains category then
      .needsInput category (prompt engine.base category) (engine.base.valuesFor category)
    else .exhausted (some category) engine.fired

/-- The engine that stops with an outcome. A question is pending from then on. -/
def stop (engine : Engine) (outcome : Outcome) : Engine :=
  match outcome with
  | .needsInput category .. => { engine with pending := some category, outcome := some outcome }
  | _ => { engine with outcome := some outcome }

/-! ## Running -/

/-- Fires rules until the target has a value or none can fire, and stops. -/
def chain (engine : Engine) : Engine :=
  match engine.reached? with
  | some pair => engine.stop (.resolved pair engine.fired)
  | none =>
    match hrule : engine.eligible? with
    | none => engine.stop engine.stuckOutcome
    | some rule =>
      have : (engine.fire rule).unfired.length < engine.unfired.length :=
        length_unfired_fire_lt (List.mem_of_find?_eq_some hrule)
      chain (engine.fire rule)
termination_by engine.unfired.length

/-- Goes on to the next stop. While a question is pending, that is where the engine stands. -/
def run (engine : Engine) : Engine :=
  match engine.pending, engine.outcome with
  | some _, some _ => engine
  | _, _ => engine.chain

/-- Answers the pending question and goes on. -/
def supply (engine : Engine) (category value : Datum) : Except AnswerFault Engine :=
  match engine.pending with
  | none => .error .nothingPending
  | some pending =>
    if category.text? = some pending then
      match value.token? with
      | some answer =>
        .ok ({ engine with memory := engine.memory.insert pending answer, pending := none }.run)
      | none => .error (.badValue pending value)
    else .error (.otherCategory category pending)

end Engine

/-- The outcome of a consultation up to its first stop. -/
def resolve (base : Base) (target : Datum) (facts : List (Datum × Datum)) (focused : Bool) :
    Except StartFault (Option Outcome) :=
  (Engine.start base target facts focused).map fun engine => engine.run.outcome

end RuleConsult
