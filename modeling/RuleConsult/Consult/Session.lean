import RuleConsult.Consult.Engine

/-!
# Sessions

A session conducts consultations over one rule base, one at a time, and keeps the questions asked
with the answers received, so that it can explain its outcome. Starting discards the consultation
before; cancelling discards what is known and what fired, but keeps the questions and answers. An
answer that is refused changes nothing.
-/

namespace RuleConsult

/-! ## State -/

/-- What a session is doing. -/
inductive SessionState where
  /-- Nothing was started. -/
  | idle
  /-- A question was asked. -/
  | awaitingInput
  | resolved
  | exhausted
  | cancelled
  deriving DecidableEq, Repr

/-- The name of a state. -/
def SessionState.name : SessionState → String
  | .idle => "idle"
  | .awaitingInput => "awaiting_input"
  | .resolved => "resolved"
  | .exhausted => "exhausted"
  | .cancelled => "cancelled"

/-- A question that was asked, and its answer once there is one. -/
structure Turn where
  category : String
  question : String
  answer : Option String
  deriving DecidableEq, Repr

/-- A session over a rule base. -/
structure Session where
  base : Base
  focused : Bool
  /-- The target of the consultation that was started last. -/
  target : Option String
  /-- The consultation that is going on or has ended. -/
  engine : Option Engine
  outcome : Option Outcome
  state : SessionState
  /-- The questions of the consultation that was started last, in order. -/
  turns : List Turn
  /-- Whether a consultation was ever started. -/
  everStarted : Bool

/-- Why a session refuses a request. -/
inductive SessionFault where
  /-- Target or facts are not acceptable. -/
  | start (fault : StartFault)
  /-- There is no question to answer. -/
  | notAwaiting (state : SessionState)
  /-- The answer is not acceptable. -/
  | answer (fault : AnswerFault)
  deriving Repr

/-- The wording of a refusal. -/
def SessionFault.message : SessionFault → String
  | .start fault => fault.message
  | .notAwaiting state => s!"Sessão não aguarda resposta (estado: {state.name})"
  | .answer fault => fault.message

namespace Session

/-- A session on which nothing was started. -/
def new (base : Base) (focused : Bool) : Session where
  base := base
  focused := focused
  target := none
  engine := none
  outcome := none
  state := .idle
  turns := []
  everStarted := false

/-- What is known, nothing where no consultation is going on. -/
def facts (session : Session) : Facts :=
  match session.engine with
  | some engine => engine.memory
  | none => Table.empty

/-- The numbers of the rules that fired, in the order of firing. -/
def fired (session : Session) : List Int :=
  match session.engine with
  | some engine => engine.fired
  | none => []

/-! ## Operations -/

/-- The session without the consultation before. -/
def reset (session : Session) : Session :=
  { session with target := none, engine := none, outcome := none, state := .idle, turns := [] }

/-- The session at a stop of its engine. A question begins a new turn. -/
def follow (session : Session) (engine : Engine) : Session :=
  let session := { session with engine := some engine, outcome := engine.outcome }
  match engine.outcome with
  | some (.needsInput category prompt _) =>
    { session with
      state := .awaitingInput
      turns := session.turns ++ [⟨category, prompt, none⟩] }
  | some (.resolved ..) => { session with state := .resolved }
  | some (.exhausted ..) | none => { session with state := .exhausted }

/-- Starts a consultation. If the target or the facts are refused, the session is left without any
consultation; the refusal is the second component. -/
def start (session : Session) (target : Datum) (facts : List (Datum × Datum)) :
    Session × Option SessionFault :=
  -- The consultation before is gone even if nothing is started.
  let session := session.reset
  match Engine.start session.base target facts session.focused with
  | .error fault => (session, some (.start fault))
  | .ok engine =>
    let session := { session with target := engine.target, everStarted := true }
    (session.follow engine.run, none)

/-- The turns with an answer to the last question. -/
def answerLast (turns : List Turn) (answer : String) : List Turn :=
  match turns.getLast? with
  | none => turns
  | some turn => turns.dropLast ++ [{ turn with answer := some answer }]

/-- Answers the pending question and goes on. -/
def answer (session : Session) (category value : Datum) : Except SessionFault Session :=
  match session.state, session.engine with
  | .awaitingInput, some engine =>
    match engine.supply category value with
    | .error fault => .error (.answer fault)
    | .ok engine =>
      .ok ({ session with turns := answerLast session.turns value.plain }.follow engine)
  | state, _ => .error (.notAwaiting state)

/-- Gives up the consultation. -/
def cancel (session : Session) : Session :=
  { session with engine := none, outcome := none, state := .cancelled }

/-! ## Explanation -/

/-- The lines that tell where the session stands. -/
def explainOutcome (session : Session) : List String :=
  match session.outcome with
  | some (.resolved pair _) =>
    s!"{session.base.label pair.category}: {pair.value}" ::
      match Base.nonEmpty? (session.base.tip? pair.category) with
      | some tip => [s!"Dica: {tip}"]
      | none => []
  | some (.needsInput _ prompt _) => [s!"Aguardando resposta: {prompt}"]
  | some (.exhausted unanswered _) =>
    match Base.nonEmpty? unanswered with
    | some category => [s!"Sem conclusão: não há pergunta para '{session.base.label category}'"]
    | none => ["Sem conclusão: nenhuma regra se aplica"]
  | none =>
    if session.state == .cancelled then ["Sessão cancelada"] else ["Sessão não iniciada"]

/-- A list of items under a heading; nothing if there are no items. -/
def itemized (heading : String) (items : List String) : List String :=
  if items.isEmpty then [] else heading :: items.map fun item => "  • " ++ item

/-- The answered questions with their answers. -/
def answeredTurns (session : Session) : List String :=
  session.turns.filterMap fun turn =>
    turn.answer.map fun answer => s!"{turn.question} -> {answer}"

/-- The rules that fired, in written form with the standard keywords. -/
def firedRules (session : Session) : List String :=
  session.fired.filterMap fun id =>
    (session.base.rule? id).map (Rule.toText Keywords.standard)

/-- A readable account of the outcome and of how it was reached. -/
def explain (session : Session) : String :=
  String.intercalate "\n" <|
    session.explainOutcome ++
      itemized "Respostas:" session.answeredTurns ++
      itemized "Regras aplicadas:" session.firedRules

end Session

end RuleConsult
