import RuleConsult.Consult.Session

/-!
# Records of sessions

A session can be written down for further processing: as a record with its target, state and
outcome, the facts, the rules that fired and the questions with their answers. The session itself
does not look at the clock; whoever writes the record gives the text that stands for the times.
-/

namespace RuleConsult

namespace Session

/-- A text, or null. -/
def textOrNull (text : Option String) : Datum :=
  (text.map Datum.text).getD .null

/-- The conclusion of a session; null if there is none. -/
def conclusionRecord (session : Session) : Datum :=
  match session.outcome with
  | some (.resolved pair _) =>
    .record [("category", .text pair.category), ("value", .text pair.value)]
  | _ => .null

/-- The category that was wanted but could not be asked for; null if there is none. -/
def unansweredRecord (session : Session) : Datum :=
  match session.outcome with
  | some (.exhausted unanswered _) => textOrNull unanswered
  | _ => .null

/-- A question with its answer, if there is one. -/
def turnRecord (time : String) (turn : Turn) : Datum :=
  .record [("category", .text turn.category), ("question", .text turn.question),
    ("answer", textOrNull turn.answer), ("asked_at", .text time),
    ("answered_at", textOrNull (turn.answer.map fun _ => time))]

/-- The record of a session. -/
def toDatum (time : String) (session : Session) : Datum :=
  .record [("target", textOrNull session.target), ("state", .text session.state.name),
    ("conclusion", session.conclusionRecord), ("unanswered", session.unansweredRecord),
    ("facts", .record (session.facts.entries.map fun fact => (fact.1, .text fact.2))),
    ("fired_rules", .list (session.fired.map Datum.int)),
    ("transcript", .list (session.turns.map (turnRecord time))),
    ("started_at", if session.everStarted then .text time else .null)]

end Session

end RuleConsult
