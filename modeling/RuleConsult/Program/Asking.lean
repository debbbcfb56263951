import RuleConsult.Console
import RuleConsult.Consult.Record
import RuleConsult.Json.Writer
import RuleConsult.Text.Lines
import RuleConsult.Text.Space

/-!
# Asking on the console

A consultation is conducted on the console by asking each question until an acceptable answer is
typed. A line with an exit word, or the end of the input, gives up the consultation. In the end the
outcome and its explanation are shown, and if wanted the record of the session.

* `Asking.take` is what one typed line does.
* `Asking.converse` conducts a consultation with the lines of an input.
-/

namespace RuleConsult

open Text

/-- A consultation on the console. -/
structure Asking where
  console : Console
  session : Session
  /-- The outcome that the session came to last. -/
  outcome : Option Outcome
  /-- Whether the record of the session is shown in the end. -/
  recorded : Bool

/-- How a consultation on the console ended. -/
structure Ending where
  /-- Everything that was written. -/
  output : List OutputItem
  /-- The lines that were not read. -/
  unread : List String
  exitCode : Nat
  session : Session

/-- An ending with a text written before. -/
def Ending.after (ending : Ending) (text : String) : Ending :=
  { ending with output := .text text :: ending.output }

/-- The words that give up the consultation. -/
def exitWords : List String := ["sair", "exit", "quit"]

/-- Whether an answer, in letters of either case, gives up the consultation. -/
def isExitWord (answer : String) : Bool :=
  exitWords.contains (answer.map Char.toLower)

/-- What stands before an answer. -/
def answerPrompt : String := "> "

namespace Asking

/-- The text that asks the pending question; none if the consultation is over. -/
def question? (asking : Asking) : Option String :=
  match asking.outcome with
  | some (.needsInput category prompt choices) =>
    some (asking.console.question asking.session.base category prompt choices ++ answerPrompt)
  | _ => none

/-- Takes a typed line: nothing is left of the consultation if it is an exit word. An answer that is
refused is reported and the question stays pending. -/
def take (asking : Asking) (line : String) : Option (String × Asking) :=
  let answer := trim line
  if isExitWord answer then none
  else
    match asking.outcome with
    | some (.needsInput category _ _) =>
      match asking.session.answer (.text category) (.text answer) with
      | .ok session => some ("", { asking with session, outcome := session.outcome })
      | .error fault => some (asking.console.status .error fault.message, asking)
    | _ => some ("", asking)

/-- The consultation is given up. -/
def giveUp (asking : Asking) (unread : List String) : Ending where
  output := [.text (asking.console.status .warning "Consulta cancelada")]
  unread := unread
  exitCode := 1
  session := asking.session.cancel

/-- The record of the session, if it is wanted. -/
def record (asking : Asking) (time : String) : List OutputItem :=
  if asking.recorded then [.text ((asking.session.toDatum time).toJson ++ "\n")] else []

/-- The consultation is over. The exit code tells a conclusion from the lack of one. -/
def finish (asking : Asking) (time : String) (unread : List String) : Ending where
  output :=
    let outcome := (asking.outcome.map (asking.console.outcome asking.session.base)).getD ""
    .text outcome :: asking.console.explanation asking.session.explain :: asking.record time
  unread := unread
  exitCode := match asking.outcome with
    | some (.resolved ..) => 0
    | _ => 2
  session := asking.session

/-- Conducts the consultation with the lines of an input. -/
def converse (asking : Asking) (time : String) : List String → Ending
  | [] =>
    match asking.question? with
    | none => asking.finish time []
    | some text => (asking.giveUp []).after text
  | line :: rest =>
    match asking.question? with
    | none => asking.finish time (line :: rest)
    | some text =>
      match asking.take line with
      | none => (asking.giveUp rest).after text
      | some (reply, asking) => (asking.converse time rest).after (text ++ reply)

end Asking

end RuleConsult
