import RuleConsult.Base
import RuleConsult.Consult.Outcome
import RuleConsult.Text.Numeral

/-!
# The console

Commands write texts, framed panels and tables. Texts are styled by markup, which marks styles by
tags; how markup is shown is left to a renderer. A message is escaped, so it never counts as markup
itself. A console that takes nothing but ASCII gets a question mark for every other character,
before anything is rendered.

* `Console.status`, `Console.question` and `Console.outcome` are the texts of a consultation.
* `joinTexts` is the normal form of output: adjacent texts are one, and none is empty.
-/

namespace RuleConsult

open Text

/-! ## Output -/

/-- Something that is written. -/
inductive OutputItem where
  | text (content : String)
  /-- A text in a frame with a title. -/
  | panel (content title : String)
  | table (title : String) (columns : List String) (rows : List (List String))
  deriving DecidableEq, Repr

/-- An item as lines of text: a panel between rules, a table with bars between its columns. -/
def OutputItem.toText : OutputItem → String
  | .text content => content
  | .panel content title => s!"--- {title} ---\n{content}\n---\n"
  | .table title columns rows =>
    title ++ "\n" ++
      String.join ((columns :: rows).map fun row => String.intercalate " | " row ++ "\n")

/-- An item before others: a text joins the text that follows, an empty one is left out. -/
def consItem : OutputItem → List OutputItem → List OutputItem
  | .text content, .text later :: rest => .text (content ++ later) :: rest
  | .text content, items => if content.isEmpty then items else .text content :: items
  | item, items => item :: items

/-- Output with adjacent texts joined and empty ones left out. -/
def joinTexts (items : List OutputItem) : List OutputItem :=
  items.foldr consItem []

/-! ## Characters -/

/-- Whether the text is in ASCII. -/
def isAscii (text : String) : Bool :=
  text.toList.all fun c => c.toNat < 128

/-- The text with a question mark for each character that is not in ASCII. -/
def toAscii (text : String) : String :=
  text.map fun c => if c.toNat < 128 then c else '?'

/-! ## Printing -/

/-- Why what stands before a line that is read cannot be shown. -/
inductive PromptFault where
  /-- Its markup is not in order. -/
  | badMarkup (part : String)
  /-- A part of a mixed colour is no number. -/
  | numeral (fault : NumeralFault)
  deriving DecidableEq, Repr

/-- How texts with markup are shown. -/
structure Renderer where
  /-- Markup that shows a text as it is. -/
  escape : String → String
  /-- What markup shows. -/
  render : String → String
  /-- What a text shows in which tags do not count. -/
  renderPlain : String → String
  /-- What markup shows in a frame. -/
  renderFramed : String → String
  /-- What markup shows before a line is read. -/
  renderPrompt : String → Except PromptFault String

/-- A console. -/
structure Console where
  renderer : Renderer
  /-- Whether nothing but ASCII is taken. -/
  asciiOnly : Bool

/-- How a message is meant. -/
inductive Status where
  | ok
  | error
  | warning
  | info
  deriving DecidableEq, Repr

/-- The style of a message. -/
def Status.style : Status → String
  | .ok => "conclusion"
  | .error => "status.error"
  | .warning => "status.warning"
  | .info => "status.info"

/-- What a message begins with. -/
def Status.mark : Status → String
  | .ok => "[OK] "
  | .error => "[X] ERRO: "
  | .warning => "[!] "
  | .info => ""

/-- Markup in a style. -/
def styled (style markup : String) : String :=
  "[" ++ style ++ "]" ++ markup ++ "[/" ++ style ++ "]"

namespace Console

/-- What the console takes for a text that is to be written: the text itself, or the text in ASCII
if the console can take nothing else. -/
def taken (console : Console) (text : String) : String :=
  if console.asciiOnly then toAscii text else text

/-- A line of markup. -/
def line (console : Console) (markup : String) : String :=
  console.renderer.render (console.taken markup) ++ "\n"

/-- A line in which tags do not count. -/
def plainLine (console : Console) (text : String) : String :=
  console.renderer.renderPlain (console.taken text) ++ "\n"

/-- A message. -/
def status (console : Console) (status : Status) (message : String) : String :=
  console.line (styled status.style (status.mark ++ console.renderer.escape message))

/-- A question with its choices and the tip for its category. -/
def question (console : Console) (base : Base) (category prompt : String)
    (choices : List String) : String :=
  let options := String.intercalate ", " choices
  console.line ("\n" ++ styled "question" (console.renderer.escape prompt)) ++
    (if choices.isEmpty then ""
      else console.line (styled "muted" ("Opções: " ++ console.renderer.escape options))) ++
    match Base.nonEmpty? (base.tip? category) with
    | some tip => console.line (styled "muted" ("Dica: " ++ console.renderer.escape tip))
    | none => ""

/-- How a consultation ended; nothing while it goes on. -/
def outcome (console : Console) (base : Base) : Outcome → String
  | .resolved pair _ => console.status .ok s!"{base.label pair.category}: {pair.value}"
  | .exhausted unanswered _ =>
    match Base.nonEmpty? unanswered with
    | some category =>
      console.status .warning
        s!"Sem conclusão: não há pergunta para '{base.label category}'"
    | none => console.status .warning "Não foi possível chegar a uma conclusão"
  | .needsInput .. => ""

/-- A framed explanation. -/
def explanation (console : Console) (text : String) : OutputItem :=
  .panel (console.renderer.renderFramed (console.renderer.escape text)) "Explicação"

/-- What is written before a line is read. The prompt may contain markup; if the console cannot take
it, it is written in ASCII with its tags as they are. -/
def prompt (console : Console) (markup : String) : Except PromptFault String :=
  if console.asciiOnly && !isAscii markup then .ok (toAscii markup)
  else console.renderer.renderPrompt markup

end Console

end RuleConsult
