import RuleConsult.Text.Space

/-!
# Commands of the shell

A command line begins with the name of a command, in letters, digits and low lines; what follows is
its argument. A question mark at the beginning asks for help. Whatever is no command is kept as it
was typed, for the shell to complain about.
-/

namespace RuleConsult

open Text

/-- The commands. -/
inductive CommandName where
  | endOfInput
  | answer
  | cancel
  | dump
  | exit
  | explain
  | fact
  | facts
  | help
  | info
  | load
  | questions
  | quit
  | reload
  | rules
  | start
  | validate
  deriving DecidableEq, Repr

namespace CommandName

/-- All commands, in the order of their names. -/
def all : List CommandName :=
  [.endOfInput, .answer, .cancel, .dump, .exit, .explain, .fact, .facts, .help, .info, .load,
    .questions, .quit, .reload, .rules, .start, .validate]

/-- The name that is typed. -/
def name : CommandName → String
  | .endOfInput => "EOF"
  | .answer => "answer"
  | .cancel => "cancel"
  | .dump => "dump"
  | .exit => "exit"
  | .explain => "explain"
  | .fact => "fact"
  | .facts => "facts"
  | .help => "help"
  | .info => "info"
  | .load => "load"
  | .questions => "questions"
  | .quit => "quit"
  | .reload => "reload"
  | .rules => "rules"
  | .start => "start"
  | .validate => "validate"

/-- What the help says about a command. -/
def description : CommandName → String
  | .endOfInput => "Sai do REPL (Ctrl+D)"
  | .answer => "Responde a pergunta pendente: answer <valor>"
  | .cancel => "Cancela a consulta atual"
  | .dump => "Mostra a base serializada"
  | .exit => "Sai do REPL"
  | .explain => "Explica a consulta atual"
  | .fact => "Define um fato inicial para a próxima consulta: fact <categoria> <valor>"
  | .facts => "Mostra os fatos conhecidos"
  | .help => "List available commands with \"help\" or detailed help with \"help cmd\"."
  | .info => "Mostra o resumo da base carregada"
  | .load => "Carrega uma base: load <caminho>"
  | .questions => "Lista as perguntas por categoria"
  | .quit => "Sai do REPL"
  | .reload => "Recarrega a base atual"
  | .rules => "Lista as regras"
  | .start => "Inicia uma consulta: start [categoria]"
  | .validate => "Valida o arquivo carregado"

/-- The command of a name. -/
def ofName? (typed : String) : Option CommandName :=
  all.find? fun known => known.name == typed

end CommandName

/-- A line that was read. -/
inductive CommandLine where
  /-- A line of white space. -/
  | blank
  | command (name : CommandName) (argument : String)
  /-- A line that begins with the name of no command. -/
  | unknown (line : String)
  deriving DecidableEq, Repr

/-- Whether the character may stand in the name of a command. -/
def isCommandChar (c : Char) : Bool :=
  c.isAlphanum || c == '_'

/-- Reads a line. -/
def CommandLine.read (line : String) : CommandLine :=
  let typed := trim line
  let typed := match typed.toList with
    | '?' :: rest => "help " ++ String.ofList rest
    | _ => typed
  if typed.isEmpty then .blank
  else
    let chars := typed.toList
    let name := String.ofList (chars.takeWhile isCommandChar)
    match CommandName.ofName? name with
    | some found => .command found (trim (String.ofList (chars.dropWhile isCommandChar)))
    | none => .unknown typed

/-! ## Columns -/

/-- The widest of some texts. -/
def maxWidth (texts : List String) : Nat :=
  (texts.map String.length).foldl max 0

/-- The texts in columns of the given height, filled from top to bottom. -/
def inColumns (height : Nat) (texts : List String) : List (List String) :=
  (List.range ((texts.length + height - 1) / height)).map fun i =>
    (texts.drop (height * i)).take height

/-- The width of columns side by side, two spaces apart. -/
def totalWidth (columns : List (List String)) : Nat :=
  columns.foldl (fun total column => total + (maxWidth column + 2)) 0 - 2

/-- The text with spaces up to the given width. -/
def padTo (width : Nat) (text : String) : String :=
  text ++ String.ofList (List.replicate (width - text.length) ' ')

/-- The `i`-th row of columns: each text but the last padded to the width of its column. -/
def rowOf (columns : List (List String)) (i : Nat) : String :=
  let cells := columns.filterMap fun column => column[i]?.map fun text => (maxWidth column, text)
  let padded := cells.dropLast.map fun cell => padTo cell.1 cell.2
  String.intercalate "  " (padded ++ cells.getLast?.toList.map Prod.snd)

/-- The texts in as few rows as fit the width, as lines. -/
def columnLines (width : Nat) (texts : List String) : List String :=
  let fits (height : Nat) : Bool := totalWidth (inColumns height texts) ≤ width
  let height := ((List.range texts.length).map (· + 1)).find? fits |>.getD texts.length
  (List.range height).map (rowOf (inColumns height texts))

/-! ## Help -/

/-- The help on all commands, as lines. -/
def helpIndex : List String :=
  let heading := "Documented commands (type help <topic>):"
  ["", heading, String.ofList (List.replicate heading.length '=')] ++
    columnLines 79 (CommandName.all.map CommandName.name) ++ [""]

/-- The help on a topic, as lines. -/
def helpOn (topic : String) : List String :=
  match CommandName.ofName? topic with
  | some found => [found.description]
  | none => [s!"*** No help on {topic}"]

end RuleConsult
