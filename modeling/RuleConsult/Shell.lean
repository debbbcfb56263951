import RuleConsult.Cache
import RuleConsult.Consult.Session
import RuleConsult.Report
import RuleConsult.Shell.Command
import RuleConsult.Text.Lines

/-!
# The shell

The shell is an interactive front end: it loads a base through a cache, shows what is in it, and
conducts one consultation at a time. A command takes the files as they are at that moment, changes
the shell and prints something. A few faults of files are not reported in print but end the
command; the reply names them.

* `Shell.execute` runs one command line.
* `Shell.converse` runs the lines of an input until one of them ends the shell; at the end of the
  input the shell ends by itself.
-/

namespace RuleConsult

open Text

/-! ## State -/

/-- A shell. -/
structure Shell where
  keywords : Keywords
  /-- The cache that bases are loaded through. -/
  cache : Cache
  /-- Whether that is a cache of its own instead of one that it was given. -/
  ownCache : Bool
  /-- The file that was named last for loading. -/
  path : Option Path
  /-- The edition that is loaded. -/
  loaded : Option Edition
  session : Option Session
  /-- The facts for the next consultation. -/
  facts : Facts

/-- Why a command ends without a report. -/
inductive ShellFault where
  | load (fault : CacheFault)
  | validate (fault : ValidateFault)
  deriving Repr

/-- The wording of a shell fault. -/
def ShellFault.message : ShellFault → String
  | .load fault => fault.message
  | .validate fault => fault.message

/-- What a command did. -/
structure Reply where
  shell : Shell
  /-- What was printed. -/
  output : String
  /-- Whether the shell ends, unless the command failed. -/
  result : Except ShellFault Bool

namespace Shell

variable [Encodings]

/-- The text of printed lines. -/
def printed (lines : List String) : String :=
  String.join (lines.map (· ++ "\n"))

/-- The reply that prints some lines, after which the shell goes on. -/
def say (shell : Shell) (lines : List String) : Reply :=
  ⟨shell, printed lines, .ok false⟩

/-- The reply of a command that fails. -/
def fail (shell : Shell) (fault : ShellFault) : Reply :=
  ⟨shell, "", .error fault⟩

/-! ## Loading -/

/-- Loads a base. The file is named from then on even if it is not loaded; everything else is kept
unless it is. -/
def load (shell : Shell) (store : FileStore) (path : Path) : Reply :=
  let (cache, result) := shell.cache.getOrLoad store path
  -- From here on the file is the named one, whatever becomes of loading it.
  let shell := { shell with cache, path := some path }
  match result with
  | .ok edition =>
    let summary := edition.base.summary
    { shell with loaded := some edition, session := none, facts := Table.empty }.say
      [s!"[OK] Carregado: {path.name}",
        s!"   Regras: {summary.rules} | Perguntas: {summary.questions}"]
  | .error (.fetch (.notFound _)) | .error (.fetch (.file .missing)) =>
    shell.say [s!"[X] Arquivo não encontrado: {path.toText}"]
  | .error (.fetch (.file (.undecodable reason _))) =>
    shell.say [s!"[X] Codificação inválida em {path.name}: {reason.message}"]
  | .error (.fetch (.load (.numeral fault))) =>
    shell.fail (.load (.fetch (.load (.numeral fault))))
  | .error (.fetch (.load fault)) => shell.say [s!"[X] Erro ao carregar: {fault.message}"]
  | .error fault => shell.fail (.load fault)

/-- The given cache, if it is to be used: an empty one is not. -/
def usable? (given : Option Cache) : Option Cache :=
  given.filter fun cache => cache.size != 0

/-- A shell before anything is loaded. Without a usable cache it gets one of its own. -/
def new (given : Option Cache) (keywords : Keywords) : Shell where
  keywords := keywords
  cache := (usable? given).getD (.new (some Cache.standardLimit) keywords (.text "utf-8"))
  ownCache := (usable? given).isNone
  path := none
  loaded := none
  session := none
  facts := Table.empty

/-- What has become of the cache that a shell was given: a shell with a cache of its own leaves the
given one alone. -/
def givenCache (shell : Shell) (given : Cache) : Cache :=
  if shell.ownCache then given else shell.cache

/-- A shell that begins by loading a base, if one is named. -/
def start (given : Option Cache) (keywords : Keywords) (store : FileStore)
    (file : Option String) : Reply :=
  let shell := new given keywords
  match Base.nonEmpty? file with
  | some file => shell.load store (Path.ofText file)
  | none => shell.say []

/-! ## Commands -/

/-- Goes on with the base that is loaded, or complains that there is none. -/
def withBase (shell : Shell) (next : Base → Reply) : Reply :=
  match shell.loaded with
  | some edition => next edition.base
  | none => shell.say ["[!] Nenhuma base carregada", "   Use: load <caminho>"]

/-- The line with the tip for a category, if there is one. -/
def tipLine (base : Base) (category : String) : List String :=
  match Base.nonEmpty? (base.tip? category) with
  | some tip => [s!"   Dica: {tip}"]
  | none => []

/-- The lines that show an outcome. -/
def outcomeLines (base : Base) : Option Outcome → List String
  | some (.needsInput category prompt choices) =>
    let options := String.intercalate ", " choices
    [s!"? {prompt}"] ++
      (if choices.isEmpty then [] else [s!"   Opções: {options}"]) ++
      tipLine base category ++ ["   Use: answer <valor>"]
  | some (.resolved pair _) =>
    s!"[OK] {base.label pair.category}: {pair.value}" :: tipLine base pair.category
  | some (.exhausted unanswered _) =>
    "[X] Sem conclusão" ::
      match Base.nonEmpty? unanswered with
      | some category => [s!"   Sem pergunta para: {base.label category}"]
      | none => []
  | none => []

/-- The texts separated by commas, or a dash if there are none. -/
def listed (texts : List String) : String :=
  let joined := String.intercalate ", " texts
  if joined.isEmpty then "-" else joined

/-- Shows the summary of the base. -/
def info (shell : Shell) : Reply :=
  shell.withBase fun base =>
    let summary := base.summary
    let file := (shell.path.map Path.toText).getD "None"
    shell.say
      [s!"\nArquivo: {file}", s!"   • rules: {summary.rules}",
        s!"   • categories: {summary.categories}", s!"   • questions: {summary.questions}",
        s!"   • translations: {summary.translations}", s!"   • tips: {summary.tips}",
        s!"   • goals: {listed summary.goals}"]

/-- Sets a fact for the next consultation. -/
def setFact (shell : Shell) (argument : String) : Reply :=
  match words argument with
  | [category, value] =>
    { shell with facts := shell.facts.insert category value }.say [s!"   {category}-{value}"]
  | _ => shell.say ["Uso: fact <categoria> <valor>"]

/-- Shows the facts of the consultation, or without one those for the next. -/
def showFacts (shell : Shell) : Reply :=
  let facts := match shell.session with
    | some session => session.facts
    | none => shell.facts
  if facts.entries.isEmpty then shell.say ["   (nenhum fato)"]
  else shell.say (facts.entries.map fun fact => s!"   {fact.1}-{fact.2}")

/-- Starts a consultation. -/
def startSession (shell : Shell) (argument : String) : Reply :=
  shell.withBase fun base =>
    let target : Datum := if argument.isEmpty then .null else .text argument
    match (Session.new base false).start target shell.facts.toData with
    | (session, none) =>
      { shell with session := some session }.say (outcomeLines base session.outcome)
    | (session, some fault) =>
      { shell with session := some session }.say [s!"[X] {fault.message}"]

/-- Answers the pending question. -/
def answer (shell : Shell) (argument : String) : Reply :=
  match shell.session, shell.session.bind Session.outcome with
  | some session, some (.needsInput category _ _) =>
    if argument.isEmpty then shell.say ["Uso: answer <valor>"]
    else
      match session.answer (.text category) (.text argument) with
      | .ok session =>
        let base := (shell.loaded.map Edition.base).getD session.base
        { shell with session := some session }.say (outcomeLines base session.outcome)
      | .error fault => shell.say [s!"[X] {fault.message}"]
  | _, _ => shell.say ["[!] Nenhuma pergunta pendente"]

/-- Goes on with the consultation, or complains that there is none. -/
def withSession (shell : Shell) (next : Session → Reply) : Reply :=
  match shell.session with
  | some session => next session
  | none => shell.say ["[!] Nenhuma consulta iniciada"]

/-- Validates the file that was named last. -/
def validate (shell : Shell) (store : FileStore) : Reply :=
  match shell.path with
  | none => shell.say ["[!] Nenhum arquivo carregado"]
  | some path =>
    match validateFile shell.keywords Convention.standard store path with
    | .ok report => shell.say [report.toText]
    | .error fault => shell.fail (.validate fault)

/-- Loads the file that was named last once more. -/
def reload (shell : Shell) (store : FileStore) : Reply :=
  match shell.path with
  | none => shell.say ["[!] Nenhum arquivo carregado para recarregar"]
  | some path => { shell with cache := (shell.cache.invalidate store path).1 }.load store path

/-- Ends the shell. -/
def leave (shell : Shell) (before : List String) : Reply :=
  ⟨shell, printed (before ++ ["\nAté logo!"]), .ok true⟩

/-- Runs a command. -/
def run (shell : Shell) (store : FileStore) (argument : String) : CommandName → Reply
  | .load =>
    if argument.isEmpty then shell.say ["Uso: load <caminho_do_arquivo.kb>"]
    else shell.load store (Path.ofText argument)
  | .reload => shell.reload store
  | .info => shell.info
  | .rules =>
    shell.withBase fun base =>
      shell.say (base.rules.map fun rule => s!"  {rule.toText shell.keywords}")
  | .questions =>
    shell.withBase fun base =>
      shell.say (base.advice.toList.map fun binding => s!"  {binding.category}: {binding.text}")
  | .fact => shell.setFact argument
  | .facts => shell.showFacts
  | .start => shell.startSession argument
  | .answer => shell.answer argument
  | .explain => shell.withSession fun session => shell.say [session.explain]
  | .cancel =>
    shell.withSession fun session =>
      { shell with session := some session.cancel, facts := Table.empty }.say
        ["   Consulta cancelada"]
  | .validate => shell.validate store
  | .dump =>
    shell.withBase fun base => ⟨shell, base.toText shell.keywords, .ok false⟩
  | .help => shell.say (if argument.isEmpty then helpIndex else helpOn argument)
  | .exit | .quit => shell.leave []
  | .endOfInput => shell.leave [""]

/-- Runs a command line. -/
def execute (shell : Shell) (store : FileStore) (line : String) : Reply :=
  match CommandLine.read line with
  | .blank => shell.say []
  | .command name argument => shell.run store argument name
  | .unknown typed =>
    shell.say [s!"? Comando desconhecido: {typed}",
      "   Digite 'help' para ver os comandos disponíveis"]

/-! ## Conversation -/

/-- The greeting. -/
def intro : String := "
+-----------------------------------------------------------+
|            EXPERTSYS - Sistema Especialista               |
+-----------------------------------------------------------+
|  Comandos:                                                |
|    load <arquivo>        - Carrega uma base               |
|    info                  - Resumo da base carregada       |
|    rules / questions     - Lista regras / perguntas       |
|    fact <cat> <valor>    - Define um fato inicial         |
|    start [categoria]     - Inicia uma consulta            |
|    answer <valor>        - Responde a pergunta pendente   |
|    explain / cancel      - Explica / cancela a consulta   |
|    exit / quit           - Sai do REPL                    |
+-----------------------------------------------------------+
"

/-- What is printed before each line is read. -/
def promptText : String := "\n[ES] > "

/-- How a conversation went: the last reply, with everything that was printed, and the lines that
were not read. -/
structure Conversation where
  last : Reply
  unread : List String

/-- Runs lines until the shell ends. The end of the input is a command of its own. -/
def converseLines (shell : Shell) (store : FileStore) : List String → Conversation
  | [] =>
    let reply := shell.execute store CommandName.endOfInput.name
    ⟨{ reply with output := promptText ++ reply.output }, []⟩
  | line :: rest =>
    let reply := shell.execute store (dropLineEnd line)
    match reply.result with
    | .ok false =>
      let later := reply.shell.converseLines store rest
      ⟨{ later.last with output := promptText ++ reply.output ++ later.last.output },
        later.unread⟩
    | _ => ⟨{ reply with output := promptText ++ reply.output }, rest⟩

/-- Greets and runs the lines of an input. -/
def converse (shell : Shell) (store : FileStore) (input : String) : Conversation :=
  let conversation := shell.converseLines store (splitLines input)
  ⟨{ conversation.last with output := intro ++ "\n" ++ conversation.last.output },
    conversation.unread⟩

end Shell

end RuleConsult
