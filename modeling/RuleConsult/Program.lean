import RuleConsult.Cache
import RuleConsult.Program.Arguments
import RuleConsult.Program.Asking
import RuleConsult.Program.Toolkit
import RuleConsult.Report
import RuleConsult.Settings
import RuleConsult.Settings.LogLevel
import RuleConsult.Shell

/-!
# The program

The program has five commands on a rule base in a file: validating it, showing what is in it,
consulting it, writing it in normal form, and the shell. Options before the command choose settings
and how much is logged. Two of the commands go on to read lines.

* `Program.start` does everything up to the point where lines are read.
* `Program.run` also reads the lines of an input.
-/

namespace RuleConsult

open Text

/-! ## Types -/

/-- What the program is started with. -/
structure Invocation where
  arguments : List String
  store : FileStore
  /-- The configuration file that the environment names, if any. -/
  environment : Option String
  /-- The text that stands for the time in records. -/
  time : String

/-- Why the program ends without an exit code. -/
inductive ProgramFault where
  | usage (fault : UsageFault)
  | settings (fault : SettingsFault)
  | level (fault : LevelFault)
  /-- The place of rule bases is no path. -/
  | badPlace (given : Datum)
  /-- The default file is not looked for. -/
  | file (fault : FileFault)
  | load (fault : CacheFault)
  | validate (fault : ValidateFault)
  | shell (fault : ShellFault)
  deriving Repr

/-- The wording of a fault. -/
def ProgramFault.message : ProgramFault → String
  | .usage fault => fault.message
  | .settings fault => fault.message
  | .level fault => fault.message
  | .badPlace given => s!"Diretório ou arquivo padrão inválido: {given.shown}"
  | .file fault => fault.message
  | .load fault => fault.message
  | .validate fault => fault.message
  | .shell fault => fault.message

/-- The exit code of a program that ends with a fault. -/
def ProgramFault.exitCode : ProgramFault → Nat
  | .usage _ => 2
  | _ => 1

/-- What the program does next. -/
inductive Process where
  /-- It ends with an exit code or a fault. -/
  | finished (result : Except ProgramFault Nat)
  /-- It conducts a consultation on the console. -/
  | asking (asking : Asking)
  /-- It runs the shell. -/
  | shell (shell : Shell)

/-- The program after its start. -/
structure Started where
  output : List OutputItem
  process : Process
  /-- The level of the log, once it is set. -/
  logLevel : Option Nat

/-- A run of the program. -/
structure Completion where
  output : List OutputItem
  /-- The lines that were not read. -/
  unread : List String
  result : Except ProgramFault Nat
  logLevel : Option Nat

/-! ## Command lines -/

/-- The commands. -/
inductive Verb where
  | validate
  | info
  | ask
  | dump
  | repl
  deriving DecidableEq, Repr

/-- The name of a command. -/
def Verb.name : Verb → String
  | .validate => "validate"
  | .info => "info"
  | .ask => "ask"
  | .dump => "dump"
  | .repl => "repl"

/-- The command of a name. -/
def Verb.ofName? (typed : String) : Option Verb :=
  [Verb.validate, .info, .ask, .dump, .repl].find? fun verb => verb.name == typed

/-- The options before the command. -/
inductive MainOption where
  | config
  | verbose
  | version
  | help
  deriving DecidableEq, Repr

/-- The options after the command. -/
inductive VerbOption where
  | target
  | fact
  | json
  | focused
  | help
  deriving DecidableEq, Repr

namespace Program

variable [Encodings] [Toolkit]

/-- The forms of the options before the command. -/
def mainForms : List (OptionForm MainOption) :=
  [⟨.config, some 'c', "config", true⟩, ⟨.verbose, some 'v', "verbose", false⟩,
    ⟨.version, none, "version", false⟩, ⟨.help, none, "help", false⟩]

/-- The forms of the options of a command. -/
def verbForms : Verb → List (OptionForm VerbOption)
  | .ask =>
    [⟨.target, some 't', "target", true⟩, ⟨.fact, some 'f', "fact", true⟩,
      ⟨.json, none, "json", false⟩, ⟨.focused, none, "focused", false⟩,
      ⟨.help, none, "help", false⟩]
  | _ => [⟨.help, none, "help", false⟩]

/-- The line about the version. -/
def versionText : String := "expertsys, version 1.0.0\n"

/-- The help on the program. -/
def helpText : String := "Uso: expertsys [-c ARQUIVO] [-v] COMANDO [ARGUMENTOS]
Comandos: validate, info, ask, dump, repl
"

/-- The help on a command. -/
def verbHelp (verb : Verb) : String :=
  let file := if verb == .repl then "[ARQUIVO]" else "ARQUIVO"
  let options :=
    if verb == .ask then " [-t CATEGORIA] [-f CATEGORIA=VALOR] [--json] [--focused]" else ""
  s!"Uso: expertsys {verb.name}{options} {file}\n"

/-- A path of a file from the command line. -/
def filePath (store : FileStore) (written : String) : Except UsageFault String :=
  if written.toList.contains (Char.ofNat 0) then .error (.nullInPath written)
  else if store.hasFile written then .ok written
  else .error (.noFile written)

/-- The file that a command is given; only the shell does without. -/
def operandOf (store : FileStore) (verb : Verb) : List String → Except UsageFault (Option String)
  | [] => if verb == .repl then .ok none else .error .missingFile
  | written :: others => do
    let path ← filePath store written
    if others.isEmpty then return some path else throw (.extraOperands others)

/-- A fact of the command line. -/
def readFact (given : String) : Except UsageFault (String × String) :=
  let (category, value) := splitAtEquals given
  let category := trim category
  let value := trim (value.getD "")
  if category.isEmpty || value.isEmpty then .error (.malformedFact given)
  else .ok (category, value)

/-- The facts of the command line. -/
def readFacts (given : List String) : Except UsageFault Facts := do
  return .ofList (← given.mapM readFact)

/-! ## Bases -/

/-- The cache that the settings ask for, shared by the commands of the process. -/
def cacheFor (settings : Settings) (shared : SharedCache) : Option Cache :=
  if settings.cache.enabled.isVacant then none
  else
    let limit : Option Int := match settings.cache.maxEntries with
      | .int limit => some limit
      | .bool limit => some limit.toInt
      | _ => none
    some (shared.obtain limit settings.language.keywords).1

/-- Reads a base through the cache, or directly if there is to be none. -/
def readBase (settings : Settings) (shared : SharedCache) (store : FileStore) (path : Path) :
    Except CacheFault Base :=
  match cacheFor settings shared with
  | some cache => (cache.getOrLoad store path).2.map Edition.base
  | none =>
    match store.readText path settings.language.encoding with
    | .error fault => .error (.fetch (.file fault))
    | .ok text => (loadBase settings.language.keywords text).mapError fun f => .fetch (.load f)

/-- The message about a base that is not read; none if the fault ends the program without one. -/
def reportOf (settings : Settings) (path : Path) : CacheFault → Option String
  | .fetch (.load (.numeral _)) => none
  | .fetch (.load fault) => some fault.message
  | .fetch (.file (.undecodable reason _)) =>
    some s!"{path.name} não está em {settings.language.encoding.plain}: {reason.message}"
  | _ => none

/-- The console of the program. -/
def console : Console := ⟨Toolkit.renderer, false⟩

/-- The program ends with an exit code. -/
def exit (output : List OutputItem) (code : Nat) : List OutputItem × Process :=
  (output, .finished (.ok code))

/-- The program ends with a fault. -/
def fail (fault : ProgramFault) : List OutputItem × Process :=
  ([], .finished (.error fault))

/-- Goes on with the base in a file, or ends with the message that there is none. -/
def withBase (settings : Settings) (store : FileStore) (file : String)
    (next : Base → List OutputItem × Process) : List OutputItem × Process :=
  let path := Path.ofText file
  match readBase settings .empty store path with
  | .ok base => next base
  | .error fault =>
    match reportOf settings path fault with
    | some message => exit [.text (console.status .error message)] 1
    | none => fail (.load fault)

/-! ## Commands -/

/-- Validates a file. -/
def validate (settings : Settings) (store : FileStore) (file : String) :
    List OutputItem × Process :=
  let language := settings.language
  match validateFile language.keywords ⟨language.encoding, language.extension⟩ store
      (Path.ofText file) with
  | .ok report =>
    exit [.text (console.plainLine report.toText)] (if report.isValid then 0 else 1)
  | .error fault => fail (.validate fault)

/-- The categories of a base, and then the others that have a binding. -/
def listedCategories (base : Base) : List String :=
  let bound := base.advice.categories ++ base.translations.categories ++ base.tips.categories
  bound.foldl (fun listed category =>
    if listed.contains category then listed else listed ++ [category]) base.categories

/-- The table of the categories of a base. -/
def infoTable (base : Base) (name : String) : OutputItem :=
  .table s!"Base: {name}" ["Categoria", "Valores", "Tradução", "Pergunta", "Dica"] <|
    (listedCategories base).map fun category =>
      [category, String.intercalate ", " (base.valuesFor category),
        (base.translation? category).getD "", (base.question? category).getD "",
        (base.tip? category).getD ""]

/-- The line that sums up a base. -/
def infoLine (base : Base) : String :=
  let summary := base.summary
  s!"{summary.rules} regras, {summary.questions} perguntas, " ++
    s!"categorias finais: {Shell.listed summary.goals}"

/-- Shows what is in a base. -/
def info (base : Base) (file : String) : List OutputItem × Process :=
  exit [infoTable base (Path.ofText file).name, .text (console.status .info (infoLine base))] 0

/-- Begins a consultation. -/
def ask (base : Base) (arguments : Arguments VerbOption) : List OutputItem × Process :=
  match readFacts (arguments.values .fact) with
  | .error fault => fail (.usage fault)
  | .ok facts =>
    let target := Session.textOrNull (arguments.values .target).getLast?
    match (Session.new base (arguments.has .focused)).start target facts.toData with
    | (session, none) =>
      ([], .asking ⟨console, session, session.outcome, arguments.has .json⟩)
    | (_, some fault) => exit [.text (console.status .error fault.message)] 1

/-- Writes a base in normal form. -/
def dump (settings : Settings) (base : Base) : List OutputItem × Process :=
  exit [.text (base.toText settings.language.keywords)] 0

/-- The file that the shell begins with if none is given: the default file, if it is there. -/
def defaultFile (settings : Settings) (store : FileStore) : Except ProgramFault (Option String) :=
  let place := settings.knowledge
  if place.defaultFile.isVacant then .ok none
  else
    match place.directory, place.defaultFile with
    | .text directory, .text file =>
      let path := (Path.ofText directory).join (Path.ofText file)
      match store.exists? path with
      | .ok found => .ok (if found then some path.toText else none)
      | .error fault => .error (.file fault)
    | .text _, given => .error (.badPlace given)
    | given, _ => .error (.badPlace given)

/-- Begins the shell. -/
def shell (settings : Settings) (store : FileStore) (file : Option String) :
    List OutputItem × Process :=
  let reply :=
    Shell.start (cacheFor settings .empty) settings.language.keywords store file
  match reply.result with
  | .ok _ => ([.text reply.output], .shell reply.shell)
  | .error fault => ([.text reply.output], .finished (.error (.shell fault)))

/-- Begins the shell with a file or the default file. -/
def repl (settings : Settings) (store : FileStore) (file : Option String) :
    List OutputItem × Process :=
  match file with
  | some file => shell settings store (some file)
  | none =>
    match defaultFile settings store with
    | .ok file => shell settings store file
    | .error fault => fail fault

/-- Runs a command with its arguments. -/
def perform (settings : Settings) (store : FileStore) (verb : Verb) (arguments : List String) :
    List OutputItem × Process :=
  match Toolkit.splitArguments (verbForms verb) true arguments with
  | .error fault => fail (.usage fault)
  | .ok arguments =>
    if arguments.has .help then exit [.text (verbHelp verb)] 0
    else
      match operandOf store verb arguments.operands with
      | .error fault => fail (.usage fault)
      | .ok file? =>
        let file := file?.getD ""
        match verb with
        | .validate => validate settings store file
        | .info => withBase settings store file fun base => info base file
        | .ask => withBase settings store file fun base => ask base arguments
        | .dump => withBase settings store file fun base => dump settings base
        | .repl => repl settings store file?

/-! ## Starting -/

/-- The text that the options before the command ask for instead of a command: the version or the
help, whichever is asked for first. -/
def textAskedFor (arguments : Arguments MainOption) : Option String :=
  arguments.options.findSome? fun found =>
    match found.1 with
    | .version => some versionText
    | .help => some helpText
    | _ => none

/-- The settings: of the named configuration file, else the shared ones. -/
def settingsFor (invocation : Invocation) (config : Option String) :
    Except SettingsFault Settings :=
  match config with
  | some file => Settings.read Toolkit.readDocument invocation.store (Path.ofText file)
  | none =>
    (SharedSettings.empty.obtain Toolkit.readDocument invocation.environment invocation.store
      none).2.map Prod.snd

/-- The program ended before the level of the log was set. -/
def endEarly (output : List OutputItem) (result : Except ProgramFault Nat) : Started :=
  ⟨output, .finished result, none⟩

/-- The configuration file and the command with its arguments, if they are acceptable. -/
def readMain (store : FileStore) (arguments : Arguments MainOption) :
    Except UsageFault (Option String × Verb × List String) := do
  let config ← (arguments.values .config).getLast?.mapM (filePath store)
  match arguments.operands with
  | [] => throw .missingCommand
  | name :: rest =>
    match Verb.ofName? name with
    | some verb => return (config, verb, rest)
    | none => throw (.unknownCommand name)

/-- Whether a name looks like an option: it begins with neither a letter nor a digit. -/
def looksLikeOption (name : String) : Bool :=
  match name.toList.head? with
  | some c => c == '_' || !isWord c
  | none => false

/-- The text that is asked for behind the end of the options: in the place of the command stands
what looks like an option, and it and what follows are options before the command after all. -/
def textAskedLate (operands : List String) : Option String :=
  if (operands.head?.map looksLikeOption).getD false then
    match Toolkit.splitArguments mainForms false operands with
    | .ok arguments => textAskedFor arguments
    | .error _ => none
  else none

/-- The program ends for a fault of the command line, unless a text is asked for late in the place
of a command. -/
def endWithUsage (arguments : Arguments MainOption) (fault : UsageFault) : Started :=
  match fault, textAskedLate arguments.operands with
  | .unknownCommand _, some text => endEarly [.text text] (.ok 0)
  | fault, _ => endEarly [] (.error (.usage fault))

/-- Starts the program. The settings and the log level are in force before the arguments of the
command are looked at. -/
def start (invocation : Invocation) : Started :=
  match Toolkit.splitArguments mainForms false invocation.arguments with
  | .error fault => endEarly [] (.error (.usage fault))
  | .ok arguments =>
    match textAskedFor arguments with
    | some text => endEarly [.text text] (.ok 0)
    | none =>
      match readMain invocation.store arguments with
      | .error fault => endWithUsage arguments fault
      | .ok (config, verb, rest) =>
        -- From here on faults of the settings come before those of the command's arguments.
        match settingsFor invocation config with
        | .error fault => endEarly [] (.error (.settings fault))
        | .ok settings =>
          match LogLevel.choose (arguments.has .verbose) settings.general.logLevel with
          | .error fault => endEarly [] (.error (.level fault))
          | .ok level =>
            let (output, process) := perform settings invocation.store verb rest
            ⟨output, process, some level⟩

/-- Runs the program on an input. -/
def run (invocation : Invocation) (input : String) : Completion :=
  let started := start invocation
  let lines := splitLines input
  match started.process with
  | .finished result => ⟨joinTexts started.output, lines, result, started.logLevel⟩
  | .asking asking =>
    let ending := asking.converse invocation.time lines
    ⟨joinTexts (started.output ++ ending.output), ending.unread, .ok ending.exitCode,
      started.logLevel⟩
  | .shell shell =>
    let talk := shell.converse invocation.store input
    ⟨joinTexts (started.output ++ [.text talk.last.output]), talk.unread,
      (talk.last.result.mapError .shell).map fun _ => 0, started.logLevel⟩

end Program

end RuleConsult
