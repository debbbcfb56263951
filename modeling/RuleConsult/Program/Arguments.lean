import RuleConsult.Text.Quoted

/-!
# Arguments

A command line consists of options and operands. An option has a long name after two hyphens and
may have a short name, one letter after one hyphen. How arguments are divided into options and
operands is left to an argument splitter.
-/

namespace RuleConsult

/-- An option that is understood. -/
structure OptionForm (κ : Type) where
  key : κ
  /-- The letter after one hyphen. -/
  short : Option Char
  /-- The name after two hyphens. -/
  long : String
  takesValue : Bool

/-- What is wrong with a command line. -/
inductive UsageFault where
  | unknownOption (name : String)
  | missingValue (name : String)
  /-- A value is given for an option that takes none. -/
  | unexpectedValue (name : String)
  | missingCommand
  | unknownCommand (name : String)
  | missingFile
  /-- There is no file at a path. -/
  | noFile (path : String)
  /-- A path holds the null character. -/
  | nullInPath (path : String)
  | extraOperands (operands : List String)
  /-- A fact is not written as a category with a value. -/
  | malformedFact (given : String)
  deriving DecidableEq, Repr

/-- The wording of a usage fault. -/
def UsageFault.message : UsageFault → String
  | .unknownOption name => s!"Opção desconhecida: {name}"
  | .missingValue name => s!"Opção sem valor: {name}"
  | .unexpectedValue name => s!"Opção não aceita valor: {name}"
  | .missingCommand => "Comando ausente"
  | .unknownCommand name => s!"Comando desconhecido: {name}"
  | .missingFile => "Arquivo ausente"
  | .noFile path => s!"Arquivo inexistente: {path}"
  | .nullInPath _ => "embedded null byte"
  | .extraOperands operands =>
    let listed := String.intercalate " " operands
    s!"Argumentos em excesso: {listed}"
  | .malformedFact given => s!"Use categoria=valor (recebido: {Text.quoted given})"

/-- Arguments divided into options, with their values, and operands, both in order. -/
structure Arguments (κ : Type) where
  options : List (κ × Option String)
  operands : List String

namespace Arguments

variable {κ : Type}

/-- No arguments. -/
def empty : Arguments κ := ⟨[], []⟩

/-- The values of an option, in order. -/
def values [DecidableEq κ] (arguments : Arguments κ) (key : κ) : List String :=
  arguments.options.filterMap fun found => if found.1 = key then found.2 else none

/-- Whether an option is given. -/
def has [DecidableEq κ] (arguments : Arguments κ) (key : κ) : Bool :=
  arguments.options.any fun found => found.1 = key

/-- The arguments with options before them. -/
def withOptions (arguments : Arguments κ) (before : List (κ × Option String)) : Arguments κ :=
  { arguments with options := before ++ arguments.options }

end Arguments

/-- An argument before and after its first equals sign. -/
def splitAtEquals (argument : String) : String × Option String :=
  let chars := argument.toList
  let name := String.ofList (chars.takeWhile (· != '='))
  match chars.dropWhile (· != '=') with
  | _ :: value => (name, some (String.ofList value))
  | [] => (name, none)

/-- What divides arguments into options of some forms and operands. The options may be mixed with
operands, or else everything from the first operand on is an operand. -/
abbrev ArgumentSplitter :=
  {κ : Type} → List (OptionForm κ) → Bool → List String → Except UsageFault (Arguments κ)

end RuleConsult
