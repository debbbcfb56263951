import RuleConsult.Datum

/-!
# Log levels

How much is logged is a number: messages of a lower level are left out. Settings give it by a name
in letters of either case; a name that is not known stands for the usual level.
-/

namespace RuleConsult

/-- Why no level can be set. -/
inductive LevelFault where
  /-- The configured value is no name. -/
  | notName (given : Datum)
  /-- The name is taken by a text of the log itself, which is no level. -/
  | unknownLevel (text : String)
  /-- The name is taken by a table of the log itself. -/
  | notLevel
  deriving Repr

/-- The wording for a text that is no level. -/
def LevelFault.message : LevelFault → String
  | .notName given => s!"Nível de log inválido: {given.shown}"
  | .unknownLevel text => s!"Unknown level: {Text.quoted text}"
  | .notLevel => "Nível de log inválido"

namespace LogLevel

/-- The level with everything. -/
def debug : Nat := 10

/-- The usual level. -/
def info : Nat := 20

/-- The levels by name. -/
def named : List (String × Nat) :=
  [("NOTSET", 0), ("DEBUG", 10), ("INFO", 20), ("WARN", 30), ("WARNING", 30), ("ERROR", 40),
    ("FATAL", 50), ("CRITICAL", 50)]

/-- The form in which messages are logged. -/
def messageForm : String := "%(levelname)s:%(name)s:%(message)s"

/-- The letters beyond ASCII whose capitals lie within it. -/
def foreignCapitals : List (Char × List Char) :=
  [('ß', ['S', 'S']), ('ı', ['I']), ('ſ', ['S']), ('ﬀ', ['F', 'F']), ('ﬁ', ['F', 'I']),
    ('ﬂ', ['F', 'L']), ('ﬃ', ['F', 'F', 'I']), ('ﬄ', ['F', 'F', 'L']), ('ﬅ', ['S', 'T']),
    ('ﬆ', ['S', 'T'])]

/-- The capitals of a letter, as far as they are in ASCII. -/
def capitals (c : Char) : List Char :=
  match foreignCapitals.find? fun entry => entry.1 == c with
  | some entry => entry.2
  | none => [c.toUpper]

/-- The level of a name. -/
def ofName (name : String) : Except LevelFault Nat :=
  let name := String.ofList (name.toList.flatMap capitals)
  match named.find? fun entry => entry.1 == name with
  | some entry => .ok entry.2
  | none =>
    if name == "BASIC_FORMAT" then .error (.unknownLevel messageForm)
    else if name == "_STYLES" then .error .notLevel
    else .ok info

/-- The level to set: the configured one, unless everything is asked for. -/
def choose (verbose : Bool) (configured : Datum) : Except LevelFault Nat :=
  if verbose then .ok debug
  else
    match configured with
    | .text name => ofName name
    | given => .error (.notName given)

end LogLevel

end RuleConsult
