import RuleConsult.Files.FileStore
import RuleConsult.Keywords
import RuleConsult.Settings.Document

/-!
# Settings

Settings come in four parts: general ones, those of the language of rule bases, of the cache, and
of the place where rule bases are kept. A configuration file mentions what differs from the
standard. Names are checked and so are the keywords; every other value is taken as it is and may
turn out to be unusable where it is used. How the file is written is left to a reader of documents.

* `Settings.ofDatum` and `Settings.read` make settings of a configuration.
* `SharedSettings.obtain` is how the commands of one process share their settings.
-/

namespace RuleConsult

open Text

/-! ## Parts -/

/-- General settings. -/
structure GeneralSettings where
  name : Datum := .text "Expertsys"
  version : Datum := .text "1.0.0"
  language : Datum := .text "pt-BR"
  logLevel : Datum := .text "INFO"
  deriving Inhabited

/-- How rule bases are written. -/
structure LanguageSettings where
  encoding : Datum := .text "utf-8"
  extension : Datum := .text ".kb"
  keywords : Keywords := .standard
  deriving Inhabited

/-- Whether and how many loaded bases are kept. -/
structure CacheSettings where
  enabled : Datum := .bool true
  maxEntries : Datum := .int 50
  deriving Inhabited

/-- Where rule bases are kept. -/
structure KnowledgeSettings where
  directory : Datum := .text "./knowledge"
  /-- The rule base that the shell begins with; none if empty. -/
  defaultFile : Datum := .text ""
  deriving Inhabited

/-- All settings. -/
structure Settings where
  general : GeneralSettings := {}
  language : LanguageSettings := {}
  cache : CacheSettings := {}
  knowledge : KnowledgeSettings := {}
  deriving Inhabited

/-- Why a configuration is refused. -/
inductive SettingsFault where
  /-- The file is not read. -/
  | file (fault : FileFault)
  /-- The file is no document. -/
  | document (fault : DocumentFault)
  /-- A value should be a table. -/
  | notTable (given : Datum)
  /-- A part has no field of this name. -/
  | unknownField (name : Datum)
  /-- An item of a list of fields is no name with a value. -/
  | notField (index : Nat)
  /-- An item of a list of fields has not two parts. -/
  | fieldLength (index length : Nat)
  /-- The keywords are refused. -/
  | keywords (fault : KeywordFault)
  deriving Repr

/-- The wording of a refusal. -/
def SettingsFault.message : SettingsFault → String
  | .file fault => fault.message
  | .document fault => fault.message
  | .notTable given => s!"Configuração inválida: {given.shown}"
  | .unknownField name => s!"Configuração desconhecida: {name.shown}"
  | .notField index => s!"Configuração inválida: item {index}"
  | .fieldLength index length =>
    s!"dictionary update sequence element #{index} has length {length}; 2 is required"
  | .keywords fault => fault.message

/-! ## Fields -/

/-- What a document says under a name. A document that is no table says nothing, but must not
mention the name. -/
def Datum.part? (document : Datum) (name : String) : Except SettingsFault (Option Datum) :=
  match document with
  | .record fields => .ok ((fields.find? fun field => field.1 == name).map Prod.snd)
  | .list items =>
    if items.any fun item => item.text? == some name then .error (.notTable document)
    else .ok none
  | .text content =>
    if 1 < (content.splitOn name).length then .error (.notTable document) else .ok none
  | _ => .error (.notTable document)

/-- The fields of a table, all of which must have known names. -/
def Datum.fieldsNamed (known : List String) : Datum → Except SettingsFault (List (String × Datum))
  | .record fields =>
    match fields.find? fun field => !known.contains field.1 with
    | some field => .error (.unknownField (.text field.1))
    | none => .ok fields
  | given => .error (.notTable given)

/-- The value of a field, or the standard value if it is not mentioned. -/
def fieldOr (fields : List (String × Datum)) (name : String) (standard : Datum) : Datum :=
  match fields.find? fun field => field.1 == name with
  | some field => field.2
  | none => standard

/-- One field in a list of fields: a list, text or table of two. -/
def pairField (index : Nat) : Datum → Except SettingsFault (Datum × Datum)
  | .list [name, value] =>
    match name with
    | .list _ | .record _ => .error (.notTable name)
    | _ => .ok (name, value)
  | .list items => .error (.fieldLength index items.length)
  | .text text =>
    match text.toList with
    | [a, b] => .ok (.text (String.singleton a), .text (String.singleton b))
    | chars => .error (.fieldLength index chars.length)
  | .record [a, b] => .ok (.text a.1, .text b.1)
  | .record fields => .error (.fieldLength index fields.length)
  | _ => .error (.notField index)

/-- The fields of a list of fields, of which the first has the given index. -/
def pairFields (index : Nat) : List Datum → Except SettingsFault (List (Datum × Datum))
  | [] => .ok []
  | item :: rest => do
    let field ← pairField index item
    return field :: (← pairFields (index + 1) rest)

/-- The fields of a table or of a list of fields. -/
def Datum.looseFields : Datum → Except SettingsFault (List (Datum × Datum))
  | .record fields => .ok (fields.map fun field => (.text field.1, field.2))
  | .list items => pairFields 0 items
  | .text content => pairFields 0 (content.toList.map fun c => .text (String.singleton c))
  | given => .error (.notTable given)

/-- The fields with their names as texts. -/
def nameFields (known : List String) (fields : List (Datum × Datum)) :
    Except SettingsFault (List (String × Datum)) :=
  fields.mapM fun field =>
    match field.1 with
    | .text name =>
      if known.contains name then .ok (name, field.2) else .error (.unknownField field.1)
    | _ => .error (.unknownField field.1)

/-! ## Reading -/

namespace Settings

/-- The keywords of a configuration; the standard ones if the value is vacant. -/
def keywordsOf (given : Datum) : Except SettingsFault Keywords :=
  if given.isVacant then .ok .standard
  else
    match given with
    | .record fields => (Keywords.ofFields fields).mapError .keywords
    | _ => .error (.notTable given)

/-- General settings of a table. -/
def generalOf (given : Datum) : Except SettingsFault GeneralSettings := do
  let fields ← given.fieldsNamed ["name", "version", "language", "log_level"]
  let standard : GeneralSettings := {}
  return ⟨fieldOr fields "name" standard.name, fieldOr fields "version" standard.version,
    fieldOr fields "language" standard.language, fieldOr fields "log_level" standard.logLevel⟩

/-- Settings of the language of a table or a list of fields, of which the last with a name counts.
The keywords are looked at after all names. -/
def languageOf (given : Datum) : Except SettingsFault LanguageSettings := do
  -- Reversed, so that the first field found is the last one given.
  let fields := (← given.looseFields).reverse
  let named ← nameFields ["encoding", "extension", "keywords"] fields
  let standard : LanguageSettings := {}
  let keywords ← keywordsOf (fieldOr named "keywords" .null)
  return ⟨fieldOr named "encoding" standard.encoding,
    fieldOr named "extension" standard.extension, keywords⟩

/-- Settings of the cache of a table. -/
def cacheOf (given : Datum) : Except SettingsFault CacheSettings := do
  let fields ← given.fieldsNamed ["enabled", "max_entries"]
  let standard : CacheSettings := {}
  return ⟨fieldOr fields "enabled" standard.enabled,
    fieldOr fields "max_entries" standard.maxEntries⟩

/-- Settings of the place of rule bases of a table. -/
def knowledgeOf (given : Datum) : Except SettingsFault KnowledgeSettings := do
  let fields ← given.fieldsNamed ["directory", "default_file"]
  let standard : KnowledgeSettings := {}
  return ⟨fieldOr fields "directory" standard.directory,
    fieldOr fields "default_file" standard.defaultFile⟩

/-- A part of the settings: what the document says, or the standard. -/
def partOr {α : Type} (document : Datum) (name : String) (standard : α)
    (read : Datum → Except SettingsFault α) : Except SettingsFault α := do
  match ← document.part? name with
  | some given => read given
  | none => return standard

/-- The settings of a document. The parts are read in order, so the first fault is reported. -/
def ofDatum (document : Datum) : Except SettingsFault Settings :=
  if document.isVacant then .ok {}
  else do
    let general ← partOr document "app" {} generalOf
    let language ← partOr document "dsl" {} languageOf
    let cache ← partOr document "cache" {} cacheOf
    let knowledge ← partOr document "knowledge" {} knowledgeOf
    return ⟨general, language, cache, knowledge⟩

/-- The settings of a configuration file. -/
def read (readDocument : DocumentReader) (store : FileStore) (path : Path) :
    Except SettingsFault Settings := do
  let text ← (store.readTextIn .utf8 path).mapError .file
  ofDatum (← (readDocument text).mapError .document)

/-- The settings of a file, or the standard ones if there is nothing at the path. -/
def readIfPresent (readDocument : DocumentReader) (store : FileStore) (path : Path) :
    Except SettingsFault Settings :=
  match store.exists? path with
  | .error fault => .error (.file fault)
  | .ok false => .ok {}
  | .ok true => read readDocument store path

/-- The settings that the program comes with. -/
def supplied : Settings :=
  { general := { logLevel := .text "WARNING" }
    knowledge := { defaultFile := .text "weather.kb" } }

end Settings

/-! ## Shared settings -/

/-- The settings that the commands of a process share. -/
structure SharedSettings where
  /-- The settings read last, with the number of that reading. -/
  current : Option (Nat × Settings)
  /-- How often settings were read. -/
  made : Nat

namespace SharedSettings

/-- Nothing was read yet. -/
def empty : SharedSettings := ⟨none, 0⟩

/-- Settings made anew: of a named file, else of the file that the environment names, else the ones
the program comes with. -/
def load (readDocument : DocumentReader) (environment : Option String) (store : FileStore)
    (path : Option Path) : Except SettingsFault Settings :=
  match path with
  | some path => Settings.readIfPresent readDocument store path
  | none =>
    match environment with
    | some name =>
      if name.isEmpty then .ok Settings.supplied
      else Settings.readIfPresent readDocument store (Path.ofText name)
    | none => .ok Settings.supplied

/-- Takes new settings. -/
def replace (shared : SharedSettings) (settings : Settings) : SharedSettings :=
  ⟨some (shared.made, settings), shared.made + 1⟩

/-- The shared settings. They are read when they are first asked for, and again whenever a file is
named; a reading that fails leaves them as they were. -/
def obtain (shared : SharedSettings) (readDocument : DocumentReader)
    (environment : Option String) (store : FileStore) (path : Option Path) :
    SharedSettings × Except SettingsFault (Nat × Settings) :=
  match shared.current, path with
  | some current, none => (shared, .ok current)
  | _, _ =>
    match load readDocument environment store path with
    | .ok settings => (shared.replace settings, .ok (shared.made, settings))
    | .error fault => (shared, .error fault)

/-- Gives up the shared settings. -/
def reset (shared : SharedSettings) : SharedSettings := { shared with current := none }

end SharedSettings

end RuleConsult
