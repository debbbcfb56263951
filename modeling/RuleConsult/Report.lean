import RuleConsult.Draft
import RuleConsult.Files.FileStore

/-!
# Validation reports

A report gathers everything that can be said about a base before it is used: errors that keep it
from being loaded, warnings about what is probably not meant, and information. A file is validated
like its text, with the faults of the file itself reported as errors and an unexpected ending of its
name as a warning.
-/

namespace RuleConsult

open Text

/-! ## Findings -/

/-- How serious a finding is. -/
inductive Severity where
  | error
  | warning
  | info
  deriving DecidableEq, Repr

/-- The name of a severity. -/
def Severity.name : Severity → String
  | .error => "error"
  | .warning => "warning"
  | .info => "info"

/-- The mark that a finding begins with. -/
def Severity.mark : Severity → String
  | .error => "[X]"
  | .warning => "[!]"
  | .info => "[I]"

/-- One finding of a report. -/
structure Finding where
  severity : Severity
  message : String
  line : Option Int
  /-- What may be done about it; empty if there is nothing to say. -/
  suggestion : String
  deriving DecidableEq, Repr

/-- The text of a finding. Line zero is no line. -/
def Finding.toText (finding : Finding) : String :=
  let place := match finding.line with
    | some line => if line == 0 then "" else s!"Linha {line}: "
    | none => ""
  let head := s!"{finding.severity.mark} {place}{finding.message}"
  if finding.suggestion.isEmpty then head
  else head ++ "\n    Sugestão: " ++ finding.suggestion

/-! ## Reports -/

/-- A validation report. -/
structure Report where
  /-- What was validated: the name of a file, or some other description. -/
  source : String
  isValid : Bool
  errors : List Finding
  warnings : List Finding
  infos : List Finding
  /-- The base, if it could be built. -/
  base : Option Base

namespace Report

/-- The report of a single error. -/
def ofError (source message suggestion : String) : Report :=
  ⟨source, false, [⟨.error, message, none, suggestion⟩], [], [], none⟩

/-- The rule below a section of a report. -/
def thinRule : String := String.ofList (List.replicate 60 '-')

/-- The rule around a heading. -/
def thickRule : String := String.ofList (List.replicate 60 '=')

/-- The lines of a section of findings; none if there are no findings. -/
def listing (title : String) (findings : List Finding) : List String :=
  if findings.isEmpty then []
  else
    thinRule :: s!"  {title}:" ::
      findings.flatMap fun finding => (finding.toText.splitOn "\n").map fun line => "  " ++ line

/-- The lines that summarize a base. -/
def summaryLines (base : Base) : List String :=
  let summary := base.summary
  [thinRule, s!"  Regras: {summary.rules}", s!"  Categorias: {summary.categories}",
    s!"  Perguntas: {summary.questions}", s!"  Traduções: {summary.translations}",
    s!"  Dicas: {summary.tips}"]

/-- The text of a report. -/
def toText (report : Report) : String :=
  let verdict :=
    if report.isValid then "  Base válida e pronta para uso"
    else "  Base contém erros que precisam ser corrigidos"
  String.intercalate "\n" <|
    [thickRule, s!"  VALIDAÇÃO: {(Path.ofText report.source).name}", thickRule, verdict] ++
      report.base.toList.flatMap summaryLines ++
      listing "ERROS" report.errors ++
      listing "AVISOS" report.warnings ++
      listing "INFORMAÇÕES" report.infos ++
      [thinRule, s!"  {report.errors.length} erro(s), {report.warnings.length} aviso(s)",
        thickRule]

end Report

/-! ## Validation -/

/-- The information about final categories without a label. -/
def Base.labelFindings (base : Base) : List Finding :=
  (base.goalCategories.filter fun category => (base.translation? category).isNone).map
    fun category =>
      ⟨.info, s!"Categoria final '{category}' sem tradução", none,
        "Adicione uma entrada de tradução para exibir um rótulo legível."⟩

/-- Validates a text. A number that cannot be read is no finding but a failure of validation. -/
def validateText (keywords : Keywords) (text source : String) :
    Except NumeralFault Report :=
  match readDocument keywords text with
  | .error fault =>
    .ok ⟨source, false,
      [⟨.error, fault.message, some fault.location.line, "Verifique a sintaxe da entrada."⟩],
      [], [], none⟩
  | .ok entries => do
    let result ← build entries
    let errors := result.issues.map fun issue => ⟨.error, issue.message, some issue.line, ""⟩
    let warnings := result.notices.map fun notice => ⟨.warning, notice.message, none, ""⟩
    let infos := result.base?.toList.flatMap Base.labelFindings
    return ⟨source, errors.isEmpty, errors, warnings, infos, result.base?⟩

/-- How files are written and named. -/
structure Convention where
  encoding : Datum
  /-- The expected ending of file names. -/
  extension : Datum

/-- The usual convention. -/
def Convention.standard : Convention := ⟨.text "utf-8", .text ".kb"⟩

/-- Why a file is not validated at all. -/
inductive ValidateFault where
  | file (fault : FileFault)
  | numeral (fault : NumeralFault)
  deriving Repr

/-- The wording of a failure. -/
def ValidateFault.message : ValidateFault → String
  | .file fault => fault.message
  | .numeral fault => fault.message

/-- The warning about an unexpected file name. -/
def extensionFinding (convention : Convention) (path : Path) : List Finding :=
  if convention.extension.text? = some path.suffix then []
  else
    let shown := if path.suffix.isEmpty then "(nenhuma)" else path.suffix
    [⟨.warning, s!"Extensão inesperada: {shown}", none,
      s!"Use a extensão {convention.extension.plain} para bases de conhecimento."⟩]

/-- Validates a file. -/
def validateFile [Encodings] (keywords : Keywords) (convention : Convention) (store : FileStore)
    (path : Path) : Except ValidateFault Report :=
  let source := path.toText
  match store.exists? path with
  | .error fault => .error (.file fault)
  | .ok false =>
    .ok (.ofError source s!"Arquivo não encontrado: {source}" "Verifique o caminho do arquivo.")
  | .ok true =>
    match store.readText path convention.encoding with
    | .error (.undecodable reason start) =>
      .ok (.ofError source
        (s!"Arquivo não está em {convention.encoding.plain}: {reason.message} " ++
          s!"(byte {start})")
        "Salve o arquivo em UTF-8 ou ajuste dsl.encoding na configuração.")
    | .error fault => .error (.file fault)
    | .ok text => do
      let report ← (validateText keywords text source).mapError .numeral
      return { report with warnings := report.warnings ++ extensionFinding convention path }

end RuleConsult
