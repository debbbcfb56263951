import RuleConsult.Datum
import RuleConsult.Text.Numeral

/-!
# Configuration documents

A configuration is written as a document, which stands for a value. How documents are written is
left to a reader for them; what a reader may find wrong is listed here.
-/

namespace RuleConsult

open Text

/-- Why a document is not read. -/
inductive DocumentFault where
  /-- A character cannot be printed. -/
  | unprintable
  /-- There is a tab outside texts. -/
  | tab
  /-- A line of a text begins with the mark that stands between documents. -/
  | separator
  /-- A name is not in one line with its colon, or too far from it. -/
  | name
  /-- A number has too many digits. -/
  | numeral (fault : NumeralFault)
  /-- The reader finds something else, which it words itself. -/
  | other (message : String)
  deriving DecidableEq, Repr

/-- The wording of a fault of a document. -/
def DocumentFault.message : DocumentFault → String
  | .unprintable => "Configuração inválida: caractere não imprimível"
  | .tab => "Configuração inválida: tabulação"
  | .separator => "Configuração inválida: separador de documentos"
  | .name => "Configuração inválida: nome sem valor"
  | .numeral fault => fault.message
  | .other message => message

/-- What reads documents. -/
abbrev DocumentReader := String → Except DocumentFault Datum

end RuleConsult
