import RuleConsult.Draft
import RuleConsult.Files.FileStore

/-!
# Loading files

A rule base is read from a file by decoding the file, reading its text as a document and building a
base of the entries. Each step has faults of its own. That there is nothing at a path is noticed
first and reported with the path.
-/

namespace RuleConsult

open Text

/-- Why a file yields no base. -/
inductive FetchFault where
  /-- There is nothing at the path. -/
  | notFound (path : Path)
  /-- The file is not read as text. -/
  | file (fault : FileFault)
  /-- The text yields no base. -/
  | load (fault : LoadFault)
  deriving Repr

/-- The wording for a path at which there is nothing. -/
def Path.notFoundMessage (path : Path) : String :=
  s!"Arquivo não encontrado: {path.toText}"

/-- The wording of a fault. -/
def FetchFault.message : FetchFault → String
  | .notFound path => path.notFoundMessage
  | .file fault => fault.message
  | .load fault => fault.message

variable [Encodings]

/-- The text at a path. -/
def fetchText (encoding : Datum) (store : FileStore) (path : Path) : Except FetchFault String :=
  match store.exists? path with
  | .error fault => .error (.file fault)
  | .ok false => .error (.notFound path)
  | .ok true => (store.readText path encoding).mapError .file

/-- The entries of the document at a path. -/
def fetchEntries (keywords : Keywords) (encoding : Datum) (store : FileStore) (path : Path) :
    Except FetchFault (List Entry) := do
  let text ← fetchText encoding store path
  (readDocument keywords text).mapError fun fault => .load (.unreadable fault)

/-- The base at a path. -/
def fetchBase (keywords : Keywords) (encoding : Datum) (store : FileStore) (path : Path) :
    Except FetchFault Base := do
  let text ← fetchText encoding store path
  (loadBase keywords text).mapError .load

end RuleConsult
