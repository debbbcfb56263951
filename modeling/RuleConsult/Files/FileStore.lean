import RuleConsult.Datum
import RuleConsult.Files.Path
import RuleConsult.Table
import RuleConsult.Text.Encoding

/-!
# File stores

A file store is a snapshot of the files and directories that there are, with the working directory,
from which relative paths lead on. Everything that depends on files takes the store as an argument,
so its results are functions of the files' contents.
-/

namespace RuleConsult

open Text

/-- What a name stands for. -/
inductive FileNode where
  | file (bytes : List UInt8)
  | directory
  deriving DecidableEq, Repr, Inhabited

/-- The files and directories that there are. -/
structure FileStore where
  /-- What there is, by the names that lead to it from the root. -/
  nodes : Table (List String) FileNode
  /-- The names that lead to the working directory from the root. -/
  home : List String

/-- Why a file cannot be read as text, written or deleted. -/
inductive FileFault where
  | missing
  | directory
  /-- What leads on is no directory. -/
  | notDirectory
  /-- A file stands where a directory is to be. -/
  | occupied
  /-- A name, or the whole path, is longer than any that exists. -/
  | tooLong
  /-- The path holds the null character, which no name does. -/
  | nullInPath
  /-- There is no encoding of the configured name. -/
  | unknownEncoding (name : String)
  /-- The name of the configured encoding holds the null character. -/
  | nullInEncoding
  /-- The configured encoding is no name. -/
  | badEncoding (given : Datum)
  /-- A sequence of bytes is no text in the configured encoding. -/
  | undecodable (reason : DecodeReason) (start : Nat)
  /-- The bytes as a whole are not in the configured encoding. -/
  | unfit (message : String)
  deriving Repr

/-- The fault of a file whose bytes are not decoded. -/
def FileFault.ofDecode : DecodeFault → FileFault
  | .invalid reason start => .undecodable reason start
  | .unfit message => .unfit message

/-- The wording of a file fault. -/
def FileFault.message : FileFault → String
  | .missing => "Arquivo não encontrado"
  | .directory => "É um diretório"
  | .notDirectory => "Não é um diretório"
  | .occupied => "Já existe um arquivo"
  | .tooLong => "Nome longo demais"
  | .nullInPath => "embedded null byte"
  | .unknownEncoding name => s!"Codificação desconhecida: {name}"
  | .nullInEncoding => "embedded null character"
  | .badEncoding given => s!"Codificação inválida: {given.shown}"
  | .undecodable reason start => s!"{reason.message} (byte {start})"
  | .unfit message => message

namespace FileStore

/-- The store that has nothing but the root, which is the working directory. -/
def empty : FileStore := ⟨Table.empty, []⟩

instance : Inhabited FileStore := ⟨empty⟩

/-- The store that has nothing but a working directory and the directories on the way to it. -/
def ofHome (home : List String) : FileStore :=
  ⟨Table.ofList ((List.range home.length).map fun n => (home.take (n + 1), .directory)), home⟩

/-! ## Paths -/

/-- The path from the root. Steps to a parent directory stay in it. -/
def absolute (store : FileStore) (path : Path) : Path :=
  Path.join ⟨"/", store.home⟩ path

/-- The directory from which a path leads on. -/
def origin (store : FileStore) (path : Path) : List String :=
  if path.root.isEmpty then store.home else []

/-! ## Finding -/

/-- How many bytes a name may have. -/
def maxNameBytes : Nat := 255

/-- How many bytes a path may have. -/
def maxPathBytes : Nat := 4095

/-- The node at a sequence of names from the root; the empty sequence is the root itself. -/
def nodeAt? (store : FileStore) (names : List String) : Option FileNode :=
  if names.isEmpty then some .directory else store.nodes.get? names

/-- The place and the node reached from `here` by the names to come. Each name but the last must
lead to a directory. The root is its own parent. -/
def walk (store : FileStore) (here : List String) :
    List String → Except FileFault (List String × FileNode)
  | [] =>
    match store.nodeAt? here with
    | some node => .ok (here, node)
    | none => .error .missing
  | part :: rest =>
    match store.nodeAt? here with
    | none => .error .missing
    | some (.file _) => .error .notDirectory
    | some .directory =>
      if part == ".." then walk store here.dropLast rest
      else if maxNameBytes < part.utf8ByteSize then .error .tooLong
      else walk store (here ++ [part]) rest

/-- The place and the node of a path. -/
def locate (store : FileStore) (path : Path) : Except FileFault (List String × FileNode) :=
  if maxPathBytes < path.toText.utf8ByteSize then .error .tooLong
  else store.walk (store.origin path) path.parts

/-- The node of a path. -/
def find (store : FileStore) (path : Path) : Except FileFault FileNode :=
  (store.locate path).map Prod.snd

/-- Whether a path leads to a file or a directory. A path that is too long to be looked at is no
path that leads nowhere. -/
def exists? (store : FileStore) (path : Path) : Except FileFault Bool :=
  match store.find path with
  | .ok _ => .ok true
  | .error .tooLong => .error .tooLong
  | .error _ => .ok false

/-- Whether a path, as it is written, leads to a file. A path that ends with a separator or with the
current directory leads to directories only. -/
def hasFile (store : FileStore) (written : String) : Bool :=
  let last := (written.splitOn "/").getLast?.getD ""
  last != "" && last != "." && written.utf8ByteSize ≤ maxPathBytes &&
    match store.find (Path.ofText written) with
    | .ok (.file _) => true
    | _ => false

/-! ## Changing -/

/-- Whether a path holds the null character. -/
def hasNull (path : Path) : Bool :=
  path.parts.any fun part => part.toList.contains (Char.ofNat 0)

/-- The store with a directory at every step from `here` along the names, and the place reached. -/
def enter (store : FileStore) (here : List String) :
    List String → Except FileFault (FileStore × List String)
  | [] => .ok (store, here)
  | part :: rest =>
    if part == ".." then enter store here.dropLast rest
    else if maxNameBytes < part.utf8ByteSize then .error .tooLong
    else
      let place := here ++ [part]
      match store.nodes.get? place with
      | some .directory => enter store place rest
      | some (.file _) => .error (if rest.isEmpty then .occupied else .notDirectory)
      | none => enter { store with nodes := store.nodes.insert place .directory } place rest

/-- The store after making a directory and those that lead to it. -/
def makeDirectory (store : FileStore) (path : Path) : Except FileFault FileStore :=
  if hasNull path then .error .nullInPath
  else (store.enter (store.origin path) path.parts).map Prod.fst

/-- The store after writing a file, and making the directories that lead to it. A directory is not
overwritten. -/
def write (store : FileStore) (path : Path) (bytes : List UInt8) : Except FileFault FileStore := do
  if hasNull path then throw .nullInPath
  let (store, here) ← store.enter (store.origin path) path.parts.dropLast
  match path.parts.getLast? with
  | none | some ".." => throw .directory
  | some name =>
    if maxNameBytes < name.utf8ByteSize then throw .tooLong
    match store.nodes.get? (here ++ [name]) with
    | some .directory => throw .directory
    | _ => return { store with nodes := store.nodes.insert (here ++ [name]) (.file bytes) }

/-- The store after deleting a file. -/
def delete (store : FileStore) (path : Path) : Except FileFault FileStore :=
  if hasNull path then .error .nullInPath
  else
    match store.locate path with
    | .ok (place, .file _) => .ok { store with nodes := store.nodes.erase place }
    | .ok (_, .directory) => .error .directory
    | .error fault => .error fault

/-! ## Reading -/

/-- The bytes of a file. -/
def readBytes (store : FileStore) (path : Path) : Except FileFault (List UInt8) :=
  match store.find path with
  | .ok (.file bytes) => .ok bytes
  | .ok .directory => .error .directory
  | .error fault => .error fault

/-- The text of a file in an encoding, its line ends unified. -/
def readTextIn (store : FileStore) (encoding : Encoding) (path : Path) :
    Except FileFault String := do
  (encoding.readText (← store.readBytes path)).mapError .ofDecode

variable [Encodings]

/-- The encoding configured by a value; null stands for UTF-8. -/
def encodingOf : Datum → Except FileFault Encoding
  | .null => .ok .utf8
  | .text name =>
    if name.toList.contains (Char.ofNat 0) then .error .nullInEncoding
    else
      match Encoding.ofName? name with
      | some encoding => .ok encoding
      | none => .error (.unknownEncoding name)
  | given => .error (.badEncoding given)

/-- The text of a file in the configured encoding. A value that cannot name an encoding is refused
before the file is looked at, a name that no encoding bears after it. -/
def readText (store : FileStore) (path : Path) (encoding : Datum) : Except FileFault String :=
  match encodingOf encoding with
  | .ok encoding => store.readTextIn encoding path
  | .error (.unknownEncoding name) => do
    let _ ← store.readBytes path
    .error (.unknownEncoding name)
  | .error fault => .error fault

end FileStore

end RuleConsult
