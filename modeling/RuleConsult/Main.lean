import RuleConsult.Program
import RuleConsult.Program.Usual

/-!
# The command line program

The outer layer: it reads the files below the working directory and those that are named elsewhere,
the environment and the typed lines, and writes what the program says.
-/

namespace RuleConsult.Terminal

open Usual

/-- The store after a change, if it can be made. -/
def kept (store : FileStore) (changed : Except FileFault FileStore) : FileStore :=
  changed.toOption.getD store

/-- The store with the entries of a directory, which is reached by the given names. Hidden entries
and files that cannot be read are left out. -/
partial def collect (here : List String) (store : FileStore) (entries : List IO.FS.DirEntry) :
    IO FileStore :=
  entries.foldlM (fun store entry => do
    if entry.fileName.startsWith "." then return store
    let parts := here ++ [entry.fileName]
    if ← entry.path.isDir then
      let store := kept store (store.makeDirectory ⟨"", parts⟩)
      collect parts store (← entry.path.readDir).toList
    else
      try
        let bytes ← IO.FS.readBinFile entry.path
        return kept store (store.write ⟨"", parts⟩ bytes.toList)
      catch _ => return store) store

/-- The store with what there is at a path, as it is written. -/
def lookAt (store : FileStore) (written : String) : IO FileStore := do
  let path := Path.ofText written
  let target := (← IO.currentDir) / written
  try
    if ← target.isDir then return kept store (store.makeDirectory path)
    let bytes ← IO.FS.readBinFile target
    return kept store (store.write path bytes.toList)
  catch _ => return store

/-- The files below the working directory as they are now, and what there is at some paths. -/
def readStore (named : List String) : IO FileStore := do
  let here ← IO.currentDir
  let store ← collect [] (.ofHome (Path.ofText here.toString).parts) (← here.readDir).toList
  named.foldlM lookAt store

/-- Writes items. -/
def write (items : List OutputItem) : IO Unit := do
  IO.print (String.join (items.map OutputItem.toText))
  (← IO.getStdout).flush

/-- Writes a text. -/
def writeText (text : String) : IO Unit := write [.text text]

/-- Conducts a consultation with typed lines. -/
partial def ask (asking : Asking) (time : String) : IO Ending := do
  match asking.question? with
  | none => return asking.finish time []
  | some text =>
    writeText text
    let line ← (← IO.getStdin).getLine
    if line.isEmpty then return asking.giveUp []
    match asking.take line with
    | none => return asking.giveUp []
    | some (reply, asking) =>
      writeText reply
      ask asking time

/-- Runs the shell with typed lines until it ends. -/
partial def converse (shell : Shell) : IO (Except ShellFault Unit) := do
  writeText Shell.promptText
  let line ← (← IO.getStdin).getLine
  let line := if line.isEmpty then CommandName.endOfInput.name else Text.dropLineEnd line
  -- Besides the file that is named last, a line may name one.
  let argument := match CommandLine.read line with
    | .command _ argument => [argument]
    | _ => []
  let store ← readStore ((shell.path.map Path.toText).toList ++ argument)
  let reply := shell.execute store line
  writeText reply.output
  match reply.result with
  | .ok false => converse reply.shell
  | .ok true => return .ok ()
  | .error fault => return .error fault

/-- Reports a fault. -/
def report (fault : ProgramFault) : IO UInt32 := do
  (← IO.getStderr).putStrLn fault.message
  return fault.exitCode.toUInt32

/-- Runs the program. -/
def run (arguments : List String) : IO UInt32 := do
  let environment ← IO.getEnv "EXPERTSYS_CONFIG"
  let store ← readStore (arguments ++ environment.toList)
  let time := s!"{← IO.monoMsNow} ms"
  let started := Program.start ⟨arguments, store, environment, time⟩
  write started.output
  match started.process with
  | .finished (.ok code) => return code.toUInt32
  | .finished (.error fault) => report fault
  | .asking asking =>
    let ending ← ask asking time
    write ending.output
    return ending.exitCode.toUInt32
  | .shell shell =>
    writeText (Shell.intro ++ "\n")
    match ← converse shell with
    | .ok () => return 0
    | .error fault => report (.shell fault)

end RuleConsult.Terminal

def main (arguments : List String) : IO UInt32 :=
  RuleConsult.Terminal.run arguments
