import RuleConsult.Program.Usual
import RuleConsult.Proofs.Cache.Calls
import RuleConsult.Proofs.Keywords
import RuleConsult.Proofs.Shell.Aside

/-!
# Loads that fail

A load that fails is reported, and the shell goes on with the base, the consultation and the facts
that it had. But the file is the named one from then on: the base that is shown is under the name of
a file that it was not loaded from, and it is the new file that is validated and loaded once more.

* `Shell.load_failed`: the shell after a load that was reported as failed, and that no later command
  tells it from the shell before, unless it has to do with the named file;
* `Shell.reload_failed`: loading the named file once more leaves all as it was.
-/

namespace RuleConsult

open Text

/-! ## The named file -/

/-- The shell with another cache and another file named. -/
def Shell.withFile (shell : Shell) (cache : Cache) (path : Option Path) : Shell :=
  { shell with cache, path }

/-- The reply with another cache and another file named. -/
def Reply.withFile (reply : Reply) (cache : Cache) (path : Option Path) : Reply :=
  { reply with shell := reply.shell.withFile cache path }

namespace Shell

section

variable [Encodings] {shell : Shell} {cache : Cache} {path : Option Path}

/-- A command that has nothing to do with the named file does the same whatever it is. -/
theorem run_withFile (store : FileStore) (argument : String) {name : CommandName}
    (h : name.usesFile = false) : (shell.withFile cache path).run store argument name =
      (shell.run store argument name).withFile cache path := by
  have hagrees : Agrees shell (shell.withFile cache path) := ⟨rfl, rfl, rfl, rfl⟩
  rw [run_of_agrees hagrees store argument h, run_eq_onto shell store argument h]
  rfl

theorem execute_withFile (store : FileStore) {line : String}
    (h : (CommandLine.read line).usesFile = false) :
    (shell.withFile cache path).execute store line =
      (shell.execute store line).withFile cache path := by
  unfold execute
  cases hline : CommandLine.read line with
  | blank | unknown typed => rfl
  | command name argument =>
    rw [hline] at h
    exact run_withFile store argument h

/-! ## Lines -/

/-- The replies to lines, to each with the files as they are then. -/
def replies (shell : Shell) : List (FileStore × String) → List Reply
  | [] => []
  | (store, line) :: rest =>
    let reply := shell.execute store line
    reply :: reply.shell.replies rest

/-- Lines that have nothing to do with the named file are replied to alike whatever it is. -/
theorem replies_withFile {lines : List (FileStore × String)}
    (h : ∀ line ∈ lines, (CommandLine.read line.2).usesFile = false) :
    (shell.withFile cache path).replies lines =
      (shell.replies lines).map fun reply => reply.withFile cache path := by
  induction lines generalizing shell with
  | nil => rfl
  | cons first rest ih =>
    have hfirst := h first List.mem_cons_self
    have hrest := fun line hline => h line (List.mem_cons_of_mem _ hline)
    simp only [replies, List.map_cons, execute_withFile first.1 hfirst]
    exact congrArg _ (ih hrest)

/-! ## Failed loads -/

/-- The words in which a load is reported to have failed; none if the fault ends the command. -/
def failureText? (path : Path) : CacheFault → Option String
  | .fetch (.notFound _) | .fetch (.file .missing) =>
    some s!"[X] Arquivo não encontrado: {path.toText}"
  | .fetch (.file (.undecodable reason _)) =>
    some s!"[X] Codificação inválida em {path.name}: {reason.message}"
  | .fetch (.load (.numeral _)) => none
  | .fetch (.load fault) => some s!"[X] Erro ao carregar: {fault.message}"
  | _ => none

/-- A fault that is reported is that of a file from which no base is loaded, so the cache loses its
entry if there is one. -/
theorem getOrLoad_of_failureText? {cache : Cache} {store : FileStore} {file : Path}
    {fault : CacheFault} {text : String} (hfault : (cache.getOrLoad store file).2 = .error fault)
    (htext : failureText? file fault = some text) :
    cache.getOrLoad store file = (cache.drop (store.absolute file), .error fault) := by
  have hrequest := Cache.request_getOrLoad cache store file
  generalize cache.getOrLoad store file = result at hrequest hfault
  cases hrequest with
  | current | loaded => cases hfault
  | unfetched =>
    cases hfault
    rfl
  | unreadable found unread =>
    -- A fault of taking a fingerprint is none of those that are reported.
    cases hfault
    rcases Cache.fingerprint_eq_error unread with ⟨-, rfl⟩ | ⟨-, rfl⟩ <;> cases htext
  | crowded misses fetched full =>
    cases hfault
    cases (Cache.makeRoom_eq_error full).2
    cases htext

/-- A load that fails changes the cache and the named file at most. -/
theorem load_of_failureText? {store : FileStore} {file : Path} {fault : CacheFault} {text : String}
    (hfault : (shell.cache.getOrLoad store file).2 = .error fault)
    (htext : failureText? file fault = some text) :
    shell.load store file =
      (shell.withFile (shell.cache.drop (store.absolute file)) (some file)).say [text] := by
  unfold load
  rw [getOrLoad_of_failureText? hfault htext]
  cases fault with
  | badLimit => exact nomatch htext
  | fetch fault =>
    cases fault with
    | notFound =>
      cases htext
      rfl
    | file fault => cases fault <;> cases htext <;> rfl
    | load fault => cases fault <;> cases htext <;> rfl

/-- Loading the named file once more, when that fails, leaves the shell as it was but for what the
cache had for that file. -/
theorem reload_failed {store : FileStore} {file : Path} {fault : FetchFault} {text : String}
    (hpath : shell.path = some file)
    (hfetch : fetchBase shell.cache.keywords shell.cache.encoding store file = .error fault)
    (htext : failureText? file (.fetch fault) = some text) :
    shell.reload store =
      { shell with cache := shell.cache.drop (store.absolute file) }.say [text] := by
  -- The entry of the file is dropped first, so the file is read.
  have hmisses : (shell.cache.drop (store.absolute file)).Misses store file :=
    fun entry hentry => by
      rw [Cache.get?_drop, if_pos rfl] at hentry
      cases hentry
  have hreload : shell.reload store =
      { shell with cache := shell.cache.drop (store.absolute file) }.load store file := by
    unfold reload
    rw [hpath]
    dsimp only
    rw [Cache.invalidate_fst]
  have hfault : ((shell.cache.drop (store.absolute file)).getOrLoad store file).2 =
      .error (.fetch fault) := by
    rw [Cache.getOrLoad_of_fetchBase_eq_error hmisses hfetch]
  rw [hreload, load_of_failureText? hfault htext]
  simp only [withFile, Cache.drop_drop, hpath]

/-- After a load that was reported as failed, the shell has another file named, and its cache lost
what it had for that file; all else is as before. So whatever lines follow that have nothing to do
with the named file, they are replied to as if there had been no load. -/
theorem load_failed {shell : Shell} {store : FileStore} {file : Path} {fault : CacheFault}
    {text : String} (hfault : (shell.cache.getOrLoad store file).2 = .error fault)
    (htext : failureText? file fault = some text) :
    let reply := shell.load store file
    reply.output = text ++ "\n" ∧ reply.result = .ok false ∧
      reply.shell =
        { shell with cache := shell.cache.drop (store.absolute file), path := some file } ∧
      ∀ lines : List (FileStore × String),
        (∀ line ∈ lines, (CommandLine.read line.2).usesFile = false) →
          reply.shell.replies lines = (shell.replies lines).map fun later =>
            later.withFile (shell.cache.drop (store.absolute file)) (some file) := by
  intro reply
  have hreply : reply =
      (shell.withFile (shell.cache.drop (store.absolute file)) (some file)).say [text] :=
    load_of_failureText? hfault htext
  rw [hreply]
  have houtput : printed [text] = text ++ "\n" := by simp [printed]
  exact ⟨houtput, rfl, rfl, fun lines hlines => replies_withFile hlines⟩

end

open Usual in
/-- A base is loaded, a fact is set and a consultation started, which asks a question. Then a file
is named that is not there. -/
theorem load_failed_missing :
    let store := FileStore.oneFile "1 if a-b then c-d\n7 a Q?\n"
    let file : Path := ⟨"", ["b"]⟩
    let loaded := ((new none numberedKeywords).load store ⟨"", ["a"]⟩).shell
    let informed := (loaded.execute store "fact e f").shell
    let shell := (informed.execute store "start").shell
    let lines :=
      [(store, "answer b"), (.empty, "explain"), (.empty, "fact g h"), (.empty, "start c")]
    let reply := shell.load store file
    (shell.cache.entries.keys = [⟨"/", ["a"]⟩] ∧ shell.loaded.isSome = true ∧
        shell.facts.entries = [("e", "f")] ∧
        shell.session.bind Session.outcome = some (.needsInput "a" "Q?" ["b"])) ∧
      (shell.cache.getOrLoad store file).2 = .error (.fetch (.notFound file)) ∧
      failureText? file (.fetch (.notFound file)) = some "[X] Arquivo não encontrado: b" ∧
      reply.output = "[X] Arquivo não encontrado: b\n" ∧
      reply.shell =
        { shell with cache := shell.cache.drop (store.absolute file), path := some file } ∧
      reply.shell.replies lines = (shell.replies lines).map fun later =>
        later.withFile (shell.cache.drop (store.absolute file)) (some file) := by
  intro store file loaded informed shell lines reply
  have hshell : shell.cache.entries.keys = [⟨"/", ["a"]⟩] ∧ shell.loaded.isSome = true ∧
      shell.facts.entries = [("e", "f")] ∧
      shell.session.bind Session.outcome = some (.needsInput "a" "Q?" ["b"]) := by
    decide +kernel +revert
  -- The cache has another file only.
  have hmisses : shell.cache.Misses store file := fun entry hentry => by
    rw [Table.get?_eq_none_iff.2 (hshell.1 ▸ by decide)] at hentry
    cases hentry
  have hfault : (shell.cache.getOrLoad store file).2 = .error (.fetch (.notFound file)) := by
    rw [Cache.getOrLoad_of_fetchBase_eq_error hmisses rfl]
  have htext : failureText? file (.fetch (.notFound file)) =
      some "[X] Arquivo não encontrado: b" := rfl
  obtain ⟨houtput, -, hreply, hlater⟩ := load_failed hfault htext
  exact ⟨hshell, hfault, htext, houtput, hreply, hlater lines (by decide +kernel)⟩

open Usual in
/-- A shell to which no file was named before has one named after the load has failed. -/
theorem load_failed_named :
    let shell := new none .standard
    let reply := shell.load .empty ⟨"", ["b"]⟩
    reply.output = "[X] Arquivo não encontrado: b\n" ∧ reply.shell.path ≠ shell.path := by
  intro shell reply
  exact ⟨rfl, by decide⟩

end Shell

end RuleConsult
