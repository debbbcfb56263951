import RuleConsult.Proofs.Cache.Coherence
import RuleConsult.Proofs.Keywords
import RuleConsult.Proofs.Shell.FailedLoad
import RuleConsult.Proofs.Shell.Steps
import Mathlib

/-!
# A load makes a new start

A load that succeeds replaces base and named file and discards consultation and facts. All that is
left of what the shell did before is in its cache, and a cache that is filled from the files does
not show: a base that it hands out is the one that would be read. So from that load on the shell
does whatever a new shell does that begins with the same load.

Two shells are *alike* if they differ at most in their caches. Whatever line is run in the one and
in the other, what is printed is the same, and they stay alike.

* `Shell.Alike`, `Reply.Alike`: shells that differ in their caches only, and replies that tell the
  same;
* `Shell.Alike.execute`: a line has alike replies in alike shells;
* `load_forgets_past`: a shell after a load, and a new one after the same load.
-/

namespace RuleConsult

open Text

/-- What a caller is told: what was printed, and whether the shell ends. -/
def Reply.told (reply : Reply) : String × Except ShellFault Bool :=
  (reply.output, reply.result)

namespace Shell

/-- The contents of the files that there are at some lines. -/
def contentsAt (lines : List (FileStore × String)) : List (List UInt8) :=
  lines.flatMap fun line => line.1.contents

theorem contents_subset_contentsAt {lines : List (FileStore × String)} {line : FileStore × String}
    (h : line ∈ lines) : line.1.contents ⊆ contentsAt lines := fun _ hmem =>
  List.mem_flatMap.2 ⟨line, h, hmem⟩

/-- A new shell that loads through a new cache. -/
def fresh (keywords : Keywords) (limit : Int) (language : Keywords) (encoding : Datum) : Shell :=
  { new none keywords with cache := .new (some limit) language encoding }

/-- A shell that is not given any cache is one of these. -/
theorem fresh_standard (keywords : Keywords) :
    fresh keywords Cache.standardLimit keywords (.text "utf-8") = new none keywords := rfl

end Shell

section

variable [Encodings]

namespace Shell

/-- Shells with caches that were filled from the same contents, and with nothing else that is
different but the numbers of editions. -/
structure Alike (language : Keywords) (encoding : Datum) (contents : List (List UInt8))
    (a b : Shell) : Prop extends Agrees a b where
  path : a.path = b.path
  left : a.cache.IsFilledFrom language encoding contents
  right : b.cache.IsFilledFrom language encoding contents

end Shell

/-- Replies that tell the same, in shells that are alike. -/
structure Reply.Alike (language : Keywords) (encoding : Datum) (contents : List (List UInt8))
    (a b : Reply) : Prop where
  told : a.told = b.told
  shell : a.shell.Alike language encoding contents b.shell

namespace Shell

variable {language : Keywords} {encoding : Datum} {contents : List (List UInt8)} {a b : Shell}
  {store : FileStore}

/-! ## Commands that look at no file -/

/-- What is put onto a shell with consultation and facts. -/
theorem Alike.onto (h : a.Alike language encoding contents b) (reply : Reply) :
    (reply.onto a).Alike language encoding contents (reply.onto b) where
  told := rfl
  shell :=
    { keywords := h.keywords, base := h.base, session := rfl, facts := rfl, path := h.path,
      left := h.left, right := h.right }

/-- A reply that leaves the shell as it is. -/
theorem Alike.unchanged (h : a.Alike language encoding contents b) (output : String)
    (result : Except ShellFault Bool) :
    Reply.Alike language encoding contents ⟨a, output, result⟩ ⟨b, output, result⟩ :=
  ⟨rfl, h⟩

theorem Alike.run_aside (h : a.Alike language encoding contents b) (store : FileStore)
    (argument : String) {name : CommandName} (hname : name.usesFile = false) :
    (a.run store argument name).Alike language encoding contents (b.run store argument name) := by
  rw [run_of_agrees h.toAgrees store argument hname, run_eq_onto a store argument hname]
  exact h.onto _

/-! ## Commands that look at the named file -/

/-- The summary is that of the same base under the same name. -/
theorem Alike.info (h : a.Alike language encoding contents b) :
    a.info.Alike language encoding contents b.info := by
  unfold Shell.info Shell.withBase
  rw [h.path]
  rcases h.loaded_cases with ⟨ha, hb⟩ | ⟨edition, other, ha, hb, heq⟩
  · rw [ha, hb]
    exact h.unchanged _ _
  · simp only [ha, hb, heq]
    exact h.unchanged _ _

theorem Alike.validate (h : a.Alike language encoding contents b) (store : FileStore) :
    (a.validate store).Alike language encoding contents (b.validate store) := by
  unfold Shell.validate
  rw [h.path, h.keywords]
  split
  · exact h.unchanged _ _
  · split <;> exact h.unchanged _ _

/-! ## Loading -/

/-- What a load makes of a shell when it succeeds. -/
theorem load_of_ok {shell : Shell} {file : Path} {edition : Edition}
    (h : (shell.cache.getOrLoad store file).2 = .ok edition) :
    let summary := edition.base.summary
    shell.load store file =
      { shell with
        cache := (shell.cache.getOrLoad store file).1
        path := some file
        loaded := some edition
        session := none
        facts := Table.empty }.say
        [s!"[OK] Carregado: {file.name}",
          s!"   Regras: {summary.rules} | Perguntas: {summary.questions}"] := by
  unfold load
  generalize shell.cache.getOrLoad store file = found at h
  obtain ⟨cache, result⟩ := found
  cases h
  rfl

/-- Both caches give the base that is read now. -/
theorem base_getOrLoad_eq (hleft : a.cache.IsFilledFrom language encoding contents)
    (hright : b.cache.IsFilledFrom language encoding contents)
    (hstore : store.contents ⊆ contents) (hapart : Digest.TellsApart contents) (file : Path) :
    (a.cache.getOrLoad store file).2.map Edition.base =
      (b.cache.getOrLoad store file).2.map Edition.base := by
  rw [hleft.base_getOrLoad hstore hapart, hright.base_getOrLoad hstore hapart]

/-- A load that succeeds makes shells alike if their caches and keywords are, whatever else there is
in them. -/
theorem alike_load_of_ok (hkeywords : a.keywords = b.keywords)
    (hleft : a.cache.IsFilledFrom language encoding contents)
    (hright : b.cache.IsFilledFrom language encoding contents)
    (hstore : store.contents ⊆ contents) (hapart : Digest.TellsApart contents) {file : Path}
    {edition : Edition} (hok : (a.cache.getOrLoad store file).2 = .ok edition) :
    (a.load store file).Alike language encoding contents (b.load store file) := by
  have hbase := base_getOrLoad_eq hleft hright hstore hapart file
  rw [hok] at hbase
  cases hother : (b.cache.getOrLoad store file).2 with
  | error fault =>
    rw [hother] at hbase
    cases hbase
  | ok other =>
    rw [hother] at hbase
    have heq : edition.base = other.base := Except.ok.inj hbase
    rw [load_of_ok hok, load_of_ok hother, heq]
    exact ⟨rfl,
      { keywords := hkeywords, base := congrArg some heq, session := rfl, facts := rfl, path := rfl,
        left := hleft.getOrLoad hstore file, right := hright.getOrLoad hstore file }⟩

/-- Loading has alike replies in alike shells. -/
theorem Alike.load (h : a.Alike language encoding contents b) (hstore : store.contents ⊆ contents)
    (hapart : Digest.TellsApart contents) (file : Path) :
    (a.load store file).Alike language encoding contents (b.load store file) := by
  cases hfound : (a.cache.getOrLoad store file).2 with
  | ok edition => exact alike_load_of_ok h.keywords h.left h.right hstore hapart hfound
  | error fault =>
    have hother := base_getOrLoad_eq h.left h.right hstore hapart file
    rw [hfound] at hother
    -- The shells with the file named, from which nothing was loaded.
    have hnamed : Alike language encoding contents
        { a with cache := (a.cache.getOrLoad store file).1, path := some file }
        { b with cache := (b.cache.getOrLoad store file).1, path := some file } :=
      { keywords := h.keywords, base := h.base, session := h.session, facts := h.facts, path := rfl,
        left := h.left.getOrLoad hstore file, right := h.right.getOrLoad hstore file }
    unfold Shell.load
    generalize a.cache.getOrLoad store file = found at hfound hnamed
    generalize b.cache.getOrLoad store file = found' at hother hnamed
    obtain ⟨cache, result⟩ := found
    obtain ⟨cache', result'⟩ := found'
    cases hfound
    cases result' with
    | ok edition => cases hother
    | error fault' =>
      cases Except.error.inj hother
      cases fault with
      | badLimit => exact hnamed.unchanged _ _
      | fetch fault =>
        cases fault with
        | notFound => exact hnamed.unchanged _ _
        | file fault => cases fault <;> exact hnamed.unchanged _ _
        | load fault => cases fault <;> exact hnamed.unchanged _ _

theorem Alike.reload (h : a.Alike language encoding contents b)
    (hstore : store.contents ⊆ contents) (hapart : Digest.TellsApart contents) :
    (a.reload store).Alike language encoding contents (b.reload store) := by
  unfold Shell.reload
  rw [h.path]
  cases b.path with
  | none => exact h.unchanged _ _
  | some file =>
    dsimp only
    rw [Cache.invalidate_fst, Cache.invalidate_fst]
    have hdropped : Alike language encoding contents
        { a with cache := a.cache.drop (store.absolute file) }
        { b with cache := b.cache.drop (store.absolute file) } :=
      { h with left := h.left.drop _, right := h.right.drop _ }
    exact hdropped.load hstore hapart file

/-! ## Lines -/

/-- A line has alike replies in alike shells. -/
theorem Alike.execute (h : a.Alike language encoding contents b)
    (hstore : store.contents ⊆ contents) (hapart : Digest.TellsApart contents) (line : String) :
    (a.execute store line).Alike language encoding contents (b.execute store line) := by
  unfold Shell.execute
  cases CommandLine.read line with
  | blank | unknown typed => exact h.unchanged _ _
  | command name argument =>
    cases name with
    | load =>
      dsimp only
      rw [run_load, run_load]
      split
      · exact h.unchanged _ _
      · exact h.load hstore hapart _
    | reload => exact h.reload hstore hapart
    | info => exact h.info
    | validate => exact h.validate store
    | rules | questions | fact | facts | start | answer | explain | cancel | dump | help | exit
    | quit | endOfInput => exact h.run_aside store argument rfl

/-- So have lines, with whatever files there are at each of them. -/
theorem Alike.replies (hapart : Digest.TellsApart contents) {lines : List (FileStore × String)}
    (hlines : ∀ line ∈ lines, line.1.contents ⊆ contents)
    (h : a.Alike language encoding contents b) :
    (a.replies lines).map Reply.told = (b.replies lines).map Reply.told := by
  induction lines generalizing a b with
  | nil => rfl
  | cons line lines ih =>
    have hreply := h.execute (hlines line List.mem_cons_self) hapart line.2
    have hrest := ih (fun other hother => hlines other (List.mem_cons_of_mem _ hother)) hreply.shell
    simp only [Shell.replies, List.map_cons, hreply.told, hrest]

/-! ## After any lines -/

/-- The shell after some lines, each run with the files that there are then. -/
def afterLines (shell : Shell) (lines : List (FileStore × String)) : Shell :=
  lines.foldl (fun shell line => (shell.execute line.1 line.2).shell) shell

@[simp]
theorem afterLines_nil (shell : Shell) : shell.afterLines [] = shell := rfl

theorem afterLines_cons (shell : Shell) (line : FileStore × String)
    (lines : List (FileStore × String)) : shell.afterLines (line :: lines) =
      (shell.execute line.1 line.2).shell.afterLines lines :=
  List.foldl_cons ..

/-- Every line leaves a cache that is filled from the files. -/
theorem isFilledFrom_afterLines {shell : Shell}
    (h : shell.cache.IsFilledFrom language encoding contents) (hapart : Digest.TellsApart contents)
    {lines : List (FileStore × String)} (hlines : ∀ line ∈ lines, line.1.contents ⊆ contents) :
    (shell.afterLines lines).cache.IsFilledFrom language encoding contents := by
  induction lines generalizing shell with
  | nil => exact h
  | cons line lines ih =>
    -- A shell is alike to itself, and so is what a line makes of it.
    have hself : shell.Alike language encoding contents shell :=
      { keywords := rfl, base := rfl, session := rfl, facts := rfl, path := rfl, left := h,
        right := h }
    have hnext := hself.execute (hlines line List.mem_cons_self) hapart line.2
    rw [afterLines_cons]
    exact ih hnext.shell.left fun other hother => hlines other (List.mem_cons_of_mem _ hother)

theorem cache_load (shell : Shell) (store : FileStore) (file : Path) :
    (shell.load store file).shell.cache = (shell.cache.getOrLoad store file).1 := by
  unfold load
  dsimp only
  split <;> rfl

/-- What every step preserves is preserved by lines. -/
theorem afterLines_preserves {motive : Shell → Prop}
    (step : ∀ before next, motive before → before.Step next → motive next) {shell : Shell}
    (h : motive shell) (lines : List (FileStore × String)) : motive (shell.afterLines lines) := by
  induction lines generalizing shell with
  | nil => exact h
  | cons line lines ih =>
    rw [afterLines_cons]
    exact ih (step _ _ h (shell.step_execute line.1 line.2))

/-- No line changes the keywords. -/
theorem keywords_afterLines (shell : Shell) (lines : List (FileStore × String)) :
    (shell.afterLines lines).keywords = shell.keywords :=
  afterLines_preserves (motive := fun next => next.keywords = shell.keywords)
    (fun _ _ hbefore hstep => hstep.keywords_eq.trans hbefore) rfl lines

/-! ## Loading anew -/

/-- The line is a command to load a base, and a base is loaded. -/
def Loads (shell : Shell) (store : FileStore) (line : String) : Prop :=
  ∃ argument edition, CommandLine.read line = .command .load argument ∧
    argument.isEmpty = false ∧
      (shell.cache.getOrLoad store (Path.ofText argument)).2 = .ok edition

/-- A load that succeeds makes shells alike that have caches and keywords alike, whatever else there
is in them. -/
theorem execute_of_loads {line : String} (hloads : a.Loads store line)
    (hkeywords : a.keywords = b.keywords)
    (hleft : a.cache.IsFilledFrom language encoding contents)
    (hright : b.cache.IsFilledFrom language encoding contents)
    (hstore : store.contents ⊆ contents) (hapart : Digest.TellsApart contents) :
    (a.execute store line).Alike language encoding contents (b.execute store line) := by
  obtain ⟨argument, edition, hline, hargument, hedition⟩ := hloads
  have hload (shell : Shell) :
      shell.execute store line = shell.load store (Path.ofText argument) := by
    simp only [execute, hline, run_load, hargument]
    rfl
  rw [hload, hload]
  exact alike_load_of_ok hkeywords hleft hright hstore hapart hedition

end Shell

/-- A load makes a new start. Take a shell, whatever its state, with a cache that was made new and
used for some events, and run any lines in it. If a line then loads a base, this line and all that
follow it, with whatever files there are at each of them, print the same and end the shell at the
same line as in a new shell with a new cache. All that is needed is that fingerprints tell the
contents apart that occur. -/
theorem load_forgets_past (store : FileStore) (limit : Int) (language : Keywords)
    (encoding : Datum) (events : List CacheEvent) {shell : Shell}
    (hcache : shell.cache =
      (CachedFiles.after ⟨store, .new (some limit) language encoding⟩ events).cache)
    (past : List (FileStore × String)) {now : FileStore} {line : String}
    (hloads : (shell.afterLines past).Loads now line) (later : List (FileStore × String))
    (hapart : Digest.TellsApart
      (CachedFiles.occurring ⟨store, .new (some limit) language encoding⟩ events ++
        Shell.contentsAt (past ++ (now, line) :: later)))
    (freshLimit : Int) :
    ((shell.afterLines past).replies ((now, line) :: later)).map Reply.told =
      ((Shell.fresh shell.keywords freshLimit language encoding).replies
        ((now, line) :: later)).map Reply.told := by
  generalize hcontents :
    CachedFiles.occurring ⟨store, .new (some limit) language encoding⟩ events ++
      Shell.contentsAt (past ++ (now, line) :: later) = contents at hapart
  have hevents : CachedFiles.occurring ⟨store, .new (some limit) language encoding⟩ events ⊆
      contents := hcontents ▸ List.subset_append_left _ _
  have hlines : ∀ line' ∈ past ++ (now, line) :: later, line'.1.contents ⊆ contents := by
    intro line' hline'
    rw [← hcontents]
    exact List.Subset.trans (Shell.contents_subset_contentsAt hline')
      (List.subset_append_right _ _)
  have hnow := hlines (now, line) (by simp)
  have hlater : ∀ line' ∈ later, line'.1.contents ⊆ contents := fun line' hline' =>
    hlines line' (by simp [hline'])
  -- The cache of the shell is filled from the files, and that of the new one is empty.
  have hfilled : shell.cache.IsFilledFrom language encoding contents := by
    rw [hcache]
    exact CachedFiles.isFilledFrom_after (Cache.isFilledFrom_new _ _ _ _) hevents
  have hleft : (shell.afterLines past).cache.IsFilledFrom language encoding contents :=
    Shell.isFilledFrom_afterLines hfilled hapart fun line' hline' =>
      hlines line' (List.mem_append_left _ hline')
  have hright : (Shell.fresh shell.keywords freshLimit language encoding).cache.IsFilledFrom
      language encoding contents := Cache.isFilledFrom_new _ _ _ _
  have hkeywords : (shell.afterLines past).keywords =
      (Shell.fresh shell.keywords freshLimit language encoding).keywords :=
    shell.keywords_afterLines past
  have hreply := Shell.execute_of_loads hloads hkeywords hleft hright hnow hapart
  simp only [Shell.replies, List.map_cons, hreply.told, hreply.shell.replies hapart hlater]

end

open Usual in
/-- A shell in which a base is loaded and a fact set; then the file is rewritten and loaded again,
and put back and loaded once more. -/
theorem load_forgets_past_rewritten :
    let old := FileStore.oneFile "1 if a-b then c-d"
    let now := FileStore.oneFile "2 if a-x then c-d"
    let events := [CacheEvent.getOrLoad ⟨"", ["a"]⟩]
    let files : CachedFiles := ⟨old, .new (some 1) numberedKeywords (.text "utf-8")⟩
    let cache := (files.after events).cache
    let shell : Shell := { Shell.new none numberedKeywords with cache }
    let past := [(old, "load a"), (old, "fact a b")]
    let lines := [(now, "load a"), (now, "facts"), (old, "reload"), (old, "rules")]
    (shell.afterLines past).Loads now "load a" ∧
      ((shell.afterLines past).replies lines).map Reply.told =
        ((Shell.new none numberedKeywords).replies lines).map Reply.told := by
  intro old now events files cache shell past lines
  have hsome : ((cache.getOrLoad old ⟨"", ["a"]⟩).1.getOrLoad now ⟨"", ["a"]⟩).2.toOption.isSome =
      true := by
    decide +kernel +revert
  have hapart : Digest.TellsApart
      (files.occurring events ++ Shell.contentsAt (past ++ lines)) := by
    decide +kernel +revert
  have hpath : Path.ofText "a" = ⟨"", ["a"]⟩ := by cbv
  have hline : CommandLine.read "load a" = .command .load "a" := by decide +kernel
  have hfact : CommandLine.read "fact a b" = .command .fact "a b" := by decide +kernel
  -- Of the lines before, only the first one uses the cache.
  have hcache : (shell.afterLines past).cache = (cache.getOrLoad old ⟨"", ["a"]⟩).1 := by
    have hfactLine (shell : Shell) : (shell.execute old "fact a b").shell.cache = shell.cache := by
      simp only [Shell.execute, hfact]
      rw [Shell.run_eq_onto shell old "a b" rfl]
      rfl
    have hloadLine : (shell.execute old "load a").shell.cache =
        (cache.getOrLoad old ⟨"", ["a"]⟩).1 := by
      simp only [Shell.execute, hline, Shell.run_load]
      rw [hpath]
      exact shell.cache_load old _
    rw [Shell.afterLines_cons, Shell.afterLines_cons, Shell.afterLines_nil, hfactLine, hloadLine]
  -- The file was rewritten since, so it is loaded anew.
  have hloads : (shell.afterLines past).Loads now "load a" := by
    cases hfound : ((cache.getOrLoad old ⟨"", ["a"]⟩).1.getOrLoad now ⟨"", ["a"]⟩).2 with
    | error fault =>
      rw [hfound] at hsome
      cases hsome
    | ok edition =>
      refine ⟨"a", edition, hline, rfl, ?_⟩
      rw [hpath, hcache, hfound]
  rw [← Shell.fresh_standard]
  exact ⟨hloads, load_forgets_past old 1 numberedKeywords (.text "utf-8") events rfl past hloads _
    hapart Cache.standardLimit⟩

end RuleConsult
