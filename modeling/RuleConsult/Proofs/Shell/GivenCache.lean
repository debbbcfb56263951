import RuleConsult.Proofs.Shell.Unreported

/-!
# Loading through a given cache

A shell that is given a cache is meant to load bases through it, so that whoever gave it finds there
what the shell uses. If there is something in the cache, this is so: however the files change and
whatever is typed, right after a base was loaded the cache has an entry of the file as it is, and
the base in use is that of the entry. An empty cache is taken for none at all. The shell then loads
through a cache of its own, and in the given one nothing is ever found.

* `Shell.Names`: lines that have a file loaded;
* `Reply.ReportsLoad`: replies that tell of a base that was loaded;
* `Reply.LoadedThrough`: a given cache has what is in use;
* `Shell.loads_through_given`: it has, if it was not empty;
* `Shell.givenCache_afterLines_of_size_eq_zero`: an empty one stays as it is.
-/

namespace RuleConsult

open Text

/-! ## Loads -/

namespace Shell

/-- A line that has the file at a path loaded. -/
inductive Names (shell : Shell) : CommandLine → Path → Prop
  | load {argument : String} (given : argument.isEmpty = false) :
      Names shell (.command .load argument) (Path.ofText argument)
  | reload {argument : String} {path : Path} (named : shell.path = some path) :
      Names shell (.command .reload argument) path

/-- The cache through which a line loads: at a `reload` the entry of the file is dropped first. -/
def cacheFor (shell : Shell) (store : FileStore) : CommandLine → Path → Cache
  | .command .reload _, path => shell.cache.drop (store.absolute path)
  | _, _ => shell.cache

/-- What is printed when a base was loaded. -/
def loadReport (path : Path) (base : Base) : List String :=
  let summary := base.summary
  [s!"[OK] Carregado: {path.name}",
    s!"   Regras: {summary.rules} | Perguntas: {summary.questions}"]

section

variable {path : Path} {given : Cache}

/-- The words for a failure begin with a cross. -/
theorem exists_of_failureText? {fault : CacheFault} {text : String}
    (h : failureText? path fault = some text) : ∃ rest, text.toList = '[' :: 'X' :: rest := by
  unfold failureText? at h
  split at h <;> cases h
  all_goals
    simp only [String.toList_append]
    exact ⟨_, rfl⟩

/-- The report of a load begins with a mark. -/
theorem toList_loadReport (path : Path) (base : Base) :
    ∃ rest, (printed (loadReport path base)).toList = '[' :: 'O' :: rest := by
  simp only [printed, loadReport, List.map_cons, String.join_cons, String.toList_append]
  exact ⟨_, rfl⟩

/-- A cache that is not empty is taken over. -/
theorem usable?_of_size_ne_zero (h : given.size ≠ 0) : usable? (some given) = some given := by
  simp [usable?, h]

/-- An empty cache is taken for none. -/
theorem usable?_of_size_eq_zero (h : given.size = 0) : usable? (some given) = none := by
  simp [usable?, h]

/-- A cache that holds an entry is used as it is given. -/
theorem new_of_size_ne_zero (h : given.size ≠ 0) (keywords : Keywords) :
    (new (some given) keywords).cache = given ∧ (new (some given) keywords).ownCache = false := by
  simp [new, usable?_of_size_ne_zero h]

end

end Shell

/-- The reply tells that a base was loaded from the path. -/
def Reply.ReportsLoad (reply : Reply) (path : Path) : Prop :=
  ∃ base, reply.output = Shell.printed (Shell.loadReport path base)

section

variable [Encodings]

/-- The base in use after a load is that of an entry of the given cache. Meanwhile there were such
files as are listed. -/
structure Reply.LoadedThrough (reply : Reply) (given : Cache) (stores : List FileStore)
    (now : FileStore) (path : Path) (entry : CacheEntry) : Prop where
  held : (reply.shell.givenCache given).entries.get? (now.absolute path) = some entry
  used : reply.shell.loaded = some entry.edition
  /-- The file is what it was when the entry was stored. -/
  current : Cache.fingerprint now path = .ok entry.fingerprint
  /-- If the cache had been filled from files, the base is what is read from the file now. -/
  read : ∀ language encoding contents, given.IsFilledFrom language encoding contents →
    (∀ store ∈ stores, store.contents ⊆ contents) → Digest.TellsApart contents →
      fetchBase language encoding now path = .ok entry.edition.base

namespace Shell

variable {shell : Shell} {store now : FileStore} {path : Path}

/-- A line that names a file loads it through the cache of that line. -/
theorem execute_of_names {line : String} (h : shell.Names (CommandLine.read line) path) :
    shell.execute store line = { shell with
      cache := shell.cacheFor store (CommandLine.read line) path }.load store path := by
  unfold execute
  generalize CommandLine.read line = command at h
  cases h with
  | load given =>
    dsimp only
    rw [run_load, given]
    rfl
  | reload named =>
    change shell.reload store = _
    rw [reload, named]
    dsimp only
    rw [Cache.invalidate_fst]
    rfl

/-- A load is reported exactly if the cache has an edition to give. -/
theorem reportsLoad_load_iff : (shell.load store path).ReportsLoad path ↔
    ∃ edition, (shell.cache.getOrLoad store path).2 = .ok edition := by
  constructor
  · rintro ⟨base, houtput⟩
    -- No other reply begins as the report does.
    obtain ⟨told, htold⟩ := toList_loadReport path base
    rw [← houtput] at htold
    cases hfound : (shell.cache.getOrLoad store path).2 with
    | ok edition => exact ⟨edition, rfl⟩
    | error fault =>
      cases htext : failureText? path fault with
      | none =>
        rw [load_of_untold hfound htext] at htold
        cases htold
      | some text =>
        obtain ⟨rest, hrest⟩ := exists_of_failureText? htext
        rw [load_of_failureText? hfound htext, output_say, String.toList_append, hrest] at htold
        simp at htold
  · rintro ⟨edition, hok⟩
    rw [load_of_ok hok]
    exact ⟨edition.base, rfl⟩

end Shell

/-- The edition that a request gives is that of the path's entry from then on. -/
theorem Cache.entry_of_getOrLoad {cache : Cache} {store : FileStore} {path : Path}
    {edition : Edition} (hok : (cache.getOrLoad store path).2 = .ok edition) :
    ∃ entry, (cache.getOrLoad store path).1.entries.get? (store.absolute path) = some entry ∧
      entry.edition = edition ∧ fingerprint store path = .ok entry.fingerprint := by
  have hrequest := request_getOrLoad cache store path
  generalize cache.getOrLoad store path = result at hrequest hok
  have hkept (cache : Cache) (entry : CacheEntry) :
      (cache.keep (store.absolute path) entry).entries.get? (store.absolute path) =
        some entry := by
    rw [get?_keep, if_pos rfl]
  cases hrequest with
  | unreadable | unfetched | crowded => cases hok
  | @current entry found now =>
    cases hok
    exact ⟨entry.used, hkept cache entry.used, rfl, now⟩
  | @loaded base bytes room misses read meaning free =>
    cases hok
    let entry : CacheEntry := ⟨⟨cache.editions, base⟩, Digest.fingerprint bytes, 0⟩
    exact ⟨entry, hkept room entry, rfl, fingerprint_of_readBytes read⟩

namespace Shell

variable {shell : Shell} {store now : FileStore} {path : Path} {given : Cache}
  {stores : List FileStore}

/-- A shell that loads through the given cache finds the base there. -/
theorem loadedThrough_load (hown : shell.ownCache = false) (hnow : now ∈ stores)
    (hfilled : ∀ language encoding contents, given.IsFilledFrom language encoding contents →
      (∀ store ∈ stores, store.contents ⊆ contents) → Digest.TellsApart contents →
        shell.cache.IsFilledFrom language encoding contents)
    (hreports : (shell.load now path).ReportsLoad path) :
    ∃ entry, (shell.load now path).LoadedThrough given stores now path entry := by
  obtain ⟨edition, hok⟩ := reportsLoad_load_iff.1 hreports
  obtain ⟨entry, hentry, rfl, hcurrent⟩ := Cache.entry_of_getOrLoad hok
  refine ⟨entry, ?_⟩
  rw [load_of_ok hok]
  refine ⟨?_, rfl, hcurrent, fun language encoding contents hgiven hstores hapart => ?_⟩
  · rw [givenCache, if_neg (by simp [say, hown])]
    exact hentry
  · have hlater := (hfilled language encoding contents hgiven hstores hapart).getOrLoad
      (hstores now hnow) path
    exact hlater.fetchBase_of_current (hstores now hnow) hapart hentry hcurrent

theorem isFilledFrom_cacheFor {language : Keywords} {encoding : Datum}
    {contents : List (List UInt8)} (h : shell.cache.IsFilledFrom language encoding contents)
    (store : FileStore) (line : CommandLine) (path : Path) :
    (shell.cacheFor store line path).IsFilledFrom language encoding contents := by
  unfold Shell.cacheFor
  split
  · exact h.drop _
  · exact h

theorem start_of_nonEmpty? {file : Option String} {text : String}
    (h : Base.nonEmpty? file = some text) (given : Option Cache) (keywords : Keywords)
    (store : FileStore) :
    start given keywords store file = (new given keywords).load store (Path.ofText text) := by
  rw [start, h]

/-- No line gives the shell a cache of its own or takes it away. -/
theorem ownCache_afterLines (shell : Shell) (lines : List (FileStore × String)) :
    (shell.afterLines lines).ownCache = shell.ownCache :=
  afterLines_preserves (motive := fun next => next.ownCache = shell.ownCache)
    (fun _ _ hbefore hstep => hstep.ownCache_eq.trans hbefore) rfl lines

theorem ownCache_start (given : Option Cache) (keywords : Keywords) (store : FileStore)
    (file : Option String) :
    (start given keywords store file).shell.ownCache = (usable? given).isNone :=
  (step_start given keywords store file).ownCache_eq

/-- In an empty cache that is given to a shell, nothing is ever found that was not there. -/
theorem givenCache_afterLines_of_size_eq_zero (h : given.size = 0) (keywords : Keywords)
    (store : FileStore) (file : Option String) (lines : List (FileStore × String)) :
    ((start (some given) keywords store file).shell.afterLines lines).givenCache given = given := by
  rw [givenCache, ownCache_afterLines, ownCache_start, usable?_of_size_eq_zero h]
  rfl

/-- If the given cache was filled from files, so is that of a shell which began with it. -/
theorem isFilledFrom_start {language : Keywords} {encoding : Datum} {contents : List (List UInt8)}
    (h : given.size ≠ 0) (hgiven : given.IsFilledFrom language encoding contents)
    (keywords : Keywords) (hstore : store.contents ⊆ contents) (file : Option String) :
    (start (some given) keywords store file).shell.cache.IsFilledFrom language encoding
      contents := by
  obtain ⟨hcache, -⟩ := new_of_size_ne_zero h keywords
  rw [start]
  split
  · rw [cache_load, hcache]
    exact hgiven.getOrLoad hstore _
  · rw [← hcache] at hgiven
    exact hgiven

/-- Take a cache with anything in it, give it to a shell, and run any lines, with whatever files
there are at each of them. Whenever a load is reported, be it the first one or that of a line, the
given cache has an entry for the path with the fingerprint of the file at that moment, and the base
in use is that of this entry. -/
theorem loads_through_given {given : Cache} (hgiven : given.size ≠ 0) (keywords : Keywords)
    (store : FileStore) (file : Option String) :
    let begun := start (some given) keywords store file
    (∀ text, Base.nonEmpty? file = some text → begun.ReportsLoad (Path.ofText text) →
      ∃ entry, begun.LoadedThrough given [store] store (Path.ofText text) entry) ∧
    ∀ (past : List (FileStore × String)) (now : FileStore) (line : String) (path : Path),
      let shell := begun.shell.afterLines past
      let reply := shell.execute now line
      shell.Names (CommandLine.read line) path → reply.ReportsLoad path →
        ∃ entry, reply.LoadedThrough given (store :: (past.map Prod.fst ++ [now])) now path
          entry := by
  intro begun
  constructor
  · intro text htext hreports
    obtain ⟨hcache, hown⟩ := new_of_size_ne_zero hgiven keywords
    have hbegun : begun = (new (some given) keywords).load store (Path.ofText text) :=
      start_of_nonEmpty? htext _ keywords store
    rw [hbegun] at hreports ⊢
    refine loadedThrough_load hown List.mem_cons_self (fun _ _ _ hfilled _ _ => ?_) hreports
    rwa [hcache]
  · intro past now line path shell reply hnames hreports
    have hown : shell.ownCache = false := by
      rw [ownCache_afterLines, ownCache_start, usable?_of_size_ne_zero hgiven]
      rfl
    have hreply : reply =
        { shell with cache := shell.cacheFor now (CommandLine.read line) path }.load now path :=
      execute_of_names hnames
    rw [hreply] at hreports ⊢
    refine loadedThrough_load hown (by simp)
      (fun language encoding contents hfilled hstores hapart => ?_) hreports
    -- Neither the lines before nor dropping the entry put anything else into the cache.
    have hstart := isFilledFrom_start hgiven hfilled keywords (hstores store (by simp)) file
    have hshell : shell.cache.IsFilledFrom language encoding contents :=
      isFilledFrom_afterLines hstart hapart fun line hline =>
        hstores line.1 (by simp [List.mem_map_of_mem hline])
    dsimp only
    exact isFilledFrom_cacheFor hshell now (CommandLine.read line) path

end Shell

end

namespace Shell

open Usual in
/-- A shell begins with the file of a cache, which then is written anew and loaded once more. -/
theorem loads_through_given_rewritten :
    let old := FileStore.oneFile "1 if a-b then c-d"
    let now := FileStore.oneFile "2 if a-x then c-d"
    let path : Path := ⟨"", ["a"]⟩
    let files : CachedFiles := ⟨old, .new (some 1) numberedKeywords (.text "utf-8")⟩
    let given := (files.after [.getOrLoad path]).cache
    let begun := start (some given) numberedKeywords old (some "a")
    let reply := begun.shell.execute now "reload"
    given.size ≠ 0 ∧ begun.ReportsLoad path ∧ reply.ReportsLoad path ∧
      (∃ entry, begun.LoadedThrough given [old] old path entry) ∧
      ∃ entry, reply.LoadedThrough given [old, now] now path entry := by
  intro old now path files given begun reply
  have hsize : given.size ≠ 0 := by decide +kernel +revert
  have hfirst : (given.getOrLoad old path).2.toOption.isSome = true := by
    decide +kernel +revert
  have hsecond : (((given.getOrLoad old path).1.drop (now.absolute path)).getOrLoad now
      path).2.toOption.isSome = true := by
    decide +kernel +revert
  have hpath : Path.ofText "a" = path := by cbv
  have hline : CommandLine.read "reload" = .command .reload "" := by decide +kernel
  have hnonEmpty : Base.nonEmpty? (some "a") = some "a" := rfl
  obtain ⟨hcache, -⟩ := new_of_size_ne_zero hsize numberedKeywords
  have hbegun : begun = (new (some given) numberedKeywords).load old path :=
    hpath ▸ start_of_nonEmpty? hnonEmpty _ _ _
  have hnamed : begun.shell.path = some path := by
    rw [hbegun]
    rcases shell_load_cases (new (some given) numberedKeywords) old path with
      ⟨cache, edition, hload⟩ | ⟨cache, hload⟩ <;> rw [hload]
  have hbegunCache : begun.shell.cache = (given.getOrLoad old path).1 := by
    rw [hbegun, cache_load, hcache]
  -- The shell begins by finding in the given cache what was loaded into it before.
  have hbegunReports : begun.ReportsLoad path := by
    rw [hbegun, reportsLoad_load_iff, hcache]
    exact exists_ok_of_isSome hfirst
  have hnames : begun.shell.Names (CommandLine.read "reload") path := hline ▸ .reload hnamed
  have hreplyReports : reply.ReportsLoad path := by
    -- Reloading drops the entry first, and the file has another text by now.
    have hdropped : begun.shell.cacheFor now (CommandLine.read "reload") path =
        (given.getOrLoad old path).1.drop (now.absolute path) := by
      rw [hline, cacheFor, hbegunCache]
    have hreply : reply = { begun.shell with
        cache := begun.shell.cacheFor now (CommandLine.read "reload") path }.load now path :=
      execute_of_names hnames
    rw [hreply, reportsLoad_load_iff, hdropped]
    exact exists_ok_of_isSome hsecond
  obtain ⟨hbegin, hlines⟩ := loads_through_given hsize numberedKeywords old (some "a")
  exact ⟨hsize, hbegunReports, hreplyReports, hpath ▸ hbegin "a" hnonEmpty (hpath ▸ hbegunReports),
    hlines [] now "reload" path hnames hreplyReports⟩

open Usual in
/-- A shell is given an empty cache. It loads a base and says so, and the cache does not have it. -/
theorem load_passes_empty_cache :
    let store := FileStore.oneFile "1 if a-b then c-d"
    let path : Path := ⟨"", ["a"]⟩
    let given : Cache := .new (some 1) numberedKeywords (.text "utf-8")
    let begun := start (some given) numberedKeywords store none
    let reply := begun.shell.execute store "load a"
    begun.shell.Names (CommandLine.read "load a") path ∧ reply.ReportsLoad path ∧
      ∀ entry, ¬ reply.LoadedThrough given [store, store] store path entry := by
  intro store path given begun reply
  have hloaded : (begun.shell.cache.getOrLoad store path).2.toOption.isSome = true := by
    decide +kernel +revert
  have hpath : Path.ofText "a" = path := by cbv
  have hline : CommandLine.read "load a" = .command .load "a" := by decide +kernel
  have hnames : begun.shell.Names (CommandLine.read "load a") path := by
    rw [hline, ← hpath]
    exact .load rfl
  have hreports : reply.ReportsLoad path := by
    have hreply : reply = { begun.shell with
        cache := begun.shell.cacheFor store (CommandLine.read "load a") path }.load store path :=
      execute_of_names hnames
    rw [hreply, hline, reportsLoad_load_iff]
    exact exists_ok_of_isSome hloaded
  refine ⟨hnames, hreports, fun entry hthrough => ?_⟩
  have hgiven : reply.shell.givenCache given = given :=
    givenCache_afterLines_of_size_eq_zero rfl numberedKeywords store none [(store, "load a")]
  have hheld := hthrough.held
  rw [hgiven] at hheld
  cases hheld

end Shell

end RuleConsult
