import RuleConsult.Program.Usual
import RuleConsult.Proofs.Cache.Calls
import RuleConsult.Proofs.Keywords

/-!
# A cache gives what the files hold

Files are written and deleted while a cache is in use, and whatever the order of these events, the
cache never shows: a request for the base of a path gives the base that is read from the file at
that moment, or the fault of reading it. All that is needed is that no two contents of files have
the same fingerprint.

What carries the proof is that every entry was stored by loading one of the contents that occurred,
under the fingerprint of that content. An entry that counts as current has the fingerprint of the
content that is there now, so it was loaded from that very content. Dropping entries, for whatever
reason, does no harm.

* `CachedFiles.after`: files and cache after some events;
* `Cache.IsFilledFrom`: the invariant, kept by every event (`isFilledFrom_next`);
* `CachedFiles.isCoherentAt`: what the invariant means for the calls of a cache;
* `cache_coherent`: the same after all events.
-/

namespace RuleConsult

open Text

/-- No two of the contents have the same fingerprint. -/
def Digest.TellsApart (contents : List (List UInt8)) : Prop :=
  ∀ a ∈ contents, ∀ b ∈ contents, Digest.fingerprint a = Digest.fingerprint b → a = b

instance (contents : List (List UInt8)) : Decidable (Digest.TellsApart contents) :=
  inferInstanceAs (Decidable (∀ a ∈ contents, ∀ b ∈ contents, _ → a = b))

section

variable [Encodings]

/-! ## Events -/

/-- What may happen to files and to a cache of the bases in them. -/
inductive CacheEvent where
  | write (path : Path) (bytes : List UInt8)
  | delete (path : Path)
  | get (path : Path)
  | getOrLoad (path : Path)
  | invalidate (path : Path)
  | invalidateAll

/-- Files and a cache of the bases in them. -/
structure CachedFiles where
  store : FileStore
  cache : Cache

namespace CachedFiles

/-- Files that are changed. A change that fails leaves them as they are. -/
def change (files : CachedFiles) (result : Except FileFault FileStore) : CachedFiles :=
  match result with
  | .ok store => { files with store }
  | .error _ => files

/-- Files and cache after one event. -/
def next (files : CachedFiles) : CacheEvent → CachedFiles
  | .write path bytes => files.change (files.store.write path bytes)
  | .delete path => files.change (files.store.delete path)
  | .get path => { files with cache := (files.cache.get files.store path).1 }
  | .getOrLoad path => { files with cache := (files.cache.getOrLoad files.store path).1 }
  | .invalidate path => { files with cache := (files.cache.invalidate files.store path).1 }
  | .invalidateAll => { files with cache := files.cache.invalidateAll.1 }

/-- Files and cache after some events. -/
def after (files : CachedFiles) (events : List CacheEvent) : CachedFiles :=
  events.foldl next files

/-- The contents that the files have at some time during events. -/
def occurring (files : CachedFiles) : List CacheEvent → List (List UInt8)
  | [] => files.store.contents
  | event :: events => files.store.contents ++ (files.next event).occurring events

/-- What a store holds occurs in whatever happens to it. -/
theorem contents_subset_occurring (files : CachedFiles) (events : List CacheEvent) :
    files.store.contents ⊆ files.occurring events := by
  cases events with
  | nil => exact List.Subset.refl _
  | cons event events => exact List.subset_append_left _ _

/-- What a store holds in the end has occurred. -/
theorem contents_after_subset_occurring (files : CachedFiles) (events : List CacheEvent) :
    (files.after events).store.contents ⊆ files.occurring events := by
  induction events generalizing files with
  | nil => exact List.Subset.refl _
  | cons event events ih =>
    exact List.Subset.trans (ih (files.next event)) (List.subset_append_right _ _)

end CachedFiles

/-! ## The invariant -/

/-- An entry that was stored by loading one of the contents. -/
def CacheEntry.IsLoadedFrom (keywords : Keywords) (encoding : Datum)
    (contents : List (List UInt8)) (entry : CacheEntry) : Prop :=
  ∃ bytes ∈ contents, entry.fingerprint = Digest.fingerprint bytes ∧
    ReadAs keywords encoding bytes entry.edition.base

/-- Counting a hit leaves the loaded base alone. -/
theorem CacheEntry.IsLoadedFrom.used {keywords : Keywords} {encoding : Datum}
    {contents : List (List UInt8)} {entry : CacheEntry}
    (h : entry.IsLoadedFrom keywords encoding contents) :
    entry.used.IsLoadedFrom keywords encoding contents := h

namespace Cache

/-- A cache whose entries were stored by loading some of the contents. -/
structure IsFilledFrom (keywords : Keywords) (encoding : Datum) (contents : List (List UInt8))
    (cache : Cache) : Prop where
  keywords_eq : cache.keywords = keywords
  encoding_eq : cache.encoding = encoding
  limit_ne : cache.limit ≠ none
  entries : ∀ path entry, cache.entries.get? path = some entry →
    entry.IsLoadedFrom keywords encoding contents

variable {keywords : Keywords} {encoding : Datum} {contents : List (List UInt8)} {cache : Cache}
  {store : FileStore} {path : Path} {entry : CacheEntry}

/-- A new cache holds nothing that was not loaded. -/
theorem isFilledFrom_new (limit : Int) (keywords : Keywords) (encoding : Datum)
    (contents : List (List UInt8)) :
    (new (some limit) keywords encoding).IsFilledFrom keywords encoding contents where
  keywords_eq := rfl
  encoding_eq := rfl
  limit_ne := Option.some_ne_none _
  entries _ _ h := nomatch h

/-- Keeping a loaded entry keeps the cache filled by loading. -/
theorem IsFilledFrom.keep (h : cache.IsFilledFrom keywords encoding contents)
    (hentry : entry.IsLoadedFrom keywords encoding contents) (path : Path) :
    (cache.keep path entry).IsFilledFrom keywords encoding contents where
  keywords_eq := h.keywords_eq
  encoding_eq := h.encoding_eq
  limit_ne := h.limit_ne
  entries other found hfound := by
    rw [get?_keep] at hfound
    split at hfound
    · cases hfound
      exact hentry
    · exact h.entries other found hfound

/-- Dropping an entry keeps the cache filled by loading. -/
theorem IsFilledFrom.drop (h : cache.IsFilledFrom keywords encoding contents) (path : Path) :
    (cache.drop path).IsFilledFrom keywords encoding contents where
  keywords_eq := h.keywords_eq
  encoding_eq := h.encoding_eq
  limit_ne := h.limit_ne
  entries other found hfound := h.entries other found (get?_of_get?_drop hfound)

theorem IsFilledFrom.counted (h : cache.IsFilledFrom keywords encoding contents) (path : Path) :
    (cache.counted path).IsFilledFrom keywords encoding contents where
  keywords_eq := h.keywords_eq
  encoding_eq := h.encoding_eq
  limit_ne := h.limit_ne
  entries := (h.drop path).entries

/-- Making room only drops entries. -/
theorem IsFilledFrom.makeRoom {room : Cache} (h : cache.IsFilledFrom keywords encoding contents)
    (hroom : cache.makeRoom path = .ok room) :
    room.IsFilledFrom keywords encoding contents := by
  obtain ⟨entries, rfl, hentries⟩ := makeRoom_frame hroom
  exact ⟨h.keywords_eq, h.encoding_eq, h.limit_ne, fun other found hfound =>
    h.entries other found (hentries other found hfound)⟩

/-- Looking a file up counts a hit or drops an entry. -/
theorem IsFilledFrom.get (h : cache.IsFilledFrom keywords encoding contents) (store : FileStore)
    (path : Path) : (cache.get store path).1.IsFilledFrom keywords encoding contents := by
  have hlookup := lookup_get cache store path
  generalize cache.get store path = result at hlookup
  cases hlookup with
  | missed => exact h.drop _
  | unreadable => exact h
  | current found => exact h.keep (h.entries _ _ found).used _

/-- What is loaded comes from the contents of the files. -/
theorem IsFilledFrom.getOrLoad (h : cache.IsFilledFrom keywords encoding contents)
    (hstore : store.contents ⊆ contents) (path : Path) :
    (cache.getOrLoad store path).1.IsFilledFrom keywords encoding contents := by
  have hrequest := request_getOrLoad cache store path
  generalize cache.getOrLoad store path = result at hrequest
  cases hrequest with
  | unreadable => exact h
  | current found => exact h.keep (h.entries _ _ found).used _
  | unfetched => exact h.drop _
  | crowded => exact h.counted _
  | @loaded base bytes _ misses read meaning free =>
    rw [h.keywords_eq, h.encoding_eq] at meaning
    have hentry : CacheEntry.IsLoadedFrom keywords encoding contents
        ⟨⟨cache.editions, base⟩, Digest.fingerprint bytes, 0⟩ :=
      ⟨bytes, hstore (FileStore.mem_contents_of_readBytes read), rfl, meaning⟩
    exact ((h.counted _).makeRoom free).keep hentry _

end Cache

namespace CachedFiles

variable {keywords : Keywords} {encoding : Datum} {contents : List (List UInt8)}
  {files : CachedFiles}

/-- Every event keeps the invariant. -/
theorem isFilledFrom_next (h : files.cache.IsFilledFrom keywords encoding contents)
    (hstore : files.store.contents ⊆ contents) (event : CacheEvent) :
    (files.next event).cache.IsFilledFrom keywords encoding contents := by
  have hchange (result) : (files.change result).cache = files.cache := by
    unfold change
    split <;> rfl
  cases event with
  | write path bytes => exact (hchange _).symm ▸ h
  | delete path => exact (hchange _).symm ▸ h
  | get path => exact h.get files.store path
  | getOrLoad path => exact h.getOrLoad hstore path
  | invalidate path =>
    rw [next, Cache.invalidate_fst]
    exact h.drop _
  | invalidateAll => exact ⟨h.keywords_eq, h.encoding_eq, h.limit_ne, fun _ _ h => nomatch h⟩

/-- The invariant holds after all events, for the contents that occur during them. -/
theorem isFilledFrom_after (h : files.cache.IsFilledFrom keywords encoding contents)
    {events : List CacheEvent} (hoccurring : files.occurring events ⊆ contents) :
    (files.after events).cache.IsFilledFrom keywords encoding contents := by
  induction events generalizing files with
  | nil => exact h
  | cons event events ih =>
    -- What the files hold before the event is among the contents that occur.
    have hstore := List.Subset.trans (files.contents_subset_occurring _) hoccurring
    exact ih (isFilledFrom_next h hstore event)
      (List.Subset.trans (List.subset_append_right _ _) hoccurring)

/-! ## Coherence -/

/-- The calls of a cache at a path agree with the files. -/
structure IsCoherentAt (files : CachedFiles) (keywords : Keywords) (encoding : Datum)
    (path : Path) : Prop where
  /-- A request gives the base that is read now, or the fault of reading it. -/
  request : (files.cache.getOrLoad files.store path).2.map Edition.base =
    (fetchBase keywords encoding files.store path).mapError CacheFault.fetch
  /-- An edition that is handed out is that of the base that is read now. -/
  hit : ∀ edition, (files.cache.get files.store path).2 = .ok (some edition) →
    fetchBase keywords encoding files.store path = .ok edition.base
  /-- A request that fails leaves no entry that is current. -/
  failure : ∀ fault, (files.cache.getOrLoad files.store path).2 = .error fault →
    ∀ entry, (files.cache.getOrLoad files.store path).1.entries.get?
        (files.store.absolute path) = some entry →
      Cache.fingerprint files.store path ≠ .ok entry.fingerprint
  /-- The edition that was requested is handed out from then on. -/
  success : ∀ edition, (files.cache.getOrLoad files.store path).2 = .ok edition →
    ((files.cache.getOrLoad files.store path).1.get files.store path).2 = .ok (some edition)

end CachedFiles

namespace Cache

variable {keywords : Keywords} {encoding : Datum} {contents : List (List UInt8)} {cache : Cache}
  {store : FileStore} {path : Path} {entry : CacheEntry}

/-- A current entry holds the base that is read now: the content that it was loaded from is the one
with its fingerprint. -/
theorem IsFilledFrom.fetchBase_of_current (h : cache.IsFilledFrom keywords encoding contents)
    (hstore : store.contents ⊆ contents) (hapart : Digest.TellsApart contents)
    (hfound : cache.entries.get? (store.absolute path) = some entry)
    (hnow : fingerprint store path = .ok entry.fingerprint) :
    fetchBase keywords encoding store path = .ok entry.edition.base := by
  obtain ⟨bytes, hbytes, hmark, hmeaning⟩ := h.entries _ entry hfound
  rcases fingerprint_eq_ok_iff.1 hnow with ⟨now, hread, heq⟩ | ⟨-, hempty⟩
  · have hsame : bytes = now :=
      hapart bytes hbytes now (hstore (FileStore.mem_contents_of_readBytes hread))
        (hmark.symm.trans heq)
    exact fetchBase_eq_ok_iff.2 ⟨now, hread, hsame ▸ hmeaning⟩
  · -- Where nothing is, the fingerprint is empty, and no entry has that one.
    exact absurd (hmark.symm.trans hempty) (Digest.fingerprint_ne_empty bytes)

/-- Where the fingerprint of an entry's path cannot be taken, reading fails for the same reason. -/
theorem IsFilledFrom.fetchBase_of_unreadable (h : cache.IsFilledFrom keywords encoding contents)
    {fault : FileFault} (hfound : cache.entries.get? (store.absolute path) = some entry)
    (hunread : fingerprint store path = .error fault) :
    fetchBase keywords encoding store path = .error (.file fault) := by
  obtain ⟨bytes, -, -, code, text, hcode, -⟩ := h.entries _ entry hfound
  exact fetchBase_of_fingerprint_eq_error hcode hunread

/-- A request gives the base that is read now, or the fault of reading it. -/
theorem IsFilledFrom.base_getOrLoad (h : cache.IsFilledFrom keywords encoding contents)
    (hstore : store.contents ⊆ contents) (hapart : Digest.TellsApart contents) (path : Path) :
    (cache.getOrLoad store path).2.map Edition.base =
      (fetchBase keywords encoding store path).mapError CacheFault.fetch := by
  by_cases hmisses : cache.Misses store path
  · rw [base_getOrLoad_of_misses h.limit_ne hmisses, h.keywords_eq, h.encoding_eq]
  · -- There is an entry, and what it holds is what would be read.
    have hrequest := request_getOrLoad cache store path
    generalize cache.getOrLoad store path = result at hrequest
    cases hrequest with
    | unreadable found unread =>
      rw [h.fetchBase_of_unreadable found unread]
      rfl
    | current found now =>
      rw [h.fetchBase_of_current hstore hapart found now]
      rfl
    | unfetched misses | crowded misses | loaded misses => exact absurd misses hmisses

/-- What is handed out without loading is what would be read. -/
theorem IsFilledFrom.fetchBase_of_get (h : cache.IsFilledFrom keywords encoding contents)
    (hstore : store.contents ⊆ contents) (hapart : Digest.TellsApart contents) {edition : Edition}
    (hhit : (cache.get store path).2 = .ok (some edition)) :
    fetchBase keywords encoding store path = .ok edition.base := by
  have hlookup := lookup_get cache store path
  generalize cache.get store path = result at hlookup hhit
  cases hlookup with
  | missed | unreadable => cases hhit
  | current found now =>
    cases hhit
    exact h.fetchBase_of_current hstore hapart found now

/-- After a request that failed, no entry is current: it was dropped, or there is no fingerprint
that it could have. -/
theorem fingerprint_ne_of_getOrLoad {fault : CacheFault}
    (hfault : (cache.getOrLoad store path).2 = .error fault)
    (hentry : (cache.getOrLoad store path).1.entries.get? (store.absolute path) = some entry) :
    fingerprint store path ≠ .ok entry.fingerprint := by
  have hrequest := request_getOrLoad cache store path
  generalize cache.getOrLoad store path = result at hrequest hfault hentry
  have hdropped : (cache.drop (store.absolute path)).entries.get? (store.absolute path) = none := by
    rw [get?_drop, if_pos rfl]
  cases hrequest with
  | current | loaded => cases hfault
  | unreadable found unread =>
    rw [unread]
    exact nofun
  | unfetched | crowded => exact nomatch hdropped.symm.trans hentry

/-- The edition that a request gave is handed out from then on. -/
theorem IsFilledFrom.get_of_getOrLoad (h : cache.IsFilledFrom keywords encoding contents)
    {edition : Edition} (hok : (cache.getOrLoad store path).2 = .ok edition) :
    ((cache.getOrLoad store path).1.get store path).2 = .ok (some edition) := by
  have hrequest := request_getOrLoad cache store path
  generalize cache.getOrLoad store path = result at hrequest hok
  cases hrequest with
  | unreadable | unfetched => cases hok
  | crowded misses fetched full => exact absurd (makeRoom_eq_error full).1 h.limit_ne
  | @current entry found now =>
    cases hok
    exact get_keep cache entry.used now
  | @loaded base bytes room misses read meaning free =>
    -- The fingerprint was taken of the bytes that were read, which are there still.
    cases hok
    have hnow := fingerprint_of_readBytes read
    exact get_keep room ⟨⟨cache.editions, base⟩, Digest.fingerprint bytes, 0⟩ hnow

end Cache

/-- A cache that is filled from the contents of files, which its fingerprints tell apart, agrees
with the files. -/
theorem CachedFiles.isCoherentAt {keywords : Keywords} {encoding : Datum}
    {contents : List (List UInt8)} {files : CachedFiles}
    (h : files.cache.IsFilledFrom keywords encoding contents)
    (hstore : files.store.contents ⊆ contents) (hapart : Digest.TellsApart contents)
    (path : Path) : files.IsCoherentAt keywords encoding path where
  request := h.base_getOrLoad hstore hapart path
  hit _ hhit := h.fetchBase_of_get hstore hapart hhit
  failure _ hfault _ hentry := Cache.fingerprint_ne_of_getOrLoad hfault hentry
  success _ hok := h.get_of_getOrLoad hok

/-- After any events a new cache agrees with the files, if fingerprints tell the contents apart that
occurred. -/
theorem cache_coherent (store : FileStore) (limit : Int) (keywords : Keywords) (encoding : Datum)
    (events : List CacheEvent)
    (hapart : Digest.TellsApart
      (CachedFiles.occurring ⟨store, .new (some limit) keywords encoding⟩ events))
    (path : Path) :
    (CachedFiles.after ⟨store, .new (some limit) keywords encoding⟩ events).IsCoherentAt
      keywords encoding path := by
  have hfilled : (CachedFiles.after ⟨store, .new (some limit) keywords encoding⟩ events).cache
      |>.IsFilledFrom keywords encoding
        (CachedFiles.occurring ⟨store, .new (some limit) keywords encoding⟩ events) :=
    CachedFiles.isFilledFrom_after (Cache.isFilledFrom_new limit keywords encoding _)
      (List.Subset.refl _)
  exact CachedFiles.isCoherentAt hfilled
    (CachedFiles.contents_after_subset_occurring _ events) hapart path

end

/-! ## An example -/

/-- A file is loaded and found again, under its absolute path; it is rewritten, spoilt and repaired,
deleted and written anew, and asked for each time. Then another file takes its place in the cache
and is found there. -/
def rewritingEvents : List CacheEvent :=
  let path : Path := ⟨"", ["a.kb"]⟩
  let absolute : Path := ⟨"/", ["work", "a.kb"]⟩
  let other : Path := ⟨"", ["b.kb"]⟩
  let first := asciiBytes "1 if a-b then c-d"
  let second := asciiBytes "2 if a-x then c-d"
  let third := asciiBytes "3 if a-b then e-f"
  [.write path first, .getOrLoad path, .get absolute,
    .write path second, .getOrLoad path,
    .write path [0xFF], .getOrLoad path,
    .write path first, .getOrLoad path,
    .delete path, .getOrLoad path,
    .write path second, .getOrLoad path,
    .write other third, .getOrLoad other, .getOrLoad other]

/-- The entries that are in the cache after each event: the file's name, the number of the edition
and the hits. -/
def CachedFiles.entriesAlong [Encodings] (files : CachedFiles) (events : List CacheEvent) :
    List (List (String × Nat × Nat)) :=
  (events.inits.tail.map files.after).map fun files =>
    files.cache.entries.entries.map fun entry =>
      (entry.1.name, entry.2.edition.number, entry.2.hits)

open Usual in
/-- In a cache of one entry, these events come to loading and hitting, to stale entries that are
loaded anew, to failures that leave no entry, and to an eviction. At each moment the cache agrees
with both files. -/
theorem cache_coherent_rewritingEvents :
    let files : CachedFiles :=
      ⟨.ofHome ["work"], .new (some 1) numberedKeywords (.text "utf-8")⟩
    files.entriesAlong rewritingEvents =
        [[], [("a.kb", 0, 0)], [("a.kb", 0, 1)],
          [("a.kb", 0, 1)], [("a.kb", 1, 0)],
          [("a.kb", 1, 0)], [],
          [], [("a.kb", 2, 0)],
          [("a.kb", 2, 0)], [],
          [], [("a.kb", 3, 0)],
          [("a.kb", 3, 0)], [("b.kb", 4, 0)], [("b.kb", 4, 1)]] ∧
      ∀ n ≤ rewritingEvents.length,
        Digest.TellsApart (files.occurring (rewritingEvents.take n)) ∧
        (files.after (rewritingEvents.take n)).IsCoherentAt numberedKeywords (.text "utf-8")
          ⟨"", ["a.kb"]⟩ ∧
        (files.after (rewritingEvents.take n)).IsCoherentAt numberedKeywords (.text "utf-8")
          ⟨"", ["b.kb"]⟩ := by
  intro files
  have hapart : ∀ n ≤ rewritingEvents.length,
      Digest.TellsApart (files.occurring (rewritingEvents.take n)) := by
    decide +kernel +revert
  exact ⟨by decide +kernel +revert, fun n hn =>
    ⟨hapart n hn, cache_coherent _ _ _ _ _ (hapart n hn) _,
      cache_coherent _ _ _ _ _ (hapart n hn) _⟩⟩

end RuleConsult
