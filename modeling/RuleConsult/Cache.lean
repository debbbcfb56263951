import RuleConsult.Files.Digest
import RuleConsult.Files.Loading

/-!
# Caches of loaded bases

A cache keeps bases that were loaded from files, each with a fingerprint of the file's bytes at that
time. It hands out a kept base as long as the fingerprint is that of the file now; a stale entry is
dropped when it is looked up. A full cache makes room for a new entry by dropping one of those that
were handed out least often, and of these the one that was stored first.

Loading a file twice gives two *editions* of a base, even if the file has not changed: an edition is
told apart by its number, its knowledge by its base.
-/

namespace RuleConsult

open Text

/-! ## Types -/

/-- A base as it was loaded at some time. -/
structure Edition where
  number : Nat
  base : Base

/-- An edition that is kept, with what is needed to see whether it is stale and how much it is
used. -/
structure CacheEntry where
  edition : Edition
  /-- The fingerprint of the file when the edition was stored; empty if there was no file. -/
  fingerprint : String
  /-- How often the edition was handed out since it was stored. -/
  hits : Nat

/-- A cache of editions by the paths they were loaded from, written from the root. -/
structure Cache where
  /-- How many entries are kept, where possible; none if what was configured is no number. -/
  limit : Option Int
  /-- The keywords of the files. -/
  keywords : Keywords
  /-- The encoding of the files. -/
  encoding : Datum
  entries : Table Path CacheEntry
  /-- How many editions were made. -/
  editions : Nat

/-- Why a cache cannot do what it is asked for. -/
inductive CacheFault where
  /-- A file is not loaded. -/
  | fetch (fault : FetchFault)
  /-- The limit is no number. -/
  | badLimit
  deriving Repr

/-- The wording of a cache fault. -/
def CacheFault.message : CacheFault → String
  | .fetch fault => fault.message
  | .badLimit => "O limite do cache não é um número"

namespace Cache

/-- The cache without entries. -/
def new (limit : Option Int) (keywords : Keywords) (encoding : Datum) : Cache :=
  ⟨limit, keywords, encoding, Table.empty, 0⟩

/-- The usual number of entries. -/
def standardLimit : Int := 50

/-- The number of entries. -/
def size (cache : Cache) : Nat := cache.entries.size

/-- The cache with a new edition of a base made. -/
def makeEdition (cache : Cache) (base : Base) : Edition × Cache :=
  (⟨cache.editions, base⟩, { cache with editions := cache.editions + 1 })

/-! ## Fingerprints -/

/-- The fingerprint of a file now; empty if there is no file. -/
def fingerprint (store : FileStore) (path : Path) : Except FileFault String := do
  if ← store.exists? path then return Digest.fingerprint (← store.readBytes path) else return ""

/-! ## Looking up -/

/-- The edition kept for a path, if it is not stale. A stale one is dropped, another one is counted
as handed out. -/
def get (cache : Cache) (store : FileStore) (path : Path) :
    Cache × Except CacheFault (Option Edition) :=
  let key := store.absolute path
  match cache.entries.get? key with
  | none => (cache, .ok none)
  | some entry =>
    match fingerprint store path with
    | .error fault => (cache, .error (.fetch (.file fault)))
    | .ok now =>
      if entry.fingerprint ≠ now then
        ({ cache with entries := cache.entries.erase key }, .ok none)
      else
        ({ cache with entries := cache.entries.insert key { entry with hits := entry.hits + 1 } },
          .ok (some entry.edition))

/-! ## Storing -/

/-- The key whose entry is dropped to make room: the first of those with the fewest hits. -/
def victim? (entries : List (Path × CacheEntry)) : Option Path :=
  match entries with
  | [] => none
  | first :: rest =>
    some (rest.foldl (fun best entry => if entry.2.hits < best.2.hits then entry else best)
      first).1

/-- The cache after making room for one entry. -/
def evict (cache : Cache) : Cache :=
  match victim? cache.entries.entries with
  | none => cache
  | some key => { cache with entries := cache.entries.erase key }

/-- The cache with room for an entry under the key: a key that is present needs none. -/
def makeRoom (cache : Cache) (key : Path) : Except CacheFault Cache :=
  if cache.entries.contains key then .ok cache
  else
    match cache.limit with
    | none => .error .badLimit
    | some limit => .ok (if limit ≤ cache.size then cache.evict else cache)

/-- Stores an edition under a path. Room is made before the file is looked at. -/
def set (cache : Cache) (store : FileStore) (path : Path) (edition : Edition) :
    Cache × Except CacheFault Unit :=
  let key := store.absolute path
  match cache.makeRoom key with
  | .error fault => (cache, .error fault)
  | .ok cache =>
    match fingerprint store path with
    | .error fault => (cache, .error (.fetch (.file fault)))
    | .ok now => ({ cache with entries := cache.entries.insert key ⟨edition, now, 0⟩ }, .ok ())

/-! ## Loading -/

/-- The edition kept for a path, or else a new one, loaded from the file and kept. -/
def getOrLoad [Encodings] (cache : Cache) (store : FileStore) (path : Path) :
    Cache × Except CacheFault Edition :=
  match cache.get store path with
  | (cache, .error fault) => (cache, .error fault)
  | (cache, .ok (some edition)) => (cache, .ok edition)
  | (cache, .ok none) =>
    match fetchBase cache.keywords cache.encoding store path with
    | .error fault => (cache, .error (.fetch fault))
    | .ok base =>
      let (edition, cache) := cache.makeEdition base
      match cache.set store path edition with
      | (cache, .error fault) => (cache, .error fault)
      | (cache, .ok ()) => (cache, .ok edition)

/-! ## Dropping -/

/-- Drops the entry of a path; the second component counts the dropped entries. -/
def invalidate (cache : Cache) (store : FileStore) (path : Path) : Cache × Nat :=
  let key := store.absolute path
  if cache.entries.contains key then ({ cache with entries := cache.entries.erase key }, 1)
  else (cache, 0)

/-- Drops all entries; the second component counts them. -/
def invalidateAll (cache : Cache) : Cache × Nat :=
  ({ cache with entries := Table.empty }, cache.size)

/-! ## Statistics -/

/-- What is shown of an entry. -/
structure EntryStats where
  name : String
  rules : Nat
  questions : Nat
  hits : Nat
  deriving DecidableEq, Repr

/-- The entries in order. -/
def stats (cache : Cache) : List EntryStats :=
  cache.entries.entries.map fun entry =>
    let base := entry.2.edition.base
    ⟨entry.1.name, base.rules.length, base.advice.size, entry.2.hits⟩

/-- How often any entry was handed out. -/
def totalHits (cache : Cache) : Nat :=
  cache.entries.values.foldl (fun total entry => total + entry.hits) 0

end Cache

/-! ## The shared cache -/

/-- The cache that the commands of a process share. It is made when it is first asked for, and the
choices of the first request hold until it is given up. -/
structure SharedCache where
  current : Option Cache
  /-- How many shared caches were made. -/
  made : Nat

namespace SharedCache

/-- No cache was asked for. -/
def empty : SharedCache := ⟨none, 0⟩

/-- The shared cache, made if there is none. Its files are in UTF-8. -/
def obtain (shared : SharedCache) (limit : Option Int) (keywords : Keywords) :
    Cache × SharedCache :=
  match shared.current with
  | some cache => (cache, shared)
  | none =>
    let cache := Cache.new limit keywords (.text "utf-8")
    (cache, ⟨some cache, shared.made + 1⟩)

/-- Gives up the shared cache. -/
def reset (shared : SharedCache) : SharedCache := { shared with current := none }

end SharedCache

end RuleConsult
