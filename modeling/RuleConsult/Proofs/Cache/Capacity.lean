import RuleConsult.Program.Usual
import RuleConsult.Proofs.Cache.Room

/-!
# The capacity of a cache

A cache never holds more entries than its limit, or more than one if the limit is lower. A path that
is stored where there is no room for it takes the place of one entry: of those that were handed out
least often since they were stored, the first in the order of the cache. Apart from that a call
leaves the entries of other paths as they are, in their order. Paths that are the same from the root
are the same to a cache, wherever they are written from.

What has to be known of the past of a cache is how often its entries were handed out. A history
keeps marks of that, and the counts that the entries carry are those of the marks.

* `Cache.course_call`: all that a call about a path does;
* `Cache.frames`: what a call does to the entries of other paths;
* `CacheHistory.IsWithin.next`, `CacheHistory.IsWithin.after`: what calls keep;
* `cache_within_capacity`: both for every cache that was new once.
-/

namespace RuleConsult

open Text

/-! ## Calls -/

/-- A call of a cache. -/
inductive CacheCall where
  | get (path : Path)
  | getOrLoad (path : Path)
  | set (path : Path) (edition : Edition)
  | invalidate (path : Path)
  | invalidateAll

/-- What a call did with the entry of a key. -/
inductive CacheMark where
  /-- The entry was handed out. -/
  | used (key : Path)
  /-- An entry was stored. -/
  | stored (key : Path)
  deriving DecidableEq

namespace CacheMark

/-- The key whose entry is marked. -/
def key : CacheMark → Path
  | used key => key
  | stored key => key

/-- How often the entry of a key was handed out since the key was stored last. -/
def hitsSince (key : Path) (marks : List CacheMark) : Nat :=
  (marks.reverse.takeWhile (· ≠ stored key)).count (used key)

variable {key : Path} {marks : List CacheMark} {mark : CacheMark}

/-- One more hit counts. -/
theorem hitsSince_used (key : Path) (marks : List CacheMark) :
    hitsSince key (marks ++ [used key]) = hitsSince key marks + 1 := by
  simp [hitsSince]

/-- Storing starts the count anew. -/
theorem hitsSince_stored (key : Path) (marks : List CacheMark) :
    hitsSince key (marks ++ [stored key]) = 0 := by
  simp [hitsSince]

/-- Marks of other paths do not count. -/
theorem hitsSince_of_ne (h : mark.key ≠ key) :
    hitsSince key (marks ++ [mark]) = hitsSince key marks := by
  have hstored : mark ≠ stored key := fun heq => h (heq ▸ rfl)
  have hused : mark ≠ used key := fun heq => h (heq ▸ rfl)
  simp [hitsSince, hstored, hused]

end CacheMark

namespace CacheCall

/-- The key that a call is about; none where it is about all entries. -/
def key? (store : FileStore) : CacheCall → Option Path
  | get path | getOrLoad path | set path _ | invalidate path => some (store.absolute path)
  | invalidateAll => none

/-! ## The cache in which room is made -/

/-- The cache in which a call makes room for its key. -/
def opening (cache : Cache) (key : Path) : CacheCall → Cache
  | getOrLoad _ => cache.counted key
  | get _ | set _ _ | invalidate _ | invalidateAll => cache

section

variable {cache room : Cache} {key other : Path} {entry : CacheEntry} {limit : Int}
  {call : CacheCall}

/-- The limit never changes. -/
theorem limit_opening : (call.opening cache key).limit = cache.limit := by
  cases call <;> rfl

/-- No room is lost. -/
theorem size_opening_le : (call.opening cache key).size ≤ cache.size := by
  cases call with
  | getOrLoad => exact Cache.size_drop_le cache key
  | get | set | invalidate | invalidateAll => exact Nat.le_refl _

/-- Nothing is in that cache that was not there. -/
theorem get?_of_get?_opening (h : (call.opening cache key).entries.get? other = some entry) :
    cache.entries.get? other = some entry := by
  cases call with
  | getOrLoad => exact Cache.get?_of_get?_drop h
  | get | set | invalidate | invalidateAll => exact h

/-- The entries under other keys are as before. -/
theorem others_opening : (call.opening cache key).others key = cache.others key := by
  cases call with
  | getOrLoad => exact Cache.others_drop cache key
  | get | set | invalidate | invalidateAll => rfl

/-- If there is no entry under the key, nothing is different. -/
theorem entries_opening (h : cache.entries.get? key = none) :
    (call.opening cache key).entries = cache.entries := by
  cases call with
  | getOrLoad =>
    change (cache.drop key).entries = cache.entries
    rw [Cache.drop_of_get?_eq_none h]
  | get | set | invalidate | invalidateAll => rfl

/-- A stale entry of the key leaves room behind. -/
theorem size_opening_add_one (hfound : cache.entries.get? key = some entry)
    (habsent : (call.opening cache key).entries.get? key = none) :
    (call.opening cache key).size + 1 = cache.size := by
  cases call with
  | getOrLoad => exact Cache.size_drop_add_one hfound
  | get | set | invalidate | invalidateAll => exact nomatch hfound.symm.trans habsent

/-- Making room leaves the entries of other paths, unless the key has no entry and the cache is
full. -/
theorem others_of_makeRoom (hlimit : cache.limit = some limit)
    (hsize : (cache.size : Int) ≤ max 1 limit)
    (free : (call.opening cache key).makeRoom key = .ok room)
    (hroomy : ¬ (cache.entries.get? key = none ∧ limit ≤ cache.size)) :
    room.others key = cache.others key := by
  have hroom := Cache.room_of_makeRoom (limit_opening.trans hlimit) free
  have hsame : room = call.opening cache key := by
    refine hroom.eq_self fun habsent hfull => ?_
    cases hfound : cache.entries.get? key with
    | none =>
      have hopen : (call.opening cache key).size = cache.size :=
        congrArg Table.size (entries_opening hfound)
      exact absurd ⟨hfound, hopen ▸ hfull⟩ hroomy
    | some entry =>
      -- The stale entry was one of the entries that there is room for.
      have hopen := size_opening_add_one hfound habsent
      omega
  rw [hsame, others_opening]

/-- A new key in a full cache takes the place of one entry, if there is any. -/
theorem evicts_of_makeRoom (hlimit : cache.limit = some limit)
    (free : (call.opening cache key).makeRoom key = .ok room)
    (habsent : cache.entries.get? key = none) (hfull : limit ≤ cache.size) :
    Evicts (fun entry => entry.2.hits) cache.entries.entries (room.others key) := by
  have hroom := Cache.room_of_makeRoom (limit_opening.trans hlimit) free
  have hentries : (call.opening cache key).entries = cache.entries := entries_opening habsent
  have hnew : (call.opening cache key).entries.get? key = none := hentries ▸ habsent
  have hopen : (call.opening cache key).size = cache.size := congrArg Table.size hentries
  rw [Cache.others_of_get?_eq_none (hroom.get?_eq_none hnew), ← hentries]
  exact hroom.evicts hnew (hopen ▸ hfull)

end

end CacheCall

/-! ## Courses -/

section

variable [Encodings]

/-- The call comes to storing its key: it is told to, or there is nothing to be handed out and a
base is loaded. -/
def CacheCall.Stores (cache : Cache) (store : FileStore) : CacheCall → Prop
  | set _ _ => True
  | getOrLoad path => cache.Misses store path ∧
      ∃ base, fetchBase cache.keywords cache.encoding store path = .ok base
  | get _ | invalidate _ | invalidateAll => False

namespace Cache

/-- The cache after a call, which finds the files as they are then. -/
def call (cache : Cache) (store : FileStore) : CacheCall → Cache
  | .get path => (cache.get store path).1
  | .getOrLoad path => (cache.getOrLoad store path).1
  | .set path edition => (cache.set store path edition).1
  | .invalidate path => (cache.invalidate store path).1
  | .invalidateAll => cache.invalidateAll.1

/-- What a call does with the entry of its key, as its answer shows. A request uses the entry if it
could have been looked up. -/
def mark? (cache : Cache) (store : FileStore) : CacheCall → Option CacheMark
  | .get path =>
    match (cache.get store path).2 with
    | .ok (some _) => some (.used (store.absolute path))
    | _ => none
  | .getOrLoad path =>
    match (cache.get store path).2, (cache.getOrLoad store path).2 with
    | .ok (some _), _ => some (.used (store.absolute path))
    | _, .ok _ => some (.stored (store.absolute path))
    | _, .error _ => none
  | .set path edition =>
    match (cache.set store path edition).2 with
    | .ok () => some (.stored (store.absolute path))
    | .error _ => none
  | .invalidate _ | .invalidateAll => none

/-- The courses of a call about a key. -/
inductive Course (cache : Cache) (store : FileStore) (call : CacheCall) (key : Path) :
    Cache → Option CacheMark → Prop
  /-- The entry of the key is left as it is. -/
  | left (idle : ¬ call.Stores cache store) : Course cache store call key cache none
  /-- There is no entry of the key any more. -/
  | dropped (idle : ¬ call.Stores cache store) :
      Course cache store call key (cache.drop key) none
  /-- The entry is handed out. -/
  | used {entry : CacheEntry} (found : cache.entries.get? key = some entry)
      (idle : ¬ call.Stores cache store) :
      Course cache store call key (cache.keep key entry.used) (some (.used key))
  /-- Room is made for an entry, and none is stored. -/
  | opened {room : Cache} (stores : call.Stores cache store)
      (free : (call.opening cache key).makeRoom key = .ok room) :
      Course cache store call key room none
  /-- Room is made for an entry that was never handed out. -/
  | stored {room : Cache} {entry : CacheEntry} (stores : call.Stores cache store)
      (free : (call.opening cache key).makeRoom key = .ok room) (unused : entry.hits = 0) :
      Course cache store call key (room.keep key entry) (some (.stored key))

variable {cache room : Cache} {store : FileStore} {key : Path} {entry : CacheEntry} {limit : Int}
  {call : CacheCall}

/-- Looking up leaves the entry, hands it out, or drops it. -/
theorem course_get (cache : Cache) (store : FileStore) (path : Path) :
    cache.Course store (.get path) (store.absolute path) (cache.call store (.get path))
      (cache.mark? store (.get path)) := by
  have hlookup := lookup_get cache store path
  simp only [Cache.call, mark?]
  generalize cache.get store path = result at hlookup
  cases hlookup with
  | missed => exact .dropped id
  | unreadable => exact .left id
  | current found now => exact .used found id

/-- Storing makes room, and stores if the file can be looked at. -/
theorem course_set (hlimit : cache.limit = some limit) (store : FileStore) (path : Path)
    (edition : Edition) : cache.Course store (.set path edition) (store.absolute path)
      (cache.call store (.set path edition)) (cache.mark? store (.set path edition)) := by
  have hstoring := storing_set cache store path edition
  simp only [Cache.call, mark?]
  generalize cache.set store path edition = result at hstoring
  cases hstoring with
  | crowded full => cases hlimit.symm.trans (makeRoom_eq_error full).1
  | unreadable free => exact .opened trivial free
  | stored free => exact .stored trivial free rfl

/-- A request looks up, and makes room for what it loads. -/
theorem course_getOrLoad (hlimit : cache.limit = some limit) (store : FileStore) (path : Path) :
    cache.Course store (.getOrLoad path) (store.absolute path)
      (cache.call store (.getOrLoad path)) (cache.mark? store (.getOrLoad path)) := by
  have hrequest := request_getOrLoad cache store path
  simp only [Cache.call, mark?]
  generalize cache.getOrLoad store path = result at hrequest
  cases hrequest with
  -- What the request did with the entry shows in what a lookup would have answered.
  | @unreadable entry fault found unread =>
    rw [show (cache.get store path).2 = .error (.fetch (.file fault)) by simp [get, found, unread]]
    exact .left fun hstores => (hstores.1.fingerprint_ne found).2 _ unread
  | @current entry found now =>
    rw [show (cache.get store path).2 = .ok (some entry.edition) by simp [get, found, now]]
    exact .used found fun hstores => (hstores.1.fingerprint_ne found).1 now
  | unfetched misses failed =>
    rw [get_of_misses misses]
    refine .dropped fun hstores => ?_
    obtain ⟨base, hbase⟩ := hstores.2
    cases failed.symm.trans hbase
  | crowded misses fetched full => cases hlimit.symm.trans (makeRoom_eq_error full).1
  | loaded misses read meaning free =>
    rw [get_of_misses misses]
    exact .stored ⟨misses, _, fetchBase_eq_ok_iff.2 ⟨_, read, meaning⟩⟩ free rfl

/-- All that a call about a key does, whatever the files are. -/
theorem course_call (hlimit : cache.limit = some limit) (hkey : call.key? store = some key) :
    cache.Course store call key (cache.call store call) (cache.mark? store call) := by
  cases call with
  | get path =>
    cases hkey
    exact course_get cache store path
  | getOrLoad path =>
    cases hkey
    exact course_getOrLoad hlimit store path
  | set path edition =>
    cases hkey
    exact course_set hlimit store path edition
  | invalidate path =>
    cases hkey
    rw [Cache.call, invalidate_fst]
    exact .dropped id
  | invalidateAll => cases hkey

/-! ## What a call does -/

/-- What a call about a key does in a cache with a limit, where it is known how often the entries
were handed out. -/
structure Frames (limit : Int) (hits : Path → Nat) (cache : Cache) (store : FileStore)
    (call : CacheCall) (key : Path) : Prop where
  /-- The other paths keep their entries, in their order, unless room has to be made. -/
  keeps : ¬ (call.Stores cache store ∧ cache.entries.get? key = none ∧ limit ≤ cache.size) →
    (cache.call store call).others key = cache.others key
  /-- Then one entry is taken away, if there is any. -/
  evicts : call.Stores cache store → cache.entries.get? key = none → limit ≤ cache.size →
    Evicts (fun entry => hits entry.1) cache.entries.entries ((cache.call store call).others key)
  /-- What is stored is there afterwards, behind the others if there was no entry of the key. -/
  stores : cache.mark? store call = some (.stored key) →
    ∃ entry, entry.hits = 0 ∧ (cache.call store call).entries.get? key = some entry ∧
      (cache.entries.get? key = none → (cache.call store call).entries.entries =
        (cache.call store call).others key ++ [(key, entry)])

/-- Unless the cache is full and the key is new, the other entries stay. -/
theorem Course.keeps {after : Cache} {mark : Option CacheMark}
    (h : cache.Course store call key after mark) (hlimit : cache.limit = some limit)
    (hsize : (cache.size : Int) ≤ max 1 limit)
    (hroomy : ¬ (call.Stores cache store ∧ cache.entries.get? key = none ∧ limit ≤ cache.size)) :
    after.others key = cache.others key := by
  cases h with
  | left => rfl
  | dropped => exact others_drop cache key
  | used => exact others_keep cache key _
  | opened stores free =>
    exact CacheCall.others_of_makeRoom hlimit hsize free fun hfull => hroomy ⟨stores, hfull⟩
  | stored stores free =>
    rw [others_keep]
    exact CacheCall.others_of_makeRoom hlimit hsize free fun hfull => hroomy ⟨stores, hfull⟩

/-- If it is, one entry goes. -/
theorem Course.evicts {after : Cache} {mark : Option CacheMark}
    (h : cache.Course store call key after mark) (hlimit : cache.limit = some limit)
    (hstores : call.Stores cache store)
    (habsent : cache.entries.get? key = none) (hfull : limit ≤ cache.size) :
    Evicts (fun entry => entry.2.hits) cache.entries.entries (after.others key) := by
  cases h with
  | left idle | dropped idle | used found idle => exact absurd hstores idle
  | opened stores free => exact CacheCall.evicts_of_makeRoom hlimit free habsent hfull
  | stored stores free =>
    rw [others_keep]
    exact CacheCall.evicts_of_makeRoom hlimit free habsent hfull

/-- What is stored is there afterwards; behind the others, if there was no entry of the key. -/
theorem Course.stored_entry {after : Cache}
    (h : cache.Course store call key after (some (.stored key))) :
    ∃ entry, entry.hits = 0 ∧ after.entries.get? key = some entry ∧
      (cache.entries.get? key = none →
        after.entries.entries = after.others key ++ [(key, entry)]) := by
  cases h with
  | @stored room entry stores free unused =>
    refine ⟨entry, unused, by rw [get?_keep, if_pos rfl], fun habsent => ?_⟩
    have hroom : room.entries.get? key = none := by
      obtain ⟨entries, rfl, hentries⟩ := makeRoom_frame free
      rw [Option.eq_none_iff_forall_ne_some]
      intro other hother
      exact nomatch habsent.symm.trans (CacheCall.get?_of_get?_opening (hentries key other hother))
    rw [others_keep, others_of_get?_eq_none hroom]
    exact Table.entries_insert_of_not_mem entry (Table.get?_eq_none_iff.1 hroom)

/-! ## What a call keeps -/

/-- The limit of a cache never changes. -/
theorem Course.limit_eq {after : Cache} {mark : Option CacheMark}
    (h : cache.Course store call key after mark) : after.limit = cache.limit := by
  cases h with
  | left | dropped | used => rfl
  | opened stores free | stored stores free =>
    obtain ⟨entries, rfl, -⟩ := makeRoom_frame free
    exact CacheCall.limit_opening

/-- No course takes a cache beyond its limit. -/
theorem Course.size_le {after : Cache} {mark : Option CacheMark}
    (h : cache.Course store call key after mark) (hlimit : cache.limit = some limit)
    (hsize : (cache.size : Int) ≤ max 1 limit) : (after.size : Int) ≤ max 1 limit := by
  have hopen : ((call.opening cache key).size : Int) ≤ max 1 limit :=
    Int.le_trans (Int.ofNat_le.2 CacheCall.size_opening_le) hsize
  cases h with
  | left => exact hsize
  | dropped => exact Int.le_trans (Int.ofNat_le.2 (size_drop_le cache key)) hsize
  | used found => rwa [size_keep_of_get?_ne_none (found ▸ Option.some_ne_none _)]
  | opened stores free =>
    have hroom := room_of_makeRoom (CacheCall.limit_opening.trans hlimit) free
    exact Int.le_trans (Int.ofNat_le.2 hroom.size_le) hopen
  | stored stores free =>
    exact (room_of_makeRoom (CacheCall.limit_opening.trans hlimit) free).size_keep_le hopen _

/-- The entries carry how often they were handed out since they were stored. -/
def Counts (cache : Cache) (marks : List CacheMark) : Prop :=
  ∀ key entry, cache.entries.get? key = some entry →
    .stored key ∈ marks ∧ entry.hits = CacheMark.hitsSince key marks

/-- No entry is changed without a mark. -/
theorem Course.counts {after : Cache} {mark : Option CacheMark} {marks : List CacheMark}
    (h : cache.Course store call key after mark) (hcounts : cache.Counts marks) :
    after.Counts (marks ++ mark.toList) := by
  -- Making room takes entries away, and those that are left count as before.
  have hkept {room : Cache} (free : (call.opening cache key).makeRoom key = .ok room) :
      room.Counts marks := by
    obtain ⟨entries, rfl, hentries⟩ := makeRoom_frame free
    exact fun other found hfound => hcounts other found (CacheCall.get?_of_get?_opening
      (hentries other found hfound))
  intro other found hfound
  cases h with
  | left => simpa using hcounts other found hfound
  | dropped => simpa using hcounts other found (get?_of_get?_drop hfound)
  | opened stores free => simpa using hkept free other found hfound
  | @used entry hentry =>
    rw [get?_keep] at hfound
    rw [Option.toList_some]
    split at hfound
    · rename_i heq
      cases hfound
      subst heq
      obtain ⟨hstored, hhits⟩ := hcounts other entry hentry
      rw [CacheMark.hitsSince_used]
      exact ⟨List.mem_append_left _ hstored, congrArg (· + 1) hhits⟩
    · rename_i hne
      rw [CacheMark.hitsSince_of_ne (Ne.symm hne)]
      exact (hcounts other found hfound).imp_left (List.mem_append_left _)
  | @stored room entry stores free unused =>
    rw [get?_keep] at hfound
    rw [Option.toList_some]
    split at hfound
    · rename_i heq
      cases hfound
      subst heq
      rw [CacheMark.hitsSince_stored]
      exact ⟨List.mem_append_right _ List.mem_cons_self, unused⟩
    · rename_i hne
      rw [CacheMark.hitsSince_of_ne (Ne.symm hne)]
      exact (hkept free other found hfound).imp_left (List.mem_append_left _)

/-- What a call does to the entries of other paths, for a cache that is within its limit and counts
its hits. -/
theorem frames {marks : List CacheMark} (hcounts : cache.Counts marks)
    (hlimit : cache.limit = some limit) (hsize : (cache.size : Int) ≤ max 1 limit)
    (hkey : call.key? store = some key) :
    cache.Frames limit (fun key => CacheMark.hitsSince key marks) store call key := by
  have hcourse := course_call hlimit hkey
  constructor
  case keeps => exact hcourse.keeps hlimit hsize
  case evicts =>
    intro hstores habsent hfull
    -- The hits that the entries carry are those of the marks.
    refine (hcourse.evicts hlimit hstores habsent hfull).congr fun entry hentry => ?_
    exact (hcounts entry.1 entry.2 (Table.get?_eq_some_iff.2 hentry)).2
  case stores =>
    intro hmark
    rw [hmark] at hcourse
    exact hcourse.stored_entry

end Cache

/-! ## Histories -/

/-- A cache and the marks of what was done with its entries so far. -/
structure CacheHistory where
  cache : Cache
  marks : List CacheMark

namespace CacheHistory

/-- A cache of a limit, for which nothing was done yet. -/
def new (limit : Int) (keywords : Keywords) (encoding : Datum) : CacheHistory :=
  ⟨.new (some limit) keywords encoding, []⟩

/-- The history after one more call, with the files as they are then. -/
def next (history : CacheHistory) (moment : FileStore × CacheCall) : CacheHistory :=
  ⟨history.cache.call moment.1 moment.2,
    history.marks ++ (history.cache.mark? moment.1 moment.2).toList⟩

/-- The history after some more calls. Between any two of them the files may have changed. -/
def after (history : CacheHistory) (moments : List (FileStore × CacheCall)) : CacheHistory :=
  moments.foldl next history

/-- The cache keeps to the limit, and its entries carry how often they were handed out. -/
structure IsWithin (limit : Int) (history : CacheHistory) : Prop where
  limit_eq : history.cache.limit = some limit
  size_le : (history.cache.size : Int) ≤ max 1 limit
  counts : history.cache.Counts history.marks

variable {limit : Int} {history : CacheHistory}

omit [Encodings] in
/-- A cache without entries is within its limit. -/
theorem isWithin_new (limit : Int) (keywords : Keywords) (encoding : Datum) :
    (new limit keywords encoding).IsWithin limit where
  limit_eq := rfl
  size_le := show (0 : Int) ≤ max 1 limit by omega
  counts _ _ hfound := nomatch hfound

/-- Every call keeps a cache within its limit. -/
theorem IsWithin.next (h : history.IsWithin limit) (moment : FileStore × CacheCall) :
    (history.next moment).IsWithin limit := by
  obtain ⟨store, call⟩ := moment
  -- A call that is about no key empties the cache.
  cases hkey : call.key? store with
  | some key =>
    have hcourse := Cache.course_call h.limit_eq hkey
    exact ⟨hcourse.limit_eq.trans h.limit_eq, hcourse.size_le h.limit_eq h.size_le,
      hcourse.counts h.counts⟩
  | none =>
    cases call with
    | invalidateAll =>
      exact ⟨h.limit_eq, show (0 : Int) ≤ max 1 limit by omega, fun _ _ hfound => nomatch hfound⟩
    | get | getOrLoad | set | invalidate => cases hkey

/-- So do any calls. -/
theorem IsWithin.after (h : history.IsWithin limit) (moments : List (FileStore × CacheCall)) :
    (history.after moments).IsWithin limit := by
  induction moments generalizing history with
  | nil => exact h
  | cons moment moments ih => exact ih (h.next moment)

end CacheHistory

/-- Whatever was done with a cache since it was new, and however the files changed: it holds no more
entries than its limit, or one; the entries carry how often they were handed out since they were
stored; and a call about a path leaves the entries of other paths as they are, except that one of
those that were handed out least often, the first in order, makes room for a new path. -/
theorem cache_within_capacity (limit : Int) (keywords : Keywords) (encoding : Datum)
    (moments : List (FileStore × CacheCall)) :
    ((CacheHistory.new limit keywords encoding).after moments).IsWithin limit ∧
      ∀ store call key, call.key? store = some key →
        ((CacheHistory.new limit keywords encoding).after moments).cache.Frames limit
          (fun key => CacheMark.hitsSince key
            ((CacheHistory.new limit keywords encoding).after moments).marks) store call key := by
  have hwithin := (CacheHistory.isWithin_new limit keywords encoding).after moments
  exact ⟨hwithin, fun _ _ _ hkey =>
    Cache.frames hwithin.counts hwithin.limit_eq hwithin.size_le hkey⟩

end

/-- Two bases are stored in a full cache of two entries, and the first of them is asked for. -/
def exampleMoments : List (FileStore × CacheCall) :=
  let store : FileStore := ⟨Table.ofList [(["a"], .file []), (["b"], .file [0x0A])], []⟩
  [(store, .set ⟨"", ["a"]⟩ ⟨0, .empty⟩), (store, .set ⟨"", ["b"]⟩ ⟨1, .empty⟩),
    (store, .getOrLoad ⟨"", ["a"]⟩)]

open Usual in
/-- A third one takes the place of the second. -/
theorem cache_within_capacity_exampleMoments :
    let history := (CacheHistory.new 2 .standard (.text "utf-8")).after exampleMoments
    let after := history.cache.call .empty (.set ⟨"", ["c"]⟩ ⟨2, .empty⟩)
    after.entries.keys = [⟨"/", ["a"]⟩, ⟨"/", ["c"]⟩] ∧
      Evicts (fun entry => CacheMark.hitsSince entry.1 history.marks) history.cache.entries.entries
        (after.others ⟨"/", ["c"]⟩) := by
  obtain ⟨-, hcalls⟩ := cache_within_capacity 2 .standard (.text "utf-8") exampleMoments
  have hframes := hcalls .empty (.set ⟨"", ["c"]⟩ ⟨2, .empty⟩) ⟨"/", ["c"]⟩ rfl
  refine ⟨by decide +kernel, hframes.evicts trivial ?_ (by decide +kernel)⟩
  exact Table.get?_eq_none_iff.2 (by decide +kernel)

end RuleConsult
