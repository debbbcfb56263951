import RuleConsult.Proofs.Files.Loading

/-!
# What calls do to a cache

Each call of a cache takes one of a few courses, and each course says what the cache is afterwards.
Everything else that is known of caches is derived from these.

* `Cache.Lookup`: an edition is looked up;
* `Cache.Storing`: an edition is stored;
* `Cache.Request`: an edition is looked up, and loaded if it is not there;
* `Cache.makeRoom_frame`: making room takes entries away and changes nothing else.
-/

namespace RuleConsult

open Text

/-- An entry that has been handed out once more. -/
def CacheEntry.used (entry : CacheEntry) : CacheEntry :=
  { entry with hits := entry.hits + 1 }

namespace Cache

variable {cache room : Cache} {store : FileStore} {path key other : Path} {entry : CacheEntry}

/-! ## Entries -/

/-- The cache without the entry of a key. -/
def drop (cache : Cache) (key : Path) : Cache :=
  { cache with entries := cache.entries.erase key }

/-- The cache with an entry under a key. -/
def keep (cache : Cache) (key : Path) (entry : CacheEntry) : Cache :=
  { cache with entries := cache.entries.insert key entry }

/-- A drop takes away one key and leaves the others. -/
theorem get?_drop (cache : Cache) (key other : Path) : (cache.drop key).entries.get? other =
    if other = key then none else cache.entries.get? other :=
  Table.get?_erase _ _ _

/-- A keep sets one key and leaves the others. -/
theorem get?_keep (cache : Cache) (key other : Path) (entry : CacheEntry) :
    (cache.keep key entry).entries.get? other =
      if other = key then some entry else cache.entries.get? other :=
  Table.get?_insert _ _ _ _

/-- Where there is no entry, dropping it changes nothing. -/
theorem drop_of_get?_eq_none (h : cache.entries.get? key = none) : cache.drop key = cache := by
  rw [drop, Table.erase_of_get?_eq_none h]

theorem drop_drop (cache : Cache) (key : Path) : (cache.drop key).drop key = cache.drop key :=
  drop_of_get?_eq_none (by rw [get?_drop, if_pos rfl])

/-- Dropping an entry leaves no others than were there. -/
theorem get?_of_get?_drop (h : (cache.drop key).entries.get? other = some entry) :
    cache.entries.get? other = some entry := by
  rw [get?_drop] at h
  split at h
  · cases h
  · exact h

/-- Invalidating a path drops the entry under its absolute form. -/
theorem invalidate_fst (cache : Cache) (store : FileStore) (path : Path) :
    (cache.invalidate store path).1 = cache.drop (store.absolute path) := by
  unfold invalidate
  dsimp only
  split
  · rfl
  · rename_i hcontains
    rw [drop_of_get?_eq_none]
    rwa [Table.contains_eq_isSome, Option.not_isSome_iff_eq_none] at hcontains

/-! ## Looking up -/

/-- The path has no entry, or a stale one. -/
def Misses (cache : Cache) (store : FileStore) (path : Path) : Prop :=
  ∀ entry, cache.entries.get? (store.absolute path) = some entry →
    ∃ now, fingerprint store path = .ok now ∧ now ≠ entry.fingerprint

/-- An entry that misses bears another fingerprint than the file, which can be read. -/
theorem Misses.fingerprint_ne (h : cache.Misses store path)
    (hfound : cache.entries.get? (store.absolute path) = some entry) :
    fingerprint store path ≠ .ok entry.fingerprint ∧
      ∀ fault, fingerprint store path ≠ .error fault := by
  obtain ⟨now, hnow, hne⟩ := h entry hfound
  rw [hnow]
  exact ⟨fun heq => hne (Except.ok.inj heq), fun _ => nofun⟩

/-- The courses of looking up an edition. -/
inductive Lookup (cache : Cache) (store : FileStore) (path : Path) :
    Cache × Except CacheFault (Option Edition) → Prop
  /-- There is no edition to be handed out, and none is left. -/
  | missed (misses : cache.Misses store path) :
      Lookup cache store path (cache.drop (store.absolute path), .ok none)
  /-- Whether the entry is stale cannot be seen. -/
  | unreadable {entry : CacheEntry} {fault : FileFault}
      (found : cache.entries.get? (store.absolute path) = some entry)
      (unread : fingerprint store path = .error fault) :
      Lookup cache store path (cache, .error (.fetch (.file fault)))
  /-- The entry is that of the file now. -/
  | current {entry : CacheEntry} (found : cache.entries.get? (store.absolute path) = some entry)
      (now : fingerprint store path = .ok entry.fingerprint) :
      Lookup cache store path
        (cache.keep (store.absolute path) entry.used, .ok (some entry.edition))

/-- What looking a file up answers and leaves, by cases. -/
theorem lookup_get (cache : Cache) (store : FileStore) (path : Path) :
    Lookup cache store path (cache.get store path) := by
  unfold get
  dsimp only
  cases hfound : cache.entries.get? (store.absolute path) with
  | none =>
    -- Dropping what is not there changes nothing.
    have hmissed : Lookup cache store path (cache.drop (store.absolute path), .ok none) :=
      .missed fun entry hentry => by
        rw [hfound] at hentry
        cases hentry
    rw [drop_of_get?_eq_none hfound] at hmissed
    exact hmissed
  | some entry =>
    dsimp only
    cases hnow : fingerprint store path with
    | error fault => exact .unreadable hfound hnow
    | ok now =>
      dsimp only
      split
      · rename_i hstale
        -- The entry is the one that was found, and its fingerprint is out of date.
        refine .missed fun other hother => ⟨now, hnow, ?_⟩
        cases hfound.symm.trans hother
        exact Ne.symm hstale
      · rename_i hcurrent
        rw [ne_eq, Decidable.not_not] at hcurrent
        exact .current hfound (hcurrent ▸ hnow)

/-- Where there is no current entry, looking up gives nothing and leaves nothing. -/
theorem get_of_misses (h : cache.Misses store path) :
    cache.get store path = (cache.drop (store.absolute path), .ok none) := by
  have hlookup := lookup_get cache store path
  generalize cache.get store path = result at hlookup
  cases hlookup with
  | missed => rfl
  | unreadable found unread => exact absurd unread ((h.fingerprint_ne found).2 _)
  | current found now => exact absurd now (h.fingerprint_ne found).1

/-- An entry that is kept is handed out while it is current. -/
theorem get_keep (cache : Cache) (entry : CacheEntry)
    (hnow : fingerprint store path = .ok entry.fingerprint) :
    ((cache.keep (store.absolute path) entry).get store path).2 = .ok (some entry.edition) := by
  have hfound : (cache.keep (store.absolute path) entry).entries.get? (store.absolute path) =
      some entry := by
    rw [get?_keep, if_pos rfl]
  simp [get, hfound, hnow]

/-! ## Making room -/

/-- Making room takes entries away and changes nothing else. -/
theorem makeRoom_frame (h : cache.makeRoom key = .ok room) :
    ∃ entries, room = { cache with entries } ∧
      ∀ other entry, entries.get? other = some entry → cache.entries.get? other = some entry := by
  have hevict : ∃ entries, cache.evict = { cache with entries } ∧
      ∀ other entry, entries.get? other = some entry →
        cache.entries.get? other = some entry := by
    unfold evict
    split
    · exact ⟨_, rfl, fun _ _ h => h⟩
    · exact ⟨_, rfl, fun _ _ => get?_of_get?_drop⟩
  unfold makeRoom at h
  split at h
  · cases h
    exact ⟨_, rfl, fun _ _ h => h⟩
  · split at h
    · cases h
    · cases h
      split
      · exact hevict
      · exact ⟨_, rfl, fun _ _ h => h⟩

/-- There is no room only if the limit is no number. -/
theorem makeRoom_eq_error {fault : CacheFault} (h : cache.makeRoom key = .error fault) :
    cache.limit = none ∧ fault = .badLimit := by
  unfold makeRoom at h
  split at h
  · cases h
  · split at h
    · rename_i hlimit
      cases h
      exact ⟨hlimit, rfl⟩
    · cases h

/-- The courses of storing an edition. -/
inductive Storing (cache : Cache) (store : FileStore) (path : Path) (edition : Edition) :
    Cache × Except CacheFault Unit → Prop
  /-- There is no room for it. -/
  | crowded {fault : CacheFault} (full : cache.makeRoom (store.absolute path) = .error fault) :
      Storing cache store path edition (cache, .error fault)
  /-- Room is made, but there is no telling what is in the file. -/
  | unreadable {room : Cache} {fault : FileFault}
      (free : cache.makeRoom (store.absolute path) = .ok room)
      (unread : fingerprint store path = .error fault) :
      Storing cache store path edition (room, .error (.fetch (.file fault)))
  /-- It is stored with the fingerprint of the file now. -/
  | stored {room : Cache} {now : String}
      (free : cache.makeRoom (store.absolute path) = .ok room)
      (read : fingerprint store path = .ok now) :
      Storing cache store path edition (room.keep (store.absolute path) ⟨edition, now, 0⟩, .ok ())

/-- What storing an edition answers and leaves, by cases. -/
theorem storing_set (cache : Cache) (store : FileStore) (path : Path) (edition : Edition) :
    Storing cache store path edition (cache.set store path edition) := by
  unfold set
  dsimp only
  cases hroom : cache.makeRoom (store.absolute path) with
  | error fault => exact .crowded hroom
  | ok room =>
    dsimp only
    cases hnow : fingerprint store path with
    | error fault => exact .unreadable hroom hnow
    | ok now => exact .stored hroom hnow

/-! ## Looking up or loading -/

/-- The cache without the entry of a key, counting an edition of a base that was loaded. -/
def counted (cache : Cache) (key : Path) : Cache :=
  { cache.drop key with editions := cache.editions + 1 }

variable [Encodings]

/-- The courses of looking up an edition and loading it if it is not there. -/
inductive Request (cache : Cache) (store : FileStore) (path : Path) :
    Cache × Except CacheFault Edition → Prop
  /-- Whether the entry is stale cannot be seen. -/
  | unreadable {entry : CacheEntry} {fault : FileFault}
      (found : cache.entries.get? (store.absolute path) = some entry)
      (unread : fingerprint store path = .error fault) :
      Request cache store path (cache, .error (.fetch (.file fault)))
  /-- The entry is that of the file now. -/
  | current {entry : CacheEntry} (found : cache.entries.get? (store.absolute path) = some entry)
      (now : fingerprint store path = .ok entry.fingerprint) :
      Request cache store path (cache.keep (store.absolute path) entry.used, .ok entry.edition)
  /-- No base is loaded. -/
  | unfetched {fault : FetchFault} (misses : cache.Misses store path)
      (failed : fetchBase cache.keywords cache.encoding store path = .error fault) :
      Request cache store path (cache.drop (store.absolute path), .error (.fetch fault))
  /-- A base is loaded, but there is no room for it. -/
  | crowded {base : Base} {fault : CacheFault} (misses : cache.Misses store path)
      (fetched : fetchBase cache.keywords cache.encoding store path = .ok base)
      (full : (cache.counted (store.absolute path)).makeRoom (store.absolute path) = .error fault) :
      Request cache store path (cache.counted (store.absolute path), .error fault)
  /-- A base is loaded and stored. -/
  | loaded {base : Base} {bytes : List UInt8} {room : Cache} (misses : cache.Misses store path)
      (read : store.readBytes path = .ok bytes)
      (meaning : ReadAs cache.keywords cache.encoding bytes base)
      (free : (cache.counted (store.absolute path)).makeRoom (store.absolute path) = .ok room) :
      Request cache store path
        (room.keep (store.absolute path) ⟨⟨cache.editions, base⟩, Digest.fingerprint bytes, 0⟩,
          .ok ⟨cache.editions, base⟩)

/-- What a request for a file answers and leaves, by cases. -/
theorem request_getOrLoad (cache : Cache) (store : FileStore) (path : Path) :
    Request cache store path (cache.getOrLoad store path) := by
  have hlookup := lookup_get cache store path
  unfold getOrLoad
  generalize cache.get store path = result at hlookup
  cases hlookup with
  | unreadable found unread => exact .unreadable found unread
  | current found now => exact .current found now
  | missed misses =>
    dsimp only
    generalize hfetch : fetchBase (cache.drop (store.absolute path)).keywords
      (cache.drop (store.absolute path)).encoding store path = fetched
    cases fetched with
    | error fault => exact .unfetched misses hfetch
    | ok base =>
      obtain ⟨bytes, hbytes, hmeaning⟩ := fetchBase_eq_ok_iff.1 hfetch
      have hmade : (cache.drop (store.absolute path)).makeEdition base =
          (⟨cache.editions, base⟩, cache.counted (store.absolute path)) := rfl
      simp only [hmade, set]
      cases hroom : (cache.counted (store.absolute path)).makeRoom (store.absolute path) with
      | error fault => exact .crowded misses hfetch hroom
      | ok room =>
        -- The file was read, so its fingerprint is taken without a fault.
        simp only [fingerprint_of_readBytes hbytes]
        exact .loaded misses hbytes hmeaning hroom

/-- Without a current entry, a request fails if no base is read. -/
theorem getOrLoad_of_fetchBase_eq_error {fault : FetchFault} (hmisses : cache.Misses store path)
    (hfetch : fetchBase cache.keywords cache.encoding store path = .error fault) :
    cache.getOrLoad store path = (cache.drop (store.absolute path), .error (.fetch fault)) := by
  have hrequest := request_getOrLoad cache store path
  generalize cache.getOrLoad store path = result at hrequest
  cases hrequest with
  | unreadable found unread => exact absurd unread ((hmisses.fingerprint_ne found).2 _)
  | current found now => exact absurd now (hmisses.fingerprint_ne found).1
  | unfetched misses failed =>
    cases failed.symm.trans hfetch
    rfl
  | crowded misses fetched full => exact nomatch fetched.symm.trans hfetch
  | loaded misses read meaning free =>
    exact nomatch (fetchBase_eq_ok_iff.2 ⟨_, read, meaning⟩).symm.trans hfetch

/-- Without a current entry, a request gives the base that is read now, or the fault of reading
it. -/
theorem base_getOrLoad_of_misses (hlimit : cache.limit ≠ none)
    (hmisses : cache.Misses store path) : (cache.getOrLoad store path).2.map Edition.base =
      (fetchBase cache.keywords cache.encoding store path).mapError CacheFault.fetch := by
  have hrequest := request_getOrLoad cache store path
  generalize cache.getOrLoad store path = result at hrequest
  cases hrequest with
  | unreadable found unread => exact absurd unread ((hmisses.fingerprint_ne found).2 _)
  | current found now => exact absurd now (hmisses.fingerprint_ne found).1
  | unfetched misses failed =>
    rw [failed]
    rfl
  | crowded misses fetched full => exact absurd (makeRoom_eq_error full).1 hlimit
  | loaded misses read meaning free =>
    rw [fetchBase_eq_ok_iff.2 ⟨_, read, meaning⟩]
    rfl

/-- So does a request to a cache without entries. -/
theorem base_getOrLoad_new (limit : Int) (keywords : Keywords) (encoding : Datum)
    (store : FileStore) (path : Path) :
    ((new (some limit) keywords encoding).getOrLoad store path).2.map Edition.base =
      (fetchBase keywords encoding store path).mapError CacheFault.fetch :=
  base_getOrLoad_of_misses (Option.some_ne_none limit) fun _ hfound => nomatch hfound

end Cache

end RuleConsult
