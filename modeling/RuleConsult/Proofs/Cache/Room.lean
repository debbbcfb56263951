import RuleConsult.Proofs.Cache.Calls

/-!
# Room for an entry

A full cache makes room by taking one entry away: of those with the fewest hits, the first in the
order of the cache. After that there is room, even in a cache whose limit is below one, as it is
empty then.

* `IsFirstLeast.foldl`: what the scan for the fewest hits ends with;
* `Evicts`: what is left when it is taken away;
* `Cache.room_of_makeRoom`: the courses of making room;
* `Cache.Room.eq_self`, `Cache.Room.evicts`: what making room takes away;
* `Cache.Room.size_keep_le`: where room was made an entry can be stored.
-/

namespace RuleConsult

/-! ## The first of the least -/

/-- The first of the items with the least weight, with the items before it and behind it. -/
structure IsFirstLeast {α : Type} (weight : α → Nat) (items before : List α) (first : α)
    (later : List α) : Prop where
  split : items = before ++ first :: later
  heavier : ∀ item ∈ before, weight first < weight item
  least : ∀ item ∈ later, weight first ≤ weight item

namespace IsFirstLeast

variable {α : Type} {weight other : α → Nat} {items before later : List α} {first : α}

/-- No item is lighter than the first of the least. -/
theorem le (h : IsFirstLeast weight items before first later) {item : α} (hitem : item ∈ items) :
    weight first ≤ weight item := by
  rw [h.split, List.mem_append, List.mem_cons] at hitem
  rcases hitem with hbefore | rfl | hlater
  · exact Nat.le_of_lt (h.heavier item hbefore)
  · exact Nat.le_refl _
  · exact h.least item hlater

/-- Weights that are the same for the items pick out the same one. -/
theorem congr (h : IsFirstLeast weight items before first later)
    (hsame : ∀ item ∈ items, weight item = other item) :
    IsFirstLeast other items before first later := by
  rw [h.split] at hsame
  have hfirst := hsame first (List.mem_append_right _ List.mem_cons_self)
  constructor
  case split => exact h.split
  case heavier =>
    intro item hitem
    rw [← hfirst, ← hsame item (List.mem_append_left _ hitem)]
    exact h.heavier item hitem
  case least =>
    intro item hitem
    rw [← hfirst, ← hsame item (List.mem_append_right _ (List.mem_cons_of_mem _ hitem))]
    exact h.least item hitem

/-- An item that is not lighter than the one before it changes nothing. -/
theorem insert {best item : α} (h : IsFirstLeast weight (best :: items) before first later)
    (hitem : weight best ≤ weight item) :
    ∃ before later, IsFirstLeast weight (best :: item :: items) before first later := by
  have hsplit := h.split
  cases before with
  | nil =>
    rw [List.nil_append, List.cons.injEq] at hsplit
    obtain ⟨rfl, rfl⟩ := hsplit
    exact ⟨[], item :: items, rfl, h.heavier, List.forall_mem_cons.2 ⟨hitem, h.least⟩⟩
  | cons kept before =>
    rw [List.cons_append, List.cons.injEq] at hsplit
    obtain ⟨rfl, hitems⟩ := hsplit
    obtain ⟨hbest, hbefore⟩ := List.forall_mem_cons.1 h.heavier
    refine ⟨best :: item :: before, later, congrArg (best :: item :: ·) hitems, ?_, h.least⟩
    rw [List.forall_mem_cons, List.forall_mem_cons]
    exact ⟨hbest, Nat.lt_of_lt_of_le hbest hitem, hbefore⟩

/-- A scan that changes to lighter items only ends with the first of the least. -/
theorem foldl (weight : α → Nat) (best : α) (items : List α) : ∃ before later,
    IsFirstLeast weight (best :: items) before
      (items.foldl (fun best item => if weight item < weight best then item else best) best)
      later := by
  induction items generalizing best with
  | nil => exact ⟨[], [], rfl, by simp, by simp⟩
  | cons item items ih =>
    rw [List.foldl_cons]
    split
    · rename_i hlighter
      obtain ⟨before, later, h⟩ := ih item
      refine ⟨best :: before, later, congrArg (best :: ·) h.split, ?_, h.least⟩
      rw [List.forall_mem_cons]
      exact ⟨Nat.lt_of_le_of_lt (h.le List.mem_cons_self) hlighter, h.heavier⟩
    · rename_i hnot
      obtain ⟨before, later, h⟩ := ih best
      exact h.insert (Nat.not_lt.1 hnot)

end IsFirstLeast

/-- What is left of items when the first of the least is taken away, if there are any. -/
inductive Evicts {α : Type} (weight : α → Nat) : List α → List α → Prop
  | none : Evicts weight [] []
  | one {items before later : List α} {first : α}
      (first : IsFirstLeast weight items before first later) :
      Evicts weight items (before ++ later)

/-- Weights that are the same for the items leave the same ones. -/
theorem Evicts.congr {α : Type} {weight other : α → Nat} {items left : List α}
    (h : Evicts weight items left) (hsame : ∀ item ∈ items, weight item = other item) :
    Evicts other items left := by
  cases h with
  | none => exact .none
  | one first => exact .one (first.congr hsame)

namespace Cache

variable {cache room : Cache} {key : Path} {entry : CacheEntry} {limit : Int}

/-! ## Entries under other keys -/

/-- The entries under the other keys, in their order. -/
def others (cache : Cache) (key : Path) : List (Path × CacheEntry) :=
  cache.entries.entries.filter fun entry => entry.1 ≠ key

/-- Dropping a key leaves the others alone. -/
theorem others_drop (cache : Cache) (key : Path) :
    (cache.drop key).others key = cache.others key := by
  simp [others, drop, Table.erase, List.filter_filter]

/-- Storing under a key leaves the others alone, and in their order. -/
theorem others_keep (cache : Cache) (key : Path) (entry : CacheEntry) :
    (cache.keep key entry).others key = cache.others key :=
  Table.filter_putEntry key entry cache.entries.entries

/-- Without an entry under the key, the others are all there are. -/
theorem others_of_get?_eq_none (h : cache.entries.get? key = none) :
    cache.others key = cache.entries.entries :=
  Table.filter_eq_self_of_not_mem (Table.get?_eq_none_iff.1 h)

/-- Dropping a key that is present makes room for one. -/
theorem size_drop_add_one (h : cache.entries.get? key = some entry) :
    (cache.drop key).size + 1 = cache.size := by
  obtain ⟨before, later, hsplit⟩ := List.append_of_mem (Table.get?_eq_some_iff.1 h)
  have herased := Table.entries_erase_of_split hsplit
  rw [size, Table.size, drop, herased, size, Table.size, hsplit]
  simp [Nat.add_assoc]

/-- A new key takes up room. -/
theorem size_keep_of_get?_eq_none (h : cache.entries.get? key = none) (entry : CacheEntry) :
    (cache.keep key entry).size = cache.size + 1 := by
  have hentries := Table.entries_insert_of_not_mem entry (Table.get?_eq_none_iff.1 h)
  rw [size, Table.size, keep, hentries, List.length_append]
  rfl

/-- A key that is overwritten takes up no more room. -/
theorem size_keep_of_get?_ne_none (h : cache.entries.get? key ≠ none) (entry : CacheEntry) :
    (cache.keep key entry).size = cache.size := by
  rw [ne_eq, Table.get?_eq_none_iff, Decidable.not_not] at h
  have hkeys := congrArg List.length (cache.entries.keys_insert key entry)
  rwa [if_pos h, Table.keys, Table.keys, List.length_map, List.length_map] at hkeys

theorem size_drop_le (cache : Cache) (key : Path) : (cache.drop key).size ≤ cache.size :=
  List.length_filter_le _ _

/-! ## Room for an entry -/

/-- The courses of making room in a cache with a limit. -/
inductive Room (cache : Cache) (limit : Int) (key : Path) : Cache → Prop
  /-- The key has an entry, which is overwritten. -/
  | present (found : cache.entries.get? key ≠ none) : Room cache limit key cache
  /-- There is room. -/
  | below (absent : cache.entries.get? key = none) (below : (cache.size : Int) < limit) :
      Room cache limit key cache
  /-- There is nothing that could be taken away. -/
  | vacant (absent : cache.entries.get? key = none) (full : limit ≤ cache.size)
      (vacant : cache.entries.entries = []) : Room cache limit key cache
  /-- The first of the entries with the fewest hits is taken away. -/
  | evicted {before later : List (Path × CacheEntry)} {victim : Path × CacheEntry}
      (absent : cache.entries.get? key = none) (full : limit ≤ cache.size)
      (first : IsFirstLeast (fun entry => entry.2.hits) cache.entries.entries before victim later) :
      Room cache limit key (cache.drop victim.1)

/-- Making room takes one of these courses. -/
theorem room_of_makeRoom (hlimit : cache.limit = some limit) (h : cache.makeRoom key = .ok room) :
    cache.Room limit key room := by
  unfold makeRoom at h
  rw [Table.contains_eq_isSome, hlimit] at h
  split at h
  · rename_i hfound
    cases h
    exact .present (Option.isSome_iff_ne_none.1 hfound)
  · rename_i habsent
    rw [Option.not_isSome_iff_eq_none] at habsent
    cases h
    split
    · rename_i hfull
      unfold evict
      cases hentries : cache.entries.entries with
      | nil => exact .vacant habsent hfull hentries
      | cons first rest =>
        -- The search keeps the first of the least ones.
        obtain ⟨before, later, hfirst⟩ :=
          IsFirstLeast.foldl (fun entry : Path × CacheEntry => entry.2.hits) first rest
        exact .evicted habsent hfull (hentries ▸ hfirst)
    · rename_i hbelow
      exact .below habsent (Int.not_le.1 hbelow)

theorem Room.size_le (h : cache.Room limit key room) : room.size ≤ cache.size := by
  cases h with
  | evicted => exact size_drop_le _ _
  | present | below | vacant => exact Nat.le_refl _

/-- Where nothing has to be taken away nothing is. -/
theorem Room.eq_self (h : cache.Room limit key room)
    (hnone : cache.entries.get? key = none → limit ≤ cache.size → cache.size = 0) :
    room = cache := by
  cases h with
  | present | below | vacant => rfl
  | evicted absent full first =>
    have hzero := hnone absent full
    rw [size, Table.size, first.split, List.length_append, List.length_cons] at hzero
    omega

/-- A full cache loses one entry to a new key, if it has any. -/
theorem Room.evicts (h : cache.Room limit key room) (habsent : cache.entries.get? key = none)
    (hfull : limit ≤ cache.size) :
    Evicts (fun entry => entry.2.hits) cache.entries.entries room.entries.entries := by
  cases h with
  | present found => exact absurd habsent found
  | below absent below => exact absurd hfull (Int.not_le.2 below)
  | vacant absent full vacant =>
    rw [vacant]
    exact .none
  | evicted absent full first =>
    rw [drop, Table.entries_erase_of_split first.split]
    exact .one first

/-- Making room for a key brings in no entry under it. -/
theorem Room.get?_eq_none (h : cache.Room limit key room)
    (habsent : cache.entries.get? key = none) : room.entries.get? key = none := by
  cases h with
  | present | below | vacant => exact habsent
  | evicted => rw [get?_drop, habsent, ite_self]

/-- Where room was made an entry can be stored. -/
theorem Room.size_keep_le (h : cache.Room limit key room)
    (hsize : (cache.size : Int) ≤ max 1 limit) (entry : CacheEntry) :
    ((room.keep key entry).size : Int) ≤ max 1 limit := by
  cases h with
  | present found => rwa [size_keep_of_get?_ne_none found]
  | below absent below =>
    rw [size_keep_of_get?_eq_none absent]
    omega
  | vacant absent full vacant =>
    -- The only entry there will be is within any limit.
    have hzero : cache.size = 0 := by rw [size, Table.size, vacant, List.length_nil]
    rw [size_keep_of_get?_eq_none absent, hzero]
    omega
  | @evicted before later victim absent full first =>
    -- One entry goes and one comes.
    have hvictim : cache.entries.get? victim.1 = some victim.2 :=
      Table.get?_eq_some_iff.2 (first.split ▸ List.mem_append_right _ List.mem_cons_self)
    have habsent : (cache.drop victim.1).entries.get? key = none :=
      (Room.evicted absent full first).get?_eq_none absent
    rwa [size_keep_of_get?_eq_none habsent, size_drop_add_one hvictim]

end Cache

end RuleConsult
