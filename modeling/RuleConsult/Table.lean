/-!
# Tables

A table maps keys to values and remembers the order in which the keys were first stored. Storing a
value under a key that is present replaces the value and leaves the key in its place; a new key goes
to the end. Every key occurs once, which is part of the type.

Facts, texts bound to categories, indexes of a rule base and stored bases are all tables.
-/

namespace RuleConsult

variable {κ α : Type}

/-! ## The type -/

/-- A finite map that keeps its keys in the order of their first insertion. -/
structure Table (κ α : Type) where
  /-- The keys with their values, in order. -/
  entries : List (κ × α)
  /-- No key occurs twice. -/
  keys_nodup : (entries.map Prod.fst).Nodup

namespace Table

/-- Two tables with the same entries are the same. -/
@[ext]
theorem ext {s t : Table κ α} (h : s.entries = t.entries) : s = t := by
  cases s; cases t; cases h; rfl

instance [DecidableEq κ] [DecidableEq α] : DecidableEq (Table κ α) := fun s t =>
  if h : s.entries = t.entries then isTrue (Table.ext h) else isFalse fun e => h (e ▸ rfl)

/-- The table without entries. -/
def empty : Table κ α := ⟨[], List.nodup_nil⟩

instance : Inhabited (Table κ α) := ⟨empty⟩

/-- The keys in order. -/
def keys (t : Table κ α) : List κ := t.entries.map Prod.fst

/-- The values in the order of their keys. -/
def values (t : Table κ α) : List α := t.entries.map Prod.snd

/-- The number of entries. -/
def size (t : Table κ α) : Nat := t.entries.length

@[simp]
theorem keys_empty : (empty : Table κ α).keys = [] := rfl

end Table

variable [DecidableEq κ]

/-! ## Storing in a list of entries -/

/-- The entries with `value` under `key`: in the key's place if it occurs, else at the end. -/
def putEntry (key : κ) (value : α) : List (κ × α) → List (κ × α)
  | [] => [(key, value)]
  | entry :: rest =>
    if entry.1 = key then (key, value) :: rest else entry :: putEntry key value rest

/-- The keys after storing: unchanged if the key occurs, else with the key at the end. -/
theorem map_fst_putEntry (key : κ) (value : α) (entries : List (κ × α)) :
    (putEntry key value entries).map Prod.fst =
      if key ∈ entries.map Prod.fst then entries.map Prod.fst
      else entries.map Prod.fst ++ [key] := by
  induction entries with
  | nil => simp [putEntry]
  | cons entry rest ih =>
    by_cases h : entry.1 = key
    · simp [putEntry, h]
    · have h' : key ≠ entry.1 := fun e => h e.symm
      simp only [putEntry, if_neg h, List.map_cons, List.mem_cons, h', false_or, ih]
      split <;> simp

/-- Storing keeps every key single. -/
theorem nodup_putEntry (key : κ) (value : α) {entries : List (κ × α)}
    (h : (entries.map Prod.fst).Nodup) : ((putEntry key value entries).map Prod.fst).Nodup := by
  rw [map_fst_putEntry]
  split
  · exact h
  · rename_i hmem
    rw [List.nodup_append]
    refine ⟨h, by simp, ?_⟩
    intro a ha b hb
    simp only [List.mem_singleton] at hb
    subst hb
    exact fun e => hmem (e ▸ ha)

/-! ## Operations -/

namespace Table

/-- The value under a key. -/
def get? (t : Table κ α) (key : κ) : Option α :=
  (t.entries.find? fun entry => entry.1 = key).map Prod.snd

/-- Whether the key occurs. -/
def contains (t : Table κ α) (key : κ) : Bool :=
  t.entries.any fun entry => entry.1 = key

/-- Stores a value under a key. -/
def insert (t : Table κ α) (key : κ) (value : α) : Table κ α :=
  ⟨putEntry key value t.entries, nodup_putEntry key value t.keys_nodup⟩

/-- Removes a key and its value. -/
def erase (t : Table κ α) (key : κ) : Table κ α :=
  ⟨t.entries.filter fun entry => entry.1 ≠ key,
    t.keys_nodup.sublist ((List.filter_sublist).map Prod.fst)⟩

/-- Stores all entries in order: a repeated key keeps its first place and its last value. -/
def insertMany (t : Table κ α) (entries : List (κ × α)) : Table κ α :=
  entries.foldl (fun t entry => t.insert entry.1 entry.2) t

/-- The table of a list of entries. -/
def ofList (entries : List (κ × α)) : Table κ α :=
  empty.insertMany entries

/-- The same map: equally many entries, and under every key of one the value of the other. Order is
disregarded. -/
def sameMap (same : α → α → Bool) (s t : Table κ α) : Bool :=
  s.size == t.size &&
    s.entries.all fun entry =>
      match t.get? entry.1 with
      | some value => same entry.2 value
      | none => false

/-! ## Reading what was stored -/

@[simp]
theorem get?_empty (key : κ) : (empty : Table κ α).get? key = none := rfl

theorem keys_insert (t : Table κ α) (key : κ) (value : α) :
    (t.insert key value).keys = if key ∈ t.keys then t.keys else t.keys ++ [key] :=
  map_fst_putEntry key value t.entries

private theorem find?_putEntry (key other : κ) (value : α) (entries : List (κ × α)) :
    ((putEntry key value entries).find? fun entry => entry.1 = other).map Prod.snd =
      if other = key then some value
      else (entries.find? fun entry => entry.1 = other).map Prod.snd := by
  induction entries with
  -- The new entry is the only one.
  | nil =>
    by_cases h : other = key
    · simp [putEntry, h]
    · have h' : key ≠ other := fun e => h e.symm
      simp [putEntry, h, h']
  | cons entry rest ih =>
    by_cases hk : entry.1 = key
    · by_cases ho : other = key
      · simp [putEntry, hk, ho]
      · have h' : key ≠ other := fun e => ho e.symm
        simp [putEntry, hk, ho, h']
    · simp only [putEntry, if_neg hk, List.find?_cons]
      by_cases he : entry.1 = other
      · have : other ≠ key := fun e => hk (he.trans e)
        simp [he, this]
      · simp [he, ih]

/-- A table read after storing: the new value under its key, the old value under every other. -/
theorem get?_insert (t : Table κ α) (key other : κ) (value : α) :
    (t.insert key value).get? other = if other = key then some value else t.get? other :=
  find?_putEntry key other value t.entries

@[simp]
theorem get?_insert_self (t : Table κ α) (key : κ) (value : α) :
    (t.insert key value).get? key = some value := by
  simp [get?_insert]

/-- A key occurs exactly when a value is found under it. -/
theorem contains_eq_isSome (t : Table κ α) (key : κ) :
    t.contains key = (t.get? key).isSome := by
  rw [Bool.eq_iff_iff]
  simp [contains, get?]

/-- A key occurs exactly when it is one of the keys. -/
theorem contains_iff_mem_keys (t : Table κ α) (key : κ) :
    t.contains key = true ↔ key ∈ t.keys := by
  simp [contains, keys]

end Table

end RuleConsult
