/-!
# Attempts

An attempt to read a form at the beginning of a text either succeeds, with a value and the rest of
the text, or fails. In both cases it also tells at which places it would have gone on with something
else: these *misses* say, if everything fails, how far the reading got and what was expected there.

A place in a text is given by what is left of the text from there on. So an attempt depends on the
text before it in no way, and places are turned into numbers once, by whoever knows the whole text.
-/

namespace RuleConsult

/-- What a form may lack. -/
inductive Expected where
  | ruleNumber
  | keyword (word : String)
  | category
  | hyphen
  | value
  deriving DecidableEq, Repr

/-- The wording of what was expected. -/
def Expected.describe : Expected → String
  | .ruleNumber => "número da regra"
  | .keyword word => "'" ++ word ++ "'"
  | .category => "categoria"
  | .hyphen => "'-'"
  | .value => "valor"

/-- A place, given by the text from there on, at which something expected was not found. -/
structure Miss where
  rest : List Char
  expected : Expected
  deriving DecidableEq, Repr

/-- The result of trying to read a form. -/
structure Attempt (α : Type) where
  /-- What was missed on the way, in the order of discovery. -/
  misses : List Miss
  /-- The value read and the rest of the text. -/
  result : Option (α × List Char)

namespace Attempt

variable {α β : Type}

/-- Success without a miss. -/
def read (value : α) (rest : List Char) : Attempt α :=
  ⟨[], some (value, rest)⟩

/-- Failure for want of one thing. -/
def miss (expected : Expected) (rest : List Char) : Attempt α :=
  ⟨[⟨rest, expected⟩], none⟩

/-- Goes on with the value and the rest of a success. -/
def andThen (a : Attempt α) (next : α → List Char → Attempt β) : Attempt β :=
  match a.result with
  | none => ⟨a.misses, none⟩
  | some (value, rest) =>
    ⟨a.misses ++ (next value rest).misses, (next value rest).result⟩

/-- Tries another form, at the same place, in case of failure. -/
def orElse (a : Attempt α) (other : Unit → Attempt α) : Attempt α :=
  match a.result with
  | some success => ⟨a.misses, some success⟩
  | none => ⟨a.misses ++ (other ()).misses, (other ()).result⟩

/-- The attempt, if it succeeds, uses up part of the given text. -/
def Consumes (a : Attempt α) (text : List Char) : Prop :=
  ∀ value rest, a.result = some (value, rest) → rest.length < text.length

@[simp]
theorem result_read (value : α) (rest : List Char) :
    (read value rest).result = some (value, rest) := rfl

@[simp]
theorem result_miss (expected : Expected) (rest : List Char) :
    (miss expected rest : Attempt α).result = none := rfl

theorem result_andThen (a : Attempt α) (next : α → List Char → Attempt β) :
    (a.andThen next).result = a.result.bind fun success => (next success.1 success.2).result := by
  unfold andThen
  cases h : a.result <;> rfl

theorem result_orElse (a : Attempt α) (other : Unit → Attempt α) :
    (a.orElse other).result = a.result.or (other ()).result := by
  unfold orElse
  cases h : a.result <;> rfl

/-- A sequence of forms uses up text if its first form does and the others give none back. -/
theorem Consumes.andThen {a : Attempt α} {next : α → List Char → Attempt β} {text : List Char}
    (ha : a.Consumes text)
    (hnext : ∀ value rest out left, (next value rest).result = some (out, left) →
      left.length ≤ rest.length) :
    (a.andThen next).Consumes text := by
  intro out left h
  rw [result_andThen] at h
  obtain ⟨⟨value, rest⟩, hread, hstep⟩ := Option.bind_eq_some_iff.1 h
  exact Nat.lt_of_le_of_lt (hnext value rest out left hstep) (ha value rest hread)

/-- A choice of forms uses up text if each of them does. -/
theorem Consumes.orElse {a : Attempt α} {other : Unit → Attempt α} {text : List Char}
    (ha : a.Consumes text) (hother : (other ()).Consumes text) :
    (a.orElse other).Consumes text := by
  intro value rest h
  rw [result_orElse] at h
  cases hread : a.result with
  | none => rw [hread, Option.none_or] at h; exact hother value rest h
  | some success =>
    rw [hread, Option.some_or] at h
    exact ha value rest (hread.trans h)

end Attempt

end RuleConsult
