import RuleConsult.Text.Space
import Mathlib.Data.List.DropRight
import Mathlib.Data.List.TakeWhile

/-!
# Runs of characters

A text is taken apart by runs of characters of a class. A run ends where the class *stops*, so what
stands behind that place has no influence on the run. Trimming takes the runs off both ends.
-/

namespace RuleConsult.Text

/-! ## Ends of runs -/

/-- The text begins with no character of the class. -/
def Stops (member : Char → Bool) (text : List Char) : Prop :=
  ∀ c ∈ text.head?, member c = false

/-- The end of a text ends a run. -/
@[simp]
theorem stops_nil (member : Char → Bool) : Stops member [] := by
  simp [Stops]

/-- Only the first character matters. -/
@[simp]
theorem stops_cons {member : Char → Bool} {c : Char} {text : List Char} :
    Stops member (c :: text) ↔ member c = false := by
  simp [Stops]

/-- What ends runs in front of a text that does ends them. -/
theorem stops_append {member : Char → Bool} {xs ys : List Char} (hxs : Stops member xs)
    (hys : Stops member ys) : Stops member (xs ++ ys) := by
  cases xs with
  | nil => exact hys
  | cons c xs => simpa using hxs

/-- What stands behind a text that is not empty makes no difference. -/
theorem stops_append_iff {member : Char → Bool} {xs : List Char} (hne : xs ≠ [])
    (ys : List Char) : Stops member (xs ++ ys) ↔ Stops member xs := by
  cases xs with
  | nil => exact absurd rfl hne
  | cons c xs => simp

/-- A smaller class stops where a larger one does. -/
theorem Stops.mono {small large : Char → Bool} {text : List Char} (h : Stops large text)
    (hsub : ∀ c, small c = true → large c = true) : Stops small text := by
  intro c hc
  by_contra hmem
  rw [Bool.not_eq_false] at hmem
  have := h c hc
  rw [hsub c hmem] at this
  cases this

/-- A run is as long as can be. -/
theorem stops_dropWhile (member : Char → Bool) (text : List Char) :
    Stops member (text.dropWhile member) := by
  intro c hc
  have := List.head?_dropWhile_not member text
  rw [hc] at this
  simpa using this

/-- Where a run ends none begins. -/
theorem takeWhile_eq_nil {member : Char → Bool} {text : List Char} (h : Stops member text) :
    text.takeWhile member = [] := by
  cases text with
  | nil => rfl
  | cons c text => simp [stops_cons.1 h]

/-- Where no run begins, nothing is dropped. -/
theorem dropWhile_eq_self {member : Char → Bool} {text : List Char} (h : Stops member text) :
    text.dropWhile member = text := by
  cases text with
  | nil => rfl
  | cons c text => simp [stops_cons.1 h]

/-- A run does not go on behind a place where its class stops. -/
theorem takeWhile_append_of_stops {member : Char → Bool} {tail : List Char} (xs : List Char)
    (h : Stops member tail) : (xs ++ tail).takeWhile member = xs.takeWhile member := by
  rw [List.takeWhile_append, takeWhile_eq_nil h]
  split
  · rename_i hlen
    rw [List.append_nil, (List.takeWhile_prefix member).eq_of_length hlen]
  · rfl

/-- In front of a text that ends runs, a run is dropped as it is without the text. -/
theorem dropWhile_append_of_stops {member : Char → Bool} {tail : List Char} (xs : List Char)
    (h : Stops member tail) : (xs ++ tail).dropWhile member = xs.dropWhile member ++ tail := by
  rw [List.dropWhile_append, dropWhile_eq_self h]
  split
  · rename_i hempty
    rw [List.isEmpty_iff.1 hempty, List.nil_append]
  · rfl

/-! ## Trimming -/

variable {p : Char → Bool} {xs : List Char}

theorem trimList_eq (p : Char → Bool) (xs : List Char) :
    trimList p xs = (xs.dropWhile p).rdropWhile p := rfl

/-- A trimmed text begins with nothing that is trimmed. -/
theorem stops_trimList (p : Char → Bool) (xs : List Char) : Stops p (trimList p xs) := by
  intro c hc
  obtain ⟨pad, hpad⟩ := List.rdropWhile_prefix p (l := xs.dropWhile p)
  apply stops_dropWhile p xs c
  rw [← hpad, List.head?_append]
  rw [trimList_eq] at hc
  rw [hc]
  rfl

/-- A trimmed text ends with nothing that is trimmed, either. -/
theorem stops_reverse_trimList (p : Char → Bool) (xs : List Char) :
    Stops p (trimList p xs).reverse := by
  rw [trimList, List.reverse_reverse]
  exact stops_dropWhile _ _

/-- Trimming once is enough. -/
theorem trimList_trimList (p : Char → Bool) (xs : List Char) :
    trimList p (trimList p xs) = trimList p xs := by
  rw [trimList_eq p (trimList p xs), dropWhile_eq_self (stops_trimList p xs), trimList_eq,
    List.rdropWhile_idempotent]

/-- A text with nothing to trim at its beginning is its trimmed form and what was trimmed. -/
theorem exists_append_of_trimList (h : Stops p xs) :
    ∃ pad, xs = trimList p xs ++ pad ∧ ∀ c ∈ pad, p c = true := by
  refine ⟨xs.rtakeWhile p, ?_, fun c hc => List.mem_rtakeWhile_imp hc⟩
  rw [trimList_eq, dropWhile_eq_self h, List.rdropWhile_append_rtakeWhile]

end RuleConsult.Text
