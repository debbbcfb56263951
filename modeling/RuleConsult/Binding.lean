import RuleConsult.Keywords
import RuleConsult.Table

/-!
# Bindings

A binding gives a category a text: the question that is asked for its value, a readable label, or a
tip. A rule base holds at most one binding of each kind for a category.
-/

namespace RuleConsult

/-- What the text of a binding is for. -/
inductive BindingKind where
  /-- The question asked when the value of the category is not known. -/
  | advice
  /-- A readable label of the category. -/
  | translation
  /-- A hint shown with questions and conclusions. -/
  | tip
  deriving DecidableEq, Repr, Inhabited

/-- The name of a kind in messages. -/
def BindingKind.name : BindingKind → String
  | .advice => "advice"
  | .translation => "translation"
  | .tip => "tip"

/-- The keyword that begins a binding of the kind. -/
def BindingKind.word (keywords : Keywords) : BindingKind → String
  | .advice => keywords.words.question
  | .translation => keywords.words.translation
  | .tip => keywords.words.tip

/-- A text for a category. -/
structure Binding where
  kind : BindingKind
  category : String
  text : String
  /-- The line on which the binding was written, if it was read from a text. -/
  line : Option Int
  deriving DecidableEq, Repr, Inhabited

namespace Binding

/-- The same binding, whatever line it was written on. -/
def same (a b : Binding) : Bool :=
  a.kind == b.kind && a.category == b.category && a.text == b.text

/-- The written form of a binding. An empty text is left out. -/
def toText (keywords : Keywords) (binding : Binding) : String :=
  let head := binding.kind.word keywords ++ " " ++ binding.category
  if binding.text.isEmpty then head else head ++ " " ++ binding.text

end Binding

/-- The bindings of one kind: a table from categories to bindings of that category. -/
structure BindingTable where
  table : Table String Binding
  /-- Every binding is found under its own category. -/
  keyed : ∀ entry ∈ table.entries, entry.2.category = entry.1

namespace BindingTable

instance : DecidableEq BindingTable := fun s t =>
  if h : s.table = t.table then isTrue (by cases s; cases t; cases h; rfl)
  else isFalse fun e => h (e ▸ rfl)

/-- No bindings. -/
def empty : BindingTable := ⟨Table.empty, by simp [Table.empty]⟩

instance : Inhabited BindingTable := ⟨empty⟩

private theorem keyed_putEntry (binding : Binding) {entries : List (String × Binding)}
    (h : ∀ entry ∈ entries, entry.2.category = entry.1) :
    ∀ entry ∈ putEntry binding.category binding entries, entry.2.category = entry.1 := by
  induction entries with
  | nil => simp [putEntry]
  | cons first rest ih =>
    intro entry hmem
    by_cases hk : first.1 = binding.category
    · simp only [putEntry, if_pos hk, List.mem_cons] at hmem
      rcases hmem with rfl | hmem
      · rfl
      · exact h entry (List.mem_cons_of_mem _ hmem)
    · simp only [putEntry, if_neg hk, List.mem_cons] at hmem
      rcases hmem with rfl | hmem
      · exact h entry List.mem_cons_self
      · exact ih (fun e he => h e (List.mem_cons_of_mem _ he)) entry hmem

/-- Stores a binding under its category. -/
def insert (bindings : BindingTable) (binding : Binding) : BindingTable :=
  ⟨bindings.table.insert binding.category binding, keyed_putEntry binding bindings.keyed⟩

/-- The table of a list of bindings: a category that is bound twice keeps its first place and takes
the last binding. -/
def ofList (bindings : List Binding) : BindingTable :=
  bindings.foldl insert empty

/-- The bindings in order. -/
def toList (bindings : BindingTable) : List Binding := bindings.table.values

/-- The bound categories in order. -/
def categories (bindings : BindingTable) : List String := bindings.table.keys

/-- The number of bindings. -/
def size (bindings : BindingTable) : Nat := bindings.table.size

/-- Whether the category is bound. -/
def contains (bindings : BindingTable) (category : String) : Bool :=
  bindings.table.contains category

/-- The text bound to the category. -/
def text? (bindings : BindingTable) (category : String) : Option String :=
  (bindings.table.get? category).map Binding.text

/-- The same bindings, whatever their order and lines. -/
def same (s t : BindingTable) : Bool :=
  s.table.sameMap Binding.same t.table

end BindingTable

end RuleConsult
