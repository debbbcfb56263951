import RuleConsult.Binding

/-!
# The six keywords

Keywords are given by roles: the word of every role is a token, and no two roles have the same word.
The words that begin bindings are the words of three of the roles.
-/

namespace RuleConsult

open Text

namespace Keywords

/-- The word of a role is a token. -/
theorem isToken_get (keywords : Keywords) (role : KeywordRole) :
    isToken (keywords.words.get role) = true := by
  apply keywords.tokens
  cases role <;> simp [Vocabulary.toList, KeywordRole.all]

/-- Different roles have different words. -/
theorem get_ne (keywords : Keywords) {a b : KeywordRole} (hne : a ≠ b) :
    keywords.words.get a ≠ keywords.words.get b := by
  have hdistinct := keywords.distinct
  simp only [Vocabulary.toList, KeywordRole.all, List.map_cons, List.map_nil, List.nodup_cons,
    List.mem_cons, List.not_mem_nil, or_false, not_or] at hdistinct
  obtain ⟨h₁, h₂, h₃, h₄, h₅, -⟩ := hdistinct
  cases a <;> cases b <;> simp_all [Vocabulary.get, eq_comm]

end Keywords

/-- Keywords some of which are numbers. -/
def numberedKeywords : Keywords :=
  ⟨⟨"if", "then", "and", "7", "8", "9"⟩, by decide +kernel, by decide +kernel⟩

/-- The role of the word that begins a binding. -/
def BindingKind.role : BindingKind → KeywordRole
  | .advice => .question
  | .translation => .translation
  | .tip => .tip

theorem BindingKind.role_injective : Function.Injective BindingKind.role := by
  intro a b h
  cases a <;> cases b <;> first | rfl | cases h

theorem BindingKind.word_eq_get (keywords : Keywords) (kind : BindingKind) :
    kind.word keywords = keywords.words.get kind.role := by
  cases kind <;> rfl

/-- Bindings of different kinds begin with different words. -/
theorem BindingKind.word_injective (keywords : Keywords) :
    Function.Injective (BindingKind.word keywords) := by
  intro a b h
  rw [a.word_eq_get, b.word_eq_get] at h
  refine Decidable.byContradiction fun hne => ?_
  exact keywords.get_ne (fun hrole => hne (BindingKind.role_injective hrole)) h

/-- The word that begins a binding is a token. -/
theorem BindingKind.isToken_word (keywords : Keywords) (kind : BindingKind) :
    isToken (kind.word keywords) = true := by
  rw [kind.word_eq_get]
  exact keywords.isToken_get _

end RuleConsult
