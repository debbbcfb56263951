import RuleConsult.Datum
import RuleConsult.Text.Word

/-!
# Keywords

A rule base is written with six keywords, which may be chosen freely as long as they are tokens and
differ from one another. The standard words are Russian.
-/

namespace RuleConsult

open Text

/-- What the six keywords are for. -/
inductive KeywordRole where
  | ruleIf
  | ruleThen
  | ruleAnd
  | question
  | translation
  | tip
  deriving DecidableEq, Repr

/-- All roles, in the order in which words are listed and checked. -/
def KeywordRole.all : List KeywordRole :=
  [.ruleIf, .ruleThen, .ruleAnd, .question, .translation, .tip]

/-- The name of a role in settings and messages. -/
def KeywordRole.name : KeywordRole → String
  | .ruleIf => "rule_if"
  | .ruleThen => "rule_then"
  | .ruleAnd => "rule_and"
  | .question => "question"
  | .translation => "translation"
  | .tip => "tip"

/-- The role of a name. -/
def KeywordRole.ofName? (name : String) : Option KeywordRole :=
  KeywordRole.all.find? fun role => role.name == name

/-- A value for each role. -/
structure Vocabulary (α : Type) where
  ruleIf : α
  ruleThen : α
  ruleAnd : α
  question : α
  translation : α
  tip : α
  deriving DecidableEq, Repr

namespace Vocabulary

variable {α β : Type}

/-- The value of a role. -/
def get (v : Vocabulary α) : KeywordRole → α
  | .ruleIf => v.ruleIf
  | .ruleThen => v.ruleThen
  | .ruleAnd => v.ruleAnd
  | .question => v.question
  | .translation => v.translation
  | .tip => v.tip

/-- The vocabulary with the given value for each role. -/
def ofFn (f : KeywordRole → α) : Vocabulary α :=
  ⟨f .ruleIf, f .ruleThen, f .ruleAnd, f .question, f .translation, f .tip⟩

/-- The six values in the order of the roles. -/
def toList (v : Vocabulary α) : List α :=
  KeywordRole.all.map v.get

end Vocabulary

/-- Six distinct tokens. -/
structure Keywords where
  /-- The word of each role. -/
  words : Vocabulary String
  /-- Every word is a token. -/
  tokens : ∀ word ∈ words.toList, isToken word = true
  /-- No word has two roles. -/
  distinct : words.toList.Nodup
  deriving DecidableEq

namespace Keywords

/-- The standard words. -/
def standardWords : Vocabulary String :=
  ⟨"если", "то", "и", "вопрос", "перевод", "подсказка"⟩

/-- The standard keywords. -/
def standard : Keywords :=
  ⟨standardWords, by decide +kernel, by decide +kernel⟩

instance : Inhabited Keywords := ⟨standard⟩

end Keywords

/-! ## Choosing keywords -/

/-- Why a choice of keywords is refused. -/
inductive KeywordFault where
  /-- There is no role of this name. -/
  | unknownRole (name : String)
  /-- The value given for the role is not a token. -/
  | notToken (role : KeywordRole) (given : Datum)
  /-- Two roles have the same word. -/
  | repeated
  deriving Repr

/-- The wording of a refusal. -/
def KeywordFault.message : KeywordFault → String
  | .unknownRole name => s!"Palavra-chave desconhecida: {quoted name}"
  | .notToken role given => s!"Palavra-chave inválida para '{role.name}': {given.shown}"
  | .repeated => "Palavras-chave da DSL devem ser distintas"

namespace Keywords

/-- The words of a vocabulary of untyped values, or the first role whose value is not a token. -/
def checkTokens (given : Vocabulary Datum) : Except KeywordFault (Vocabulary String) :=
  match KeywordRole.all.find? fun role => !((given.get role).text?.any isToken) with
  | some role => .error (.notToken role (given.get role))
  | none => .ok (.ofFn fun role => (given.get role).plain)

/-- The keywords with the given words, if these are tokens and distinct. -/
def ofVocabulary (given : Vocabulary Datum) : Except KeywordFault Keywords := do
  let words ← checkTokens given
  if valid : (∀ word ∈ words.toList, isToken word = true) ∧ words.toList.Nodup then
    .ok ⟨words, valid.1, valid.2⟩
  else .error .repeated

/-- The keywords described by named values. Roles that are not mentioned keep the standard word; of
two values for one role the later counts. -/
def ofFields (fields : List (String × Datum)) : Except KeywordFault Keywords :=
  match fields.find? fun field => (KeywordRole.ofName? field.1).isNone with
  | some field => .error (.unknownRole field.1)
  | none =>
    ofVocabulary (.ofFn fun role =>
      match fields.reverse.find? fun field => field.1 == role.name with
      | some field => field.2
      | none => .text (standardWords.get role))

end Keywords

end RuleConsult
