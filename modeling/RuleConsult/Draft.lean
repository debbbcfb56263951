import RuleConsult.Base
import RuleConsult.Draft.Issue
import RuleConsult.Entry
import RuleConsult.Reading.Document
import RuleConsult.Text.Numeral

/-!
# Building a base

A draft collects what the entries of a document declare, one entry after the other, together with
the issues found on the way. If there are none in the end, the draft becomes a base; otherwise all
issues are reported at once. A number is taken by the first rule that bears it, even if that rule is
rejected for another reason.

Reading the number of a rule may fail for reasons that are no issue of the entry (see
`Text.Numeral`); then nothing is built at all.
-/

namespace RuleConsult

open Text

/-! ## Drafts -/

/-- What has been declared so far. -/
structure Draft where
  /-- The accepted rules, in the order of their entries. -/
  rules : List Rule
  /-- The numbers that are taken, with the line of the first rule that bears them. -/
  taken : Table Int Int
  advice : BindingTable
  translations : BindingTable
  tips : BindingTable
  issues : List Issue
  notices : List Notice

namespace Draft

/-- The draft before the first entry. -/
def empty : Draft := ⟨[], Table.empty, .empty, .empty, .empty, [], []⟩

/-- The draft with more issues and notices. -/
def report (draft : Draft) (issues : List Issue) (notices : List Notice) : Draft :=
  { draft with issues := draft.issues ++ issues, notices := draft.notices ++ notices }

/-- The bindings of a kind. -/
def bindings (draft : Draft) : BindingKind → BindingTable
  | .advice => draft.advice
  | .translation => draft.translations
  | .tip => draft.tips

/-- The draft with one more binding. -/
def bind (draft : Draft) (binding : Binding) : Draft :=
  match binding.kind with
  | .advice => { draft with advice := draft.advice.insert binding }
  | .translation => { draft with translations := draft.translations.insert binding }
  | .tip => { draft with tips := draft.tips.insert binding }

end Draft

/-! ## Rules -/

/-- The conditions of a rule under scrutiny: those accepted so far, and what was found wrong or odd
about the others. -/
structure ConditionCheck where
  accepted : List Pair
  issues : List Issue
  notices : List Notice

/-- Checks one more condition. The first mention of a category decides its value; a second one is
dropped, as odd if it agrees with the first and as wrong if it does not. -/
def ConditionCheck.add (line id : Int) (check : ConditionCheck) (pair : Pair) : ConditionCheck :=
  match check.accepted.find? fun known => known.category == pair.category with
  | none => { check with accepted := check.accepted ++ [pair] }
  | some known =>
    if known.value == pair.value then
      { check with notices := check.notices ++ [.repeatedCondition line pair id] }
    else
      { check with
        issues := check.issues ++
          [⟨.contradiction id pair.category known.value pair.value, line⟩] }

/-- Checks conditions in order. -/
def checkConditions (line id : Int) (pairs : List Pair) : ConditionCheck :=
  pairs.foldl (ConditionCheck.add line id) ⟨[], [], []⟩

/-- The words of pairs that are no tokens, in order. -/
def badTokens (pairs : List Pair) : List String :=
  (pairs.flatMap fun pair => [pair.category, pair.value]).filter fun token => !isToken token

/-- A rule under scrutiny: the rule if it is accepted, and what was found. -/
structure RuleCheck where
  rule? : Option Rule
  issues : List Issue
  notices : List Notice

/-- Rejects a rule. -/
def RuleCheck.reject (issues : List Issue) : RuleCheck := ⟨none, issues, []⟩

/-- Checks a rule whose number is known, if it is written in digits. A missing part is reported
alone; bad tokens are reported all together; only a rule of good tokens is checked for
contradictions and self-reference. -/
def checkRule (line : Int) (id? : Option Int) (conditions : List Pair)
    (conclusion? : Option Pair) : RuleCheck :=
  match id?, conclusion?, conditions with
  | some id, some conclusion, _ :: _ =>
    let bad := badTokens (conditions ++ [conclusion])
    if bad.isEmpty then
      let check := checkConditions line id conditions
      let selfReference : List Issue :=
        if check.accepted.any fun pair => pair.category == conclusion.category then
          [⟨.selfReference id conclusion.category, line⟩]
        else []
      let issues := check.issues ++ selfReference
      let rule : Rule := ⟨id, check.accepted, conclusion, some line⟩
      ⟨if issues.isEmpty then some rule else none, issues, check.notices⟩
    else .reject (bad.map fun token => ⟨.malformedToken token, line⟩)
  | _, _, _ => .reject [⟨.malformedRule, line⟩]

/-- The number of a rule, if it is written in digits. -/
def ruleNumber (number : String) : Except NumeralFault (Option Int) :=
  if isDigits number then (readNumeral number).map fun n => some (n : Int) else .ok none

namespace Draft

/-- The draft with the outcome of a checked rule. -/
def addChecked (draft : Draft) (check : RuleCheck) : Draft :=
  { draft with rules := draft.rules ++ check.rule?.toList }.report check.issues check.notices

/-- Declares a rule. -/
def addRule (draft : Draft) (line : Int) (number : String) (conditions : List Pair)
    (conclusion? : Option Pair) : Except NumeralFault Draft := do
  match ← ruleNumber number with
  | none => return draft.addChecked (checkRule line none conditions conclusion?)
  | some id =>
    match draft.taken.get? id with
    | some firstLine => return draft.report [⟨.duplicateRule id firstLine, line⟩] []
    | none =>
      -- The number is taken before the rule is checked.
      let draft := { draft with taken := draft.taken.insert id line }
      return draft.addChecked (checkRule line (some id) conditions conclusion?)

/-! ## Bindings -/

/-- Declares a binding. -/
def addBinding (draft : Draft) (line : Int) (kind : BindingKind) (category text : String) :
    Draft :=
  if !isToken category then draft.report [⟨.malformedToken category, line⟩] []
  else if (draft.bindings kind).contains category then
    draft.report [⟨.duplicateBinding kind category, line⟩] []
  else draft.bind ⟨kind, category, text, some line⟩

/-- Declares an entry. -/
def add (draft : Draft) (entry : Entry) : Except NumeralFault Draft :=
  match entry.body with
  | .rule number conditions conclusion? => draft.addRule entry.line number conditions conclusion?
  | .binding kind category text => .ok (draft.addBinding entry.line kind category text)

/-- Declares entries in order. -/
def ofEntries (entries : List Entry) : Except NumeralFault Draft :=
  entries.foldlM add empty

/-- The base of a draft. -/
def toBase (draft : Draft) : Base :=
  .ofParts draft.rules draft.advice.toList draft.translations.toList draft.tips.toList

end Draft

/-! ## Coverage -/

/-- The categories that some rule requires. -/
def Base.requiredCategories (base : Base) : List String :=
  base.rules.flatMap Rule.conditionCategories

/-- The notices about categories without a source, questions without a use and texts without a
category. -/
def Base.coverageNotices (base : Base) : List Notice :=
  let required := base.requiredCategories
  let uncovered := base.categories.filter fun category =>
    required.contains category && (base.rulesConcluding category).isEmpty &&
      (base.question? category).isNone
  let unused := base.advice.toList.filter fun binding => !required.contains binding.category
  let unknown := (base.translations.toList ++ base.tips.toList).filter fun binding =>
    !base.categories.contains binding.category
  uncovered.map Notice.uncovered ++
    unused.map (fun binding => .unusedQuestion binding.line binding.category) ++
    unknown.map fun binding => .unknownCategory binding.line binding.kind binding.category

/-! ## Building -/

/-- The outcome of building: a base if there are no issues, and notices in any case. The coverage of
a base is examined only once it is built. -/
structure Build where
  base? : Option Base
  issues : List Issue
  notices : List Notice

/-- Builds a base from entries. -/
def build (entries : List Entry) : Except NumeralFault Build := do
  let draft ← Draft.ofEntries entries
  if draft.issues.isEmpty then
    let base := draft.toBase
    return ⟨some base, [], draft.notices ++ base.coverageNotices⟩
  else return ⟨none, draft.issues, draft.notices⟩

/-- Why a text yields no base. -/
inductive LoadFault where
  /-- The text is no document. -/
  | unreadable (fault : ReadFault)
  /-- The entries are inconsistent. -/
  | inconsistent (issues : List Issue)
  /-- A rule number is not read. -/
  | numeral (fault : NumeralFault)
  deriving DecidableEq, Repr

/-- The wording of a load fault. -/
def LoadFault.message : LoadFault → String
  | .unreadable fault => fault.message
  | .inconsistent issues => Issue.summarize issues
  | .numeral fault => fault.message

/-- The base written in a text. -/
def loadBase (keywords : Keywords) (text : String) : Except LoadFault Base :=
  match readDocument keywords text with
  | .error fault => .error (.unreadable fault)
  | .ok entries =>
    match build entries with
    | .error fault => .error (.numeral fault)
    | .ok ⟨some base, _, _⟩ => .ok base
    | .ok ⟨none, issues, _⟩ => .error (.inconsistent issues)

end RuleConsult
