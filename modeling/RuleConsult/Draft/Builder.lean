import RuleConsult.Draft

/-!
# Builders

A builder makes bases of one list of entries after the other, and shows the issues and the notices
of the last list. If a number is not read, building breaks off there, and the builder shows what was
found in the entries before.
-/

namespace RuleConsult

open Text

/-- The draft of the entries in front of the first one whose number is not read, and why it is not
read. -/
def Draft.declare (draft : Draft) : List Entry → Draft × Option NumeralFault
  | [] => (draft, none)
  | entry :: entries =>
    match draft.add entry with
    | .error fault => (draft, some fault)
    | .ok next => next.declare entries

/-- What was found in the last list of entries. -/
structure Builder where
  issues : List Issue
  notices : List Notice
  deriving DecidableEq, Repr

namespace Builder

/-- A builder that has not built anything. -/
def new : Builder := ⟨[], []⟩

/-- Builds a base of entries. What was found in other entries before is dropped at the beginning. -/
def build (builder : Builder) (entries : List Entry) : Except LoadFault Base × Builder :=
  let begun := { builder with issues := [], notices := [] }
  let (draft, fault?) :=
    { Draft.empty with issues := begun.issues, notices := begun.notices }.declare entries
  match fault? with
  | some fault => (.error (.numeral fault), ⟨draft.issues, draft.notices⟩)
  | none =>
    if draft.issues.isEmpty then
      let base := draft.toBase
      (.ok base, ⟨draft.issues, draft.notices ++ base.coverageNotices⟩)
    else (.error (.inconsistent draft.issues), ⟨draft.issues, draft.notices⟩)

end Builder

end RuleConsult
