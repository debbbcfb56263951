import RuleConsult.Console.Literal.Token

/-!
# Depth of literals

A literal is read by going down, step by step, from the whole to its smallest parts. Each bracket
that is open at a place accounts for some steps, more of them if the place comes after a comma. The
steps are bounded, so that a literal of many nested brackets may not be readable.

* `Literal.depth` is the number of steps to the deepest place of a literal.
-/

namespace RuleConsult.Literal

/-- The greatest number of steps that reading may go down. -/
def maxSteps : Nat := 6000

/-- What an open bracket is the beginning of. -/
inductive Bracket where
  /-- A tuple, or one value. -/
  | round
  /-- A set or a table. -/
  | curly
  /-- The arguments of a call. -/
  | call
  deriving DecidableEq, Repr

/-- An open bracket, up to a place after it. -/
structure Opened where
  bracket : Bracket
  /-- Whether a sign stands before the bracket. -/
  signed : Bool
  /-- The commas after the bracket. -/
  commas : Nat
  deriving DecidableEq, Repr

/-- The steps from the place of a bracket to a place after it. -/
def Opened.steps (opened : Opened) : Nat :=
  let within := match opened.bracket, opened.commas with
    | .round, 0 => 28
    | .round, 1 => 30
    | .round, _ => 31
    | .curly, 0 => 29
    | .curly, _ => 30
    | .call, _ => 0
  if opened.signed then within + 1 else within

/-- Where reading is: the open brackets, the innermost first, and whether there was a comma outside
all of them. -/
structure Position where
  opened : List Opened
  afterComma : Bool
  deriving DecidableEq, Repr

namespace Position

/-- The beginning of a literal. -/
def start : Position := ⟨[], false⟩

/-- The steps from the whole literal to a place. -/
def steps (position : Position) : Nat :=
  25 + (if position.afterComma then 2 else 0) + (position.opened.map Opened.steps).foldr (· + ·) 0

/-- The position after a bracket that is opened. -/
def enter (position : Position) (bracket : Bracket) (signed : Bool) : Position :=
  { position with opened := ⟨bracket, signed, 0⟩ :: position.opened }

/-- The position after a bracket that is closed. -/
def leave (position : Position) : Position := { position with opened := position.opened.tail }

/-- The position after a comma. -/
def next (position : Position) : Position :=
  match position.opened with
  | inner :: outer => { position with opened := { inner with commas := inner.commas + 1 } :: outer }
  | [] => { position with afterComma := true }

end Position

/-- What is looked for at a place. -/
inductive Wanted where
  /-- A value, perhaps after a sign. -/
  | value (signed : Bool)
  /-- What joins or ends values. -/
  | joint
  deriving DecidableEq, Repr

/-- The steps to the deepest place of tokens that follow a position. A value is looked for where
another one might stand, also if there is none. -/
def depthFrom (position : Position) : Wanted → List Token → Nat
  | .value _, [] => position.steps
  | .value signed, token :: rest =>
    let here := position.steps + if signed then 1 else 0
    match token with
    | .punctuation c =>
      if c == '+' || c == '-' then depthFrom position (.value true) rest
      else if c == '(' then depthFrom (position.enter .round signed) (.value false) rest
      else if c == '\x7b' then depthFrom (position.enter .curly signed) (.value false) rest
      else if c == ',' then max here (depthFrom position.next (.value false) rest)
      else if c == ':' then max here (depthFrom position (.value false) rest)
      else max here (depthFrom position.leave .joint rest)
    | .quoted _ => max (here + 2) (depthFrom position .joint rest)
    | _ => max here (depthFrom position .joint rest)
  | .joint, [] => 0
  | .joint, token :: rest =>
    match token with
    | .punctuation c =>
      if c == ',' then depthFrom position.next (.value false) rest
      else if c == '(' then
        max (position.steps + 24) (depthFrom (position.enter .call false) (.value false) rest)
      else if c == ')' || c == '\x7d' then depthFrom position.leave .joint rest
      else depthFrom position (.value false) rest
    | _ => depthFrom position .joint rest

/-- The steps to the deepest place of a literal. -/
def depth (tokens : List Token) : Nat := depthFrom .start (.value false) tokens

end RuleConsult.Literal
