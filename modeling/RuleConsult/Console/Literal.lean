import RuleConsult.Console.Literal.Depth

/-!
# Literals

The argument of an action is a literal: a number, which may have a sign and an imaginary part, a
text or a sequence of bytes between quotes, a constant, a tuple in parentheses, or a set or a table
in braces, whose members and keys must not be sets or tables themselves.

* `isLiteral` tells whether a text is a literal.
-/

namespace RuleConsult

namespace Literal

/-- What matters of a value for the value that it is part of. -/
inductive Kind where
  /-- A number without a sign. -/
  | real
  | imaginary
  /-- A real number with a sign. -/
  | signed
  /-- The name of the empty set, which is no value until it is called. -/
  | setName
  /-- Any other value; only what is fixed may be a member of a set or a key of a table. -/
  | other (fixed : Bool)
  deriving DecidableEq, Repr

/-- Whether a value may be a member of a set or a key of a table. -/
def Kind.isFixed : Kind → Bool
  | .other fixed => fixed
  | .setName => false
  | _ => true

/-- Whether it is a value at all. -/
def Kind.isValue (kind : Kind) : Bool := kind != .setName

/-- What follows the quoted texts that continue a quoted text: all hold bytes or none does. -/
def afterPieces? (bytes : Bool) : List Token → Option (List Token)
  | .quoted more :: rest => if more == bytes then afterPieces? bytes rest else none
  | rest => some rest

/-- Letters of other shapes, by the plain letters that they count as in names. -/
def letterShapes : List (Char × List Nat) :=
  [ ('s', [0x17F, 0x2E2, 0x209B, 0xFF53, 0x1D42C, 0x1D460, 0x1D494, 0x1D4C8, 0x1D4FC, 0x1D530,
      0x1D564, 0x1D598, 0x1D5CC, 0x1D600, 0x1D634, 0x1D668, 0x1D69C]),
    ('e', [0x1D49, 0x2091, 0x212F, 0x2147, 0xFF45, 0x1D41E, 0x1D452, 0x1D486, 0x1D4EE, 0x1D522,
      0x1D556, 0x1D58A, 0x1D5BE, 0x1D5F2, 0x1D626, 0x1D65A, 0x1D68E]),
    ('t', [0x1D57, 0x209C, 0xFF54, 0x1D42D, 0x1D461, 0x1D495, 0x1D4C9, 0x1D4FD, 0x1D531, 0x1D565,
      0x1D599, 0x1D5CD, 0x1D601, 0x1D635, 0x1D669, 0x1D69D]) ]

/-- The plain letter that a letter counts as. -/
def plainLetter (c : Char) : Char :=
  ((letterShapes.find? fun entry => entry.2.contains c.toNat).map Prod.fst).getD c

/-- What a name stands for. The names of constants are in plain letters. -/
def ofName? (name : List Char) : Option Kind :=
  if ["True".toList, "False".toList, "None".toList].contains name then some (.other true)
  else if name.map plainLetter == "set".toList then some .setName
  else none

/-- A value after the call that follows it, if one does. -/
def called : Kind × List Token → Kind × List Token
  | (.setName, .punctuation '(' :: .punctuation ')' :: rest) => (.other false, rest)
  | read => read

/-- A number with a sign. -/
def Kind.withSign? : Kind → Option Kind
  | .real => some .signed
  | .imaginary => some (.other true)
  | _ => none

mutual

/-- The value that tokens begin with, and what follows it. -/
def value? : Nat → List Token → Option (Kind × List Token)
  | 0, _ => none
  | fuel + 1, tokens => do
    let (first, rest) ← match tokens with
      | .punctuation '+' :: rest | .punctuation '-' :: rest => do
        let (kind, rest) ← part? fuel rest
        let kind ← kind.withSign?
        pure (kind, rest)
      | tokens => (part? fuel tokens).map called
    match rest with
    | .punctuation '+' :: rest | .punctuation '-' :: rest =>
      -- A sum is a complex number: a real part and an imaginary part without a sign of its own.
      let (second, rest) ← part? fuel rest
      if (first == .real || first == .signed) && second == .imaginary then
        pure (.other true, rest)
      else none
    | rest => pure (first, rest)

/-- The value without a sign that tokens begin with, and what follows it. -/
def part? : Nat → List Token → Option (Kind × List Token)
  | 0, _ => none
  | fuel + 1, tokens =>
    match tokens with
    | .quoted bytes :: rest => (afterPieces? bytes rest).map fun rest => (.other true, rest)
    | .number imaginary :: rest => some (if imaginary then .imaginary else .real, rest)
    | .ellipsis :: rest => some (.other true, rest)
    | .name name :: rest => (ofName? name).map fun kind => (kind, rest)
    | .punctuation '(' :: .punctuation ')' :: rest => some (.other true, rest)
    | .punctuation '(' :: rest => do
      let (kind, rest) ← tuple? fuel rest
      match rest with
      | .punctuation ')' :: rest => pure (kind, rest)
      | _ => none
    | .punctuation '\x7b' :: .punctuation '\x7d' :: rest => some (.other false, rest)
    | .punctuation '\x7b' :: rest => do
      let (kind, rest) ← value? fuel rest
      if !kind.isFixed then none
      else
        match rest with
        | .punctuation ':' :: rest => do
          let (value, rest) ← value? fuel rest
          let rest ← members? fuel true rest
          if value.isValue then pure (.other false, rest) else none
        | rest => do
          let rest ← members? fuel false rest
          pure (.other false, rest)
    | _ => none

/-- The value or the members of a tuple that tokens begin with, and what follows. -/
def tuple? : Nat → List Token → Option (Kind × List Token)
  | 0, _ => none
  | fuel + 1, tokens => do
    let (kind, rest) ← value? fuel tokens
    match rest with
    | .punctuation ',' :: rest =>
      if !kind.isValue then none
      else
        match rest with
        | [] | .punctuation ')' :: _ | .lineEnd :: _ => pure (.other kind.isFixed, rest)
        | rest => do
          let (more, rest) ← tuple? fuel rest
          if more.isValue then pure (.other (kind.isFixed && more.isFixed), rest) else none
    | rest => pure (kind, rest)

/-- What follows the brace that closes a set or a table, after its first member. -/
def members? (fuel : Nat) (table : Bool) (tokens : List Token) : Option (List Token) :=
  match fuel with
  | 0 => none
  | fuel + 1 =>
    match tokens with
    | .punctuation '\x7d' :: rest | .punctuation ',' :: .punctuation '\x7d' :: rest => some rest
    | .punctuation ',' :: rest => do
      let (kind, rest) ← value? fuel rest
      if !kind.isFixed then none
      else if table then
        match rest with
        | .punctuation ':' :: rest => do
          let (value, rest) ← value? fuel rest
          if value.isValue then members? fuel table rest else none
        | _ => none
      else members? fuel table rest
    | _ => none

end

end Literal

/-- Whether the text is a literal. Each open bracket takes three steps of fuel. -/
def isLiteral (text : List Char) : Bool :=
  match Literal.tokens? text with
  | some tokens =>
    Literal.depth tokens ≤ Literal.maxSteps &&
      match Literal.tuple? (3 * tokens.length + 3) tokens with
      | some (kind, rest) => kind.isValue && rest.all (· == .lineEnd)
      | none => false
  | none => false

end RuleConsult
