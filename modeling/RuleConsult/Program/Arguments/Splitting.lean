import RuleConsult.Program.Arguments

/-!
# Splitting arguments

The value of a long option follows an equals sign or is the next argument; short options may stand
together behind one hyphen, and the value of the last one follows at once or is the next argument.
Two hyphens alone end the options, and so does the first operand if the two kinds are not mixed.

* `splitArguments` divides arguments into options and operands.
-/

namespace RuleConsult

variable {κ : Type}

/-! ## One argument -/

/-- What an argument that gives options says. -/
structure OptionReading (κ : Type) where
  found : List (κ × Option String)
  /-- The option whose value is the next argument, with the name it was given by. -/
  awaiting : Option (κ × String)

/-- Reads an argument that begins with two hyphens. -/
def readLong (forms : List (OptionForm κ)) (argument : String) :
    Except UsageFault (OptionReading κ) :=
  let (name, value) := splitAtEquals argument
  match forms.find? fun form => "--" ++ form.long == name with
  | none => .error (.unknownOption name)
  | some form =>
    if form.takesValue then
      match value with
      | some value => .ok ⟨[(form.key, some value)], none⟩
      | none => .ok ⟨[], some (form.key, name)⟩
    else
      match value with
      | some _ => .error (.unexpectedValue name)
      | none => .ok ⟨[(form.key, none)], none⟩

/-- Reads the letters behind one hyphen. -/
def readShort (forms : List (OptionForm κ)) :
    List Char → Except UsageFault (OptionReading κ)
  | [] => .ok ⟨[], none⟩
  | letter :: rest =>
    let name := "-" ++ String.singleton letter
    match forms.find? fun form => form.short == some letter with
    | none => .error (.unknownOption name)
    | some form =>
      if form.takesValue then
        if rest.isEmpty then .ok ⟨[], some (form.key, name)⟩
        else .ok ⟨[(form.key, some (String.ofList rest))], none⟩
      else
        match readShort forms rest with
        | .ok reading => .ok { reading with found := (form.key, none) :: reading.found }
        | .error fault => .error fault

/-- Reads an argument; nothing if it is an operand. A hyphen alone is an operand. -/
def readOptions? (forms : List (OptionForm κ)) (argument : String) :
    Option (Except UsageFault (OptionReading κ)) :=
  match argument.toList with
  | '-' :: '-' :: _ => some (readLong forms argument)
  | '-' :: letter :: rest => some (readShort forms (letter :: rest))
  | _ => none

/-! ## All arguments -/

/-- Divides arguments into options and operands. If the two kinds are not mixed, everything from the
first operand on is an operand. -/
def splitArguments (forms : List (OptionForm κ)) (mixed : Bool) :
    List String → Except UsageFault (Arguments κ)
  | [] => .ok .empty
  | argument :: rest =>
    if argument == "--" then .ok ⟨[], rest⟩
    else
      match readOptions? forms argument with
      | none =>
        if mixed then
          match splitArguments forms mixed rest with
          | .ok later => .ok { later with operands := argument :: later.operands }
          | .error fault => .error fault
        else .ok ⟨[], argument :: rest⟩
      | some (.error fault) => .error fault
      | some (.ok ⟨found, none⟩) =>
        match splitArguments forms mixed rest with
        | .ok later => .ok (later.withOptions found)
        | .error fault => .error fault
      | some (.ok ⟨found, some (key, name)⟩) =>
        -- The next argument is the value, even if it looks like an option.
        match rest with
        | [] => .error (.missingValue name)
        | value :: rest =>
          match splitArguments forms mixed rest with
          | .ok later => .ok (later.withOptions (found ++ [(key, some value)]))
          | .error fault => .error fault

end RuleConsult
