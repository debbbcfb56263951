import RuleConsult.Console.Style.Color
import RuleConsult.Table
import RuleConsult.Text.Space

/-!
# Styles

A style is written in words: effects, some of which have short names and each of which may be turned
off by a word before it, a colour, a colour of the ground, and the target of a link. Texts that
describe the same style have the same normal form.

* `Style.read` is the style that a text describes.
* `Style.normalForm` is the text that stands for all descriptions of a style.
-/

namespace RuleConsult

open Text

/-- What a style does to the look of a text apart from its colours. -/
inductive Effect where
  | bold
  | dim
  | italic
  | underline
  | blink
  | fastBlink
  | reverse
  | conceal
  | strike
  | doubleUnderline
  | frame
  | encircle
  | overline
  deriving DecidableEq, Repr

namespace Effect

/-- All effects, in the order in which they are written. -/
def all : List Effect :=
  [bold, dim, italic, underline, blink, fastBlink, reverse, conceal, strike, doubleUnderline, frame,
    encircle, overline]

/-- The name of an effect. -/
def name : Effect → String
  | bold => "bold"
  | dim => "dim"
  | italic => "italic"
  | underline => "underline"
  | blink => "blink"
  | fastBlink => "blink2"
  | reverse => "reverse"
  | conceal => "conceal"
  | strike => "strike"
  | doubleUnderline => "underline2"
  | frame => "frame"
  | encircle => "encircle"
  | overline => "overline"

/-- The short names of effects. -/
def shortNames : List (String × Effect) :=
  [("b", bold), ("d", dim), ("i", italic), ("u", underline), ("r", reverse), ("c", conceal),
    ("s", strike), ("uu", doubleUnderline), ("o", overline)]

/-- The effect of a name or short name. -/
def ofName? (word : String) : Option Effect :=
  match all.find? fun effect => effect.name == word with
  | some effect => some effect
  | none => (shortNames.find? fun entry => entry.1 == word).map Prod.snd

end Effect

/-- A style. What is left open is as it would be without the style. -/
structure Style where
  /-- The effects that are turned on or off. -/
  effects : Table Effect Bool
  color : Option String
  /-- The colour of the ground. -/
  ground : Option String
  /-- The target of a link. -/
  link : Option String

namespace Style

/-- The style that leaves everything open. -/
def plain : Style := ⟨Table.empty, none, none, none⟩

/-- The style described by words after those that describe `style`; of two words on the same matter
the later one holds. -/
def readWords (style : Style) : List String → Except StyleFault Style
  | [] => .ok style
  | word :: rest =>
    let lower := lowerCase word
    if lower == "on" then
      match rest with
      | [] => .error .malformed
      | color :: rest => do
        let color ← Color.read color
        readWords { style with ground := some color } rest
    else if lower == "not" then
      match rest with
      | [] => .error .malformed
      | name :: rest =>
        match Effect.ofName? name with
        | some effect => readWords { style with effects := style.effects.insert effect false } rest
        | none => .error .malformed
    else if lower == "link" then
      match rest with
      | [] => .error .malformed
      | target :: rest => readWords { style with link := some target } rest
    else
      match Effect.ofName? lower with
      | some effect => readWords { style with effects := style.effects.insert effect true } rest
      | none => do
        let color ← Color.read word
        readWords { style with color := some color } rest

/-- The style that a text describes. -/
def read (text : String) : Except StyleFault Style :=
  if trim text == "none" then .ok plain else readWords plain (words text)

/-- The words of a style: effects in their order, the colour, the ground, the link. -/
def toWords (style : Style) : List String :=
  let effects := Effect.all.flatMap fun effect =>
    match style.effects.get? effect with
    | some true => [effect.name]
    | some false => ["not", effect.name]
    | none => []
  effects ++ style.color.toList ++ (style.ground.map fun color => ["on", color]).getD [] ++
    (style.link.map fun target => ["link", target]).getD []

/-- The text of a style. -/
def toText (style : Style) : String :=
  let words := style.toWords
  if words.isEmpty then "none" else String.intercalate " " words

/-- The normal form of a description. A text that describes no style is its own normal form, but for
the case of its letters and white space around it. -/
def normalForm (text : String) : Except NumeralFault String :=
  match read text with
  | .ok style => .ok style.toText
  | .error .malformed => .ok (lowerCase (trim text))
  | .error (.numeral fault) => .error fault

end Style

end RuleConsult
