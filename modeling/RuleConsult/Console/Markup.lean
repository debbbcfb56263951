import RuleConsult.Console.Literal
import RuleConsult.Console.Styled
import RuleConsult.Text.Emoji
import RuleConsult.Text.Word

/-!
# Markup

Styled text marks its styles by tags in square brackets: a tag begins with a small letter, a number
sign, an at sign or, if it closes a style, a slash. Other brackets are literal. A backslash before
a tag makes it literal, and two backslashes stand for one; elsewhere backslashes are literal too,
except that one directly before an opening bracket is dropped. Between tags codes of emoji stand for
the emoji.

A tag closes the last opened tag of the same style, however the style is described. A tag with an at
sign attaches an action, whose argument follows an equals sign and is looked at when the tag is
closed.

* `Markup.escape` makes markup that shows a given text, but for the codes of emoji in it.
* `Markup.render` is the text that markup shows, with its styles.
-/

namespace RuleConsult

open Text

namespace Markup

/-! ## Tokens -/

/-- A stretch of markup. -/
inductive Token where
  /-- Characters without tags. -/
  | plain (chars : List Char)
  /-- A tag with the given number of backslashes before it. The body is without brackets. -/
  | tag (slashes : Nat) (body : List Char)
  deriving DecidableEq, Repr

/-- Whether a tag may begin with the character. -/
def isTagStart (c : Char) : Bool :=
  ('a' ≤ c && c ≤ 'z') || c == '#' || c == '/' || c == '@'

/-- Whether the character may stand inside a tag. -/
def isTagChar (c : Char) : Bool := c != '[' && c != ']'

/-- The body of the tag whose opening bracket has just been read, and what follows the tag. -/
def tagBody? : List Char → Option (List Char × List Char)
  | [] => none
  | first :: rest =>
    if isTagStart first then
      match rest.dropWhile isTagChar with
      | ']' :: later => some (first :: rest.takeWhile isTagChar, later)
      | _ => none
    else none

/-- A tag is followed by less than what it was read from. -/
theorem length_lt_of_tagBody? {text body later : List Char}
    (h : tagBody? text = some (body, later)) : later.length < text.length := by
  match text with
  | [] => simp [tagBody?] at h
  | first :: rest =>
    have hle : (rest.dropWhile isTagChar).length ≤ rest.length :=
      (List.dropWhile_sublist isTagChar).length_le
    simp only [tagBody?] at h
    split at h
    · split at h
      · rename_i hd
        simp only [Option.some.injEq, Prod.mk.injEq] at h
        rw [hd, ← h.2.symm] at hle
        simp only [List.length_cons] at hle ⊢
        omega
      · simp at h
    · simp at h

/-- The token of held characters, last one first; none if there are none. -/
def flush (held : List Char) : List Token :=
  if held.isEmpty then [] else [.plain held.reverse]

/-- Whether the character is a backslash. -/
def isSlash (c : Char) : Bool := c == '\\'

/-- The tokens of markup. `held` has the plain characters before it, last one first. -/
def tokensFrom (held : List Char) (text : List Char) : List Token :=
  match text with
  | [] => flush held
  | c :: rest =>
    if c == '[' then
      match _h : tagBody? rest with
      | some (body, later) =>
        -- The backslashes directly before the bracket belong to the tag.
        flush (held.dropWhile isSlash) ++
          .tag (held.takeWhile isSlash).length body :: tokensFrom [] later
      | none => tokensFrom (c :: held) rest
    else tokensFrom (c :: held) rest
termination_by text.length
decreasing_by
  · have := length_lt_of_tagBody? (by assumption)
    simp only [List.length_cons]
    omega
  · simp
  · simp

/-- The tokens of markup. -/
def tokens (markup : String) : List Token := tokensFrom [] markup.toList

/-! ## Escaping -/

/-- Backslashes. -/
def slashes (n : Nat) : List Char := List.replicate n '\\'

/-- A token as markup that shows it. -/
def escapeToken : Token → List Char
  | .plain chars => chars
  | .tag n body => slashes (2 * n + 1) ++ '[' :: body ++ [']']

/-- Markup that shows the text. A single backslash at its end is doubled; a tag may follow. -/
def escape (text : String) : String :=
  let escaped := (tokens text).flatMap escapeToken
  match escaped.reverse with
  | '\\' :: '\\' :: _ => String.ofList escaped
  | '\\' :: _ => String.ofList (escaped ++ ['\\'])
  | _ => String.ofList escaped

/-! ## Rendering -/

/-- Why markup cannot be rendered. -/
inductive Fault where
  /-- A closing tag closes nothing. -/
  | nothingToClose (tag : String)
  /-- The argument of an action is no literal. -/
  | badArgument (argument : String)
  /-- A part of a mixed colour is no number. -/
  | numeral (fault : NumeralFault)
  deriving DecidableEq, Repr

/-- Characters with the backslashes before opening brackets dropped. -/
def dropSlashes : List Char → List Char
  | '\\' :: '[' :: rest => '[' :: dropSlashes rest
  | c :: rest => c :: dropSlashes rest
  | [] => []

/-- A tag that is not closed yet. -/
structure OpenTag where
  /-- The normal form of the style. -/
  style : String
  /-- What follows the equals sign, if there is one. -/
  argument : Option (List Char)
  /-- The place of the first character in the tag. -/
  start : Nat
  deriving DecidableEq, Repr

/-- Whether the argument of an action is in order: a dotted name, perhaps followed by a literal in
parentheses, or else a literal. -/
def isActionArgument (argument : List Char) : Bool :=
  let chars := trimList isSpace argument
  let call := chars.dropWhile fun c => isWord c || c == '.'
  match call with
  | [] => true
  | '(' :: _ =>
    if call.getLast? == some ')' && !call.contains '\n' then isLiteral call else isLiteral chars
  | _ => isLiteral chars

/-- Whether a tag attaches an action. -/
def OpenTag.isAction (tag : OpenTag) : Bool := tag.style.toList.head? == some '@'

/-- The stretch of a tag that ends before a place. -/
def OpenTag.span (tag : OpenTag) (stop : Nat) : Span :=
  let words := match tag.argument with
    | some argument => tag.style ++ " " ++ String.ofList argument
    | none => tag.style
  ⟨tag.start, stop, words⟩

/-- Closes a tag before a place. An action has no style. -/
def OpenTag.close (tag : OpenTag) (stop : Nat) : Except Fault (List Span) :=
  if tag.isAction then
    let argument := tag.argument.getD []
    if isActionArgument argument then .ok [] else .error (.badArgument (String.ofList argument))
  else .ok [tag.span stop]

/-- The normal form of the style that a tag names. -/
def styleOf (name : List Char) : Except Fault String :=
  (Style.normalForm (String.ofList name)).mapError .numeral

/-- The tag that a body opens at a place. -/
def openTag (place : Nat) (body : List Char) : Except Fault OpenTag := do
  let style ← styleOf (body.takeWhile (· != '='))
  match body.dropWhile (· != '=') with
  | _ :: argument => return ⟨style, some argument, place⟩
  | [] => return ⟨style, none, place⟩

/-- The open tags, the last opened first, after a tag at a place, and the stretch that the tag
completes. -/
def step (place : Nat) (opened : List OpenTag) (body : List Char) :
    Except Fault (List OpenTag × List Span) :=
  let name := body.takeWhile (· != '=')
  match name with
  | '/' :: closed =>
    let closed := trimList isSpace closed
    if closed.isEmpty then
      match opened with
      | tag :: others => do return (others, ← tag.close place)
      | [] => .error (.nothingToClose (String.ofList body))
    else do
      let style ← styleOf closed
      match opened.find? fun tag => tag.style == style with
      | some tag => return (opened.eraseP fun tag => tag.style == style, ← tag.close place)
      | none => throw (.nothingToClose (String.ofList body))
  | _ => do return ((← openTag place body) :: opened, [])

/-- The characters that plain characters show. -/
def shownChars (chars : List Char) : List Char := dropControls (Emoji.expand chars)

/-- The characters that tokens show from a place on, with some tags open before, and the stretches
in the order in which they end. -/
def renderTokens (place : Nat) (opened : List OpenTag) :
    List Token → Except Fault (List Char × List Span)
  | [] => .ok ([], opened.map fun tag => tag.span place)
  | .plain chars :: rest => do
    let shown := shownChars (dropSlashes chars)
    let (chars, spans) ← renderTokens (place + shown.length) opened rest
    return (shown ++ chars, spans)
  | .tag n body :: rest => do
    if n % 2 = 1 then
      let shown := slashes (n / 2) ++ shownChars ('[' :: body ++ [']'])
      let (chars, spans) ← renderTokens (place + shown.length) opened rest
      return (shown ++ chars, spans)
    else
      let place := place + n / 2
      let (opened, ended) ← step place opened body
      let (chars, spans) ← renderTokens place opened rest
      return (slashes (n / 2) ++ chars, ended ++ spans)

/-- The text that markup shows, with its styles. -/
def render (markup : String) : Except Fault StyledText := do
  let (chars, spans) ← renderTokens 0 [] (tokens markup)
  -- Of two stretches that begin together the one that ends later is the outer one.
  return ⟨chars, spans.reverse.mergeSort fun a b => a.start ≤ b.start⟩

end Markup

end RuleConsult
