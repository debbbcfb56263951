import RuleConsult.Console
import RuleConsult.Console.Markup

/-!
# Rendering

The renderer for consoles: markup is read, codes of emoji are replaced and the text is laid out.
-/

namespace RuleConsult

/-- The characters that markup shows. Markup that closes what is not open is shown as it is. -/
def shownMarkup (markup : String) : List Char :=
  match Markup.render markup with
  | .ok text => text.chars
  | .error _ => dropControls markup.toList

/-- The fault of a prompt whose markup cannot be rendered. -/
def PromptFault.ofMarkup : Markup.Fault → PromptFault
  | .nothingToClose tag => .badMarkup tag
  | .badArgument argument => .badMarkup argument
  | .numeral fault => .numeral fault

/-- The renderer that lays out what markup shows. -/
def Renderer.layingOut : Renderer where
  escape := Markup.escape
  render markup := layOut (shownMarkup markup)
  renderPlain text := layOut (Markup.shownChars text.toList)
  renderFramed markup := String.ofList (shownMarkup markup)
  renderPrompt markup := do
    let text ← (Markup.render markup).mapError .ofMarkup
    text.draw.mapError .numeral
    return layOut text.chars

end RuleConsult
