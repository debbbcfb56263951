import RuleConsult.Text.Case
import RuleConsult.Text.Emoji.Flags
import RuleConsult.Text.Emoji.NamesAToI
import RuleConsult.Text.Emoji.NamesJToP
import RuleConsult.Text.Emoji.NamesQToZ
import RuleConsult.Text.Emoji.SkinTones
import RuleConsult.Text.Space
import RuleConsult.Text.Width

/-!
# Emoji

An emoji may be written as a code: its name between two colons. The name is in letters of either
case and may end with a hyphen and the look that is wanted, that of an emoji or that of text. A code
whose name no emoji bears stands for itself.

* `Emoji.ofName?` is the emoji of a name.
* `Emoji.expand` puts the emoji in the place of their codes.
-/

namespace RuleConsult.Text.Emoji

/-- The emoji by name. -/
def named : List (String × String) :=
  namesAToI ++ namesJToP ++ namesQToZ ++ flags ++ skinTones

/-- The emoji of a name in small letters. -/
def ofName? (name : String) : Option String :=
  (named.find? fun entry => entry.1 == name).map Prod.snd

/-- The looks by the ends of names. -/
def looks : List (List Char × Char) :=
  [("-emoji".toList, emojiLook), ("-text".toList, textLook)]

/-- The emoji of what stands between two colons. -/
def ofCode? (code : List Char) : Option (List Char) :=
  let look? := looks.find? fun look => look.1.isSuffixOf code
  let name := match look? with
    | some (ending, _) => code.take (code.length - ending.length)
    | none => code
  (ofName? (lowerCase (String.ofList name))).map fun emoji =>
    emoji.toList ++ (look?.map Prod.snd).toList

/-- Whether the character may stand in a code. -/
def isCodeChar (c : Char) : Bool := c != ':' && !isSpace c

/-- The characters with each code replaced by its emoji. A colon after which no code comes to its
end before white space is a plain colon. -/
def expand (chars : List Char) : List Char :=
  match chars with
  | [] => []
  | c :: rest =>
    if c == ':' then
      match _h : rest.dropWhile isCodeChar with
      | ':' :: later =>
        let code := rest.takeWhile isCodeChar
        (ofCode? code).getD (':' :: code ++ [':']) ++ expand later
      | _ => ':' :: expand rest
    else c :: expand rest
termination_by chars.length
decreasing_by
  · have hle := (List.dropWhile_sublist isCodeChar (l := rest)).length_le
    rw [_h] at hle
    simp only [List.length_cons] at hle ⊢
    omega
  · simp
  · simp

end RuleConsult.Text.Emoji
