import RuleConsult.Datum

/-!
# Writing JSON

Untyped values are written as JSON with one item to a line, two spaces deeper for each level. Only
what a JSON text may not contain is escaped, so letters of any script stand as they are.

* `Datum.toJson` is the written form of a value.
-/

namespace RuleConsult

namespace Json

/-- The hexadecimal digit of a number below sixteen. -/
def hexDigit (n : Nat) : Char :=
  if n < 10 then Char.ofNat (48 + n) else Char.ofNat (87 + n)

/-- A character inside quotation marks. -/
def escapeChar (c : Char) : List Char :=
  if c == '"' then ['\\', '"']
  else if c == '\\' then ['\\', '\\']
  else if c == '\n' then ['\\', 'n']
  else if c == '\r' then ['\\', 'r']
  else if c == '\t' then ['\\', 't']
  else if c.toNat == 8 then ['\\', 'b']
  else if c.toNat == 12 then ['\\', 'f']
  else if c.toNat < 32 then
    ['\\', 'u', '0', '0', hexDigit (c.toNat / 16), hexDigit (c.toNat % 16)]
  else [c]

/-- A text in quotation marks. -/
def quote (text : String) : String :=
  "\"" ++ String.ofList (text.toList.flatMap escapeChar) ++ "\""

/-- The beginning of a line at a level. -/
def indent (level : Nat) : String :=
  "\n" ++ String.ofList (List.replicate (2 * level) ' ')

/-- Items between brackets at a level, each on its own line. No items give the brackets alone. -/
def enclose (opening closing : String) (level : Nat) (items : List String) : String :=
  if items.isEmpty then opening ++ closing
  else
    opening ++ indent (level + 1) ++ String.intercalate ("," ++ indent (level + 1)) items ++
      indent level ++ closing

mutual

/-- A value at a level. -/
def write (level : Nat) : Datum → String
  | .null => "null"
  | .bool true => "true"
  | .bool false => "false"
  | .int value => toString value
  | .text value => quote value
  | .list items => enclose "[" "]" level (writeItems (level + 1) items)
  | .record fields => enclose "\x7b" "\x7d" level (writeFields (level + 1) fields)

/-- The items of a list. -/
def writeItems (level : Nat) : List Datum → List String
  | [] => []
  | item :: rest => write level item :: writeItems level rest

/-- The fields of a record. -/
def writeFields (level : Nat) : List (String × Datum) → List String
  | [] => []
  | (name, value) :: rest => (quote name ++ ": " ++ write level value) :: writeFields level rest

end

end Json

/-- The value as JSON. -/
def Datum.toJson (value : Datum) : String := Json.write 0 value

end RuleConsult
