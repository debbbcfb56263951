import RuleConsult.Console.Rendering
import RuleConsult.Json.Document
import RuleConsult.Program.Arguments.Splitting
import RuleConsult.Program.Toolkit
import RuleConsult.Text.Encoding

/-!
# The usual surroundings

The program as it is run here: configurations are JSON documents, and files are in one of the
encodings that are described, as there are no others.
-/

namespace RuleConsult.Usual

open Text

/-- There are no encodings but those that are described. -/
scoped instance : Encodings where
  further? _ := none

/-- Documents, arguments and markup are read by this library. -/
scoped instance : Toolkit where
  readDocument := Document.read
  splitArguments := splitArguments
  renderer := .layingOut

end RuleConsult.Usual
