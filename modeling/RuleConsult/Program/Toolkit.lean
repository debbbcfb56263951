import RuleConsult.Console
import RuleConsult.Program.Arguments
import RuleConsult.Settings.Document

/-!
# Toolkits

What the program leaves to others: how its configuration is written, how its arguments are split,
and how styled texts are shown.
-/

namespace RuleConsult

open Text

/-- What the program is built with. -/
class Toolkit where
  readDocument : DocumentReader
  splitArguments : ArgumentSplitter
  renderer : Renderer

end RuleConsult
