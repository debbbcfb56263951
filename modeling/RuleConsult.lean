import RuleConsult.Main
import RuleConsult.Program.Usual
import RuleConsult.Draft.Builder
import RuleConsult.Proofs.Consult.Exhaustion
import RuleConsult.Proofs.Consult.Slice
import RuleConsult.Proofs.RoundTrip
import RuleConsult.Proofs.Consult.Completeness
import RuleConsult.Proofs.Consult.Session
import RuleConsult.Proofs.Reading.Accepted
import RuleConsult.Proofs.Draft.Exact
import RuleConsult.Proofs.Cache.Coherence
import RuleConsult.Proofs.Program.CachedReading
import RuleConsult.Proofs.Shell.FailedLoad
import RuleConsult.Proofs.Report.Agreement
import RuleConsult.Proofs.Report.LongNumerals
import RuleConsult.Proofs.Consult.Coverage
import RuleConsult.Proofs.Dialect
import RuleConsult.Proofs.Consult.EqualBases
import RuleConsult.Proofs.Draft.Order
import RuleConsult.Proofs.Consult.Refusal
import RuleConsult.Proofs.Consult.Restart
import RuleConsult.Proofs.Consult.RefusedStart
import RuleConsult.Proofs.Reading.Concatenation
import RuleConsult.Proofs.Shell.FreshLoad
import RuleConsult.Proofs.Shell.Unreported
import RuleConsult.Proofs.Draft.Issues
import RuleConsult.Proofs.Draft.WellWritten
import RuleConsult.Proofs.Reading.Tiles
import RuleConsult.Proofs.Reading.LineEnds
import RuleConsult.Proofs.Reading.Viable
import RuleConsult.Proofs.Consult.Stops
import RuleConsult.Proofs.Base.Relevance
import RuleConsult.Proofs.Cache.Capacity
import RuleConsult.Proofs.Consult.Feeding
import RuleConsult.Proofs.Program.Consultation
import RuleConsult.Proofs.Program.Options
import RuleConsult.Proofs.Base.Scan
import RuleConsult.Proofs.Shell.GivenCache
import RuleConsult.Proofs.Shell.Explanation
