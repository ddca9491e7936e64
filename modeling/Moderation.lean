import Moderation.Main
import Moderation.Service.Clock
import Moderation.Service.Filter
import Moderation.Proofs.Points.FloatOrder
import Moderation.Proofs.Points.Table
import Moderation.Proofs.Points.Scoreboard
import Moderation.Proofs.Points.Standstill
import Moderation.Proofs.Points.Exact
import Moderation.Proofs.Points.Ledger
import Moderation.Proofs.Points.Ticks
import Moderation.Proofs.Evaluation.Firing
import Moderation.Proofs.Evaluation.Order
import Moderation.Proofs.Evaluation.Run
import Moderation.Proofs.Evaluation.OncePerCrossing
import Moderation.Proofs.Evaluation.Conservation
import Moderation.Proofs.Evaluation.Composition
import Moderation.Proofs.Evaluation.Atomicity
import Moderation.Proofs.Evaluation.Faults
import Moderation.Proofs.Evaluation.Visits
import Moderation.Proofs.Evaluation.Counters
import Moderation.Proofs.Evaluation.Books
import Moderation.Proofs.Evaluation.Message
import Moderation.Proofs.Points.Bookkeeping
import Moderation.Proofs.Points.Rounding
import Moderation.Proofs.Points.Crossings
import Moderation.Proofs.Points.Sorting
import Moderation.Proofs.Points.Summation
import Moderation.Proofs.Points.Course
import Moderation.Proofs.Points.Timeline
import Moderation.Proofs.Evaluation.Requests
import Moderation.Proofs.Evaluation.Switch
import Moderation.Proofs.Evaluation.Flags
import Moderation.Proofs.Evaluation.Separation
import Moderation.Proofs.Evaluation.Reinstallation
import Moderation.Proofs.Evaluation.Losses
import Moderation.Proofs.Evaluation.Nesting
import Moderation.Proofs.Action.Vocabulary
import Moderation.Proofs.Colored.Glyphs
import Moderation.Proofs.Colored.Reading
import Moderation.Proofs.Colored.Recasing
import Moderation.Proofs.Colored.Replacing
import Moderation.Proofs.Colored.Indexed
import Moderation.Proofs.Colored.Places
import Moderation.Proofs.Colored.Edits
import Moderation.Proofs.Unicode.Casing
import Moderation.Proofs.Tag.Placeholder
import Moderation.Proofs.Tag.Substitution
import Moderation.Proofs.Evaluation.Parallel
import Moderation.Proofs.Evaluation.Colorblind
import Moderation.Proofs.Service.Colorblind
import Moderation.Proofs.Service.Configuration
import Moderation.Proofs.Service.Validation
import Moderation.Proofs.Service.Release
import Moderation.Proofs.Service.Reconfiguration
import Moderation.Proofs.Service.Verdict
import Moderation.Proofs.Service.Reading
import Moderation.Proofs.Service.Unmodified
import Moderation.Proofs.Service.Session
import Moderation.Proofs.Service.ChainTable
import Moderation.Proofs.Service.Scoring
import Moderation.Proofs.Service.Repeats
import Moderation.Proofs.Service.Unfiltered
import Moderation.Proofs.Service.Routing
import Moderation.Proofs.Regex.Bounds
import Moderation.Proofs.Regex.Search
import Moderation.Proofs.Regex.Find
import Moderation.Proofs.Regex.Compile
import Moderation.Proofs.Regex.Escape
import Moderation.Proofs.Regex.Literal
import Moderation.Proofs.Rule.Keyword
import Moderation.Proofs.Rule.Recognition
import Moderation.Proofs.Rule.Segments
import Moderation.Proofs.Rule.Written
import Moderation.Proofs.Rule.RoundTrip
import Moderation.Proofs.Rule.Spacing
import Moderation.Proofs.Rule.Renumbering
import Moderation.Proofs.Rule.Concatenation
import Moderation.Proofs.Rule.Continuation
import Moderation.Proofs.Rule.Provenance
import Moderation.Proofs.Rule.LiteralRule
