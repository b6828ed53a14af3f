import ConversionTracking.Main
import ConversionTracking.Matching.Evaluate
import ConversionTracking.Proofs.Calendar.PreviousPeriods
import ConversionTracking.Proofs.Condition.Coherence
import ConversionTracking.Proofs.Condition.Conjunction
import ConversionTracking.Proofs.Condition.JoinedPaths
import ConversionTracking.Proofs.Condition.NumberForms
import ConversionTracking.Proofs.Condition.Paths
import ConversionTracking.Proofs.Condition.Readings
import ConversionTracking.Proofs.Condition.TextReadings
import ConversionTracking.Proofs.Definition.NestedSteps
import ConversionTracking.Proofs.Definition.Refusals
import ConversionTracking.Proofs.Funnel.Accounting
import ConversionTracking.Proofs.Funnel.Bottlenecks
import ConversionTracking.Proofs.Funnel.Changes
import ConversionTracking.Proofs.Funnel.Proportions
import ConversionTracking.Proofs.Funnel.TextFilters
import ConversionTracking.Proofs.GoalsFile.Carrying
import ConversionTracking.Proofs.GoalsFile.Repeating
import ConversionTracking.Proofs.GoalsFile.Revalidation
import ConversionTracking.Proofs.Lookups
import ConversionTracking.Proofs.Matching.Attribution
import ConversionTracking.Proofs.Matching.Frame
import ConversionTracking.Proofs.Matching.Identity
import ConversionTracking.Proofs.Matching.Interleaving
import ConversionTracking.Proofs.Matching.Malformed
import ConversionTracking.Proofs.Matching.Order
import ConversionTracking.Proofs.Matching.RefusedPaths
import ConversionTracking.Proofs.Matching.Thresholds
import ConversionTracking.Proofs.Matching.Uninterrupted
import ConversionTracking.Proofs.Notification
import ConversionTracking.Proofs.Number.Differences
import ConversionTracking.Proofs.Number.Nearest
import ConversionTracking.Proofs.Number.NearestDecimal
import ConversionTracking.Proofs.Number.Numeral
import ConversionTracking.Proofs.Number.Order
import ConversionTracking.Proofs.Number.Written
import ConversionTracking.Proofs.Operations
import ConversionTracking.Proofs.Store.Insertions
import ConversionTracking.Proofs.Store.Overrides
import ConversionTracking.Proofs.Store.ScopedChanges
import ConversionTracking.Proofs.Text.Glob
import ConversionTracking.Proofs.Web.Answers
import ConversionTracking.Proofs.Web.DefaultPeriods
import ConversionTracking.Store.Label
import ConversionTracking.Store.Rows
import ConversionTracking.Web.Respond
