import OralExam.Ability
import OralExam.Alert
import OralExam.Arithmetic.Binary
import OralExam.Arithmetic.Decimal
import OralExam.Arithmetic.Exponential
import OralExam.Arithmetic.Scalar
import OralExam.Arithmetic.Word
import OralExam.Dashboard
import OralExam.Document.Basic
import OralExam.Document.Decoder
import OralExam.Document.Json
import OralExam.Document.JsonText
import OralExam.Document.Toml
import OralExam.Failure
import OralExam.Keyed
import OralExam.Listing
import OralExam.Mastery
import OralExam.Proofs.Keyed
import OralExam.Rubric.Bank
import OralExam.Rubric.Basic
import OralExam.Rubric.Check
import OralExam.Rubric.Document
import OralExam.Rubric.Starter
import OralExam.Scoring
import OralExam.Selection
import OralExam.Service.Basic
import OralExam.Service.Channel
import OralExam.Service.Command
import OralExam.Service.Document
import OralExam.Service.Http.Basic
import OralExam.Service.Http.Target
import OralExam.Session.Basic
import OralExam.Session.Conduct
import OralExam.Session.Document
import OralExam.Session.Flag
import OralExam.Session.Registry
import OralExam.Session.Review
import OralExam.Session.Status
import OralExam.Session.Summary
import OralExam.Session.Verdict
import OralExam.Settings.Basic
import OralExam.Settings.Document
import OralExam.Settings.Repair
import OralExam.Sorting
import OralExam.Text.Excerpt
import OralExam.Text.Fields
import OralExam.Text.LowerCase
import OralExam.Text.Padded
import OralExam.Text.Token
import OralExam.Text.Utf8
import OralExam.Text.WordChar
import OralExam.Time.Instant
import OralExam.Proofs.Rubric.Checked
import OralExam.Proofs.Rubric.Publishing
import OralExam.Proofs.Selection
import OralExam.Proofs.Service.Interleaving
import OralExam.Proofs.Service.Opening
import OralExam.Proofs.Service.Change
import OralExam.Proofs.Service.Exclusivity
import OralExam.Proofs.Service.Sessions
import OralExam.Proofs.Service.Work
import OralExam.Proofs.Service.Endings
import OralExam.Proofs.Service.Refusals
import OralExam.Proofs.Service.Frame
import OralExam.Proofs.Service.Readers
import OralExam.Proofs.Service.Answers
import OralExam.Proofs.Service.Isolation
import OralExam.Proofs.Session.Flagging
import OralExam.Proofs.Service.Sweeping
import OralExam.Proofs.Service.Alerting
import OralExam.Proofs.Service.Measures
import OralExam.Proofs.Session.Timing
import OralExam.Proofs.Service.Timing
import OralExam.Proofs.Dashboard
import OralExam.Proofs.Service.Dashboards
import OralExam.Proofs.Service.Overrides
import OralExam.Proofs.Session.Misconceptions
import OralExam.Proofs.Service.Misconceptions
import OralExam.Proofs.Selection.Ties
import OralExam.Proofs.Rubric.Filling
import OralExam.Proofs.Document.Record
import OralExam.Proofs.Document.JsonValue
import OralExam.Proofs.Rubric.Document
import OralExam.Proofs.Service.Requests
import OralExam.Proofs.Service.Deliveries
import OralExam.Proofs.Sorting
import OralExam.Proofs.Arithmetic.Exact
import OralExam.Proofs.Arithmetic.Number
import OralExam.Proofs.Selection.Best
import OralExam.Proofs.Settings
import OralExam.Proofs.Listing
import OralExam.Proofs.Dashboard.Unordered
import OralExam.Proofs.Text.Fields
import OralExam.Proofs.Text.LowerCase
import OralExam.Proofs.Text.Token
import OralExam.Proofs.Scoring.Matching
import OralExam.Proofs.Scoring.Monotone
import OralExam.Proofs.Listing.SortText
import OralExam.Proofs.Arithmetic.Distance
import OralExam.Proofs.Session.Contradictions
import OralExam.Proofs.Session.Reasons
import OralExam.Proofs.Mastery
import OralExam.Proofs.Mastery.Notes
import OralExam.Proofs.Grading.Levels
import OralExam.Proofs.Grading.Score
import OralExam.Proofs.Ability.Monotone
import OralExam.Proofs.Service.Starting
