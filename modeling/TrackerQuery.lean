import TrackerQuery.Comparison
import TrackerQuery.Console
import TrackerQuery.Context
import TrackerQuery.Criteria
import TrackerQuery.DateLiteral
import TrackerQuery.Distinct
import TrackerQuery.Entity
import TrackerQuery.Entity.Json
import TrackerQuery.Error
import TrackerQuery.Issue.Criterion
import TrackerQuery.Issue.Field
import TrackerQuery.Issue.Reader
import TrackerQuery.Issue.Undefined
import TrackerQuery.Issue.Upkeep
import TrackerQuery.Json
import TrackerQuery.Json.Reading
import TrackerQuery.Json.Record
import TrackerQuery.Main
import TrackerQuery.Operator
import TrackerQuery.Project.Criterion
import TrackerQuery.PullRequest.Criterion
import TrackerQuery.Query
import TrackerQuery.Query.Reading
import TrackerQuery.Reference
import TrackerQuery.Repository
import TrackerQuery.Setting
import TrackerQuery.Setting.Json
import TrackerQuery.Sql.Condition
import TrackerQuery.Sql.Printer
import TrackerQuery.Text.Blank
import TrackerQuery.Text.Decimal
import TrackerQuery.Text.Letter
import TrackerQuery.Text.LowerCase
import TrackerQuery.Text.Quoted
import TrackerQuery.Time.Calendar
import TrackerQuery.Time.Component
import TrackerQuery.Time.Instant
import TrackerQuery.Time.Rfc3339
import TrackerQuery.Token
import TrackerQuery.Token.Phrase
import TrackerQuery.Token.Scan
import TrackerQuery.Tree
import TrackerQuery.Tree.Reading
import TrackerQuery.Proofs.Outcome
import TrackerQuery.Proofs.Distinct
import TrackerQuery.Proofs.Tree.Derivation
import TrackerQuery.Proofs.Tree.Recognition
import TrackerQuery.Proofs.Tree.ViablePrefix
import TrackerQuery.Proofs.Token.Cutting
import TrackerQuery.Proofs.Token.Quoting
import TrackerQuery.Proofs.Query.Leaves
import TrackerQuery.Proofs.Query.Pruning
import TrackerQuery.Proofs.Query.Wording
import TrackerQuery.Proofs.Query.Writing
import TrackerQuery.Proofs.Query.Blame
import TrackerQuery.Proofs.Issue.Meaning
import TrackerQuery.Proofs.Query.Number
import TrackerQuery.Proofs.Query.Numeral
import TrackerQuery.Proofs.Reference
import TrackerQuery.Proofs.RoundTrip
import TrackerQuery.Proofs.Composition
import TrackerQuery.Proofs.Issue.Typing
import TrackerQuery.Proofs.Token.Language
import TrackerQuery.Proofs.Token.Tiling
import TrackerQuery.Proofs.Token.Enclosing
import TrackerQuery.Proofs.Leniency
import TrackerQuery.Proofs.Issue.Upkeep
import TrackerQuery.Proofs.Issue.Choices
import TrackerQuery.Proofs.Issue.Renaming
import TrackerQuery.Proofs.Issue.Change
import TrackerQuery.Proofs.Issue.Session
import TrackerQuery.Proofs.Sql.Pattern
import TrackerQuery.Proofs.Sql.Like
import TrackerQuery.Proofs.Sql.Truth
import TrackerQuery.Proofs.Sql.Store
import TrackerQuery.Proofs.Query.Evaluation
import TrackerQuery.Proofs.PullRequest.Selection
import TrackerQuery.Proofs.Issue.Selection
import TrackerQuery.Proofs.Issue.Comparisons
import TrackerQuery.Proofs.ActingUser
import TrackerQuery.Proofs.Issue.Reports
import TrackerQuery.Proofs.Issue.Rejection
import TrackerQuery.Proofs.Issue.Survival
import TrackerQuery.Proofs.Repository.Builds
import TrackerQuery.Proofs.Repository.Growth
import TrackerQuery.Proofs.Issue.Widening
import TrackerQuery.Proofs.Issue.Repair
import TrackerQuery.Proofs.Repository.Lookup
import TrackerQuery.Proofs.Issue.References
import TrackerQuery.Proofs.Repository.CommitIds
import TrackerQuery.Proofs.Query.Places
import TrackerQuery.Proofs.Issue.Builtins
import TrackerQuery.Proofs.Text.LetterCase
import TrackerQuery.Proofs.TextEquality
import TrackerQuery.Proofs.Time.Relative
import TrackerQuery.Proofs.Issue.Trichotomy
import TrackerQuery.Proofs.Location
import TrackerQuery.Proofs.Occurrence
