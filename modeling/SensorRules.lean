import SensorRules.Capability.Standard
import SensorRules.Command
import SensorRules.Config
import SensorRules.Engine
import SensorRules.Expression.Reader
import SensorRules.Graph.Evaluation
import SensorRules.Home.Snapshot
import SensorRules.Main
import SensorRules.Proofs.Graph.Grounding
import SensorRules.Proofs.Graph.Meaning
import SensorRules.Proofs.Violation.Lasting
import SensorRules.Rule.Loading
import SensorRules.RuleFile
import SensorRules.Violation.Issue
import SensorRules.Violation.Listing
import SensorRules.Proofs.Verdict
import SensorRules.Proofs.Violation.Ending
import SensorRules.Proofs.Graph.Reported
import SensorRules.Proofs.Home.Annotating
import SensorRules.Proofs.Violation.Showing
import SensorRules.Proofs.Engine.Agreement
import SensorRules.Proofs.Number.Whole
import SensorRules.Proofs.Text.Blank
import SensorRules.Proofs.Traversal
import SensorRules.Proofs.Rule.Reading
import SensorRules.Proofs.Rule.Loading
import SensorRules.Proofs.Json.Literal
import SensorRules.Proofs.Json.Record
import SensorRules.Proofs.Json.Value
import SensorRules.Proofs.Rule.Levels
import SensorRules.Proofs.Rule.Document
import SensorRules.Proofs.Rule.Storing
import SensorRules.Proofs.Expression.Judging
import SensorRules.Proofs.Text.Words
import SensorRules.Proofs.Expression.Grammar
import SensorRules.Proofs.Graph.Ledger
import SensorRules.Proofs.Rule.Gating
import SensorRules.Proofs.Engine.Operation
import SensorRules.Proofs.Engine.Publishing
import SensorRules.Proofs.Rule.Sifting
import SensorRules.Proofs.Capability.Registering
import SensorRules.Proofs.Graph.Indifference
import SensorRules.Proofs.Violation.Writing
import SensorRules.Proofs.Engine.Repeating
import SensorRules.Proofs.Violation.Outcome
import SensorRules.Proofs.Engine.Relisting
import SensorRules.Proofs.Time.Order
import SensorRules.Proofs.Violation.Escalating
import SensorRules.Proofs.Violation.Timeline
import SensorRules.Proofs.RuleFile
import SensorRules.Proofs.Time.Calendar
import SensorRules.Proofs.Time.Timestamp
import SensorRules.Proofs.Home.Snapshot
import SensorRules.Proofs.Expression.Negating
import SensorRules.Proofs.Engine.Clearing
import SensorRules.Proofs.Graph.Termination
import SensorRules.Proofs.Pattern.WholeValue
import SensorRules.Proofs.Rule.Tables
import SensorRules.Proofs.Violation.Choosing
import SensorRules.Proofs.Violation.Accounting
import SensorRules.Proofs.Violation.Framing
import SensorRules.Proofs.Engine.Ranking
import SensorRules.Proofs.Graph.Blame
import SensorRules.Proofs.Home.Gathering
import SensorRules.Proofs.Expression.Spelling
import SensorRules.Proofs.Number.Numeral
import SensorRules.Proofs.Capability.Clock
import SensorRules.Proofs.Violation.Retaining
import SensorRules.Proofs.Capability.Asking
import SensorRules.Proofs.Config
import SensorRules.Proofs.Capability.Reporting
import SensorRules.Proofs.Graph.Access
