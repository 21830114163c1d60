import WeFlow.Base.Program
import WeFlow.Base.Interleaving
import WeFlow.Base.KeyedFold
import WeFlow.Base.Regex
import WeFlow.Ledger.Rebuild
import WeFlow.Ledger.Cursors
import WeFlow.Ledger.Agreement
import WeFlow.Ledger.Redelivery
import WeFlow.Ledger.Tenants
import WeFlow.Ledger.Restored
import WeFlow.Contracts.Agent
import WeFlow.Contracts.Authorization
import WeFlow.Contracts.Workflow
import WeFlow.Contracts.Judgement
import WeFlow.Contracts.Sequence
import WeFlow.Contracts.Evidence
import WeFlow.Contracts.Pairing
import WeFlow.Contracts.Suite
import WeFlow.Contracts.Operator
import WeFlow.Contracts.Benchmark
import WeFlow.Contracts.Console
import WeFlow.Contracts.ConsoleCase
import WeFlow.Contracts.Lineage
import WeFlow.Contracts.Canonical
import WeFlow.Kernel.Policy
import WeFlow.Kernel.Store
import WeFlow.Kernel.Source
import WeFlow.Kernel.Checkpoint
import WeFlow.Kernel.Ticket
import WeFlow.Kernel.Authorization
import WeFlow.Kernel.Delivery
import WeFlow.Kernel.Approval
import WeFlow.Kernel.Recover
import WeFlow.Kernel.Run
import WeFlow.Kernel.Step
import WeFlow.Kernel.Frame
import WeFlow.Kernel.Chain
import WeFlow.Kernel.Invariant
import WeFlow.Kernel.Safety.Journal
import WeFlow.Kernel.Safety.Advance
import WeFlow.Kernel.Safety.Ticket
import WeFlow.Kernel.Safety.Investigation
import WeFlow.Kernel.Safety.Delivery
import WeFlow.Kernel.Safety.Approval
import WeFlow.Kernel.Safety.Command
import WeFlow.Kernel.Safety.Recover
import WeFlow.Kernel.Safety.Program
import WeFlow.Runtime.LiveBudget
import WeFlow.Kernel.Final
import WeFlow.Kernel.Sla
import WeFlow.Kernel.Grants
import WeFlow.Kernel.Gate
import WeFlow.Kernel.Verifier
import WeFlow.Sandbox.Inbound
import WeFlow.Sandbox.Journal
import WeFlow.Sandbox.Controller
import WeFlow.Sandbox.Gateway
import WeFlow.Sandbox.Contiguous
import WeFlow.Sandbox.Acknowledgement
import WeFlow.Handler.Records
import WeFlow.Handler.Journal
import WeFlow.Handler.Delivery
import WeFlow.Handler.Assist
import WeFlow.Handler.Effect
import WeFlow.Handler.Service
import WeFlow.Handler.Step
import WeFlow.Handler.Notification
import WeFlow.Handler.Case
import WeFlow.Handler.Terminal
import WeFlow.Handler.Decision
import WeFlow.Handler.Outcome
import WeFlow.Handler.Candidate
import WeFlow.Handler.Late
import WeFlow.Handler.Approval
import WeFlow.Handler.Binding
import WeFlow.Handler.Reply
import WeFlow.Handler.Retention
import WeFlow.Handler.Redaction
import WeFlow.Handler.PrivateContent
import WeFlow.Base.Timestamp
import WeFlow.Pairing.Journal
import WeFlow.Pairing.Controller
import WeFlow.Pairing.Completion
import WeFlow.Base.Decimal
import WeFlow.Base.Calendar
import WeFlow.Base.Rfc3339
import WeFlow.Kernel.Rendering
import WeFlow.Contracts.EventOrder
import WeFlow.Contracts.Approval
import WeFlow.Telemetry.Text
import WeFlow.Telemetry.Attributes
import WeFlow.Base.Numeral
import WeFlow.Base.Words
import WeFlow.Handler.Command
import WeFlow.Sandbox.Redelivery
import WeFlow.Kernel.PolicyRecords
import WeFlow.Kernel.Authority
import WeFlow.Kernel.Exactly
import WeFlow.Kernel.Closure.Runs
import WeFlow.Base.Reorder
import WeFlow.Ledger.Restored
