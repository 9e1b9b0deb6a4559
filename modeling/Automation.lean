import Automation.Time.Reader
import Automation.Json.Reader
import Automation.Json.Path
import Automation.Json.Display
import Automation.Json.Writer
import Automation.Condition.Parser
import Automation.Condition.Evaluation
import Automation.Condition.Display
import Automation.Validation.Field
import Automation.Event.Filter
import Automation.Policy.Matcher
import Automation.Tenant.Basic
import Automation.Platform.Payload
import Automation.Platform.Address
import Automation.Log
import Automation.Sync.Key
import Automation.Text.Excerpt
import Automation.Validation.Report
import Automation.Number.Arithmetic
import Automation.Retry.Basic
import Automation.Retry.Run
import Automation.Settings
import Automation.Tenant.Bootstrap
import Automation.Log.Setup
import Automation.Number.Reader
import Automation.Text.LetterCase
import Automation.Web.Punycode
import Automation.Web.Url
import Automation.Web.Message
import Automation.Failure
import Automation.Platform.Call
import Automation.Platform.Client
import Automation.Webhook
import Automation.Event.Journal
import Automation.Event.Table
import Automation.Event.Store
import Automation.Sync.Change
import Automation.Policy.Intent
import Automation.Sync.Engine.Basic
import Automation.Sync.Engine.Turn
import Automation.Pipeline
import Automation.Service
import Automation.Simulation.Run
import Automation.Service.Bootstrap
import Automation.Text.Utf8
import Automation.Web.Query
import Automation.Api.Request
import Automation.Api.Endpoint
import Automation.Api.Demand
import Automation.Api.Answer
import Automation.Simulation.Api
import Automation.Platform.Arguments
import Automation.Simulation.Document
import Automation.File
import Automation.Web.HostName
import Automation.Web.Address
import Automation.Text.Codec
import Automation.Proofs.Sync.Outcome
import Automation.Proofs.Sync.Workload
import Automation.Proofs.Sync.Crew
import Automation.Proofs.Sync.Waiting
import Automation.Proofs.Sync.Delivery
import Automation.Proofs.Sync.Ledger
import Automation.Proofs.Sync.Window
import Automation.Proofs.Sync.Agreement
import Automation.Proofs.Validation.Field
import Automation.Proofs.Condition.Document
import Automation.Proofs.Policy.Application
import Automation.Proofs.Sync.Isolation
import Automation.Proofs.Sync.Wire
import Automation.Proofs.Text.Split
import Automation.Proofs.Retry.Delays
import Automation.Proofs.Sync.Effort
import Automation.Proofs.Sync.Implementation
import Automation.Proofs.Event.Backend
import Automation.Proofs.Policy.Recording
import Automation.Proofs.Sync.Pool
import Automation.Proofs.Service.Failures
import Automation.Proofs.Service.Pending
import Automation.Proofs.Service.Shutdown
import Automation.Proofs.Service.Containment
import Automation.Proofs.Api.Gateway
import Automation.Proofs.Sync.Confinement
import Automation.Proofs.Sync.Likeness
import Automation.Proofs.Sync.Company
import Automation.Proofs.Time.Calendar
import Automation.Proofs.Time.Decimals
import Automation.Proofs.Time.Timestamp
import Automation.Proofs.Json.Finite
import Automation.Proofs.Condition.Canonical
import Automation.Proofs.Validation.Reload
import Automation.Proofs.Validation.Documents
import Automation.Proofs.Condition.Grammar
import Automation.Proofs.Number.Exact
import Automation.Proofs.Json.Same
import Automation.Proofs.Condition.Normal
import Automation.Proofs.Condition.Reads
import Automation.Proofs.Json.Path
import Automation.Proofs.Condition.Rearrangement
import Automation.Proofs.Json.Equality
import Automation.Proofs.Condition.Equality
import Automation.Proofs.Condition.Order
import Automation.Proofs.Json.Addressing
import Automation.Proofs.Policy.Ranking
import Automation.Proofs.Number.Rounding
import Automation.Proofs.Time.Milliseconds
import Automation.Proofs.Condition.Moment
import Automation.Proofs.Sync.Actions
import Automation.Proofs.Number.Range
import Automation.Proofs.Retry.Attempts
import Automation.Proofs.Retry.Faults
import Automation.Proofs.Retry.Schedule
import Automation.Proofs.Event.Journal
import Automation.Proofs.Event.Calendar
import Automation.Proofs.Text.Utf8
import Automation.Proofs.Text.Percent
import Automation.Proofs.Platform.Address
import Automation.Proofs.Platform.Answers
import Automation.Proofs.Settings.Sources
import Automation.Proofs.Log.Setup
import Automation.Proofs.Validation.Places
import Automation.Proofs.Api.Refusals
import Automation.Proofs.Event.Disruption
import Automation.Proofs.Text.Surrogate
