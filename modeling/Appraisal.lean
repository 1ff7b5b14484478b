import Appraisal.Action
import Appraisal.Dispatch
import Appraisal.Failure
import Appraisal.Identifier
import Appraisal.Identifier.Uuid
import Appraisal.Isolation
import Appraisal.Json
import Appraisal.Json.Described
import Appraisal.Json.Exchanged
import Appraisal.Json.Form
import Appraisal.Json.Held
import Appraisal.Json.Reader
import Appraisal.Json.Reported
import Appraisal.Json.Stored
import Appraisal.Json.Writer
import Appraisal.Literal
import Appraisal.Mapping
import Appraisal.Memory.Store
import Appraisal.Memory.Tables
import Appraisal.Memory.Transaction
import Appraisal.Postgres.Connection
import Appraisal.Postgres.Mapping
import Appraisal.Postgres.Queries
import Appraisal.Postgres.Row
import Appraisal.Postgres.Session
import Appraisal.Postgres.Statement
import Appraisal.Postgres.Stored
import Appraisal.Postgres.Timestamp
import Appraisal.Program
import Appraisal.Record
import Appraisal.Recorded
import Appraisal.Rehearsal.Handler
import Appraisal.Rehearsal.Script
import Appraisal.Rehearsal.Surroundings
import Appraisal.Retry
import Appraisal.Revision
import Appraisal.Savepoint
import Appraisal.Session
import Appraisal.Settings
import Appraisal.Signal
import Appraisal.Step
import Appraisal.Table
import Appraisal.Text.Blank
import Appraisal.Text.CodePoints
import Appraisal.Text.Combining
import Appraisal.Text.Invisible
import Appraisal.Text.Quoted
import Appraisal.Text.Unassigned
import Appraisal.Time.Calendar
import Appraisal.Time.Duration
import Appraisal.Time.Instant
import Appraisal.Time.Rfc3339
import Appraisal.Transaction.Coordinator
import Appraisal.Transaction.Error
import Appraisal.Workflow.Error
import Appraisal.Workflow.Event
import Appraisal.Workflow.RevisionWork
import Appraisal.Workflow.StepChange
import Appraisal.Proofs.Memory.Row
import Appraisal.Proofs.Memory.Snapshot
import Appraisal.Proofs.Program
import Appraisal.Proofs.Transaction.Savepoints
import Appraisal.Proofs.Transaction.Scope
import Appraisal.Proofs.Workflow.Call
import Appraisal.Proofs.Memory.Journal
import Appraisal.Proofs.Memory.History
import Appraisal.Proofs.Memory.Publication
import Appraisal.Proofs.Concurrent.Turn
import Appraisal.Proofs.Concurrent.Twin
import Appraisal.Proofs.Workflow.Footprint
import Appraisal.Proofs.Concurrent.System
import Appraisal.Proofs.Concurrent.Tale
import Appraisal.Proofs.Concurrent.Stages
import Appraisal.Proofs.Concurrent.Line
import Appraisal.Proofs.Concurrent.Serializable
import Appraisal.Proofs.Workflow.Telling
import Appraisal.Proofs.Workflow.Effect
import Appraisal.Proofs.Concurrent.EventLog
import Appraisal.Proofs.Transaction.Trace
import Appraisal.Proofs.Transaction.Once
import Appraisal.Proofs.Workflow.Deed
import Appraisal.Proofs.Workflow.Receipts
import Appraisal.Proofs.Concurrent.ExactlyOnce
import Appraisal.Proofs.Workflow.Growth
import Appraisal.Proofs.Workflow.Consistent
import Appraisal.Proofs.Concurrent.Footing
import Appraisal.Proofs.Concurrent.Permanence
import Appraisal.Proofs.Answers
import Appraisal.Proofs.Transaction.Attempt
import Appraisal.Proofs.Transaction.Protocol
import Appraisal.Proofs.Transaction.Rounds
import Appraisal.Proofs.Transaction.Delivery
import Appraisal.Proofs.Transaction.Coupled
import Appraisal.Proofs.Transaction.Indifferent
import Appraisal.Proofs.Postgres.Kept
import Appraisal.Proofs.Postgres.Server
import Appraisal.Proofs.Postgres.World
import Appraisal.Proofs.Postgres.Account
import Appraisal.Proofs.Postgres.Statements
import Appraisal.Proofs.Postgres.Turns
import Appraisal.Proofs.Postgres.Reading
import Appraisal.Proofs.Prospect
import Appraisal.Proofs.Workflow.Rule
import Appraisal.Proofs.Postgres.Refusal
import Appraisal.Proofs.Postgres.Effort
import Appraisal.Proofs.Postgres.Contest
import Appraisal.Proofs.Postgres.Completion
import Appraisal.Proofs.Workflow.Failing
import Appraisal.Proofs.Workflow.Forthright
import Appraisal.Proofs.Concurrent.Plight
import Appraisal.Proofs.Concurrent.Overtaken
import Appraisal.Proofs.Concurrent.Undisturbed
import Appraisal.Proofs.Concurrent.Rivals
import Appraisal.Proofs.Concurrent.Creations
import Appraisal.Proofs.Postgres.RoundTrip
import Appraisal.Proofs.Postgres.Listing
import Appraisal.Proofs.Postgres.Registration
import Appraisal.Proofs.Postgres.StandIn
import Appraisal.Proofs.Postgres.Heeding
import Appraisal.Proofs.Workflow.Changing
import Appraisal.Proofs.Concurrent.Upkeep
import Appraisal.Proofs.Workflow.Updating
import Appraisal.Proofs.Workflow.Distinct
import Appraisal.Proofs.Workflow.FanOut
import Appraisal.Proofs.Memory.Listing
import Appraisal.Proofs.Workflow.Paging
import Appraisal.Proofs.Transaction.Backoff
import Appraisal.Proofs.Transaction.Batch
import Appraisal.Proofs.Transaction.ReadOnly
import Appraisal.Proofs.Workflow.Commuting
import Appraisal.Proofs.Postgres.Naming
import Appraisal.Proofs.Postgres.Handover
import Appraisal.Proofs.Memory.Returned
import Appraisal.Proofs.Memory.PrivateCopies
import Appraisal.Proofs.Workflow.Lifecycle
import Appraisal.Proofs.Json.RoundTrip
