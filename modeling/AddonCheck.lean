import AddonCheck.Addon.CertManager
import AddonCheck.Addon.ClusterAutoscaler
import AddonCheck.Addon.IngressController
import AddonCheck.Addon.LogShipper
import AddonCheck.Addon.MetricsAgent
import AddonCheck.Addon.Waits
import AddonCheck.Bucket.Listing
import AddonCheck.Calendar
import AddonCheck.Calendar.Timestamp
import AddonCheck.Calendar.Timestamp.Field
import AddonCheck.Calendar.Timestamp.Offset
import AddonCheck.Calendar.Timestamp.Suffix
import AddonCheck.Calendar.Tokyo
import AddonCheck.Cancellation
import AddonCheck.Cluster.Answer
import AddonCheck.Cluster.Api
import AddonCheck.Cluster.Deployment
import AddonCheck.Cluster.Error
import AddonCheck.Cluster.Kind
import AddonCheck.Cluster.Metadata
import AddonCheck.Cluster.Object
import AddonCheck.Cluster.Resource
import AddonCheck.Cluster.Service
import AddonCheck.CommandLine.Grammar
import AddonCheck.CommandLine.Invocation
import AddonCheck.Dns.Address
import AddonCheck.Dns.Lookup
import AddonCheck.Dns.Message
import AddonCheck.Dns.Name
import AddonCheck.Duration
import AddonCheck.Duration.Expression
import AddonCheck.Duration.Text
import AddonCheck.Environment
import AddonCheck.Http
import AddonCheck.Invocation
import AddonCheck.Json
import AddonCheck.Json.Number
import AddonCheck.Json.Token
import AddonCheck.Json.Written
import AddonCheck.Log
import AddonCheck.Main
import AddonCheck.Metrics.Decoding
import AddonCheck.Metrics.Query
import AddonCheck.Metrics.Response
import AddonCheck.Notification
import AddonCheck.Notification.ChatRoom
import AddonCheck.Notification.Delivery
import AddonCheck.Peers
import AddonCheck.Poll
import AddonCheck.Program
import AddonCheck.Proofs.Actions
import AddonCheck.Proofs.Creating
import AddonCheck.Proofs.Custody
import AddonCheck.Proofs.Deed
import AddonCheck.Proofs.Discipline
import AddonCheck.Proofs.Duty
import AddonCheck.Proofs.Execution
import AddonCheck.Proofs.Gathering
import AddonCheck.Proofs.Interleaving
import AddonCheck.Proofs.Ledger
import AddonCheck.Proofs.Leftover
import AddonCheck.Proofs.Notified
import AddonCheck.Proofs.Restoration
import AddonCheck.Proofs.Shelf
import AddonCheck.Proofs.Store
import AddonCheck.Proofs.Tally
import AddonCheck.Proofs.Voice
import AddonCheck.Proofs.Watched
import AddonCheck.Registry
import AddonCheck.Request
import AddonCheck.Run.Checker
import AddonCheck.Run.Interruption
import AddonCheck.Run.Phase
import AddonCheck.Run.Report
import AddonCheck.Session
import AddonCheck.Settings
import AddonCheck.Text.Digits
import AddonCheck.Word
import AddonCheck.Workspace
import AddonCheck.Workspace.Creation
import AddonCheck.Workspace.Error
import AddonCheck.Workspace.Name
import AddonCheck.Workspace.Readiness
import AddonCheck.Workspace.Teardown
import AddonCheck.Proofs.Backlog
import AddonCheck.Proofs.Registered
import AddonCheck.Proofs.Cancelled
import AddonCheck.Proofs.Transcript
import AddonCheck.Proofs.Verdict
import AddonCheck.Proofs.Course
import AddonCheck.Proofs.Milestones
import AddonCheck.Proofs.Agenda
import AddonCheck.Proofs.Pursuit
import AddonCheck.Proofs.Plans
import AddonCheck.Proofs.Recording
import AddonCheck.Proofs.Planned
import AddonCheck.Proofs.Ownership
import AddonCheck.Proofs.Residence
import AddonCheck.Proofs.Addressed
import AddonCheck.Proofs.Journey
import AddonCheck.Proofs.Matching
import AddonCheck.Proofs.Debug
import AddonCheck.Proofs.Kept
import AddonCheck.Proofs.OneText
import AddonCheck.Proofs.Calm
import AddonCheck.Proofs.Preparation
import AddonCheck.Proofs.Unset
import AddonCheck.Proofs.Timeline
import AddonCheck.Proofs.Decided
import AddonCheck.Proofs.CutOff
import AddonCheck.Proofs.Account
import AddonCheck.Proofs.Attempts
import AddonCheck.Proofs.Sweep
import AddonCheck.Proofs.Hearing
import AddonCheck.Proofs.Readied
import AddonCheck.Proofs.Awaited
import AddonCheck.Proofs.Placement
import AddonCheck.Proofs.ScaleOut
import AddonCheck.Proofs.Paging
import AddonCheck.Proofs.Sharing
import AddonCheck.Proofs.Typed
import AddonCheck.Proofs.References
import AddonCheck.Proofs.Secrets
import AddonCheck.Proofs.Overrides
import AddonCheck.Proofs.Succession
import AddonCheck.Proofs.Families
import AddonCheck.Proofs.Naming
import AddonCheck.Proofs.Listening
