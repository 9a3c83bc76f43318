import IssueNotice.Host.Session
import IssueNotice.Main
import IssueNotice.Proofs.Batch
import IssueNotice.Proofs.Chunks
import IssueNotice.Proofs.Component.Growth
import IssueNotice.Proofs.Component.Lookups
import IssueNotice.Proofs.Component.PostOrder
import IssueNotice.Proofs.Component.Visits
import IssueNotice.Proofs.Fixture.Conversion
import IssueNotice.Proofs.Gate
import IssueNotice.Proofs.Json.Layout
import IssueNotice.Proofs.Keyed
import IssueNotice.Proofs.LeakPeriod
import IssueNotice.Proofs.Report
import IssueNotice.Proofs.Report.Json
import IssueNotice.Proofs.Report.Rows
import IssueNotice.Proofs.Report.Table
import IssueNotice.Proofs.Run.Accounts
import IssueNotice.Proofs.Run.Agenda
import IssueNotice.Proofs.Run.CachedStore
import IssueNotice.Proofs.Run.Completion
import IssueNotice.Proofs.Run.Contract
import IssueNotice.Proofs.Run.Course
import IssueNotice.Proofs.Run.Cut
import IssueNotice.Proofs.Run.Deliveries
import IssueNotice.Proofs.Run.Endings
import IssueNotice.Proofs.Run.FaultyRun
import IssueNotice.Proofs.Run.Follows
import IssueNotice.Proofs.Run.Holding
import IssueNotice.Proofs.Run.IgnoredIssues
import IssueNotice.Proofs.Run.IssueCache
import IssueNotice.Proofs.Run.IssueOrder
import IssueNotice.Proofs.Run.Journal
import IssueNotice.Proofs.Run.Ledger
import IssueNotice.Proofs.Run.NewIssues
import IssueNotice.Proofs.Run.Outbox
import IssueNotice.Proofs.Run.Recipients
import IssueNotice.Proofs.Run.Repetition
import IssueNotice.Proofs.Run.Routing
import IssueNotice.Proofs.Run.Serving
import IssueNotice.Proofs.Run.Script
import IssueNotice.Proofs.Run.Streams
import IssueNotice.Proofs.Run.Triple
import IssueNotice.Proofs.Run.Twin
import IssueNotice.Proofs.Statistics.Assignees
import IssueNotice.Proofs.Statistics.Counts
import IssueNotice.Proofs.Statistics.Summary
import IssueNotice.Proofs.Statistics.Top
import IssueNotice.Proofs.Traced
import IssueNotice.Run.Fault
import IssueNotice.Run.IssueCache
