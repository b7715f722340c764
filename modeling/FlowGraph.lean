import FlowGraph.Json.Reader
import FlowGraph.Template
import FlowGraph.Condition
import FlowGraph.Error
import FlowGraph.Timestamp
import FlowGraph.Workflow.Graph
import FlowGraph.Node.Handler
import FlowGraph.Http.Url
import FlowGraph.Node.Standard
import FlowGraph.Run.Context
import FlowGraph.Store.Memory
import FlowGraph.Store.Table
import FlowGraph.Engine.Nested
import FlowGraph.Workflow.Source
import FlowGraph.Config.Basic
import FlowGraph.Main
import FlowGraph.Proofs.Breaker.History
import FlowGraph.Proofs.Breaker.Standing
import FlowGraph.Proofs.Graph.Search
import FlowGraph.Proofs.Walk.Effect
import FlowGraph.Proofs.Walk.Course
import FlowGraph.Proofs.Run.Start
import FlowGraph.Proofs.Run.Failure
import FlowGraph.Proofs.Walk.Journal
import FlowGraph.Proofs.Walk.Kept
import FlowGraph.Proofs.Run.Loops
import FlowGraph.Proofs.Graph.Unfolding
import FlowGraph.Proofs.Run.Unfolding
import FlowGraph.Proofs.Graph.Cycle
import FlowGraph.Proofs.Run.Sinks
import FlowGraph.Proofs.Walk.Within
import FlowGraph.Proofs.Walk.Recursion
import FlowGraph.Proofs.Run.Termination
import FlowGraph.Proofs.Walk.Memory
import FlowGraph.Proofs.Run.Provenance
import FlowGraph.Proofs.Walk.Filing
import FlowGraph.Proofs.Run.Reports
import FlowGraph.Proofs.Breaker.Alike
import FlowGraph.Proofs.Breaker.Unsent
import FlowGraph.Proofs.Graph.Part
import FlowGraph.Proofs.Store.Agreement
import FlowGraph.Proofs.Walk.Reach
import FlowGraph.Proofs.Run.Part
import FlowGraph.Proofs.Timestamp.Calendar
import FlowGraph.Proofs.Timestamp.Text
import FlowGraph.Proofs.Walk.Moments
import FlowGraph.Proofs.Run.Accounts
import FlowGraph.Proofs.Graph.Without
import FlowGraph.Proofs.Walk.Recovery
import FlowGraph.Proofs.Run.Recovery
import FlowGraph.Proofs.Run.Likeness
import FlowGraph.Proofs.Run.Isolation
import FlowGraph.Proofs.Run.Tokens
import FlowGraph.Proofs.Walk.Parallel
import FlowGraph.Proofs.Text
import FlowGraph.Proofs.Graph.Verdict
import FlowGraph.Proofs.Walk.Span
import FlowGraph.Proofs.Run.Nesting
import FlowGraph.Proofs.Run.Steering
import FlowGraph.Proofs.Json.Path
import FlowGraph.Proofs.Node.Assignments
import FlowGraph.Proofs.Template.Reference
import FlowGraph.Proofs.Template.Layout
import FlowGraph.Proofs.Run.References
import FlowGraph.Proofs.Condition.Integers
import FlowGraph.Proofs.Condition.Equality
import FlowGraph.Proofs.Node.ContentType
import FlowGraph.Proofs.Store.Listing
import FlowGraph.Proofs.Json.Ordered
import FlowGraph.Proofs.Json.Record
import FlowGraph.Proofs.Workflow.Spelling
import FlowGraph.Proofs.Config.Precedence
import FlowGraph.Proofs.Node.TimeLimit
import FlowGraph.Proofs.Run.Settings
