import Dispatch.Backend.Registry
import Dispatch.Backend.Reply
import Dispatch.Clock.Basic
import Dispatch.CommandLine.Run
import Dispatch.Config.Load
import Dispatch.Conversation.Codec
import Dispatch.Conversation.Window
import Dispatch.Handling.Basic
import Dispatch.Handling.Codec
import Dispatch.Main
import Dispatch.Metrics.Export
import Dispatch.Proofs.Breaker.Availability
import Dispatch.Proofs.Breaker.Opening
import Dispatch.Proofs.Breaker.Reset
import Dispatch.Proofs.Handling.Exchange
import Dispatch.Proofs.Store.History
import Dispatch.Resilience.Backoff
import Dispatch.Resilience.Breaker
import Dispatch.Resilience.Call
import Dispatch.Resilience.Guards
import Dispatch.Resilience.Limiter
import Dispatch.Simulation.Codec
import Dispatch.Simulation.FaultyStore
import Dispatch.Simulation.ScriptedCall
import Dispatch.Simulation.Session
import Dispatch.Store.Cached
import Dispatch.Store.Choice
import Dispatch.Store.Durable
import Dispatch.Store.Memory
import Dispatch.Task.Codec
import Dispatch.Proofs.Breaker.Cooldown
import Dispatch.Proofs.Breaker.Window
import Dispatch.Proofs.Store.Interleaving
import Dispatch.Proofs.Store.Freshness
import Dispatch.Proofs.Call.Turn
import Dispatch.Proofs.Call.Verdict
import Dispatch.Proofs.Call.Deadline
import Dispatch.Proofs.Call.Callers
import Dispatch.Proofs.Call.Permits
import Dispatch.Proofs.Call.FailFast
import Dispatch.Proofs.Limiter.Rate
import Dispatch.Proofs.Limiter.Forgetting
import Dispatch.Proofs.Limiter.Waiting
import Dispatch.Proofs.Store.Transparency
import Dispatch.Proofs.Store.Agreement
import Dispatch.Proofs.Store.Bypass
import Dispatch.Proofs.Config.Validation
import Dispatch.Proofs.Routing.Candidates
import Dispatch.Proofs.Handling.Failover
import Dispatch.Proofs.Config.Saving
import Dispatch.Proofs.CommandLine.DryRun
import Dispatch.Proofs.Handling.Admission
import Dispatch.Proofs.Handling.Sent
import Dispatch.Proofs.Call.Range
import Dispatch.Proofs.Breaker.Isolation
import Dispatch.Proofs.Handling.Eligible
import Dispatch.Proofs.Handling.Accounting
import Dispatch.Proofs.Simulation.Wording
import Dispatch.Proofs.Conversation.Composition
import Dispatch.Proofs.Conversation.Words
import Dispatch.Proofs.Limiter.Tracked
import Dispatch.Proofs.Routing.Rules
import Dispatch.Proofs.Routing.Ranks
import Dispatch.Proofs.Breaker.Gate
import Dispatch.Proofs.Task.Classification
import Dispatch.Proofs.Store.Transaction
import Dispatch.Proofs.Call.Schedule
import Dispatch.Proofs.Handling.Report
