import ConsoleHost.Handoff.Outline
import ConsoleHost.Main
import ConsoleHost.Proofs.CommandLine
import ConsoleHost.Proofs.Connect
import ConsoleHost.Proofs.History.Recycling
import ConsoleHost.Proofs.Lodging
import ConsoleHost.Proofs.Registry.Counters
import ConsoleHost.Proofs.Registry.ShareModes
import ConsoleHost.Proofs.Server.Aborted
import ConsoleHost.Proofs.Server.Answered
import ConsoleHost.Proofs.Server.Delegation
import ConsoleHost.Proofs.Server.FailedHandoff
import ConsoleHost.Proofs.Server.Geometry
import ConsoleHost.Proofs.Server.Histories
import ConsoleHost.Proofs.Server.Leftovers
import ConsoleHost.Proofs.Server.Lifecycle
import ConsoleHost.Proofs.Server.Notices
import ConsoleHost.Proofs.Server.Rights
import ConsoleHost.Proofs.Server.Root
import ConsoleHost.Proofs.Server.ShuttingDown
import ConsoleHost.Proofs.Server.Tokens
import ConsoleHost.Proofs.Server.Verdict
import ConsoleHost.Proofs.Server.WakeEvent
import ConsoleHost.Proofs.Settings
import ConsoleHost.Proofs.Signal.Relay
import ConsoleHost.Rehearsal.Record
import ConsoleHost.Rehearsal.Stage
