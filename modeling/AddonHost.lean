import AddonHost.Action
import AddonHost.Answer
import AddonHost.Assoc
import AddonHost.AsyncJob
import AddonHost.Config
import AddonHost.Engine
import AddonHost.Error
import AddonHost.Event
import AddonHost.Fatal
import AddonHost.Handle
import AddonHost.Invoker.Basic
import AddonHost.Invoker.Config
import AddonHost.Invoker.TaskQueue
import AddonHost.Log.Level
import AddonHost.Log.Logger
import AddonHost.Machine.Code
import AddonHost.Machine.Entry
import AddonHost.Machine.Fatal
import AddonHost.Machine.Forward
import AddonHost.Machine.Function
import AddonHost.Machine.Invoker
import AddonHost.Machine.Job
import AddonHost.Machine.Move
import AddonHost.Machine.Step
import AddonHost.Main
import AddonHost.Multiplexer
import AddonHost.Perform
import AddonHost.Perform.Basic
import AddonHost.Perform.Function
import AddonHost.Perform.Host
import AddonHost.Perform.Invoker
import AddonHost.Perform.Registry
import AddonHost.Proofs.Function.Effect
import AddonHost.Proofs.Function.Life
import AddonHost.Proofs.Function.View
import AddonHost.Proofs.Session.Follows
import AddonHost.Proofs.Session.Plain
import AddonHost.Proofs.Session.Sane
import AddonHost.Registry
import AddonHost.Session.History
import AddonHost.Session.Lookup
import AddonHost.Session.Reachable
import AddonHost.Session.Run
import AddonHost.Session.State
import AddonHost.Status
import AddonHost.Stress
import AddonHost.Stress.State
import AddonHost.Table.Entry
import AddonHost.Table.HostTable
import AddonHost.Table.Request
import AddonHost.Text.Blank
import AddonHost.Text.Count
import AddonHost.Text.Duration
import AddonHost.Text.Lines
import AddonHost.Text.Printable
import AddonHost.Text.Quoted
import AddonHost.Text.Utf8
import AddonHost.Thread
import AddonHost.ThreadsafeFunction
import AddonHost.Word
import AddonHost.Proofs.Items
import AddonHost.Proofs.LateDelivery
import AddonHost.Proofs.Teardown
import AddonHost.Proofs.Sleepers
import AddonHost.Proofs.Callbacks
import AddonHost.Proofs.Ownership
import AddonHost.Proofs.Routing
import AddonHost.Proofs.Multiplexer.Consistent
import AddonHost.Proofs.Multiplexer.Owned
import AddonHost.Proofs.Transparency
import AddonHost.Proofs.QueueBound
import AddonHost.Proofs.Lifecycle
import AddonHost.Proofs.Finalization
import AddonHost.Proofs.Isolation
import AddonHost.Proofs.Abort
import AddonHost.Proofs.Handle.Moves
import AddonHost.Proofs.Handles
import AddonHost.Proofs.Untouched
import AddonHost.Proofs.References
import AddonHost.Proofs.JobStates
import AddonHost.Proofs.Accounting
import AddonHost.Proofs.Submissions
import AddonHost.Proofs.Interchange
import AddonHost.Proofs.TwoHandles
import AddonHost.Proofs.EarlyClosing
import AddonHost.Proofs.SyncDelivery
import AddonHost.Proofs.StressRun
import AddonHost.Proofs.Holders
import AddonHost.Proofs.Deletion
import AddonHost.Proofs.JobEnvs
import AddonHost.Proofs.WrappedFinalizers
import AddonHost.Proofs.LogSettings
import AddonHost.Proofs.LogVariables
import AddonHost.Proofs.HandedOut
import AddonHost.Proofs.Pumping
import AddonHost.Proofs.DispatchTasks
import AddonHost.Proofs.FatalText
import AddonHost.Proofs.Configuration
