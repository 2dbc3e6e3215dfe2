import CoopKernel.Text.Numeral
import CoopKernel.Task.Id
import CoopKernel.Task.Mask
import CoopKernel.Task.Desc
import CoopKernel.Mail.Message
import CoopKernel.Mail.Error
import CoopKernel.Mail.Mailbox
import CoopKernel.Mail.Mailbox.Entries
import CoopKernel.Trace.Ring
import CoopKernel.Trace.Event
import CoopKernel.Fault
import CoopKernel.ConfigError
import CoopKernel.Epitaph
import CoopKernel.Ready
import CoopKernel.Machine.Basic
import CoopKernel.Machine.Host
import CoopKernel.Kernel.Basic
import CoopKernel.Kernel.Schedule
import CoopKernel.Kernel.Mail
import CoopKernel.Kernel.Lifecycle
import CoopKernel.Kernel.Trap
import CoopKernel.Kernel.Call
import CoopKernel.Machine.Memory
import CoopKernel.Machine.CortexM.Context
import CoopKernel.Machine.CortexM.Lines
import CoopKernel.Machine.CortexM.Registers
import CoopKernel.Machine.CortexM.Frame
import CoopKernel.Machine.CortexM.Basic
import CoopKernel.Machine.CortexM.Service
import CoopKernel.Json.Datum
import CoopKernel.Json.Reader
import CoopKernel.Json.Form
import CoopKernel.Text.Visible
import CoopKernel.Ron.Value
import CoopKernel.Ron.Lexical
import CoopKernel.Ron.Reader
import CoopKernel.Config.App
import CoopKernel.Config.KernelConfig
import CoopKernel.Config.Resolve
import CoopKernel.Config.Handoff
import CoopKernel.Config.TableText
import CoopKernel.Toml.Value
import CoopKernel.Toml.Scalar
import CoopKernel.Toml.Quoted
import CoopKernel.Toml.Reader
import CoopKernel.Config.AppFile
import CoopKernel.Config.Build
import CoopKernel.Config.Demo
import CoopKernel.Proofs.Failure.Epitaph
import CoopKernel.Proofs.Ready.Order
import CoopKernel.Proofs.Ready.Threads
import CoopKernel.Proofs.Ready.Sequence
import CoopKernel.Proofs.Mail.Queue
import CoopKernel.Proofs.Kernel.Stepping
import CoopKernel.Proofs.Kernel.Effects
import CoopKernel.Proofs.Kernel.Trapping
import CoopKernel.Proofs.Kernel.Run
import CoopKernel.Proofs.Kernel.Replay
import CoopKernel.Proofs.Kernel.Movement
import CoopKernel.Proofs.Scheduling.Walk
import CoopKernel.Proofs.Scheduling.Policy
import CoopKernel.Proofs.Mail.Traffic
import CoopKernel.Proofs.Mail.Wakeup
import CoopKernel.Proofs.Mail.Delivery
import CoopKernel.Proofs.Mail.Offers
import CoopKernel.Proofs.Scheduling.Entrance
import CoopKernel.Proofs.Mail.Awaiting
import CoopKernel.Proofs.Trap.Registers
import CoopKernel.Proofs.Trap.Agreement
import CoopKernel.Proofs.Trap.Isolation
import CoopKernel.Proofs.Kernel.Views
import CoopKernel.Proofs.Machine.Protection
import CoopKernel.Proofs.Trap.Handover
import CoopKernel.Proofs.Mail.Authority
import CoopKernel.Proofs.Kernel.Failing
import CoopKernel.Proofs.Scheduling.Retirement
import CoopKernel.Proofs.Scheduling.HalfStarted
import CoopKernel.Proofs.Kernel.Words
import CoopKernel.Proofs.Trace.Groups
import CoopKernel.Proofs.Trace.History
import CoopKernel.Proofs.Kernel.Tracing
import CoopKernel.Proofs.Kernel.Faultless
import CoopKernel.Proofs.Kernel.Passes
import CoopKernel.Proofs.Scheduling.Idling
import CoopKernel.Proofs.Scheduling.Waiting
import CoopKernel.Proofs.Scheduling.Rotation
import CoopKernel.Proofs.Scheduling.Restarting
import CoopKernel.Proofs.Kernel.Reboot
import CoopKernel.Proofs.Kernel.Following
import CoopKernel.Proofs.Machine.Matching
import CoopKernel.Proofs.Trap.Sharing
import CoopKernel.Proofs.Trap.Duet
import CoopKernel.Proofs.Config.Interrupts
import CoopKernel.Proofs.Config.Resolution
import CoopKernel.Proofs.Config.Consistency
import CoopKernel.Proofs.Config.Booting
import CoopKernel.Proofs.Mail.Refusal
import CoopKernel.Proofs.Mail.Broadcast
import CoopKernel.Proofs.Config.Access
import CoopKernel.Proofs.Ron.Spelling
import CoopKernel.Proofs.Ron.Printing
import CoopKernel.Proofs.Config.Lossless
import CoopKernel.Proofs.Config.Confinement
import CoopKernel.Proofs.Config.Naming
import CoopKernel.Proofs.Source.Declarations
import CoopKernel.Proofs.Config.Listing
import CoopKernel.Proofs.Config.Compiled
import CoopKernel.Proofs.Machine.InitialFrame
import CoopKernel.Proofs.Machine.Exactness
import CoopKernel.Proofs.Json.Spelling
import CoopKernel.Proofs.Json.Grammar
import CoopKernel.Proofs.Json.Canonical
import CoopKernel.Proofs.Trap.Service
