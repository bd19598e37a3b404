import StreamControl.Channel
import StreamControl.Completion
import StreamControl.Inbox
import StreamControl.Machine
import StreamControl.Options
import StreamControl.Outbox
import StreamControl.Priority
import StreamControl.Proofs.Allocation
import StreamControl.Proofs.ByteBalance
import StreamControl.Proofs.CompletionRun
import StreamControl.Proofs.CreditReturn
import StreamControl.Proofs.FailureCause
import StreamControl.Proofs.FaultIsolation
import StreamControl.Proofs.InboundDelivery
import StreamControl.Proofs.InboundOrder
import StreamControl.Proofs.InboxCredit
import StreamControl.Proofs.InboxFaults
import StreamControl.Proofs.InboxOrder
import StreamControl.Proofs.InboxRelief
import StreamControl.Proofs.InboxRun
import StreamControl.Proofs.InboxService
import StreamControl.Proofs.InboxSignals
import StreamControl.Proofs.InboxSlices
import StreamControl.Proofs.JobOrder
import StreamControl.Proofs.LateReset
import StreamControl.Proofs.LoopDrive
import StreamControl.Proofs.LoopOrder
import StreamControl.Proofs.LoopOwner
import StreamControl.Proofs.LoopRun
import StreamControl.Proofs.LoopTasks
import StreamControl.Proofs.OutboundOrder
import StreamControl.Proofs.OutboundWire
import StreamControl.Proofs.OutboxClosing
import StreamControl.Proofs.OutboxCustody
import StreamControl.Proofs.OutboxGate
import StreamControl.Proofs.OutboxPeriods
import StreamControl.Proofs.OutboxPlaces
import StreamControl.Proofs.OutboxRun
import StreamControl.Proofs.OutboxWaking
import StreamControl.Proofs.OutcomeHandout
import StreamControl.Proofs.PriorityOrder
import StreamControl.Proofs.PromiseCustody
import StreamControl.Proofs.Run
import StreamControl.Proofs.Serving
import StreamControl.Proofs.StreamAffinity
import StreamControl.Proofs.StreamApart
import StreamControl.Proofs.StreamCover
import StreamControl.Proofs.StreamEnding
import StreamControl.Proofs.StreamException
import StreamControl.Proofs.StreamFaults
import StreamControl.Proofs.StreamFraming
import StreamControl.Proofs.StreamFunnel
import StreamControl.Proofs.StreamGuard
import StreamControl.Proofs.StreamOrder
import StreamControl.Proofs.StreamPassage
import StreamControl.Proofs.StreamPlans
import StreamControl.Proofs.StreamProgress
import StreamControl.Proofs.StreamRounds
import StreamControl.Proofs.StreamRun
import StreamControl.Proofs.StreamShield
import StreamControl.Proofs.StreamSides
import StreamControl.Proofs.StreamStages
import StreamControl.Proofs.StreamSteps
import StreamControl.Proofs.StreamThread
import StreamControl.Proofs.StreamWaking
import StreamControl.Proofs.StreamWhole
import StreamControl.Proofs.TerminalCause
import StreamControl.Proofs.TerminalSignals
import StreamControl.Proofs.Termination
import StreamControl.Proofs.Veil
import StreamControl.Proofs.WithoutQueue
import StreamControl.Proofs.Writability
import StreamControl.Scenario.Completion
import StreamControl.Scenario.Inbox
import StreamControl.Scenario.Outbox
import StreamControl.Scenario.Stream
import StreamControl.Scenario.TaskLoop
import StreamControl.Stream.Exec
import StreamControl.TaskLoop
import StreamControl.Trace
