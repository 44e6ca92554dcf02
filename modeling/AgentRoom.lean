import AgentRoom.Run.DispatchSafety
import AgentRoom.Bridge.Finality
import AgentRoom.Bridge.Outbox
import AgentRoom.Bridge.CrashAtomicity
import AgentRoom.Plan.Digest
import AgentRoom.Hosted.AtMostOnce
import AgentRoom.Bridge.RecoveryOrder
import AgentRoom.Execution.CarryComplete
import AgentRoom.Context.RoomAgreement
import AgentRoom.Repository.CaptureLaw
import AgentRoom.Context.EvidenceCursors
import AgentRoom.Integration.Outcome
import AgentRoom.Governed.Journals
import AgentRoom.Pairing.SessionLaw
import AgentRoom.Workspace.LeaseLaw
import AgentRoom.Gate.GateLaw
import AgentRoom.Data.Transactions
import AgentRoom.Scheduler.SweepLaw
import AgentRoom.Connections.RegistryLaw
import AgentRoom.Run.Receipts
import AgentRoom.Run.HandoffLaw
import AgentRoom.Memory.EntryLaw
import AgentRoom.Memory.ReducerLaw
import AgentRoom.Run.MentionLaw
import AgentRoom.Consent.Narrowing
import AgentRoom.Repository.Resume
import AgentRoom.Repository.PatchInputs
import AgentRoom.Repository.BundleEnvelope
import AgentRoom.Hosted.SseLaw
import AgentRoom.Results.VersionLaw
import AgentRoom.Materialize.RecoveryLaw
