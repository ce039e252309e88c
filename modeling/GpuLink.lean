import GpuLink.Library.KeyedTable
import GpuLink.Library.OrderLimit
import GpuLink.Library.ReadCommitted
import GpuLink.Library.Regime
import GpuLink.Library.Schedule
import GpuLink.Store.LeaseFencing
import GpuLink.Store.ListenerLiveness
import GpuLink.ControlPlane.Attendance
import GpuLink.ControlPlane.Drain
import GpuLink.ControlPlane.LeaseDiscovery
import GpuLink.ControlPlane.PlacementOrder
import GpuLink.ControlPlane.Reservation
import GpuLink.ControlPlane.SchedulerRunner
import GpuLink.ControlPlane.WorkerEvents
import GpuLink.Broker.AttemptAgreement
import GpuLink.DataPlane.GrantSoundness
import GpuLink.DataPlane.RelayInvalidation
import GpuLink.Asr.Atomicity
import GpuLink.Asr.Transcripts
import GpuLink.Sdk.EchoConformance
import GpuLink.Sdk.Transport
import GpuLink.Worker.Advertisement
import GpuLink.Worker.Agent
import GpuLink.Worker.AssignmentPoll
import GpuLink.Worker.BridgeOrder
import GpuLink.Worker.ExecuteLease
import GpuLink.Worker.SessionDispatch
import GpuLink.ControlPlane.Submission
import GpuLink.Worker.OutputSegments
import GpuLink.Worker.SyntheticSession
import GpuLink.Shared.JsonPrint
import GpuLink.Asr.DuplicateKeys
import GpuLink.Store.MigrationCopy
import GpuLink.Broker.JournalReload
import GpuLink.ControlPlane.SessionMetadata
import GpuLink.Sdk.SessionClose
import GpuLink.Sdk.SessionQueue
import GpuLink.ControlPlane.StreamClients
import GpuLink.ControlPlane.EventBacklog
import GpuLink.Broker.Ledger
import GpuLink.ControlPlane.RequestValidation
import GpuLink.ControlPlane.HttpRequests
import GpuLink.ControlPlane.ClientPaths
import GpuLink.Worker.GpuBenchmark
import GpuLink.Worker.WorkloadRuntime
import GpuLink.ControlPlane.PriorityPass
