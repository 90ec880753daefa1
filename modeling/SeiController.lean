import SeiController.Controller.DataVolume
import SeiController.Controller.DriftWake
import SeiController.Controller.MaintenanceCondition
import SeiController.Controller.RejectedRequest
import SeiController.Controller.ValidationGate
import SeiController.Controller.WitnessFloor
import SeiController.Genesis.OverrideOrder
import SeiController.HashLog.Accounting
import SeiController.Network.CeremonyRuns
import SeiController.Network.Producing
import SeiController.Peering.Stability
import SeiController.Planner.CanonicalNumber
import SeiController.Planner.EngineMerge
import SeiController.Planner.OverlayReach
import SeiController.Planner.PlanOrder
import SeiController.Planner.RetryBudget
import SeiController.Rollout.Pinning
import SeiController.Sidecar.Gate
import SeiController.Sidecar.HoldRecovery
import SeiController.Sidecar.ParamsRoundTrip
import SeiController.Sidecar.RowWrites
import SeiController.Sidecar.SignState
import SeiController.Sidecar.SignTxRun
import SeiController.Sidecar.SingleRun
import SeiController.Sidecar.StoreOrder
import SeiController.Sidecar.TomlPatch
import SeiController.Snapshot.Agreement
import SeiController.Snapshot.Confined
import SeiController.Snapshot.RestoreRuns
