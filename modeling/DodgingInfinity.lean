import DodgingInfinity.CodeReview.DiffShown
import DodgingInfinity.Coordination.HandoffRetry
import DodgingInfinity.Coordination.RouteReplay
import DodgingInfinity.Coordination.RouteSound
import DodgingInfinity.GrokBot.ForeignText
import DodgingInfinity.GrokBot.ProposalTexts
import DodgingInfinity.Herdr.HeartbeatRuns
import DodgingInfinity.Herdr.ProvenPanes
import DodgingInfinity.Herdr.TurnRuns
import DodgingInfinity.MissionCore.Budget
import DodgingInfinity.MissionCore.Confinement
import DodgingInfinity.MissionCore.DependencyGraph
import DodgingInfinity.MissionCore.Lease
import DodgingInfinity.MissionCore.Requirements
import DodgingInfinity.MissionSources.Disturbance
import DodgingInfinity.MissionSources.ReadBudget
import DodgingInfinity.PrDelivery.Portable
import DodgingInfinity.PrDelivery.WriteAhead
import DodgingInfinity.ProcessOwnership.ReapingRuns
import DodgingInfinity.ProcessOwnership.Recovery
import DodgingInfinity.Retention.NeverEarly
import DodgingInfinity.TargetBroker.ClosedWorkspaces
import DodgingInfinity.TargetRuntime.CancelRuns
import DodgingInfinity.TargetRuntime.CapabilityRuns
import DodgingInfinity.TargetRuntime.TrustSafe
import DodgingInfinity.TargetUrls
import DodgingInfinity.TelegramOperator.AtMostOne
import DodgingInfinity.TelegramOperator.SingleResult
