import CopilotFactory.Leasing.FinishedLeases
import CopilotFactory.Leasing.GracefulCompletion
import CopilotFactory.Automation.SupersededWorkers
import CopilotFactory.Merging.IntegratedMerges
import CopilotFactory.Merging.OperatorInterference
import CopilotFactory.Merging.StrandedMerges
import CopilotFactory.Merging.PostMergeFailures
import CopilotFactory.Merging.RepeatedEnqueues
import CopilotFactory.Merging.ApprovedCommits
import CopilotFactory.Dependencies.StaleReadiness
import CopilotFactory.Scheduling.JobChains
import CopilotFactory.Scheduling.Assignments
import CopilotFactory.Reviewing.OpenCycles
import CopilotFactory.Reviewing.RequiredReviews
import CopilotFactory.Dependencies.ParentChild
import CopilotFactory.Leasing.RetryLimits
import CopilotFactory.Scheduling.RetryBackoff
import CopilotFactory.Leasing.LeaseTtl
import CopilotFactory.Auditing.ResultSubmissions
import CopilotFactory.Automation.RetryBudget
import CopilotFactory.Workspaces.OrphanCleanup
import CopilotFactory.Workspaces.WorkspaceCleanupService
import CopilotFactory.Automation.StalePackets
import CopilotFactory.Merging.QueuePositions
import CopilotFactory.Merging.QueueCoherence
import CopilotFactory.Policies.CommandSpellings
import CopilotFactory.Policies.PathSpellings
import CopilotFactory.Cli.Shutdown
import CopilotFactory.Automation.MountedPackets
import CopilotFactory.Reopening.FreshStart
import CopilotFactory.Config.FrozenPolicies
import CopilotFactory.Dependencies.RepeatedImports
import CopilotFactory.Automation.OutputCapture
import CopilotFactory.Automation.VersionCompatibility
import CopilotFactory.Reviewing.RoutedReviewers
import CopilotFactory.ControlPlane.RetriedTransitions
import CopilotFactory.Artifacts.Confinement
import CopilotFactory.Artifacts.ConcurrentWrites
import CopilotFactory.Artifacts.RetrySummaries
import CopilotFactory.Importing.ClassifiedTasks
import CopilotFactory.Importing.DependencyCells
import CopilotFactory.Importing.JsonDocuments
import CopilotFactory.Importing.MarkdownTaskParser
import CopilotFactory.Recovery.CrashedRuns
import CopilotFactory.Recovery.StartupDiagnostics
import CopilotFactory.Application.CheckExecutor
import CopilotFactory.Merging.RecordedValidations
import CopilotFactory.Auditing.AuditQueries
import CopilotFactory.Reviewing.FactoryHistory
