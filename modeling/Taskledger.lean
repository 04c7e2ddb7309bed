import Taskledger.PlainRuntime
import Taskledger.Services.Operations
import Taskledger.Properties.RunsAndLocks
import Taskledger.Properties.Quiescence
import Taskledger.Properties.Stages
import Taskledger.Properties.Acceptance
import Taskledger.Properties.Freshness
import Taskledger.Properties.Verdict
import Taskledger.Properties.Atomicity
import Taskledger.Properties.Commands
import Taskledger.Properties.Capabilities
import Taskledger.Properties.ApprovedPlans
import Taskledger.Properties.StageReports
import Taskledger.Properties.Handoffs
import Taskledger.Properties.StaleAnswers
import Taskledger.Properties.ReadOnly
import Taskledger.Properties.RoundTrips
import Taskledger.Properties.TodoGates
import Taskledger.Properties.Redaction
import Taskledger.Properties.Requirements
import Taskledger.Properties.LockIds
import Taskledger.Properties.PlanReview
import Taskledger.Properties.DoctorRepairs
import Taskledger.Concurrency.Creation
import Taskledger.Concurrency.Starts
import Taskledger.Properties.ConfigEdits
import Taskledger.Properties.CriterionRefs
import Taskledger.Properties.EventOrder
import Taskledger.Properties.EditablePlans
import Taskledger.Properties.PlanAtomicity
import Taskledger.Properties.AnswerBatches
import Taskledger.Properties.CommandChanges
import Taskledger.Properties.TaskTree
import Taskledger.Properties.TreeMerge
import Taskledger.Properties.NextCommands
import Taskledger.Properties.ReadViews
import Taskledger.Properties.ArchiveArtifacts
import Taskledger.Properties.Histories
import Taskledger.Properties.Evidence
import Taskledger.Properties.Materialization
import Taskledger.Properties.Uncancellation
import Taskledger.Services.ImportIds
import Taskledger.Properties.ImportIds
import Taskledger.Properties.Justified
