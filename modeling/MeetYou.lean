import MeetYou.Foundation.Runs
import MeetYou.Foundation.Dict
import MeetYou.Foundation.SetIndex
import MeetYou.Foundation.OrderBy
import MeetYou.Foundation.Text
import MeetYou.Foundation.Values
import MeetYou.Foundation.ParentChains
import MeetYou.Foundation.RelatedTables
import MeetYou.RunEvents
import MeetYou.ThreadReplay
import MeetYou.EndpointSockets
import MeetYou.ScheduledJobs
import MeetYou.SchedulerPass
import MeetYou.SchedulerLeases
import MeetYou.InteractiveRequests
import MeetYou.InteractiveRuns
import MeetYou.RequestResponses
import MeetYou.OperationCalls
import MeetYou.ToolDispatch
import MeetYou.ToolOutcome
import MeetYou.EndpointOutbox
import MeetYou.DeliveryRuns
import MeetYou.DeliverySound
import MeetYou.DeliveryLoss
import MeetYou.DeliveryRetries
import MeetYou.ConversationStore
import MeetYou.VersionTree
import MeetYou.VersionMoves
import MeetYou.VersionPaths
import MeetYou.VersionSteps
import MeetYou.ConversationForest
import MeetYou.VisibleHistory
import MeetYou.BranchKeeping
import MeetYou.ThreadContext
import MeetYou.ThreadSummary
import MeetYou.ContextBudget
import MeetYou.BrainSession
import MeetYou.BrainTurn
import MeetYou.ReplyControl
import MeetYou.CheckpointRestores
import MeetYou.SessionActor
import MeetYou.SessionService
import MeetYou.EndpointRegistry
import MeetYou.ToolRouting
import MeetYou.RoutingCache
import MeetYou.RoutingEvents
import MeetYou.ControlledTurns
import MeetYou.ParallelTools
import MeetYou.ResearchTasks
import MeetYou.ResearchReports
import MeetYou.MessagePosts
import MeetYou.MemoryConsolidation
import MeetYou.MemoryRuns
import MeetYou.MemoryGraph
import MeetYou.MemoryRecall
import MeetYou.AdmittedCommands
import MeetYou.ProtectedCalls
import MeetYou.ReadOnlyRoutes
import MeetYou.EndpointCalls
import MeetYou.OperationAnswers
import MeetYou.OperationRuns
import MeetYou.ClawBotReplies
import MeetYou.ClawBotInbound
import MeetYou.ClawBotQuestions
import MeetYou.ClawBotDelivery
import MeetYou.SkillRegistry
import MeetYou.SkillStore
import MeetYou.ChatMessages
import MeetYou.ActiveChains
import MeetYou.Foundation.Persistence
import MeetYou.ApprovalDecisions
import MeetYou.Foundation.LowerWords
import MeetYou.ResearchRuns
import MeetYou.ScheduleEdits
import MeetYou.Reschedules
import MeetYou.MembershipBooks
import MeetYou.WorkspaceMemberships
import MeetYou.DispatchEnds
import MeetYou.FrameSenders
import MeetYou.TaskKeys
import MeetYou.EndpointThreads
import MeetYou.CronSearch
import MeetYou.ScheduleTime
import MeetYou.ContextPages
import MeetYou.ContextPool
import MeetYou.ToolProtocol
import MeetYou.ResponsesInput
import MeetYou.ChatStream
import MeetYou.SseStream
import MeetYou.MemoryMerges
import MeetYou.MemorySaves
import MeetYou.ReplySplitting
import MeetYou.TokenBudgets
import MeetYou.PlanTrimming
import MeetYou.HeartSignals
import MeetYou.HistoryCompaction
import MeetYou.Foundation.TextFiles
import MeetYou.AtomicFiles
import MeetYou.Foundation.SortedJson
import MeetYou.StateFiles
import MeetYou.Foundation.TextLines
import MeetYou.PdfExport
import MeetYou.PdfReading
import MeetYou.Foundation.Months
import MeetYou.Foundation.ShownTimes
import MeetYou.RecurrenceCycles
import MeetYou.Foundation.Results
import MeetYou.Foundation.Groups
import MeetYou.ResearchEvidence
import MeetYou.EvidenceReports
import MeetYou.CitedEvidence
import MeetYou.ExternalEvidence
import MeetYou.AdapterRuns
