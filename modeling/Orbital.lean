import Orbital.PulseCore.CoalescingStore.Flush
import Orbital.PulseCore.SorobanSubscriber.Batches
import Orbital.PulseCore.SorobanSubscriber.Replay
import Orbital.PulseCore.EventEngine.PollProgress
import Orbital.PulseCore.EventEngine.SorobanLifecycle
import Orbital.PulseCore.EventEngine.CrossTransport
import Orbital.PulseCore.EventEngine.NetworkCheck
import Orbital.PulseCore.SorobanRpcClient.PollingStops
import Orbital.PulseCore.EventEngine.AccountLifecycle
import Orbital.PulseWebhooks.Verifiers
import Orbital.PulseWebhooks.PostgresRefinement
import Orbital.PulseWebhooks.SqsDurability
import Orbital.PulseWebhooks.WebhookDelivery.Conservation
import Orbital.PulseWebhooks.WebhookDelivery.Acknowledgements
import Orbital.PulseWebhooks.WebhookDelivery.StopIsFinal
import Orbital.PulseWebhooks.WebhookDelivery.DeliveryIds
import Orbital.PulseCore.EventEngine.QuietAfterStop
import Orbital.PulseWebhooks.WebhookDelivery.Connections
import Orbital.AbiRegistry.HistoricalSpec
import Orbital.OrbitalIndexer.AutoPublishIndexer
import Orbital.AbiRegistry.HostedVerification
import Orbital.AbiRegistry.LockFile
import Orbital.AbiRegistry.RegistryDirectory
import Orbital.PulseNotify.PoolInvariant
import Orbital.WorkerCore.StateMigration
import Orbital.AbiRegistry.GeneratedLiterals
import Orbital.AbiRegistry.GeneratedScope
import Orbital.WorkerCore.IdempotentSubmission
import Orbital.WorkerCore.EventCondition
import Orbital.WorkerCore.LongerRuns
import Orbital.WorkerCore.MarginalCost
import Orbital.WorkerCore.SponsorshipLimits
import Orbital.WorkerCore.RetryMonotonicity
import Orbital.WorkerCore.RetryDurability
import Orbital.WorkerCore.FileQueueLinearization
import Orbital.WorkerCore.SubscriptionService
import Orbital.WorkerCore.BackfillRanges
import Orbital.WorkerCore.LapseAnnouncement
import Orbital.Contracts.PayrollOverflow
import Orbital.WorkerCore.EventCoverage
import Orbital.WorkerCore.CircuitBreaker
import Orbital.PulseWebhooks.DedupReceiver
import Orbital.PulseCore.CacheCursorStore
import Orbital.WorkerCore.FileWorkerStateStore
import Orbital.PulseWebhooks.Ipv6BlockList
import Orbital.WorkerCore.PriceGuard
import Orbital.PulseCore.Amount
import Orbital.WorkerCore.CoverageWindows
import Orbital.WorkerCore.LatestVerdict
import Orbital.WorkerCore.ScoreAttribution
import Orbital.WorkerCore.ScoreMonotonicity
import Orbital.AbiRegistry.WithdrawnAttestations
import Orbital.PulseNotify.MessageFanOut
import Orbital.PulseCore.ClaimPredicate
import Orbital.PulseCore.SorobanSubscriber.FilterMatch
import Orbital.WorkerCore.ScheduleEnumeration
import Orbital.AbiRegistry.VerificationJob
import Orbital.WorkerCore.BackstopSlo
import Orbital.AbiRegistry.WideIntegers
import Orbital.AbiRegistry.PublishableSpec
