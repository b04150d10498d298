import ObservabilityOperator.FailedLookups
import ObservabilityOperator.IndexOrder
import ObservabilityOperator.OmittedSections
import ObservabilityOperator.ResyncLimit
import ObservabilityOperator.PodMonitorSync
import ObservabilityOperator.TokenReferences
import ObservabilityOperator.ConfigurationSources
import ObservabilityOperator.LogForwarder
import ObservabilityOperator.LoggingRemoval
import ObservabilityOperator.GrafanaUpgrade
import ObservabilityOperator.SpecPointers
import ObservabilityOperator.FederationPatterns
import ObservabilityOperator.DashboardTypes
import ObservabilityOperator.PromtailSync
import ObservabilityOperator.DuplicateNames
import ObservabilityOperator.ClusterPrivileges
import ObservabilityOperator.CompleteCleanup
import ObservabilityOperator.BlackboxToken
import ObservabilityOperator.TokenExpiry
import ObservabilityOperator.RequestAuthentication
import ObservabilityOperator.StatusUpdates
import ObservabilityOperator.OperandRestart
import ObservabilityOperator.SubscriptionGroups
import ObservabilityOperator.NamespaceRemoval
import ObservabilityOperator.DeadMansSwitch
import ObservabilityOperator.StorageRequests
import ObservabilityOperator.ComponentReconciliation
import ObservabilityOperator.StageOrder
