import Boxui.Library.GoValue
import Boxui.Library.GoStrings
import Boxui.Library.GoText
import Boxui.Library.GoURL
import Boxui.Library.KeepLast
import Boxui.Library.LineScanner
import Boxui.Library.ByteReader
import Boxui.Library.GoBinary
import Boxui.Library.Utf8Stream
import Boxui.Library.IncrementalSplit
import Boxui.Library.Machine
import Boxui.Library.ObjectPath
import Boxui.Library.PathLens
import Boxui.Library.JSValue
import Boxui.Library.GuardedRemoval
import Boxui.Library.Reconcile
import Boxui.Library.IndexedMerge
import Boxui.Library.Occurrences
import Boxui.Library.Unseen
import Boxui.Library.SeparatedText
import Boxui.Library.SharedFile
import Boxui.Library.Handover
import Boxui.Core.Records
import Boxui.Core.SBInstance
import Boxui.Core.KernelCalls
import Boxui.Core.RuntimeOps
import Boxui.Core.TrafficTracker
import Boxui.Core.TrafficBytes
import Boxui.Core.TrafficTable
import Boxui.Core.TrafficClose
import Boxui.Core.Stores
import Boxui.Core.SubscriptionContent
import Boxui.Core.Importer
import Boxui.Core.ImportedCredentials
import Boxui.Core.ImportedNames
import Boxui.Core.ImportedServers
import Boxui.Core.SubscriptionRefresh
import Boxui.Core.SubscriptionRuns
import Boxui.Core.SubscriptionEdits
import Boxui.Core.SubscriptionProvenance
import Boxui.Core.LogWriter
import Boxui.Core.Credential
import Boxui.Core.AdminSettings
import Boxui.Core.Backup
import Boxui.Core.Restore
import Boxui.Core.RestoreSafety
import Boxui.Core.RuleSetUpdate
import Boxui.Core.RuleSetCache
import Boxui.Core.RuleSetRemote
import Boxui.Core.RuleSetDecoding
import Boxui.Core.RuleSetHistory
import Boxui.Core.RuleSetLists
import Boxui.Core.RouteRuleMetadata
import Boxui.Core.OutboundDefaults
import Boxui.Core.OutboundDefaultsInstall
import Boxui.Core.RouteDefaults
import Boxui.Core.RouteRuleSignature
import Boxui.Core.RouteDefaultRules
import Boxui.Core.RouteDefaultsInstall
import Boxui.Core.RouteDefaultsDedup
import Boxui.Core.DNSDefaults
import Boxui.API.AtomicWrite
import Boxui.API.ConfigApply
import Boxui.API.ConfigDefaults
import Boxui.API.RouteRuleMetadataHandler
import Boxui.API.RuleSetMerge
import Boxui.API.RouteDefaultsRerun
import Boxui.API.SyncOutbounds
import Boxui.API.SyncPlan
import Boxui.API.SyncCommit
import Boxui.API.Requests
import Boxui.API.NodeUpdate
import Boxui.API.NodeTests
import Boxui.API.LogStream
import Boxui.API.AuthSteps
import Boxui.API.LoginLimiter
import Boxui.API.SyncWriters
import Boxui.API.SyncIdempotence
import Boxui.API.SyncTags
import Boxui.API.SubscriptionDocuments
import Boxui.API.References
import Boxui.API.SyncCoverage
import Boxui.API.SyncFaults
import Boxui.API.ManagedGroups
import Boxui.API.SyncFrame
import Boxui.API.LoginLocks
import Boxui.API.TrafficHistory
import Boxui.API.ManagedEntries
import Boxui.API.AcceptedNodes
import Boxui.API.GroupEntries
import Boxui.API.RequestFrames
import Boxui.API.ReferenceClosure
import Boxui.API.InstallClosure
import Boxui.API.ReferenceRuns
import Boxui.API.ConfigMutations
import Boxui.API.ConfigInterleaving
import Boxui.UI.RouteVisualEditor
import Boxui.UI.OutboundForm
import Boxui.UI.RoutePage
import Boxui.UI.ImportedOutbounds
import Boxui.UI.NodeTestResults
import Boxui.UI.EventStream
import Boxui.UI.EventSubscription
import Boxui.UI.SubscriptionSilence
import Boxui.UI.SubscriptionStreams
import Boxui.UI.FormPaths
import Boxui.UI.FormObjects
import Boxui.UI.FormPruning
import Boxui.UI.InboundForm
import Boxui.UI.RouteForm
import Boxui.UI.PrunedForms
import Boxui.UI.OutboundTypeChange
import Boxui.UI.InboundTypeChange
import Boxui.UI.RouteTransitions
import Boxui.UI.DNSForm
import Boxui.UI.DNSTransitions
import Boxui.UI.DNSResolvers
import Boxui.Library.Binary64
import Boxui.Library.Numerals
import Boxui.Library.JSText
import Boxui.UI.NumberFields
import Boxui.Library.GoDuration
import Boxui.UI.URLTestForm
import Boxui.Library.HostNames
import Boxui.Library.GoNet
import Boxui.API.PingTargets
import Boxui.Core.RuleSetAutoUpdate
import Boxui.Library.GoHTTP
import Boxui.API.Middleware
import Boxui.API.Routes
import Boxui.API.ImportedNodes
import Boxui.API.ConfigService
import Boxui.Core.JWTSecret
import Boxui.API.Sessions
import Boxui.Library.FanOut
import Boxui.API.NodeTestBatch
import Boxui.Library.GoSlices
import Boxui.API.AppLog
