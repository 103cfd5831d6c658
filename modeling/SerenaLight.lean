import SerenaLight.Foundation.Dict
import SerenaLight.Foundation.Run
import SerenaLight.Workspace.Registry
import SerenaLight.Workspace.RegistryInvariant
import SerenaLight.Daemon.Leases
import SerenaLight.Daemon.LeaseInvariant
import SerenaLight.Daemon.LeaseMethods
import SerenaLight.Daemon.LeaseRun
import SerenaLight.Daemon.Stores
import SerenaLight.Daemon.Service
import SerenaLight.Daemon.Decisions
import SerenaLight.Daemon.StoresSteps
import SerenaLight.Daemon.StoresInvariant
import SerenaLight.Daemon.ServiceSteps
import SerenaLight.Daemon.Activations
import SerenaLight.Daemon.FailedActivations
import SerenaLight.Daemon.Links
import SerenaLight.Daemon.CancelledActivations
import SerenaLight.Daemon.RetainedRuntimes
import SerenaLight.Daemon.IdleDaemon
import SerenaLight.Daemon.ReleaseAnswers
import SerenaLight.Foundation.Json
import SerenaLight.Lsp.Positions
import SerenaLight.Lsp.Normalize
import SerenaLight.Lsp.AssignmentRecovery
import SerenaLight.Tools.Navigation
import SerenaLight.Tools.Resolvers
import SerenaLight.Tools.NamePaths
import SerenaLight.Tools.Editing
import SerenaLight.Workspace.Documents
import SerenaLight.Workspace.EditLookup
import SerenaLight.Foundation.Hoare
import SerenaLight.Lsp.Executor
import SerenaLight.Lsp.State
import SerenaLight.Foundation.FairPath
import SerenaLight.Lsp.Client
import SerenaLight.Tools.FileCalls
import SerenaLight.Tools.GuardedEdit
import SerenaLight.Tools.EditCalls
import SerenaLight.Tools.EditInstall
import SerenaLight.Tools.EditOutcome
import SerenaLight.Tools.RenamedBytes
import SerenaLight.Tools.EditMarks
import SerenaLight.Workspace.EditCall
import SerenaLight.Workspace.EditCallSafety
import SerenaLight.Foundation.Coroutine
import SerenaLight.Foundation.Observed
import SerenaLight.Connector.Programs
import SerenaLight.Connector.Steps
import SerenaLight.Connector.Calls
import SerenaLight.Connector.SessionOwner
import SerenaLight.Connector.LeaseTerms
import SerenaLight.Connector.LeaseSections
import SerenaLight.Connector.Leases
import SerenaLight.Daemon.DiscoveryPairs
import SerenaLight.Daemon.StartupNonces
import SerenaLight.Daemon.IdleExit
import SerenaLight.Daemon.Startup
import SerenaLight.Lsp.ClientReader
import SerenaLight.Lsp.Adapter
import SerenaLight.Lsp.AdapterSteps
import SerenaLight.Lsp.AdapterRuntimes
import SerenaLight.Lsp.AdapterCooldown
import SerenaLight.Lsp.AdapterPlaces
import SerenaLight.Lsp.AdapterStops
import SerenaLight.Lsp.Processes
import SerenaLight.Workspace.DocumentVersions
import SerenaLight.Workspace.VersionOrder
import SerenaLight.Lsp.ExecutorThreads
import SerenaLight.Lsp.ExecutorOrder
import SerenaLight.Workspace.RegistryRuns
import SerenaLight.BuildIdentity
import SerenaLight.Tools.Snippets
import SerenaLight.Lsp.PositionLaws
import SerenaLight.Tools.Replacement
import SerenaLight.Lsp.AstOffsets
import SerenaLight.Lsp.ContainingSymbol
import SerenaLight.Lsp.StderrCapture
import SerenaLight.Tools.Overview
import SerenaLight.Workspace.Admission
import SerenaLight.Workspace.ConfigCandidates
import SerenaLight.DebugLog
