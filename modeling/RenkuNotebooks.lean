import RenkuNotebooks.Foundation.JsonPatch
import RenkuNotebooks.GitProxy.Conditions
import RenkuNotebooks.Foundation.JsonPatch
import RenkuNotebooks.Notebooks.Errors
import RenkuNotebooks.Notebooks.Config
import RenkuNotebooks.Notebooks.ServerOptions
import RenkuNotebooks.Foundation.PyText
import RenkuNotebooks.Notebooks.CloudStorage
import RenkuNotebooks.Notebooks.ServerData
import RenkuNotebooks.Notebooks.AmaltheaPatches
import RenkuNotebooks.Notebooks.UserServer
import RenkuNotebooks.Notebooks.SessionDocument
import RenkuNotebooks.Foundation.Results
import RenkuNotebooks.Notebooks.Composition
import RenkuNotebooks.Foundation.Program
import RenkuNotebooks.Notebooks.Cluster
import RenkuNotebooks.Notebooks.K8sClient
import RenkuNotebooks.Notebooks.Endpoints
import RenkuNotebooks.Notebooks.Lookup
import RenkuNotebooks.Notebooks.Isolation
import RenkuNotebooks.Notebooks.WatchedIsolation
import RenkuNotebooks.Notebooks.Placement
import RenkuNotebooks.Foundation.Runs
import RenkuNotebooks.Notebooks.ClassChange
import RenkuNotebooks.Notebooks.Launch
import RenkuNotebooks.Notebooks.Cleanup
import RenkuNotebooks.Foundation.Interleaving
import RenkuNotebooks.Notebooks.ConcurrentPatches
import RenkuNotebooks.GitProxy.TokenSteps
import RenkuNotebooks.GitProxy.UnusableTokens
import RenkuNotebooks.GitProxy.RepeatedRefreshes
import RenkuNotebooks.GitProxy.TokenOrigin
import RenkuNotebooks.LivenessDetector.ActivityWatcher
import RenkuNotebooks.LivenessDetector.WatchedDirectories
import RenkuNotebooks.Foundation.PosixPath
import RenkuNotebooks.Foundation.PyUrl
import RenkuNotebooks.GitServices.Cloner
import RenkuNotebooks.GitServices.OwnDirectories
import RenkuNotebooks.Foundation.JsonMap
import RenkuNotebooks.Notebooks.TokenVariables
import RenkuNotebooks.Notebooks.TokenRefresh
import RenkuNotebooks.Notebooks.ExistingCloudStorage
import RenkuNotebooks.Foundation.Improvement
import RenkuNotebooks.Notebooks.ResourceClasses
import RenkuNotebooks.Notebooks.ClosestFit
import RenkuNotebooks.Notebooks.ImageFallback
import RenkuNotebooks.Notebooks.Preparation
import RenkuNotebooks.Notebooks.LaunchedOptions
import RenkuNotebooks.Notebooks.MountPoints
import RenkuNotebooks.Notebooks.NodeAffinities
import RenkuNotebooks.Notebooks.ServerNames
import RenkuNotebooks.ResourceSchemaMigrations.Migration1
import RenkuNotebooks.ResourceSchemaMigrations.AdjustedAnnotations
import RenkuNotebooks.GitServices.Status
import RenkuNotebooks.GitServices.PorcelainStatus
import RenkuNotebooks.Foundation.Ini
import RenkuNotebooks.Notebooks.StorageConfiguration
import RenkuNotebooks.K8sWatcher.CacheCollection
import RenkuNotebooks.Notebooks.CacheBypass
import RenkuNotebooks.Notebooks.ServiceNames
import RenkuNotebooks.Notebooks.ShownServer
import RenkuNotebooks.Notebooks.HibernationAnnotations
import RenkuNotebooks.Notebooks.LaunchChecks
import RenkuNotebooks.Notebooks.MissingResources
import RenkuNotebooks.GitServices.TemporaryCredentials
import RenkuNotebooks.Foundation.Regex
import RenkuNotebooks.Notebooks.ImagePatterns
import RenkuNotebooks.Foundation.Double
import RenkuNotebooks.Notebooks.CustomFields
import RenkuNotebooks.Notebooks.Additions
import RenkuNotebooks.Notebooks.ReadOptions
import RenkuNotebooks.Foundation.SingleValues
import RenkuNotebooks.Notebooks.StorageErrors
import RenkuNotebooks.Notebooks.EnvironmentOverrides
import RenkuNotebooks.Foundation.Gitignore
import RenkuNotebooks.GitServices.ExcludedMounts
import RenkuNotebooks.Notebooks.StorageAnswers
import RenkuNotebooks.Notebooks.StorageOutcomes
import RenkuNotebooks.Foundation.Separators
import RenkuNotebooks.Foundation.Sorting
import RenkuNotebooks.Notebooks.SafeUsernames
import RenkuNotebooks.Notebooks.SecretMounts
import RenkuNotebooks.Notebooks.SessionWarnings
import RenkuNotebooks.Notebooks.UnschedulableMessages
import RenkuNotebooks.Notebooks.Quantities
import RenkuNotebooks.K8sWatcher.Lookups
import RenkuNotebooks.Foundation.PartialRuns
import RenkuNotebooks.K8sWatcher.Synchronization
import RenkuNotebooks.Notebooks.ConcurrentLaunches
import RenkuNotebooks.GitServices.ExistingWork
import RenkuNotebooks.Notebooks.CacheLag
import RenkuNotebooks.Notebooks.RequestOwnership
import RenkuNotebooks.Notebooks.SessionStore
import RenkuNotebooks.Notebooks.StoreRefinement
import RenkuNotebooks.Foundation.UrlJoin
import RenkuNotebooks.Notebooks.GitProviders
import RenkuNotebooks.GitServices.TokenRequests
import RenkuNotebooks.GitServices.WrittenCredentials
import RenkuNotebooks.Sessions.CredentialRouting
import RenkuNotebooks.Foundation.MergePatches
import RenkuNotebooks.ResourceSchemaMigrations.InterruptedRuns
import RenkuNotebooks.Notebooks.AppendedLists
import RenkuNotebooks.SecretsMount.Decryption
import RenkuNotebooks.Sessions.UserSecretsMount
import RenkuNotebooks.Sessions.SecretVolumes
import RenkuNotebooks.GitServices.SidecarRpc
import RenkuNotebooks.Sessions.HibernatedWork
