import EdgePlatform.Host.Recoverability
import EdgePlatform.Host.Coherence
import EdgePlatform.Credential.Exclusion
import EdgePlatform.Orchestrator.JoinStatus
import EdgePlatform.Orchestrator.ReleaseLineage
import EdgePlatform.Orchestrator.WorkerBegins
import EdgePlatform.Host.Agreement
import EdgePlatform.Singbox.Routes
import EdgePlatform.Windows.RuntimeEffect
import EdgePlatform.Agent.StaticBundle
import EdgePlatform.Agent.RunOrder
import EdgePlatform.Credential.Delta
import EdgePlatform.Fleet.Reconcile
import EdgePlatform.Agent.BundleActivation
import EdgePlatform.Agent.BundleDigest
import EdgePlatform.Agent.MissingNetwork
import EdgePlatform.Host.SignedPayloads
import EdgePlatform.Host.AdminReceipts
import EdgePlatform.Host.AdminCapture
import EdgePlatform.Host.CommandLine
import EdgePlatform.Windows.NativeNetwork
import EdgePlatform.Controller.Mesh
