import ClusterAccess.Client.Lifecycle
import ClusterAccess.Filesystem.Directory
import ClusterAccess.Main
import ClusterAccess.Proofs.Config.Precedence
import ClusterAccess.Proofs.Kubeconfig.Probe
import ClusterAccess.Proofs.Kubeconfig.Tolerance
import ClusterAccess.Proofs.Pki.Store
import ClusterAccess.Proofs.Tls.Context
import ClusterAccess.Proofs.Client.Opening
import ClusterAccess.Proofs.Client.Verification
import ClusterAccess.Proofs.Client.Secrecy
import ClusterAccess.Proofs.Client.Requests
import ClusterAccess.Proofs.Client.Confinement
import ClusterAccess.Proofs.Client.Scheme
import ClusterAccess.Proofs.Config.Isolation
import ClusterAccess.Proofs.Pki.Certificate
import ClusterAccess.Proofs.Tls.Material
import ClusterAccess.Proofs.Client.Report
import ClusterAccess.Proofs.Client.IdleFields
import ClusterAccess.Proofs.Tls.Bounds
import ClusterAccess.Proofs.Tls.Refusal
import ClusterAccess.Proofs.Client.Protocols
import ClusterAccess.Proofs.Client.Anchors
import ClusterAccess.Proofs.Client.UrlPasswords
import ClusterAccess.Proofs.Kubeconfig.Finding
import ClusterAccess.Proofs.Client.Pinning
import ClusterAccess.Proofs.Client.Lifecycle
import ClusterAccess.Proofs.Url.Path
import ClusterAccess.Proofs.Config.Completion
import ClusterAccess.Proofs.Kubeconfig.Validation
import ClusterAccess.Proofs.Json.Pretty
import ClusterAccess.Proofs.Cli.Describe
import ClusterAccess.Proofs.Url.TrailingSlash
import ClusterAccess.Proofs.Kubeconfig.Revision
import ClusterAccess.Proofs.Kubeconfig.Absence
import ClusterAccess.Proofs.Kubeconfig.Dump
import ClusterAccess.Proofs.Kubeconfig.Insertion
import ClusterAccess.Proofs.Path
import ClusterAccess.Proofs.Kubeconfig.Reference
import ClusterAccess.Proofs.Pki.HalfIdentity
import ClusterAccess.Proofs.Url.Host
import ClusterAccess.Proofs.Endpoint.Refusal
import ClusterAccess.Proofs.Cli.Refusal
import ClusterAccess.Proofs.Pki.Inline
import ClusterAccess.Proofs.Text.Ascii
import ClusterAccess.Proofs.Pki.Pem
import ClusterAccess.Proofs.Pki.TrustStore
import ClusterAccess.Proofs.Tls.Narrowing
import ClusterAccess.Proofs.Client.Authorization
import ClusterAccess.Proofs.Config.Names
import ClusterAccess.Proofs.Yaml.Construction
import ClusterAccess.Proofs.Yaml.Turns
