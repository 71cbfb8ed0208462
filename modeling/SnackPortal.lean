import SnackPortal.ControlPlane.Quarantine
import SnackPortal.ControlPlane.Isolation
import SnackPortal.ControlPlane.Recovery
import SnackPortal.ControlPlane.Deprovision
import SnackPortal.DatabaseRouter.Serving
import SnackPortal.Program.Transaction
import SnackPortal.Lineage.Forgery
import SnackPortal.TenantDatabase.Ports
import SnackPortal.Lineage.Emit
import SnackPortal.Lineage.Committed
import SnackPortal.StartupImport.Settlement
import SnackPortal.StartupImport.Replay
import SnackPortal.StartupImport.Requests
import SnackPortal.ControlPlane.Writes
import SnackPortal.ControlPlane.WritesOperations
import SnackPortal.ControlPlane.Transitions
import SnackPortal.ControlPlane.Contention
import SnackPortal.ControlPlane.LedgerEvidence
import SnackPortal.Data.Text
import SnackPortal.SnackPortal2.ControlPlane
import SnackPortal.SnackPortal2.Secrets
import SnackPortal.SnackPortal2.References
import SnackPortal.SnackPortal2.Lookups
import SnackPortal.Data.UrlPath
import SnackPortal.SnackPortal2.ExactLookups
import SnackPortal.SnackPortal2.Ingress
import SnackPortal.SnackPortal2.Surface
import SnackPortal.SnackPortal2.Mediation
import SnackPortal.Data.IpAddress
import SnackPortal.ApiGateway.Models
import SnackPortal.ApiGateway.Gateway
import SnackPortal.ApiGateway.Handling
import SnackPortal.ImportService.Imported
import SnackPortal.ImportService.Exclusion
import SnackPortal.ImportService.Session
import SnackPortal.ImportService.Running
import SnackPortal.ImportService.Completion
import SnackPortal.ImportService.Alone
import SnackPortal.ImportService.Resumption
import SnackPortal.SnackPortal2.AuditSink
import SnackPortal.Lineage.Rotation
import SnackPortal.Program.Evaluation
import SnackPortal.ControlPlane.OrphanScan
import SnackPortal.DatabaseRouter.Borrowing
import SnackPortal.DatabaseRouter.Auditing
import SnackPortal.Program.ReadThrough
import SnackPortal.DatabaseRouter.Resolving
import SnackPortal.AuthRouter.Caching
import SnackPortal.ControlPlane.Memberships
import SnackPortal.SnackPortal2.Websites
import SnackPortal.SnackPortal2.Duplicates
import SnackPortal.DatabaseRouter.StartupOperations
import SnackPortal.Program.Runs
import SnackPortal.ControlPlane.AuditTrail
import SnackPortal.ControlPlane.RecoveryTrail
import SnackPortal.ControlPlane.DeprovisionTrail
import SnackPortal.ImportService.Reporting
import SnackPortal.Data.Base64
import SnackPortal.Data.Double
import SnackPortal.Data.Json
import SnackPortal.AuthRouter.Validation
import SnackPortal.AuthRouter.Authenticator
import SnackPortal.ImportService.Labels
import SnackPortal.Data.Paging
import SnackPortal.Lineage.Reading
import SnackPortal.Data.Levels
import SnackPortal.Lineage.Provenance
import SnackPortal.Data.Url
import SnackPortal.ControlPlane.ReadApi
import SnackPortal.SnackPortal2.WebsiteForms
import SnackPortal.SnackPortal2.WebsiteVariants
import SnackPortal.SnackPortal2.AccessControl
import SnackPortal.Data.Wire
import SnackPortal.ControlPlane.Ingest
import SnackPortal.ControlPlane.GatewayAudit
import SnackPortal.ControlPlane.Census
import SnackPortal.Data.Regex
import SnackPortal.Portability.Identity
import SnackPortal.Portability.Manifest
import SnackPortal.Portability.Canonical
import SnackPortal.Lineage.Segmentation
import SnackPortal.Data.Decimal
import SnackPortal.ControlPlane.LifecycleService
import SnackPortal.ControlPlane.Versions
import SnackPortal.ControlPlane.LedgerStores
import SnackPortal.ControlPlane.TenantSecrets
import SnackPortal.SnackPortal2.Authentication
import SnackPortal.ControlPlane.EmittedAudit
import SnackPortal.ControlPlane.ImportAudit
import SnackPortal.Program.AppendOnce
import SnackPortal.Program.Simulation
import SnackPortal.ControlPlane.AuditIngest
import SnackPortal.ControlPlane.AuditDelivery
import SnackPortal.ImportService.Transactions
import SnackPortal.ControlPlane.PostgresStore
import SnackPortal.ControlPlane.PostgresTrail
import SnackPortal.ControlPlane.PostgresCalls
import SnackPortal.ControlPlane.PostgresOperations
import SnackPortal.Program.Noninterference
import SnackPortal.SnackPortal2.Portal
import SnackPortal.SnackPortal2.PortalIsolation
import SnackPortal.SnackPortal2.TenantsApart
import SnackPortal.StartupImport.InMemory
import SnackPortal.StartupImport.Linearized
