import SpecterCloud.Auditing.AllowDecisions
import SpecterCloud.Auditing.DenyDecisions
import SpecterCloud.Auditing.LoginRequests
import SpecterCloud.Auditing.RequestIds
import SpecterCloud.Lockout.AccountEnumeration
import SpecterCloud.Lockout.ConcurrentFailures
import SpecterCloud.Lockout.GuessBounds
import SpecterCloud.Lockout.LoginEffects
import SpecterCloud.Sessions.Validity
import SpecterCloud.Sessions.Logout
import SpecterCloud.Sessions.RevocationRaces
import SpecterCloud.Sessions.RevocationTargets
import SpecterCloud.Sessions.Finality
import SpecterCloud.Scripts.ConcurrentBootstraps
import SpecterCloud.Authorization.BootstrappedAdmin
import SpecterCloud.Authorization.TenantIsolation
import SpecterCloud.Authorization.DepthCap
import SpecterCloud.Authorization.Provenance
import SpecterCloud.Keys.ConcurrentMints
import SpecterCloud.Telemetry.Routing
import SpecterCloud.Keys.KeyGrammar
import SpecterCloud.Keys.SharedPrefixes
import SpecterCloud.Keys.DebouncedUse
import SpecterCloud.Scripts.PlatformRoles
import SpecterCloud.Service.LoginProvenance
import SpecterCloud.Service.MigratedRuns
import SpecterCloud.Migrations.Upgrades
import SpecterCloud.Service.ReleaseRuns
import SpecterCloud.Service.StandingDecisions
import SpecterCloud.Service.ConcurrentCalls
import SpecterCloud.Service.ConcurrentAudit
import SpecterCloud.Service.FinalRevocations
