import Wicket.SecretExposure
import Wicket.EndpointPorts
import Wicket.UpstreamNames
import Wicket.RoutePrecedence
import Wicket.PathRewrite
import Wicket.RouteFeedback
import Wicket.ClusterRuns
import Wicket.GrantWatch
import Wicket.ServiceWatch
import Wicket.LeaderElection
import Wicket.StrictSni
import Wicket.SniMachine
import Wicket.SniOrder
import Wicket.BoundPorts
import Wicket.ProxyHeader
import Wicket.CertHistory
import Wicket.HostPatterns
import Wicket.AcmeNames
import Wicket.MixedCerts
import Wicket.AutoTls
import Wicket.DnsCleanup
import Wicket.AttachedCounts
import Wicket.AcceptLoop
import Wicket.UpstreamReports
import Wicket.RolloutStatus
import Wicket.ServicePorts
import Wicket.Durations
import Wicket.SecretFiles
import Wicket.ServiceReferences
import Wicket.OwnedNames
import Wicket.StatusTimestamps
import Wicket.CertPaths
import Wicket.ForwardedFor
import Wicket.AccessLog
import Wicket.ActiveGauges
import Wicket.SockmapCleanup
import Wicket.SecretUpdates
import Wicket.GeneratorOrder
import Wicket.CertificateRefs
import Wicket.ConfigWatch
import Wicket.RenewalLoop
