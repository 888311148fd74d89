import ZeroTrust.Lib.Run
import ZeroTrust.Lib.Json
import ZeroTrust.Lib.Table
import ZeroTrust.Clock
import ZeroTrust.Rfc3339
import ZeroTrust.Lib.Calendar
import ZeroTrust.Lib.DateTime
import ZeroTrust.WrittenTimes
import ZeroTrust.Connector.FailClosed
import ZeroTrust.Connector.FirewallPush
import ZeroTrust.Connector.Handler
import ZeroTrust.Controller.PolicySnapshot
import ZeroTrust.Controller.AgentRegistry
import ZeroTrust.Controller.Durability
import ZeroTrust.Controller.PolicyVersions
import ZeroTrust.Controller.AclStore
import ZeroTrust.Controller.EnrolmentTokens
import ZeroTrust.Controller.SessionStore
import ZeroTrust.ControlPlane.SignedBytes
import ZeroTrust.ControlPlane.PolicyPush
import ZeroTrust.ControlPlane.Clients
import ZeroTrust.ControlPlane.SpiffeIds
import ZeroTrust.ControlPlane.Allowlist
import ZeroTrust.ControlPlane.Replacement
import ZeroTrust.ControlPlane.PortRules
import ZeroTrust.Lib.Broadcast
import ZeroTrust.Lib.FirstMatch
import ZeroTrust.Agent.Firewall
import ZeroTrust.Agent.Protection
import ZeroTrust.Agent.Sync
import ZeroTrust.Agent.Restart
import ZeroTrust.Agent.Reboot
import ZeroTrust.Agent.Healing
import ZeroTrust.Admin.RefreshTokens
import ZeroTrust.Admin.DeviceCredentials
import ZeroTrust.Admin.SessionRevocation
import ZeroTrust.Admin.DeviceFlow
import ZeroTrust.Admin.OAuthFlows
import ZeroTrust.Admin.DeviceMembers
import ZeroTrust.Controller.AgentRevocation
import ZeroTrust.ControlPlane.Revocation
import ZeroTrust.ControlPlane.ReceiveLoop
import ZeroTrust.ControlPlane.Renewal
import ZeroTrust.ControlPlane.Heartbeats
import ZeroTrust.ControlPlane.SnapshotExpiry
import ZeroTrust.Admin.PolicyNotifications
import ZeroTrust.Admin.AccessTrace
import ZeroTrust.Admin.Removals
import ZeroTrust.Admin.ListEndpoints
import ZeroTrust.Admin.ErrorReplies
import ZeroTrust.Admin.Routes
import ZeroTrust.Admin.Unauthenticated
import ZeroTrust.Admin.OwnerGrants
import ZeroTrust.Admin.ScanJobs
import ZeroTrust.Connector.Discovery
import ZeroTrust.Admin.LoginStates
import ZeroTrust.Connector.AclKeys
import ZeroTrust.Admin.OkReplies
import ZeroTrust.Admin.GroupResources
import ZeroTrust.Admin.GroupDeletion
import ZeroTrust.Admin.DeletedResources
import ZeroTrust.Admin.Invitations
import ZeroTrust.Connector.SavedEnrollment
import ZeroTrust.Admin.IdentityProviders
import ZeroTrust.Connector.AcceptedTimes
import ZeroTrust.Lib.Base64
import ZeroTrust.Admin.CodeChallenge
import ZeroTrust.Lib.Slice
import ZeroTrust.Controller.AclMap
import ZeroTrust.Lib.Lease
import ZeroTrust.System.Access
import ZeroTrust.System.Staleness
import ZeroTrust.Agent.Inbound
import ZeroTrust.System.FirewallPath
import ZeroTrust.Lib.Interleave
import ZeroTrust.Lib.GoJson
import ZeroTrust.Connector.AgentServer
import ZeroTrust.System.AuditTrail
import ZeroTrust.Connector.CertRenewal
import ZeroTrust.System.CertLifetime
