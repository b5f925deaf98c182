import AegisVPN.Agent.OfflineExpiry
import AegisVPN.Bot.PaidOnce
import AegisVPN.Bot.MigrationRuns
import AegisVPN.Bot.OneActive
import AegisVPN.Bot.Banned
import AegisVPN.Control.Applicable
import AegisVPN.Bot.TrafficAccounts
import AegisVPN.Bot.TrafficBound
import AegisVPN.Bot.TrafficConservation
import AegisVPN.Bot.SyncRecovery
import AegisVPN.Bot.SuspendedDevice
import AegisVPN.Bot.Advertised
import AegisVPN.Bot.Leader
import AegisVPN.Control.NodeAccess
import AegisVPN.Bot.GrantLocks
import AegisVPN.Agent.ConnLimit
import AegisVPN.Bot.Drained
import AegisVPN.Bot.Orphans
import AegisVPN.Bot.PushSound
import AegisVPN.Bot.AccountFlags
import AegisVPN.Bot.PaymentSweep
import AegisVPN.Bot.AccessExact
import AegisVPN.Bot.TargetedAccess
import AegisVPN.Bot.Telegraph
import AegisVPN.Bot.TelegramLogin
import AegisVPN.Agent.DeltaExact
import AegisVPN.Agent.ReconcileExact
import AegisVPN.Agent.RemovalJournal
import AegisVPN.Agent.ConnBlocks
import AegisVPN.Agent.CascadeRouting
import AegisVPN.Agent.SnapshotSound
import AegisVPN.Agent.PushedClients
import AegisVPN.Agent.BootFixedPoint
import AegisVPN.Agent.PrivateBlocked
import AegisVPN.Agent.ConnReachable
import AegisVPN.Control.PullLoop
import AegisVPN.Control.Publications
import AegisVPN.Bot.LinkFields
import AegisVPN.Agent.SubscriptionTemplates
import AegisVPN.Bot.TransportPrefs
import AegisVPN.Agent.LoadProbe
import AegisVPN.Bot.AutoselectProbe
import AegisVPN.Bot.LinkForms
import AegisVPN.Bot.TransportPorts
import AegisVPN.Control.TelemetryRuns
import AegisVPN.Bot.OneDevice
import AegisVPN.Bot.PaidValue
import AegisVPN.Bot.Reminders
import AegisVPN.Bot.HealthAlerts
import AegisVPN.Bot.BasePlan
import AegisVPN.Deploy.FailoverUndo
import AegisVPN.Agent.CertificateRuns
import AegisVPN.Support.Render
import AegisVPN.Bot.SessionCookies
import AegisVPN.Agent.ActivityWindow
import AegisVPN.Deploy.EnvFile
import AegisVPN.Bot.BackupRotation
import AegisVPN.Bot.BootstrapRuns
import AegisVPN.Deploy.LivePatch
import AegisVPN.Support.Conversations
import AegisVPN.Bot.OverrideRuns
import AegisVPN.Deploy.PostgresCopy
import AegisVPN.Bot.SingletonJobs
import AegisVPN.Control.AccessDelivered
import AegisVPN.Control.Hy2Certificates
import AegisVPN.Deploy.ControlRollout
import AegisVPN.Bot.BackupArchive
import AegisVPN.Bot.StarsOrders
import AegisVPN.Deploy.ProvisionedEnv
import AegisVPN.Bot.DocumentNodes
import AegisVPN.Bot.PublishedDocuments
