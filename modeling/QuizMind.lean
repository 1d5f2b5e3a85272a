import QuizMind.Wallet.Ledger
import QuizMind.Wallet.Replay
import QuizMind.Wallet.Solvency
import QuizMind.Extension.Disconnect
import QuizMind.Billing.StatusMachine
import QuizMind.Ai.StreamCharge
import QuizMind.Client.SessionRefresh
import QuizMind.RemoteConfig.OneActive
import QuizMind.Access.Suspension
import QuizMind.Ai.Settled
import QuizMind.Auth.ResetLinks
import QuizMind.Auth.SilentRefresh
import QuizMind.Support.Impersonation
import QuizMind.Providers.Ownership
import QuizMind.Providers.LifeCycle
import QuizMind.Client.Queued
import QuizMind.RemoteConfig.Resolution
import QuizMind.Ai.Chunking
import QuizMind.Ai.FreeModels
import QuizMind.Extension.FailedBind
import QuizMind.Web.CodeRedemption
import QuizMind.Billing.Stranded
import QuizMind.Logs.Rebuild
import QuizMind.Client.FailedConnect
import QuizMind.Client.RejectedToken
import QuizMind.Web.RedeemScript
import QuizMind.Security.RateLimitStores
import QuizMind.Extension.LastSeen
import QuizMind.Ai.ListedModels
import QuizMind.Settings.Caches
import QuizMind.Extension.Inventory
import QuizMind.Settings.PolicyFrame
import QuizMind.Extension.ScenarioLimit
import QuizMind.Extension.ScenarioColumns
import QuizMind.Extension.ScenarioPatch
import QuizMind.Extension.PresetSharing
import QuizMind.Usage.Newest
import QuizMind.History.UploadHistory
import QuizMind.History.Orphans
import QuizMind.Logs.CsvExport
import QuizMind.Logs.AdminLogPages
import QuizMind.Logs.Prune
import QuizMind.Logs.RepairAgain
import QuizMind.Settings.RetentionPatches
import QuizMind.Client.UiState
import QuizMind.Logs.RequestLog
import QuizMind.Web.NextPath
import QuizMind.Logs.AiSync
import QuizMind.Web.RelayUrl
