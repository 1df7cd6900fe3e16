import CanaryMining.BitcoinCoreRpc
import CanaryMining.Blocks.Reorg
import CanaryMining.Blocks.Window
import CanaryMining.Dashboard.ClosedSessions
import CanaryMining.Dashboard.Deletion
import CanaryMining.Dashboard.Order
import CanaryMining.Dashboard.StoredIdentity
import CanaryMining.Downstream.Served
import CanaryMining.HexDecoding
import CanaryMining.History.Connected
import CanaryMining.History.Failures
import CanaryMining.History.Lifetimes
import CanaryMining.History.Simulation
import CanaryMining.JobDeclaration.Answers
import CanaryMining.JobDeclaration.Progress
import CanaryMining.JobOverlaps
import CanaryMining.JobWindows
import CanaryMining.Manager.Numbering
import CanaryMining.Manager.Payout
import CanaryMining.Manager.Sessions
import CanaryMining.Manager.Told
import CanaryMining.MinerActivity
import CanaryMining.Node.Retention
import CanaryMining.NonceSearch
import CanaryMining.PayoutMode
import CanaryMining.SocketPath
import CanaryMining.TemplateDistribution.Publisher
import CanaryMining.TemplateDistribution.Requests
import CanaryMining.TemplateDistribution.SolutionFiles
import CanaryMining.TemplateMonitor
import CanaryMining.TemplateStatus
import CanaryMining.TestMiner.Accepted
import CanaryMining.TestMiner.Searches
