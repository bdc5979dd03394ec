import ZejfMeteo.CardFiles
import ZejfMeteo.ModifiedFlag
import ZejfMeteo.Knowledge
import ZejfMeteo.Detection
import ZejfMeteo.HourIdentity
import ZejfMeteo.Server
import ZejfMeteo.TcpHandler
import ZejfMeteo.InterfaceRemoval
import ZejfMeteo.Eviction
import ZejfMeteo.Answers
import ZejfMeteo.DataScan
import ZejfMeteo.Viewer
import ZejfMeteo.Relay
import ZejfMeteo.Broadcasts
import ZejfMeteo.Ownership
import ZejfMeteo.Flooding
import ZejfMeteo.Clients
import ZejfMeteo.Computation
import ZejfMeteo.ViewerStore
import ZejfMeteo.Serial
import ZejfMeteo.HopLimit
import ZejfMeteo.ViewerPackets
import ZejfMeteo.ControlMessages
import ZejfMeteo.Recency
import ZejfMeteo.RainGauge
import ZejfMeteo.StoredHours
import ZejfMeteo.LogSlots
import ZejfMeteo.ViewerTime
import ZejfMeteo.RequestQueue
import ZejfMeteo.RequestTurns
import ZejfMeteo.OutOfMemory
import ZejfMeteo.RejectedLogs
import ZejfMeteo.DamagedFiles
import ZejfMeteo.DamagedLines
import ZejfMeteo.ListRuns
import ZejfMeteo.Watchdog
import ZejfMeteo.InfoTurns
import ZejfMeteo.Delivery
import ZejfMeteo.Restarts
import ZejfMeteo.Backfill
import ZejfMeteo.Teardown
import ZejfMeteo.Publishing
import ZejfMeteo.Polling
import ZejfMeteo.TcpConnection
import ZejfMeteo.VariablesRequest
