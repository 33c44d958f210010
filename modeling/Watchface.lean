import Watchface.Simulation
import Watchface.Proofs.Lasting
import Watchface.Proofs.Dictionary.Integer
import Watchface.Proofs.Dictionary.Records
import Watchface.Proofs.Dictionary.Iteration
import Watchface.Proofs.Dictionary.RoundTrip
import Watchface.Proofs.Dictionary.Canonical
import Watchface.Proofs.Dictionary.Room
import Watchface.Proofs.Dictionary.Keys
import Watchface.Proofs.Settings.LastValue
import Watchface.Proofs.Settings.Composition
import Watchface.Proofs.Settings.RoundTrip
import Watchface.Proofs.Settings.Cells
import Watchface.Proofs.Settings.Snapshot
import Watchface.Proofs.Settings.Decoding
import Watchface.Proofs.Dictionary.Truncation
import Watchface.Proofs.Weather.LastReading
import Watchface.Proofs.Weather.History
import Watchface.Proofs.Weather.Merging
import Watchface.Proofs.Weather.RoundTrip
import Watchface.Proofs.Host.Trace
import Watchface.Proofs.Host.Arming
import Watchface.Proofs.Host.AlarmHistory
import Watchface.Proofs.Host.TimerService
import Watchface.Proofs.Host.Deadline
import Watchface.Proofs.Host.Simulator
import Watchface.Proofs.Host.Commuting
import Watchface.Proofs.Face.Reaction
import Watchface.Proofs.Face.Run
import Watchface.Proofs.Face.Popup
import Watchface.Proofs.Face.Redraw
import Watchface.Proofs.Face.Freshness
import Watchface.Proofs.Face.Request
import Watchface.Proofs.Face.SingleTimer
import Watchface.Proofs.Face.Alarms
import Watchface.Proofs.Face.Expiry
import Watchface.Proofs.Face.Subscription
import Watchface.Proofs.Face.Refreshing
import Watchface.Proofs.Face.RefreshOff
import Watchface.Proofs.Face.Timing
import Watchface.Proofs.Face.MessageContent
import Watchface.Proofs.Simulation.Run
import Watchface.Proofs.Simulation.Refresh
import Watchface.Proofs.Simulation.Dismissal
import Watchface.Proofs.Face.Knowledge
import Watchface.Proofs.Face.Isolation
import Watchface.Proofs.Face.TickRequests
import Watchface.Proofs.Simulation.Redelivery
import Watchface.Proofs.Simulation.Commuting
import Watchface.Proofs.Dictionary.Writing
import Watchface.Proofs.Safety.Scanning
import Watchface.Proofs.Safety.Merging
import Watchface.Proofs.Safety.Handling
