import RoboBaton.Library.Threads
import RoboBaton.Imu.Core
import RoboBaton.Library.Discipline
import RoboBaton.Imu.Dispatch
import RoboBaton.Imu.Owner
import RoboBaton.Imu.Protocol
import RoboBaton.Imu.Lifecycle
import RoboBaton.Imu.Drain
import RoboBaton.Timestamp.Mapper
import RoboBaton.Timestamp.Stamp
import RoboBaton.Camera.Frame
import RoboBaton.Camera.Image
import RoboBaton.Nv12.Planes
import RoboBaton.Nv12.Codec
import RoboBaton.Library.Throwing
import RoboBaton.Nv12.Encoder
import RoboBaton.Nv12.CodecProtocol
import RoboBaton.Camera.Queue
import RoboBaton.Camera.Core
import RoboBaton.Camera.Callback
import RoboBaton.Camera.Lifecycle
import RoboBaton.Camera.References
import RoboBaton.Camera.Owner
import RoboBaton.Camera.Protocol
import RoboBaton.Camera.Handlers
import RoboBaton.Camera.Calls
import RoboBaton.Camera.Runs
import RoboBaton.Camera.Contract
import RoboBaton.Camera.Balance
import RoboBaton.Camera.Routing
import RoboBaton.Metrics.Tally
import RoboBaton.Camera.Laws
import RoboBaton.Nv12.Layouts
import RoboBaton.Library.Adjacent
import RoboBaton.Metrics.Sequence
import RoboBaton.Metrics.Anomalies
import RoboBaton.Node.Acceptance
import RoboBaton.Metrics.Concurrent
import RoboBaton.Metrics.Lossless
import RoboBaton.Library.Observer
import RoboBaton.Metrics.Snapshot
import RoboBaton.Camera.RateLog
import RoboBaton.Imu.RateLog
import RoboBaton.RateWindows
import RoboBaton.Camera.Intervals
import RoboBaton.Imu.Consistency
import RoboBaton.Imu.Notices
import RoboBaton.Camera.Monitor
import RoboBaton.Camera.Accounting
import RoboBaton.Camera.FrameSets
import RoboBaton.Camera.Delivery
import RoboBaton.Camera.Failures
import RoboBaton.Nv12.CodecSizes
import RoboBaton.Nv12.JpegEnd
import RoboBaton.Library.Format
import RoboBaton.Library.Json
import RoboBaton.Node.RateLines
import RoboBaton.Imu.Failures
import RoboBaton.Node.Main
import RoboBaton.Node.ExitStatus
import RoboBaton.Library.Work
import RoboBaton.Metrics.Retries
import RoboBaton.Camera.Retries
import RoboBaton.Camera.Plan
import RoboBaton.Camera.Work
import RoboBaton.Camera.Progress
import RoboBaton.Camera.Promptness
import RoboBaton.Imu.Work
import RoboBaton.Imu.Progress
import RoboBaton.Node.Places
import RoboBaton.Node.Shutdown
import RoboBaton.Camera.Requests
import RoboBaton.Camera.Notices
import RoboBaton.Imu.Requests
import RoboBaton.Node.Settings
import RoboBaton.Node.Requests
import RoboBaton.Node.Quiescence
import RoboBaton.Nv12.Pairing
import RoboBaton.Nv12.Publisher
import RoboBaton.Library.Outputs
import RoboBaton.Camera.Streams
import RoboBaton.Node.Transports
import RoboBaton.Node.Quality
import RoboBaton.Imu.Streams
import RoboBaton.RateMonitor
