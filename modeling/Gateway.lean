import Gateway.Lib.LittleEndian
import Gateway.Lib.CText
import Gateway.Lib.CScan
import Gateway.Lib.Binary64
import Gateway.Lib.Checked
import Gateway.Lib.SlidingWindow
import Gateway.Lib.Segmented
import Gateway.Lib.PrefixCode
import Gateway.Lib.Block
import Gateway.Lib.KeyedTable
import Gateway.Lib.Channel
import Gateway.Lib.MessageQueue
import Gateway.Lib.QueueSpace
import Gateway.Lib.Run
import Gateway.Lib.Drain
import Gateway.Lib.Unwinding
import Gateway.Lib.Fallible
import Gateway.Lib.Descriptors
import Gateway.Lib.Ownership
import Gateway.Lib.CriticalSection
import Gateway.Sense
import Gateway.SenseUtils
import Gateway.Packet
import Gateway.Acquiring
import Gateway.Processing
import Gateway.Pipeline
import Gateway.Logging
import Gateway.Telemetry.Loop
import Gateway.Telemetry.Locking
import Gateway.Telemetry.Sections
import Gateway.Telemetry.Atomicity
import Gateway.Telemetry.Registry
import Gateway.Telemetry.Progress
import Gateway.Telemetry.Shutdown
import Gateway.Telemetry.Response
import Gateway.Telemetry.Memory
import Gateway.Telemetry.Lookup
import Gateway.Telemetry.Views
import Gateway.Telemetry.Elapsed
import Gateway.Telemetry.UserHandler
import Gateway.Agreement
import Gateway.Delivery
import Gateway.Device
import Gateway.Throughput
import Gateway.Rendering
import Gateway.Latency
import Gateway.Interface
import Gateway.Exchange
import Gateway.Session
import Gateway.Average
import Gateway.LatencyLog
import Gateway.LatencyReport
import Gateway.Watchdog
import Gateway.Simulator.Threads
import Gateway.Simulator.Framing
import Gateway.Simulator.Lines
import Gateway.UserCommand
import Gateway.Queues
import Gateway.Startup
import Gateway.ProcessInit
import Gateway.Accepting.Loop
import Gateway.Accepting.Owners
import Gateway.Accepting.Runs
import Gateway.Lifetimes
