import Lgt8.Firmware.Antares
import Lgt8.Firmware.Console
import Lgt8.Firmware.Custody
import Lgt8.Firmware.Double
import Lgt8.Firmware.Log
import Lgt8.Firmware.Mail
import Lgt8.Firmware.Printf
import Lgt8.Firmware.Sscanf
import Lgt8.Firmware.Status
import Lgt8.Firmware.Stream
import Lgt8.Firmware.Telemetry
import Lgt8.Firmware.Wiring
import Lgt8.Firmware.World
import Lgt8.Http.Answers
import Lgt8.Http.Buffers
import Lgt8.Http.Model
import Lgt8.Http.Parse
import Lgt8.Http.Requests
import Lgt8.Http.Responses
import Lgt8.Kernel.Alarms
import Lgt8.Kernel.Backlog
import Lgt8.Kernel.Headroom
import Lgt8.Kernel.Layout
import Lgt8.Kernel.Malformed
import Lgt8.Kernel.Mirror
import Lgt8.Kernel.Model
import Lgt8.Kernel.Ownership
import Lgt8.Kernel.Polling
import Lgt8.Kernel.PostOffice
import Lgt8.Kernel.Replies
import Lgt8.Kernel.Texts
import Lgt8.Kernel.Unsubscribe
import Lgt8.Library.Alarm
import Lgt8.Library.Buffer
import Lgt8.Library.Decimal
import Lgt8.Library.Erasure
import Lgt8.Library.Fields
import Lgt8.Library.Layout
import Lgt8.Library.Ledger
import Lgt8.Library.Record
import Lgt8.Library.Routing
import Lgt8.Library.Runs
import Lgt8.Library.Search
import Lgt8.Library.Serial
import Lgt8.Library.Shuttle
import Lgt8.Library.Tape
import Lgt8.Library.Tiles
import Lgt8.Library.Walker
import Lgt8.Library.Word
import Lgt8.Lwip.Blocks
import Lgt8.Lwip.Heap
import Lgt8.Lwip.Mem
import Lgt8.Monitor.Model
import Lgt8.Monitor.Outputs
import Lgt8.Monitor.Passes
import Lgt8.Monitor.Wiring
import Lgt8.Net.Cells
import Lgt8.Net.Clock
import Lgt8.Net.Echo
import Lgt8.Net.Fidelity
import Lgt8.Net.Framing
import Lgt8.Net.Gate
import Lgt8.Net.Input
import Lgt8.Net.Pbuf
import Lgt8.Net.Pool
import Lgt8.Net.Reclaim
import Lgt8.Net.Release
import Lgt8.Servo.Bounds
import Lgt8.Servo.Drive
import Lgt8.Servo.Interlock
import Lgt8.Servo.Law
import Lgt8.Servo.Model
import Lgt8.Servo.Passes
import Lgt8.Servo.Preemption
import Lgt8.Servo.Rotation
import Lgt8.Servo.Runs
import Lgt8.Servo.Saturation
import Lgt8.Servo.Standstill
import Lgt8.Servo.Tach
import Lgt8.Servo.Tick
import Lgt8.Servo.Wiring
import Lgt8.Sweep.Abort
import Lgt8.Sweep.Carriage
import Lgt8.Sweep.Containment
import Lgt8.Sweep.Effects
import Lgt8.Sweep.Goto
import Lgt8.Sweep.Model
import Lgt8.Sweep.Parking
import Lgt8.Sweep.Passes
import Lgt8.Sweep.Pulses
import Lgt8.Sweep.Runs
import Lgt8.Sweep.Scan
import Lgt8.Sweep.Sensors
import Lgt8.Sweep.Stall
import Lgt8.Sweep.Stretch
import Lgt8.Sweep.Timing
import Lgt8.Sweep.Transitions
import Lgt8.Sweep.Wiring
import Lgt8.Tcp.Arrival
import Lgt8.Tcp.Buffers
import Lgt8.Tcp.Calls
import Lgt8.Tcp.Closing
import Lgt8.Tcp.Frame
import Lgt8.Tcp.Input
import Lgt8.Tcp.Model
import Lgt8.Tcp.Output
import Lgt8.Tcp.Stream
import Lgt8.Tcp.Timers
