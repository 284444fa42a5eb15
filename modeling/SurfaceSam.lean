import SurfaceSam.Devlib.Memory
import SurfaceSam.Devlib.Reading
import SurfaceSam.Devlib.Framing
import SurfaceSam.Devlib.Kfifo
import SurfaceSam.Devlib.Interleaving
import SurfaceSam.Devlib.Machine
import SurfaceSam.Devlib.Mutex
import SurfaceSam.Devlib.Separation
import SurfaceSam.Devlib.Schedules
import SurfaceSam.Devlib.Ledger
import SurfaceSam.Devlib.Ring
import SurfaceSam.Devlib.CircularList
import SurfaceSam.Devlib.Trace
import SurfaceSam.Devlib.Simulation
import SurfaceSam.Devlib.Arrivals
import SurfaceSam.Devlib.Unwind
import SurfaceSam.Devlib.WaitQueue
import SurfaceSam.Devlib.Arrays
import SurfaceSam.Ssh.Protocol
import SurfaceSam.Ssh.Receiver
import SurfaceSam.Ssh.Probe
import SurfaceSam.Ssh.Evaluation
import SurfaceSam.Ssh.EvalBuffer
import SurfaceSam.Ssh.Message
import SurfaceSam.Ssh.Reassembly
import SurfaceSam.Ssh.Bounds
import SurfaceSam.Ssh.Capacity
import SurfaceSam.Ssh.ReceiveLoop
import SurfaceSam.Ssh.Request
import SurfaceSam.Ssh.Exchange
import SurfaceSam.Ssh.Transaction
import SurfaceSam.Ssh.Reply
import SurfaceSam.Ssh.Matching
import SurfaceSam.Ssh.Transit
import SurfaceSam.Ssh.Encoding
import SurfaceSam.Ssh.Separation
import SurfaceSam.Ssh.Resynchronisation
import SurfaceSam.Ssh.Handshake
import SurfaceSam.Ssh.Completion
import SurfaceSam.Ssh.RoundTrip
import SurfaceSam.Ssh.RequestIds
import SurfaceSam.Lifecycle.Stages
import SurfaceSam.Lifecycle.System
import SurfaceSam.Lifecycle.WorkItems
import SurfaceSam.Lifecycle.Receipt
import SurfaceSam.Lifecycle.Locking
import SurfaceSam.Lifecycle.HandlerRemoval
import SurfaceSam.Lifecycle.Teardown
import SurfaceSam.Lifecycle.Deadlock
import SurfaceSam.Lifecycle.SerdevUse
import SurfaceSam.Lifecycle.EventUse
import SurfaceSam.Lifecycle.ExactlyOnce
import SurfaceSam.Ec.Device
import SurfaceSam.Ec.System
import SurfaceSam.Ec.HandlerTable
import SurfaceSam.Ec.MutexBalance
import SurfaceSam.Ec.Resources
import SurfaceSam.Ec.Power
import SurfaceSam.Ec.Answers
import SurfaceSam.Dtx.Device
import SurfaceSam.Dtx.Binding
import SurfaceSam.Dtx.Clients
import SurfaceSam.Dtx.ClientList
import SurfaceSam.Dtx.Delivery
import SurfaceSam.Dtx.Rings
import SurfaceSam.Dtx.ReadCopies
import SurfaceSam.Dtx.ReadOutcomes
import SurfaceSam.Dtx.ReadFailures
import SurfaceSam.Events.Handlers
import SurfaceSam.Events.Order
import SurfaceSam.Dtx.OperationMode
import SurfaceSam.Dtx.WaitQueue
import SurfaceSam.Dtx.Wakeups
import SurfaceSam.Dtx.WaitProgress
import SurfaceSam.Dtx.Ioctl
import SurfaceSam.Dtx.IoctlCalls
import SurfaceSam.San.Opreg
import SurfaceSam.San.Consumers
import SurfaceSam.San.Probe
import SurfaceSam.Sid.Device
import SurfaceSam.Sid.Setup
import SurfaceSam.Sid.Runs
import SurfaceSam.Drivers.Scripts
import SurfaceSam.Drivers.System
import SurfaceSam.Drivers.Ownership
import SurfaceSam.Drivers.Callbacks
import SurfaceSam.Sysfs.Rqst
import SurfaceSam.Sysfs.Response
import SurfaceSam.Drivers.Requests
