import UdeSample.Lib.Run
import UdeSample.Lib.Channel
import UdeSample.Lib.Pool
import UdeSample.Lib.CheckThenAct
import UdeSample.Lib.LatestValue
import UdeSample.Lib.CString
import UdeSample.Lib.MultiString
import UdeSample.Lib.Store
import UdeSample.Lib.Ledger
import UdeSample.Lib.Loop
import UdeSample.Lib.Layout
import UdeSample.Lib.ListEntry
import UdeSample.Lib.Strtol
import UdeSample.Lib.Kstrtou
import UdeSample.Lib.Printf
import UdeSample.Lib.Transfer
import UdeSample.Lib.Sawtooth
import UdeSample.Wdf
import UdeSample.IntrState
import UdeSample.Device.Misc
import UdeSample.Device.WRQueueRace
import UdeSample.Device.USBCom
import UdeSample.Device.BackChannel
import UdeSample.Device.Steps
import UdeSample.Device.Run
import UdeSample.Device.Fifo
import UdeSample.Device.Answered
import UdeSample.Device.IntrRace
import UdeSample.Device.IntrOrder
import UdeSample.Device.History
import UdeSample.Device.Wake
import UdeSample.Device.Swallow
import UdeSample.Device.Completion
import UdeSample.Device.PowerManaged
import UdeSample.Device.QueueMemory
import UdeSample.Device.LinkedQueue
import UdeSample.Device.Objects
import UdeSample.Device.Lifecycle
import UdeSample.Device.Handles
import UdeSample.Device.Stopping
import UdeSample.Device.RetrieveEpQueue
import UdeSample.Device.Plugged
import UdeSample.Device.Disconnect
import UdeSample.Device.Refinement
import UdeSample.Device.ControllerName
import UdeSample.Device.Inits
import UdeSample.Host.Ioctl
import UdeSample.Host.IntrRace
import UdeSample.Host.History
import UdeSample.Host.Swallow
import UdeSample.Host.BulkRwr
import UdeSample.Host.Interfaces
import UdeSample.Host.Pipes
import UdeSample.Host.PipesSteps
import UdeSample.Host.PipesRuns
import UdeSample.System.Interrupts
import UdeSample.System.Freshness
import UdeSample.System.Delivery
import UdeSample.App.TestApp
import UdeSample.App.Trip
import UdeSample.App.RoundTrip
import UdeSample.App.CommandLine
import UdeSample.App.TextTools
import UdeSample.App.TextToolsRuns
import UdeSample.App.Missions
import UdeSample.App.Dump
import UdeSample.App.DumpRoundTrip
import UdeSample.Host.ConfigDescriptor
import UdeSample.Host.Requests
import UdeSample.App.DumpText
import UdeSample.App.DumpDevice
import UdeSample.App.DevicePath
import UdeSample.Gadget.Loopback
import UdeSample.Gadget.Pairs
import UdeSample.Gadget.Ownership
import UdeSample.Gadget.Echo
import UdeSample.Gadget.EchoSteps
import UdeSample.Gadget.EchoRuns
import UdeSample.Gadget.Options
import UdeSample.Gadget.One
import UdeSample.Gadget.OneRuns
import UdeSample.Gadget.Autoresume
import UdeSample.Gadget.Bind
import UdeSample.Gadget.BindRuns
import UdeSample.System.GadgetHost
