import Libobsbot.Foundations.Program
import Libobsbot.Foundations.Interleaving
import Libobsbot.Foundations.Translation
import Libobsbot.Foundations.FailFast
import Libobsbot.Foundations.Worker
import Libobsbot.Foundations.Shared
import Libobsbot.Foundations.Mutex
import Libobsbot.Foundations.Ownership
import Libobsbot.Foundations.Referents
import Libobsbot.Foundations.SplitPair
import Libobsbot.Foundations.WriteSequence
import Libobsbot.Foundations.TwoRuns
import Libobsbot.Foundations.Bytes
import Libobsbot.Foundations.Memory
import Libobsbot.Foundations.Layout
import Libobsbot.Foundations.Ledger
import Libobsbot.Foundations.HashMap
import Libobsbot.Foundations.Numerals
import Libobsbot.Foundations.NumeralOrder
import Libobsbot.Foundations.Ascii
import Libobsbot.Foundations.Crc
import Libobsbot.Foundations.Channel
import Libobsbot.Source.Types
import Libobsbot.Source.Meet2
import Libobsbot.Source.Uvc
import Libobsbot.Source.Device
import Libobsbot.Source.DeviceOp
import Libobsbot.Source.Handle
import Libobsbot.Source.Uvcvideo
import Libobsbot.Source.VideoNodes
import Libobsbot.Source.Enumerate
import Libobsbot.Source.Discovery
import Libobsbot.Source.Macos
import Libobsbot.Source.Ffi
import Libobsbot.Source.FfiPointers
import Libobsbot.Source.FfiSetters
import Libobsbot.Rpc.Frame
import Libobsbot.Rpc.Replies
import Libobsbot.Rpc.Formats
import Libobsbot.Rpc.Poll
import Libobsbot.Rpc.Calls
import Libobsbot.Rpc.Slot
import Libobsbot.Rpc.Attribution
import Libobsbot.Rpc.Overwriting
import Libobsbot.Rpc.Freshness
import Libobsbot.Rpc.MacTail
import Libobsbot.Rpc.ShortReplies
import Libobsbot.Rpc.Crc
import Libobsbot.Rpc.Parsing
import Libobsbot.Rpc.SerialText
import Libobsbot.Rpc.Firmware
import Libobsbot.Rpc.VersionGrammar
import Libobsbot.Rpc.PollLoops
import Libobsbot.Xu.ModeRegister
import Libobsbot.Linux.Routing
import Libobsbot.Linux.V4l2Store
import Libobsbot.Linux.PanTilt
import Libobsbot.Linux.VideoNodes
import Libobsbot.Linux.Enumerate
import Libobsbot.Controls.RefusedWrites
import Libobsbot.Controls.ShortReads
import Libobsbot.Controls.ReportedBytes
import Libobsbot.Controls.Integers
import Libobsbot.Controls.Sampling
import Libobsbot.Controls.BadResponses
import Libobsbot.Controls.FirstFailure
import Libobsbot.Poller.Threads
import Libobsbot.Poller.Cadence
import Libobsbot.Poller.Shutdown
import Libobsbot.Poller.Undisturbed
import Libobsbot.Poller.StatusEvents
import Libobsbot.Hotplug.Polls
import Libobsbot.Hotplug.Keys
import Libobsbot.Hotplug.Ledger
import Libobsbot.Hotplug.Announced
import Libobsbot.Hotplug.Serials
import Libobsbot.Hotplug.Shutdown
import Libobsbot.Hotplug.Tracking
import Libobsbot.Events.Broadcast
import Libobsbot.Macos.Ownership
import Libobsbot.Macos.Registry
import Libobsbot.Macos.Enumerate
import Libobsbot.Macos.Requests
import Libobsbot.Macos.Threads
import Libobsbot.Macos.Teardown
import Libobsbot.Platforms.Agreement
import Libobsbot.Platforms.Sessions
import Libobsbot.Ffi.Marshalling
import Libobsbot.Ffi.Outputs
import Libobsbot.Ffi.Strings
import Libobsbot.Ffi.Panel
import Libobsbot.Ffi.PanelCamera
import Libobsbot.Ffi.Setters
import Libobsbot.Ffi.Sessions
import Libobsbot.Ffi.Codes
import Libobsbot.Ffi.Registers
