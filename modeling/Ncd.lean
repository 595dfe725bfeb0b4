import Ncd.LabelledRuns
import Ncd.IncrementalDecoding
import Ncd.Receiver
import Ncd.PanicFree
import Ncd.CloseResult
import Ncd.HandlerCalls
import Ncd.Inactivity
import Ncd.GracefulClose
import Ncd.WriteDeadlock
import Ncd.Assembly
import Ncd.FrameInverse
import Ncd.QueueOrder
import Ncd.PauseFlags
import Ncd.ReadCall
import Ncd.MessageBounds
import Ncd.Senders
import Ncd.Mailbox
import Ncd.Backlog
import Ncd.WakeUp
import Ncd.Isolation
import Ncd.BufferOrder
import Ncd.Segmentation
import Ncd.OpenState
import Ncd.Exclusive
import Ncd.DeviceTable
import Ncd.WireGrammar
import Ncd.Forwarding
import Ncd.WriteOrder
import Ncd.StayUp
import Ncd.Handshake
import Ncd.AdapterOutput
import Ncd.DaemonMessages
import Ncd.CloseOutcome
import Ncd.Resave
import Ncd.Reception
import Ncd.Feeding
import Ncd.System
import Ncd.Downstream
import Ncd.Upstream
import Ncd.Agreement
import Ncd.Standstill
import Ncd.Render
import Ncd.AdapterOptions
import Ncd.FileDevice
import Ncd.Bundle
import Ncd.Resources
import Ncd.SilentHost
import Ncd.KernelMessages
import Ncd.RoundTrips
import Ncd.LoopRefinement
