import Sctp4Nat.Machine.Basic
import Sctp4Nat.Machine.Threads
import Sctp4Nat.Machine.Lifetime
import Sctp4Nat.Machine.WorkerPool
import Sctp4Nat.Machine.Demux
import Sctp4Nat.Machine.OneShot
import Sctp4Nat.Machine.Progress
import Sctp4Nat.Machine.ShiftRegister
import Sctp4Nat.Machine.Alarms
import Sctp4Nat.Machine.Tailq
import Sctp4Nat.Java.Basic
import Sctp4Nat.Java.Spec
import Sctp4Nat.Java.HashMap
import Sctp4Nat.Java.Inet
import Sctp4Nat.Java.Text
import Sctp4Nat.Java.ByteOrder
import Sctp4Nat.Java.Loop
import Sctp4Nat.Origin.SctpSocket
import Sctp4Nat.Origin.PtrProtocol
import Sctp4Nat.Origin.BufferBounds
import Sctp4Nat.Origin.SocketRegistry
import Sctp4Nat.Origin.NativeAccept
import Sctp4Nat.Origin.AcceptedFlag
import Sctp4Nat.Origin.CallsEnd
import Sctp4Nat.Origin.Stack
import Sctp4Nat.Origin.Engine
import Sctp4Nat.Origin.NativeLedger
import Sctp4Nat.Origin.SctpNotification
import Sctp4Nat.Origin.NotificationLayout
import Sctp4Nat.Origin.PacketDump
import Sctp4Nat.Origin.ChunkWalk
import Sctp4Nat.Core.SctpMapper
import Sctp4Nat.Core.MapperShutdown
import Sctp4Nat.Core.SendOrder
import Sctp4Nat.Core.Directory
import Sctp4Nat.Core.World
import Sctp4Nat.Core.DynPorts
import Sctp4Nat.Core.Connect
import Sctp4Nat.Core.SettleOnce
import Sctp4Nat.Core.ConnectEnds
import Sctp4Nat.Core.Dispatch
import Sctp4Nat.Connection.UdpLink
import Sctp4Nat.Connection.Program
import Sctp4Nat.Connection.AssignedPorts
import Sctp4Nat.Connection.Effect
import Sctp4Nat.Connection.Demultiplex
import Sctp4Nat.Connection.SctpConnection
import Sctp4Nat.Connection.MapperKeys
import Sctp4Nat.Connection.ReceiveLoop
import Sctp4Nat.Connection.SharedLink
import Sctp4Nat.Connection.ThreadPool
import Sctp4Nat.Connection.ClosedChannel
import Sctp4Nat.Connection.LiveChannel
import Sctp4Nat.Connection.Metadata
import Sctp4Nat.Connection.RejectedConnect
import Sctp4Nat.Connection.FailedConnect
import Sctp4Nat.Connection.PoolTasks
import Sctp4Nat.Connection.Outbound
import Sctp4Nat.Util.ShutdownAll
import Sctp4Nat.Util.Init
import Sctp4Nat.Usrsctp.CrcTables
import Sctp4Nat.Usrsctp.Crc32c
import Sctp4Nat.Usrsctp.Checksum
import Sctp4Nat.Usrsctp.Callout
import Sctp4Nat.Machine.Serial
import Sctp4Nat.Machine.Bitmap
import Sctp4Nat.Machine.Runs
import Sctp4Nat.Usrsctp.MappingArray
import Sctp4Nat.Usrsctp.Receiver
import Sctp4Nat.Usrsctp.SlideMappingArrays
import Sctp4Nat.Usrsctp.ReceiverRuns
import Sctp4Nat.Usrsctp.SackArray
import Sctp4Nat.Usrsctp.Sack
import Sctp4Nat.Usrsctp.SackReport
import Sctp4Nat.Usrsctp.SentQueue
import Sctp4Nat.Usrsctp.Sender
import Sctp4Nat.Usrsctp.Transfer
