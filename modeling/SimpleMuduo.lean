import SimpleMuduo.Foundation.TransitionSystem
import SimpleMuduo.Foundation.EventHistory
import SimpleMuduo.Foundation.SequenceCopy
import SimpleMuduo.Foundation.OrderedSet
import SimpleMuduo.Foundation.ObjectCensus
import SimpleMuduo.Foundation.DecimalText
import SimpleMuduo.Foundation.SlotTable
import SimpleMuduo.Kernel
import SimpleMuduo.Buffer
import SimpleMuduo.Buffer.Storage
import SimpleMuduo.Buffer.ReadFd
import SimpleMuduo.Buffer.Indices
import SimpleMuduo.Buffer.Retrieval
import SimpleMuduo.Buffer.Growth
import SimpleMuduo.EventLoop.FunctorQueue
import SimpleMuduo.Timestamp
import SimpleMuduo.EventLoop.Loop
import SimpleMuduo.EventLoop.Wakeup
import SimpleMuduo.EventLoop.Rounds
import SimpleMuduo.EventLoop.Thread
import SimpleMuduo.EventLoop.StartLoop
import SimpleMuduo.Poller
import SimpleMuduo.Poller.Bookkeeping
import SimpleMuduo.Poller.NoInterest
import SimpleMuduo.Poller.Growth
import SimpleMuduo.Connector.State
import SimpleMuduo.Connector.Branches
import SimpleMuduo.Connector.Invariant
import SimpleMuduo.Connector.Ownership
import SimpleMuduo.Connector.Retry
import SimpleMuduo.Connector.ChannelSlot
import SimpleMuduo.Connector.Commands
import SimpleMuduo.Connector.Attempts
import SimpleMuduo.TcpConnection.Handlers
import SimpleMuduo.TcpConnection.System
import SimpleMuduo.TcpConnection.Branches
import SimpleMuduo.TcpConnection.Steps
import SimpleMuduo.TcpConnection.Connected
import SimpleMuduo.TcpConnection.OutputSteps
import SimpleMuduo.TcpConnection.HighWater
import SimpleMuduo.TcpConnection.OutputStream
import SimpleMuduo.TcpConnection.AfterDisconnect
import SimpleMuduo.TcpConnection.LifecycleSteps
import SimpleMuduo.TcpConnection.CloseOnce
import SimpleMuduo.TcpConnection.Notifications
import SimpleMuduo.TcpConnection.Removal
import SimpleMuduo.TcpConnection.ErrorConfinement
import SimpleMuduo.TcpConnection.Callbacks
import SimpleMuduo.TcpConnection.OutputInterest
import SimpleMuduo.TcpConnection.QueueSteps
import SimpleMuduo.TcpConnection.SendCapture
import SimpleMuduo.TcpConnection.HalfClose
import SimpleMuduo.TcpConnection.FinOrder
import SimpleMuduo.TcpClient.State
import SimpleMuduo.TcpClient.HandOver
import SimpleMuduo.TcpClient.Interleaving
import SimpleMuduo.TcpClient.Stop
import SimpleMuduo.TcpClient.StopSteps
import SimpleMuduo.TimerQueue.State
import SimpleMuduo.TimerQueue.Containers
import SimpleMuduo.TimerQueue.Invariant
import SimpleMuduo.TimerQueue.Steps
import SimpleMuduo.TimerQueue.Conservation
import SimpleMuduo.TimerQueue.Cancel
import SimpleMuduo.TimerQueue.CancelSteps
import SimpleMuduo.TimerQueue.Expired
import SimpleMuduo.TimerQueue.Consistent
import SimpleMuduo.TimerQueue.Ids
import SimpleMuduo.TimedLoop.State
import SimpleMuduo.TimedLoop.Deadlines
import SimpleMuduo.TimedLoop.ReceiveTime
import SimpleMuduo.TimedLoop.Starvation
import SimpleMuduo.TimedLoop.Timeout
import SimpleMuduo.TcpServer.State
import SimpleMuduo.TcpServer.ConnectionMap
import SimpleMuduo.TcpServer.SubLoops
import SimpleMuduo.TcpServer.AllLoops
import SimpleMuduo.TcpServer.Destruction
import SimpleMuduo.TcpServer.Balance
import SimpleMuduo.TcpServer.ForceClose
import SimpleMuduo.InetAddress.Text
import SimpleMuduo.Acceptor.State
import SimpleMuduo.Acceptor.ReserveDescriptor
import SimpleMuduo.OwnerLoop.State
import SimpleMuduo.OwnerLoop.Events
import SimpleMuduo.OwnerLoop.Ownership
import SimpleMuduo.OwnerLoop.Members
import SimpleMuduo.OwnerLoop.Dispatch
import SimpleMuduo.OwnerLoop.Obligations
import SimpleMuduo.OwnerLoop.Registration
import SimpleMuduo.OwnerLoop.Lifetimes
import SimpleMuduo.Peers.EndOfStream
import SimpleMuduo.Peers.Delivery
