import Mathlib.Tactic.Simps.Basic
import SimpleMuduo.Buffer
import SimpleMuduo.Poller
import SimpleMuduo.EventLoop.FunctorQueue
import SimpleMuduo.Foundation.EventHistory

/-!
# The state around one connection

A `TcpConnection` owned by a `TcpServer`, the part of its `EventLoop` that concerns it, the
threads that hold a `TcpConnectionPtr` and call `send`, `shutdown` and `forceClose` on it, and
the history of what has happened so far, newest event first.

The connection object itself is kept alive by the `TcpConnectionPtr` of its users, so the raw
`this` pointers bound into `sendInLoop` and `shutdownInLoop` functors stay valid; the server
object is not, and calling `closeCallback_` after its destruction is a fault.
-/

namespace SimpleMuduo

/-- `TcpConnection::StateE`. -/
inductive StateE
  | kDisconnected
  | kConnecting
  | kConnected
  | kDisconnecting
  deriving DecidableEq, Repr

/-- The address of a `std::string` variable of a caller. -/
abbrev StringRef := ℕ

/-- A functor of the connection in the queue of its loop. -/
inductive Functor
  /-- `sendInLoop` with the captured `buf.c_str()` and `buf.size()`; `call` numbers the `send`
  calls and is not part of the functor. -/
  | sendInLoop (call : ℕ) (buf : StringRef) (len : ℕ)
  | shutdownInLoop
  | forceCloseInLoop
  | connectDestroyed
  | writeCompleteCallback
  | highWaterMarkCallback (len : ℕ)
  deriving DecidableEq, Repr

/-- What the loop thread still has to do before it returns to the event loop: the callbacks of
`handleEventWithGuard` that are left, and the rest of a function that has called user code. -/
inductive Call
  | handleClose
  | handleError
  | handleRead
  | handleWrite
  /-- `closeCallback_(connPtr)`, the last line of `handleClose`. -/
  | closeCallback
  | connectDestroyed
  /-- `channel_->remove()`, the last line of `connectDestroyed`. -/
  | removeChannel
  deriving DecidableEq, Repr

/-- Where a thread other than the loop thread is inside a call on the connection. -/
inductive ThreadPc
  | idle
  /-- `send` has seen `kConnected`. -/
  | send (call : ℕ) (buf : StringRef) (len : ℕ)
  /-- `shutdown` has seen `kConnected` and has not stored `kDisconnecting` yet. -/
  | shutdownStore
  | shutdownPush
  /-- `forceClose` has passed its test and has not stored `kDisconnecting` yet. -/
  | forceCloseStore
  | forceClosePush
  deriving DecidableEq, Repr

/-- What is recorded in the history. -/
inductive Effect
  | setState (s : StateE)
  /-- `send(buf)` saw `kConnected`, with these bytes in `buf`. -/
  | sendCalled (call : ℕ) (data : Bytes)
  | sendReturned (call : ℕ)
  /-- `shutdown()` saw `kConnected`. -/
  | shutdownCalled
  /-- `sendInLoop` was entered with these bytes at `data`. -/
  | sendInLoop (call : ℕ) (data : Bytes)
  /-- `::write` on the socket. -/
  | write (data : Bytes) (result : IoResult)
  /-- `outputBuffer_.append`. -/
  | append (data : Bytes)
  /-- `channel_->enableWriting()`. -/
  | enableWriting
  /-- `socket_->shutdownWrite()`, with this many bytes left in `outputBuffer_`. -/
  | shutdownWrite (readableBytes : ℕ)
  | queueInLoop (f : Functor)
  /-- `connectionCallback_`, with the value of `connected()`. -/
  | connectionCallback (connected : Bool)
  | messageCallback
  | closeCallback
  | handleClose
  | connectDestroyed
  | connectDestroyedReturned
  deriving DecidableEq

/-- Why the process does not return from a step. -/
inductive Fault
  /-- The `abort()` inside `LOG_ERROR`. -/
  | abort
  /-- An empty `std::function` was called. -/
  | badFunctionCall
  /-- The destroyed `TcpServer` was used. -/
  | useAfterFree
  deriving DecidableEq, Repr

/-- What the kernel answers to the system calls of one step. -/
structure Kernel where
  /-- `::write` -/
  write : IoResult
  /-- `::readv`: the bytes that have arrived, or an error. -/
  readv : Except Errno Bytes
  /-- `::shutdown`: success, or an error. -/
  shutdown : Option Errno

/-- The connection, its loop, its server and the threads that use it. -/
structure World where
  /-- `TcpConnection::state_`. -/
  state_ : StateE
  /-- `TcpConnection::channel_` and the poller of its loop. -/
  channel_ : PolledChannel
  inputBuffer_ : Buffer
  outputBuffer_ : Buffer
  highWaterMark_ : ℕ
  /-- Whether the user has set the callback. -/
  connectionCallback_ : Bool
  messageCallback_ : Bool
  writeCompleteCallback_ : Bool
  highWaterMarkCallback_ : Bool
  /-- `EventLoop::pendingFunctors_`. -/
  pendingFunctors_ : List Functor
  /-- The rest of the batch that `doPendingFunctors` took. -/
  functors : List Functor
  /-- The channel is in `activeChannels_` and its `handleEvent` has not run yet. -/
  active : Bool
  /-- What the loop thread is in the middle of. -/
  todo : List Call
  /-- The loop of the server is the loop of the connection. -/
  singleLoop : Bool
  /-- The server has not been destroyed. -/
  serverAlive : Bool
  /-- `TcpServer::connections_` holds the connection. -/
  inConnections : Bool
  /-- The `removeConnectionInLoop` functors in the queue of the server's loop. -/
  removePending : ℕ
  threads : ThreadId → ThreadPc
  /-- The string variables of the callers. -/
  strings : StringRef → StdString
  /-- The number of `send` calls that saw `kConnected`. -/
  sendCalls : ℕ
  history : List Effect
  fault : Option Fault

namespace World

/-! ## Elementary steps -/

/-- Record an event. -/
@[simps] def log (w : World) (e : Effect) : World := { w with history := e :: w.history }

/-- `abort()`, which does not return. -/
@[simps] def abort (w : World) : World := { w with fault := some .abort }

/-- `setState(StateE state)`. -/
@[simps] def setState (w : World) (state : StateE) : World :=
  { w with state_ := state, history := .setState state :: w.history }

/-- `loop_->queueInLoop(cb)`. -/
@[simps] def queueInLoop (w : World) (f : Functor) : World :=
  { w with
    pendingFunctors_ := w.pendingFunctors_ ++ [f]
    history := .queueInLoop f :: w.history }

/-- `if (condition) loop_->queueInLoop(cb)`. -/
@[simps] def queueIf (w : World) (condition : Bool) (f : Functor) : World :=
  { w with
    pendingFunctors_ := if condition then w.pendingFunctors_ ++ [f] else w.pendingFunctors_
    history := if condition then .queueInLoop f :: w.history else w.history }

/-- `if (!channel_->isWriting()) channel_->enableWriting()`. -/
@[simps] def ensureWriting (w : World) : World :=
  { w with
    channel_ := if w.channel_.isWriting then w.channel_ else w.channel_.enableWriting
    history := if w.channel_.isWriting then w.history else .enableWriting :: w.history }

/-- `channel_->disableWriting()`. -/
@[simps] def disableWriting (w : World) : World :=
  { w with channel_ := w.channel_.disableWriting }

/-- `channel_->disableAll()`. -/
@[simps] def disableAll (w : World) : World := { w with channel_ := w.channel_.disableAll }

/-- `outputBuffer_.append(data, len)`. -/
@[simps] def appendOutput (w : World) (data : Bytes) : World :=
  { w with
    outputBuffer_ := w.outputBuffer_.append data
    history := .append data :: w.history }

/-- `outputBuffer_.retrieve(n)`. -/
@[simps] def retrieveOutput (w : World) (n : ℕ) : World :=
  { w with outputBuffer_ := w.outputBuffer_.retrieve n }

/-- Call user code through a `std::function`, which throws when it is empty. -/
@[simps] def callback (w : World) (isSet : Bool) (e : Effect) : World :=
  { w with
    history := e :: w.history
    fault := if isSet then w.fault else some .badFunctionCall }

/-- `Socket::shutdownWrite()`: a failing `::shutdown` ends in `LOG_ERROR`. -/
@[simps] def shutdownWrite (w : World) (k : Kernel) : World :=
  { w with
    history := .shutdownWrite w.outputBuffer_.readableBytes :: w.history
    fault := if k.shutdown = none then w.fault else some .abort }

/-- `send` has seen `kConnected` with these bytes, and gets the next number. -/
@[simps] def callSend (w : World) (data : Bytes) : World :=
  { w with
    sendCalls := w.sendCalls + 1
    history := .sendCalled w.sendCalls data :: w.history }

/-- The loop thread has these calls left. -/
@[simps] def setTodo (w : World) (todo : List Call) : World := { w with todo := todo }

/-- These functors are left of the batch. -/
@[simps] def setFunctors (w : World) (functors : List Functor) : World :=
  { w with functors := functors }

/-- `inputBuffer_` after `readFd`. -/
@[simps] def setInput (w : World) (inputBuffer : Buffer) : World :=
  { w with inputBuffer_ := inputBuffer }

/-- The thread `t` is now at `pc`. -/
@[simps] def setThread (w : World) (t : ThreadId) (pc : ThreadPc) : World :=
  { w with threads := Function.update w.threads t pc }

/-- The loop thread continues with `c` when it is done with what it is doing now. -/
@[simps] def continueWith (w : World) (c : Call) : World := { w with todo := c :: w.todo }

/-- `connected()`. -/
def connected (w : World) : Bool := w.state_ = .kConnected

end World

end SimpleMuduo
