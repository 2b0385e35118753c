import SimpleMuduo.TcpConnection.Handlers
import SimpleMuduo.Foundation.TransitionSystem

/-!
# The connection as a transition system

The steps of the loop thread, of the other threads that call the connection, and of the thread
of the server's loop.

An iteration of `EventLoop::loop` is split into the return of `poll`, the `handleEvent` of the
channel, its callbacks one by one, the swap of `doPendingFunctors`, and the functors of the batch
one by one.  User code on the loop thread (callbacks, functors of the user, handlers of other
channels, timers) may call the connection or destroy the server between any two of these steps.
The calls of another thread are split where they touch shared data: the load of `state_`, the
store of `setState`, and the push into the functor queue, which is taken as atomic here.
-/

namespace SimpleMuduo

/-- The steps of the system. -/
inductive Event
  /-- `send(buf)` on another thread loads `state_`. -/
  | sendLoad (t : ThreadId) (buf : StringRef)
  /-- ... and pushes the `sendInLoop` functor. -/
  | sendPush (t : ThreadId)
  /-- `shutdown()` on another thread loads `state_`. -/
  | shutdownLoad (t : ThreadId)
  /-- ... calls `setState(kDisconnecting)`. -/
  | shutdownStore (t : ThreadId)
  /-- ... and pushes the `shutdownInLoop` functor. -/
  | shutdownPush (t : ThreadId)
  /-- `forceClose()` on another thread loads `state_`. -/
  | forceCloseLoad (t : ThreadId)
  /-- ... calls `setState(kDisconnecting)`. -/
  | forceCloseStore (t : ThreadId)
  /-- ... and pushes the `forceCloseInLoop` functor. -/
  | forceClosePush (t : ThreadId)
  /-- Another thread assigns new contents of the same length to its string, in place. -/
  | assign (t : ThreadId) (buf : StringRef) (contents : StdString)
  /-- `send` on the loop thread. -/
  | loopSend (buf : StdString) (k : Kernel)
  /-- `shutdown` on the loop thread. -/
  | loopShutdown (k : Kernel)
  /-- `forceClose` on the loop thread. -/
  | loopForceClose
  /-- `~TcpServer()`. -/
  | destroyServer
  /-- `epoll_wait` returns the channel among the active ones. -/
  | poll (revents : EventMask)
  /-- The loop calls `handleEvent` of the channel. -/
  | handleEvent
  /-- The loop thread goes on with what it is in the middle of. -/
  | runCall (k : Kernel)
  /-- `doPendingFunctors` swaps the pending functors out. -/
  | swap
  /-- `doPendingFunctors` runs the next functor. -/
  | runFunctor (k : Kernel)
  /-- The server's loop runs a `removeConnectionInLoop` functor. -/
  | removeConnectionInLoop

/-- The event is a step of the loop thread or of the thread of the server's loop. -/
def Event.onLoopThread : Event → Bool
  | .loopSend _ _ | .loopShutdown _ | .loopForceClose | .destroyServer | .poll _ | .handleEvent
  | .runCall _ | .swap | .runFunctor _ | .removeConnectionInLoop => true
  | _ => false

namespace World

/-- The events the kernel may report for an entry of the interest set: the ones asked for, and
`EPOLLERR` and `EPOLLHUP`, which are always reported. -/
def Reportable (pc : PolledChannel) (revents : EventMask) : Prop :=
  ∃ event, pc.poller.interest pc.channel.fd_ = some event ∧
    revents &&& ~~~(event.events ||| EPOLLERR ||| EPOLLHUP) = 0#32

instance (pc : PolledChannel) (revents : EventMask) : Decidable (Reportable pc revents) :=
  match h : pc.poller.interest pc.channel.fd_ with
  | none => isFalse (by rintro ⟨event, he, -⟩; simp [h] at he)
  | some event =>
    if hr : revents &&& ~~~(event.events ||| EPOLLERR ||| EPOLLHUP) = 0#32 then
      isTrue ⟨event, h, hr⟩
    else isFalse (by rintro ⟨event', he, hr'⟩; obtain rfl : event = event' := by simpa [h] using he
                     exact hr hr')

/-- The loop thread is between the iterations of its loop or about to leave `poll`. -/
def AtPoll (w : World) : Prop := w.todo = [] ∧ w.active = false ∧ w.functors = []

instance (w : World) : Decidable w.AtPoll := inferInstanceAs (Decidable (_ ∧ _ ∧ _))

/-- `send(buf)` of thread `t` has seen `kConnected` and binds its arguments. -/
def beginSend (w : World) (t : ThreadId) (buf : StringRef) : World :=
  (w.callSend (w.strings buf).data).setThread t (.send w.sendCalls buf (w.strings buf).size)

/-- The steps of a thread other than the loop thread. -/
def threadStep (w : World) (t : ThreadId) : Event → Option World
  | .sendLoad _ buf =>
    if w.threads t = .idle then
      if w.state_ = .kConnected then some (w.beginSend t buf) else some w
    else none
  | .sendPush _ =>
    match w.threads t with
    | .send call buf len =>
      some (((w.queueInLoop (.sendInLoop call buf len)).log (.sendReturned call)).setThread t .idle)
    | _ => none
  | .shutdownLoad _ =>
    if w.threads t = .idle then
      if w.state_ = .kConnected then some ((w.log .shutdownCalled).setThread t .shutdownStore)
      else some w
    else none
  | .shutdownStore _ =>
    if w.threads t = .shutdownStore then
      some ((w.setState .kDisconnecting).setThread t .shutdownPush)
    else none
  | .shutdownPush _ =>
    if w.threads t = .shutdownPush then
      some ((w.queueInLoop .shutdownInLoop).setThread t .idle)
    else none
  | .forceCloseLoad _ =>
    if w.threads t = .idle then
      if w.state_ = .kConnected ∨ w.state_ = .kDisconnecting then
        some (w.setThread t .forceCloseStore)
      else some w
    else none
  | .forceCloseStore _ =>
    if w.threads t = .forceCloseStore then
      some ((w.setState .kDisconnecting).setThread t .forceClosePush)
    else none
  | .forceClosePush _ =>
    if w.threads t = .forceClosePush then
      some ((w.queueInLoop .forceCloseInLoop).setThread t .idle)
    else none
  | .assign _ buf contents =>
    if w.threads t = .idle ∧ contents.size = (w.strings buf).size then
      some { w with strings := Function.update w.strings buf contents }
    else none
  | _ => none

/-- One step of the system.  Nothing happens any more after a fault. -/
def step (w : World) (e : Event) : Option World :=
  if w.fault ≠ none then none
  else
    match e with
    | .sendLoad t _ | .sendPush t | .shutdownLoad t | .shutdownStore t | .shutdownPush t
    | .forceCloseLoad t | .forceCloseStore t | .forceClosePush t | .assign t _ _ =>
      w.threadStep t e
    | .loopSend buf k => some (w.loopSend buf k)
    | .loopShutdown k => some (w.loopShutdown k)
    | .loopForceClose => some w.loopForceClose
    | .destroyServer => if w.serverAlive then some w.destroyServer else none
    | .poll revents =>
      if w.AtPoll ∧ Reportable w.channel_ revents then
        some { w with channel_ := w.channel_.set_revents revents, active := true }
      else none
    | .handleEvent => if w.active ∧ w.todo = [] then some w.handleEvent else none
    | .runCall k =>
      match w.todo with
      | [] => none
      | c :: rest => some ((w.setTodo rest).runCall c k)
    | .swap =>
      if w.AtPoll then some { w with functors := w.pendingFunctors_, pendingFunctors_ := [] }
      else none
    | .runFunctor k =>
      match w.functors with
      | [] => none
      | f :: rest =>
        if w.todo = [] then some ((w.setFunctors rest).runFunctor f k) else none
    | .removeConnectionInLoop =>
      if 0 < w.removePending then
        let w := { w with removePending := w.removePending - 1 }
        if w.serverAlive then some w.removeConnectionInLoop
        else some { w with fault := some .useAfterFree }
      else none

end World

/-! ## Initial states -/

/-- What a new connection is created with. -/
structure Config where
  /-- The connected socket. -/
  fd : Fd
  /-- The address of the channel of the connection. -/
  channel : ChannelPtr
  /-- The poller of the loop, which does not know the new socket yet. -/
  poller : EPollPoller
  fd_not_mapped : poller.channels_ fd = none
  fd_not_registered : poller.interest fd = none
  highWaterMark : ℕ
  connectionCallback : Bool
  messageCallback : Bool
  writeCompleteCallback : Bool
  highWaterMarkCallback : Bool
  /-- The loop of the server is the loop of the connection. -/
  singleLoop : Bool
  /-- The string variables of the threads that will use the connection. -/
  strings : StringRef → StdString

namespace Config

/-- `TcpServer::newConnection` up to the point where it hands `connectEstablished` to the loop of
the connection. -/
def newConnection (cfg : Config) : World where
  state_ := .kConnecting
  channel_ :=
    { channel := ⟨cfg.channel, cfg.fd, kNoneEvent, kNoneEvent, .kNew⟩
      poller := cfg.poller
      agrees := by simp [Agrees, cfg.fd_not_mapped, cfg.fd_not_registered] }
  inputBuffer_ := Buffer.new kInitialSize
  outputBuffer_ := Buffer.new kInitialSize
  highWaterMark_ := cfg.highWaterMark
  connectionCallback_ := cfg.connectionCallback
  messageCallback_ := cfg.messageCallback
  writeCompleteCallback_ := cfg.writeCompleteCallback
  highWaterMarkCallback_ := cfg.highWaterMarkCallback
  pendingFunctors_ := []
  functors := []
  active := false
  todo := []
  singleLoop := cfg.singleLoop
  serverAlive := true
  inConnections := true
  removePending := 0
  threads := fun _ => .idle
  strings := cfg.strings
  sendCalls := 0
  history := []
  fault := none

/-- The connection after `connectEstablished`.  Nobody has a `TcpConnectionPtr` before; only the
destruction of the server may come earlier when the loops differ, and what it does is to queue
`connectDestroyed` behind `connectEstablished`, as it does when it comes right after. -/
def established (cfg : Config) : World := cfg.newConnection.connectEstablished

lemma established_history (cfg : Config) :
    cfg.established.history = [.connectionCallback true, .setState .kConnected] := rfl

/-- A connection of a server with one loop, on a descriptor in an otherwise empty poller; every
string of the callers holds the bytes `hi`. -/
def single : Config where
  fd := 5
  channel := 0
  poller := ⟨fun _ => none, fun _ => none⟩
  fd_not_mapped := rfl
  fd_not_registered := rfl
  highWaterMark := 64 * 1024 * 1024
  connectionCallback := true
  messageCallback := true
  writeCompleteCallback := false
  highWaterMarkCallback := false
  singleLoop := true
  strings := fun _ => ⟨[104, 105], by decide⟩

end Config

/-- A kernel that takes everything it is given, has these bytes to read, and half-closes. -/
def Kernel.ready (arrived : Bytes) : Kernel where
  write := .ok maxObjectSize
  readv := .ok arrived
  shutdown := none

/-- The world `w` is reached from the newly established connection by the events `es`. -/
def Runs (cfg : Config) (es : List Event) (w : World) : Prop :=
  exec World.step cfg.established es = some w

end SimpleMuduo
