import SimpleMuduo.Connector.State
import SimpleMuduo.Poller.Bookkeeping
import SimpleMuduo.TcpConnection.State

/-!
# A loop and the owners of its channels

One `EventLoop` with its `EPollPoller`, and the objects of its thread that own a `Channel`: the loop
itself, `UdpSocket`, `Acceptor`, the `Connector` of a `TcpClient`, and `TcpConnection`.  User code
creates, starts, uses and destroys them, outside `loop()` or in a callback; a callback may be called
by a member function that has still something to do afterwards, so that there is a stack of what is
left.

Channels and objects have an identity that is never used again.  A `TcpConnection` is destroyed as
soon as there is no `TcpConnectionPtr` to it, and a `Channel` together with its owner; the poller
and `activeChannels_` keep their raw pointers.  What the connections send and receive is left open.
-/

namespace SimpleMuduo

/-! ## The objects -/

/-- The object whose member `channel_` a channel is, and whose member functions are its callbacks.
-/
inductive ChannelOwner
  | eventLoop
  | udpSocket (u : ℕ)
  | acceptor (a : ℕ)
  /-- The connector of the client `k`. -/
  | connector (k : ℕ)
  | connection (c : ℕ)
  deriving DecidableEq, Repr

/-- A `Channel` object, and whether it has not been destroyed. -/
structure ChannelObject where
  channel : Channel
  owner : ChannelOwner
  live : Bool

/-- `simple_muduo::Acceptor`: its socket, and the server whose `newConnection` it calls. -/
structure AcceptorObject where
  acceptSocket_ : Fd
  server : Option ℕ
  deriving DecidableEq, Repr

/-- `simple_muduo::TcpServer`. -/
structure ServerObject where
  acceptor_ : ℕ
  started_ : ℕ
  /-- The values of the map; their order here has no meaning. -/
  connections_ : List ℕ
  deriving DecidableEq, Repr

/-- `simple_muduo::Connector`. -/
structure ConnectorObject where
  connect_ : Bool
  state_ : ConnectorState
  deriving DecidableEq, Repr

/-- `simple_muduo::TcpClient`. -/
structure ClientObject where
  retry_ : Bool
  connect_ : Bool
  connection_ : Option ℕ
  connector_ : ConnectorObject
  deriving DecidableEq, Repr

/-- The values of `TcpConnection::closeCallback_`. -/
inductive CloseCallback
  /-- `TcpServer::removeConnection` of the server. -/
  | server (v : ℕ)
  /-- `TcpClient::removeConnection` of the client. -/
  | client (k : ℕ)
  /-- `detail::removeConnection`, set when the client is destroyed. -/
  | detached
  deriving DecidableEq, Repr

/-- `simple_muduo::TcpConnection`. -/
structure ConnectionObject where
  state_ : StateE
  socket_ : Fd
  closeCallback_ : CloseCallback
  deriving DecidableEq, Repr

/-- A functor in the queue of the loop. -/
inductive OwnerFunctor
  /-- A functor that user code has queued. -/
  | user
  /-- `writeCompleteCallback_` or `highWaterMarkCallback_` of the connection. -/
  | callback (c : ℕ)
  | connectDestroyed (c : ℕ)
  | forceCloseInLoop (c : ℕ)
  /-- `stopInLoop` of the connector of the client `k`. -/
  | stopInLoop (k : ℕ)
  | resetChannel (k : ℕ)
  deriving DecidableEq, Repr

/-- The callbacks of a channel. -/
inductive ChannelCallback
  | close
  | error
  | read
  | write
  deriving DecidableEq, Repr

/-- What the thread of the loop has still to do in a member function. -/
inductive OwnerFrame
  /-- User code is running; the argument is the `TcpConnectionPtr` it was called with. -/
  | user (conn : Option ℕ)
  /-- `handleEvent` of the channel has been called. -/
  | handleEvent (p : ChannelPtr)
  /-- `handleEventWithGuard` of the channel, with `guard` and the callbacks that it has still to
  call. -/
  | handleEventWithGuard (p : ChannelPtr) (guard : Option ℕ) (rest : List ChannelCallback)
  /-- `closeCallback_(connPtr)` in `handleClose`. -/
  | handleClose (c : ℕ)
  /-- `channel_->remove()` in `connectDestroyed`. -/
  | connectDestroyed (c : ℕ)
  /-- The rest of the loop in `~TcpServer`, and then the destruction of its acceptor. -/
  | destroyServer (a : ℕ) (rest : List ℕ)
  deriving DecidableEq, Repr

/-- The connection that a functor holds. -/
def OwnerFunctor.holds : OwnerFunctor → Option ℕ
  | .callback c | .connectDestroyed c | .forceCloseInLoop c => some c
  | _ => none

/-- The connections that are held by the local variables of a member function. -/
def OwnerFrame.holds : OwnerFrame → List ℕ
  | .user conn => conn.toList
  | .handleEvent _ => []
  | .handleEventWithGuard _ guard _ => guard.toList
  | .handleClose c => [c]
  | .connectDestroyed c => [c]
  | .destroyServer _ rest => rest

/-- Where the thread of the loop is. -/
inductive OwnerLoopPc
  /-- Outside `loop()`. -/
  | outside
  /-- Behind `poll`, in the loop over `activeChannels_` or in `runTimer`. -/
  | handlers
  /-- In `doPendingFunctors`, behind the swap. -/
  | functors
  deriving DecidableEq, Repr

/-- What is recorded of a run. -/
inductive DispatchEffect
  /-- `poll` has returned. -/
  | poll
  /-- `removeChannel` was called with the channel. -/
  | remove (p : ChannelPtr)
  /-- `handleEvent` was called on the channel. -/
  | handleEvent (p : ChannelPtr)
  deriving DecidableEq, Repr

/-- Why the process ends. -/
inductive OwnerFault
  /-- `LOG_ERROR`, which aborts. -/
  | abort
  | assertion
  | nullPointer
  /-- A destroyed object was used. -/
  | useAfterFree
  deriving DecidableEq, Repr

/-- Why a member function does not return: the process ends, or the kernel does not answer like
this. -/
inductive OwnerHalt
  | fault (f : OwnerFault)
  | impossible
  deriving DecidableEq, Repr

/-- The loop, its poller and the objects that own its channels. -/
structure OwnerLoop where
  poller : EPollPoller
  /-- Whether a descriptor is open. -/
  descriptors : Fd → Bool
  objects : ChannelPtr → Option ChannelObject
  nextChannel : ChannelPtr
  /-- The member `channel_` of each object. -/
  channel_ : ChannelOwner → Option ChannelPtr
  udpSockets : ℕ → Bool
  acceptors : ℕ → Option AcceptorObject
  servers : ℕ → Option ServerObject
  clients : ℕ → Option ClientObject
  connections : ℕ → Option ConnectionObject
  /-- The identity of the next object. -/
  nextObject : ℕ
  /-- The copies of `TcpConnectionPtr` that user code keeps. -/
  userRefs : List ℕ
  /-- The channels of `activeChannels_` whose `handleEvent` has not been called yet. -/
  activeChannels_ : List ChannelPtr
  frames : List OwnerFrame
  pendingFunctors_ : List OwnerFunctor
  /-- The functors that `doPendingFunctors` has still to call. -/
  functors : List OwnerFunctor
  /-- The functors that it has called, which exist until it returns. -/
  called : List OwnerFunctor
  pc : OwnerLoopPc
  history : List DispatchEffect
  fault : Option OwnerFault

namespace OwnerLoop

/-- The wakeup channel after `enableReading()`. -/
def wakeupChannel (wakeupFd : Fd) : Channel where
  self := 0
  fd_ := wakeupFd
  events_ := kReadEvent
  revents_ := kNoneEvent
  index_ := .kAdded

/-- `EventLoop()`, when the given descriptors are open. -/
def new (wakeupFd : Fd) (descriptors : Fd → Bool) : OwnerLoop where
  poller :=
    { channels_ := Function.update (fun _ => none) wakeupFd (some 0)
      interest := Function.update (fun _ => none) wakeupFd (some ⟨kReadEvent, 0⟩) }
  descriptors := Function.update descriptors wakeupFd true
  objects := Function.update (fun _ => none) 0 (some ⟨wakeupChannel wakeupFd, .eventLoop, true⟩)
  nextChannel := 1
  channel_ := Function.update (fun _ => none) .eventLoop (some 0)
  udpSockets := fun _ => false
  acceptors := fun _ => none
  servers := fun _ => none
  clients := fun _ => none
  connections := fun _ => none
  nextObject := 0
  userRefs := []
  activeChannels_ := []
  frames := []
  pendingFunctors_ := []
  functors := []
  called := []
  pc := .outside
  history := []
  fault := none

/-! ## Channels -/

/-- `channel_ = new Channel(loop_, fd)` in the object `w`. -/
def attach (s : OwnerLoop) (w : ChannelOwner) (fd : Fd) : OwnerLoop :=
  { s with
    objects := Function.update s.objects s.nextChannel
      (some ⟨Channel.new s.nextChannel fd, w, true⟩)
    nextChannel := s.nextChannel + 1
    channel_ := Function.update s.channel_ w (some s.nextChannel) }

/-- The channel of the object `w` is destroyed. -/
def detach (s : OwnerLoop) (w : ChannelOwner) : OwnerLoop :=
  match s.channel_ w with
  | none => s
  | some p =>
    { s with
      objects := Function.update s.objects p
        ((s.objects p).map fun o => { o with live := false })
      channel_ := Function.update s.channel_ w none }

section Detach

variable (s : OwnerLoop) (w : ChannelOwner)

@[simp] lemma detach_clients : (s.detach w).clients = s.clients := by
  unfold detach
  split <;> rfl

@[simp] lemma detach_servers : (s.detach w).servers = s.servers := by
  unfold detach
  split <;> rfl

@[simp] lemma detach_connections : (s.detach w).connections = s.connections := by
  unfold detach
  split <;> rfl

@[simp] lemma detach_frames : (s.detach w).frames = s.frames := by
  unfold detach
  split <;> rfl

@[simp] lemma detach_nextObject : (s.detach w).nextObject = s.nextObject := by
  unfold detach
  split <;> rfl

end Detach

/-- The channel of the object `w`. -/
def channel? (s : OwnerLoop) (w : ChannelOwner) : Option Channel :=
  (s.channel_ w).bind fun p => (s.objects p).map ChannelObject.channel

/-- A member function of the channel of `w` that reaches the poller.  `EPOLL_CTL_ADD` fails for a
descriptor that is not open. -/
def run (s : OwnerLoop) (w : ChannelOwner) (op : ChannelOp) : Except OwnerHalt OwnerLoop :=
  match s.channel_ w with
  | none => .error (.fault .nullPointer)
  | some p =>
    match s.objects p with
    | none => .error (.fault .useAfterFree)
    | some o =>
      if op ≠ .remove ∧ o.channel.index_ ≠ .kAdded ∧ s.descriptors o.channel.fd_ = false then
        .error (.fault .abort)
      else
        match op.run o.channel s.poller with
        | none => .error (.fault .abort)
        | some (channel, poller) => .ok { s with
            poller := poller
            objects := Function.update s.objects p (some { o with channel := channel })
            history := if op = .remove then .remove p :: s.history else s.history }

/-- The kernel opens the descriptor. -/
def openFd (s : OwnerLoop) (fd : Fd) : Except OwnerHalt OwnerLoop :=
  if s.descriptors fd then .error .impossible
  else .ok { s with descriptors := Function.update s.descriptors fd true }

/-- `::socket`, whose error is handled by `LOG_ERROR`. -/
def createNonblocking (s : OwnerLoop) (fd : Fd) : Except OwnerHalt OwnerLoop :=
  if fd < 0 then .error (.fault .abort) else s.openFd fd

/-- `::close(fd)`, which takes the descriptor out of the interest set. -/
def close (s : OwnerLoop) (fd : Fd) : OwnerLoop :=
  { s with
    descriptors := Function.update s.descriptors fd false
    poller := { s.poller with interest := Function.update s.poller.interest fd none } }

/-- `queueInLoop(f)`. -/
def queueInLoop (s : OwnerLoop) (f : OwnerFunctor) : OwnerLoop :=
  { s with pendingFunctors_ := s.pendingFunctors_ ++ [f] }

/-- A member function is left for a while. -/
def push (s : OwnerLoop) (f : OwnerFrame) : OwnerLoop := { s with frames := f :: s.frames }

/-- User code is called. -/
def callUser (s : OwnerLoop) (conn : Option ℕ) : OwnerLoop := s.push (.user conn)

/-! ## TcpConnection -/

def setConnection (s : OwnerLoop) (c : ℕ) (conn : ConnectionObject) : OwnerLoop :=
  { s with connections := Function.update s.connections c (some conn) }

/-- The connection is used. -/
def useConnection (s : OwnerLoop) (c : ℕ)
    (f : ConnectionObject → Except OwnerHalt OwnerLoop) : Except OwnerHalt OwnerLoop :=
  match s.connections c with
  | none => .error (.fault .useAfterFree)
  | some conn => f conn

/-- `TcpConnection(loop, name, sockfd, localAddr, peerAddr)` and `setCloseCallback`. -/
def createConnection (s : OwnerLoop) (sockfd : Fd) (closeCallback_ : CloseCallback) : OwnerLoop :=
  { s.setConnection s.nextObject ⟨.kConnecting, sockfd, closeCallback_⟩ with
    nextObject := s.nextObject + 1 }.attach (.connection s.nextObject) sockfd

/-- `connectEstablished()`. -/
def connectEstablished (s : OwnerLoop) (c : ℕ) : Except OwnerHalt OwnerLoop :=
  s.useConnection c fun conn =>
    ((s.setConnection c { conn with state_ := .kConnected }).run (.connection c)
      .enableReading).bind fun s => .ok (s.callUser (some c))

/-- `connectDestroyed()` up to the call of `connectionCallback_`. -/
def connectDestroyed (s : OwnerLoop) (c : ℕ) : Except OwnerHalt OwnerLoop :=
  s.useConnection c fun conn =>
    if conn.state_ = .kConnected then
      ((s.setConnection c { conn with state_ := .kDisconnected }).run (.connection c)
        .disableAll).bind fun s => .ok ((s.push (.connectDestroyed c)).callUser (some c))
    else s.run (.connection c) .remove

/-- `handleClose()` up to the call of `connectionCallback_`. -/
def handleClose (s : OwnerLoop) (c : ℕ) : Except OwnerHalt OwnerLoop :=
  s.useConnection c fun conn =>
    ((s.setConnection c { conn with state_ := .kDisconnected }).run (.connection c)
      .disableAll).bind fun s => .ok ((s.push (.handleClose c)).callUser (some c))

/-- The test of `forceClose` and `forceCloseInLoop`. -/
def ConnectionObject.active (conn : ConnectionObject) : Bool :=
  conn.state_ = .kConnected ∨ conn.state_ = .kDisconnecting

/-- `shutdown()`. -/
def shutdown (s : OwnerLoop) (c : ℕ) : Except OwnerHalt OwnerLoop :=
  s.useConnection c fun conn =>
    .ok (if conn.state_ = .kConnected then
      s.setConnection c { conn with state_ := .kDisconnecting } else s)

/-- `forceClose()`. -/
def forceClose (s : OwnerLoop) (c : ℕ) : Except OwnerHalt OwnerLoop :=
  s.useConnection c fun conn =>
    .ok (if ConnectionObject.active conn then
      (s.setConnection c { conn with state_ := .kDisconnecting }).queueInLoop (.forceCloseInLoop c)
      else s)

/-- `forceCloseInLoop()`. -/
def forceCloseInLoop (s : OwnerLoop) (c : ℕ) : Except OwnerHalt OwnerLoop :=
  s.useConnection c fun conn => if ConnectionObject.active conn then s.handleClose c else .ok s

/-- A callback with the connection is queued, or not. -/
def queueCallback (s : OwnerLoop) (c : ℕ) (queued : Bool) : OwnerLoop :=
  if queued then s.queueInLoop (.callback c) else s

/-- `send(buf)`, which may leave something over for `outputBuffer_` and may queue a callback. -/
def send (s : OwnerLoop) (c : ℕ) (leftOver queued : Bool) : Except OwnerHalt OwnerLoop :=
  s.useConnection c fun conn =>
    if conn.state_ = .kConnected then
      let s := s.queueCallback c queued
      if leftOver ∧ (s.channel? (.connection c)).all (fun channel => !channel.isWriting) then
        s.run (.connection c) .enableWriting
      else .ok s
    else .ok s

/-- `handleWrite()`, which may empty `outputBuffer_` and then may queue `writeCompleteCallback_`. -/
def handleWrite (s : OwnerLoop) (c : ℕ) (drained queued : Bool) : Except OwnerHalt OwnerLoop :=
  if drained ∧ (s.channel? (.connection c)).any Channel.isWriting then
    (s.run (.connection c) .disableWriting).bind fun s => .ok (s.queueCallback c queued)
  else .ok s

/-- The `TcpConnectionPtr`s in the `connections_` of a server, or in the `connection_` of a client;
`closeCallback_` says whose they are. -/
def ownerRefs (s : OwnerLoop) (c : ℕ) : CloseCallback → ℕ
  | .server v => (s.servers v).elim 0 fun server => server.connections_.count c
  | .client k => if (s.clients k).bind ClientObject.connection_ = some c then 1 else 0
  | .detached => 0

/-- The functors that exist. -/
def allFunctors (s : OwnerLoop) : List OwnerFunctor := s.pendingFunctors_ ++ s.functors ++ s.called

/-- `use_count()` of the connection. -/
def refs (s : OwnerLoop) (c : ℕ) : ℕ :=
  (s.connections c).elim 0 (fun conn => s.ownerRefs c conn.closeCallback_) +
    (s.frames.flatMap OwnerFrame.holds).count c +
    (s.allFunctors.filterMap OwnerFunctor.holds).count c + s.userRefs.count c

/-- `~TcpConnection`, whose members are destroyed: the channel, then the socket. -/
def destroyConnection (s : OwnerLoop) (c : ℕ) (conn : ConnectionObject) : OwnerLoop :=
  let s := (s.detach (.connection c)).close conn.socket_
  { s with connections := Function.update s.connections c none }

/-! ## Connector -/

def setClient (s : OwnerLoop) (k : ℕ) (client : ClientObject) : OwnerLoop :=
  { s with clients := Function.update s.clients k (some client) }

/-- The client, or its connector, is used. -/
def useClient (s : OwnerLoop) (k : ℕ) (f : ClientObject → Except OwnerHalt OwnerLoop) :
    Except OwnerHalt OwnerLoop :=
  match s.clients k with
  | none => .error (.fault .useAfterFree)
  | some client => f client

/-- `setState(States s)`. -/
def setState (s : OwnerLoop) (k : ℕ) (client : ClientObject) (state_ : ConnectorState) :
    OwnerLoop :=
  s.setClient k { client with connector_ := { client.connector_ with state_ := state_ } }

/-- `connecting(int sockfd)`. -/
def connecting (s : OwnerLoop) (k : ℕ) (sockfd : Fd) : Except OwnerHalt OwnerLoop :=
  s.useClient k fun client =>
    if s.channel_ (.connector k) = none then
      ((s.setState k client .kConnecting).attach (.connector k) sockfd).run (.connector k)
        .enableWriting
    else .error (.fault .assertion)

/-- `retry(int sockfd)`; `startInLoop` is what its `runInLoop` calls. -/
def retry (startInLoop : OwnerLoop → Except OwnerHalt OwnerLoop) (s : OwnerLoop) (k : ℕ)
    (sockfd : Fd) : Except OwnerHalt OwnerLoop :=
  s.useClient k fun client =>
    let s := (s.close sockfd).setState k client .kDisconnected
    if client.connector_.connect_ then startInLoop s else .ok s

/-- `connect()`. -/
def connect (startInLoop : OwnerLoop → Except OwnerHalt OwnerLoop) (s : OwnerLoop) (k : ℕ)
    (attempt : ConnectAttempt) : Except OwnerHalt OwnerLoop :=
  (s.createNonblocking attempt.sockfd).bind fun s =>
    match connectCase attempt.savedErrno with
    | .connecting => s.connecting k attempt.sockfd
    | .retry => s.retry startInLoop k attempt.sockfd
    | .close => .ok (s.close attempt.sockfd)

/-- `startInLoop()` up to its call of `connect()`. -/
def beforeConnect (connect : OwnerLoop → Except OwnerHalt OwnerLoop) (s : OwnerLoop) (k : ℕ) :
    Except OwnerHalt OwnerLoop :=
  s.useClient k fun client =>
    if client.connector_.state_ = .kDisconnected then
      if client.connector_.connect_ then connect s else .error (.fault .abort)
    else .error (.fault .assertion)

/-- `startInLoop()`, with the attempts that the kernel answers to. -/
def startInLoop (k : ℕ) : List ConnectAttempt → OwnerLoop → Except OwnerHalt OwnerLoop
  | [], s => s.beforeConnect (fun _ => .error .impossible) k
  | attempt :: rest, s =>
    s.beforeConnect (fun s => s.connect (startInLoop k rest) k attempt) k

/-- `restart()`. -/
def restart (s : OwnerLoop) (k : ℕ) (attempts : List ConnectAttempt) :
    Except OwnerHalt OwnerLoop :=
  s.useClient k fun client =>
    startInLoop k attempts (s.setClient k { client with connector_ := ⟨true, .kDisconnected⟩ })

/-- `removeAndResetChannel()`; `sockfd` is the descriptor that it returns. -/
def removeAndResetChannel (s : OwnerLoop) (k : ℕ) : Except OwnerHalt (Fd × OwnerLoop) :=
  match s.channel? (.connector k) with
  | none => .error (.fault .nullPointer)
  | some channel =>
    (s.run (.connector k) .disableAll).bind fun s =>
      (s.run (.connector k) .remove).bind fun s =>
        .ok (channel.fd_, s.queueInLoop (.resetChannel k))

/-- `resetChannel()`. -/
def resetChannel (s : OwnerLoop) (k : ℕ) : Except OwnerHalt OwnerLoop :=
  s.useClient k fun _ => .ok (s.detach (.connector k))

/-- `stopInLoop()`. -/
def stopInLoop (s : OwnerLoop) (k : ℕ) (attempts : List ConnectAttempt) :
    Except OwnerHalt OwnerLoop :=
  s.useClient k fun client =>
    if client.connector_.state_ = .kConnecting then
      ((s.setState k client .kDisconnected).removeAndResetChannel k).bind fun (sockfd, s) =>
        s.retry (startInLoop k attempts) k sockfd
    else .ok s

/-- `TcpClient::newConnection(1)`: the constructor of `TcpClient` has bound the argument. -/
def newClientConnection (s : OwnerLoop) (k : ℕ) (client : ClientObject) :
    Except OwnerHalt OwnerLoop :=
  ((s.createConnection 1 (.client k)).setClient k
    { client with connection_ := some s.nextObject }).connectEstablished s.nextObject

/-- `Connector::handleWrite()` behind `setState(kConnected)`. -/
def connected (s : OwnerLoop) (k : ℕ) (sockfd : Fd) : Except OwnerHalt OwnerLoop :=
  s.useClient k fun client =>
    let client := { client with connector_ := { client.connector_ with state_ := .kConnected } }
    if client.connector_.connect_ then (s.setClient k client).newClientConnection k client
    else .ok ((s.setClient k client).close sockfd)

/-- `Connector::handleWrite()`. -/
def connectorHandleWrite (s : OwnerLoop) (k : ℕ) (result : Connector.CompletionResult) :
    Except OwnerHalt OwnerLoop :=
  s.useClient k fun client =>
    if client.connector_.state_ = .kConnecting then
      (s.removeAndResetChannel k).bind fun (sockfd, s) =>
        if result.err ≠ 0 ∨ result.selfConnect then
          s.retry (startInLoop k result.attempts) k sockfd
        else s.connected k sockfd
    else if client.connector_.state_ = .kDisconnected then .ok s
    else .error (.fault .assertion)

/-- `Connector::handleError()`. -/
def connectorHandleError (s : OwnerLoop) (k : ℕ) (attempts : List ConnectAttempt) :
    Except OwnerHalt OwnerLoop :=
  s.useClient k fun client =>
    if client.connector_.state_ = .kConnecting then
      (s.removeAndResetChannel k).bind fun (sockfd, s) =>
        s.retry (startInLoop k attempts) k sockfd
    else .ok s

/-! ## TcpClient -/

/-- `connect()`. -/
def connectClient (s : OwnerLoop) (k : ℕ) (attempts : List ConnectAttempt) :
    Except OwnerHalt OwnerLoop :=
  s.useClient k fun client =>
    startInLoop k attempts (s.setClient k { client with
      connect_ := true
      connector_ := { client.connector_ with connect_ := true } })

/-- `disconnect()`. -/
def disconnect (s : OwnerLoop) (k : ℕ) : Except OwnerHalt OwnerLoop :=
  s.useClient k fun client =>
    let s := s.setClient k { client with connect_ := false }
    match client.connection_ with
    | none => .ok s
    | some c => s.shutdown c

/-- `stop()`. -/
def stop (s : OwnerLoop) (k : ℕ) : Except OwnerHalt OwnerLoop :=
  s.useClient k fun client =>
    .ok ((s.setClient k { client with
      connect_ := false
      connector_ := { client.connector_ with connect_ := false } }).queueInLoop (.stopInLoop k))

/-- `TcpClient::removeConnection(conn)`. -/
def removeClientConnection (s : OwnerLoop) (k c : ℕ) (attempts : List ConnectAttempt) :
    Except OwnerHalt OwnerLoop :=
  s.useClient k fun client =>
    if client.connection_ = some c then
      let s := (s.setClient k { client with connection_ := none }).queueInLoop (.connectDestroyed c)
      if client.retry_ && client.connect_ then s.restart k attempts else .ok s
    else .error (.fault .assertion)

/-- `~TcpClient` before its members are destroyed. -/
def releaseConnection (s : OwnerLoop) (client : ClientObject) : Except OwnerHalt OwnerLoop :=
  match client.connection_ with
  | none => .ok s
  | some c =>
    s.useConnection c fun conn =>
      let s' := s.setConnection c { conn with closeCallback_ := .detached }
      if s.refs c = 1 then s'.forceClose c else .ok s'

/-- `~TcpClient`, with the `Connector` and its channel. -/
def destroyClient (s : OwnerLoop) (k : ℕ) : Except OwnerHalt OwnerLoop :=
  s.useClient k fun client =>
    (s.releaseConnection client).bind fun s =>
      .ok { s.detach (.connector k) with clients := Function.update s.clients k none }

/-! ## Acceptor and TcpServer -/

/-- The acceptor is used. -/
def useAcceptor (s : OwnerLoop) (a : ℕ) (f : AcceptorObject → Except OwnerHalt OwnerLoop) :
    Except OwnerHalt OwnerLoop :=
  match s.acceptors a with
  | none => .error (.fault .useAfterFree)
  | some acceptor => f acceptor

/-- The server is used. -/
def useServer (s : OwnerLoop) (v : ℕ) (f : ServerObject → Except OwnerHalt OwnerLoop) :
    Except OwnerHalt OwnerLoop :=
  match s.servers v with
  | none => .error (.fault .useAfterFree)
  | some server => f server

def setServer (s : OwnerLoop) (v : ℕ) (server : ServerObject) : OwnerLoop :=
  { s with servers := Function.update s.servers v (some server) }

/-- `Acceptor(loop, listenAddr, reuseport)`. -/
def createAcceptor (s : OwnerLoop) (fd : Fd) (server : Option ℕ) : Except OwnerHalt OwnerLoop :=
  (s.createNonblocking fd).bind fun s =>
    .ok ({ s with
      acceptors := Function.update s.acceptors s.nextObject (some ⟨fd, server⟩)
      nextObject := s.nextObject + 1 }.attach (.acceptor s.nextObject) fd)

/-- `listen()`. -/
def listen (s : OwnerLoop) (a : ℕ) : Except OwnerHalt OwnerLoop :=
  s.useAcceptor a fun _ => s.run (.acceptor a) .enableReading

/-- `~Acceptor`: the channel is removed and destroyed, and the socket is closed. -/
def destroyAcceptor (s : OwnerLoop) (a : ℕ) : Except OwnerHalt OwnerLoop :=
  s.useAcceptor a fun acceptor =>
    (s.run (.acceptor a) .disableAll).bind fun s =>
      (s.run (.acceptor a) .remove).bind fun s =>
        let s := (s.detach (.acceptor a)).close acceptor.acceptSocket_
        .ok { s with acceptors := Function.update s.acceptors a none }

/-- `TcpServer(loop, listenAddr, nameArg, option)`: the acceptor is created first. -/
def createServer (s : OwnerLoop) (fd : Fd) : Except OwnerHalt OwnerLoop :=
  (s.createAcceptor fd (some (s.nextObject + 1))).bind fun s' =>
    .ok { s'.setServer s'.nextObject ⟨s.nextObject, 0, []⟩ with nextObject := s'.nextObject + 1 }

/-- `TcpServer::start()`. -/
def startServer (s : OwnerLoop) (v : ℕ) : Except OwnerHalt OwnerLoop :=
  s.useServer v fun server =>
    let s := s.setServer v { server with started_ := server.started_ + 1 }
    if server.started_ = 0 then s.listen server.acceptor_ else .ok s

/-- `TcpServer::newConnection(sockfd, peerAddr)`. -/
def newServerConnection (s : OwnerLoop) (v : ℕ) (sockfd : Fd) : Except OwnerHalt OwnerLoop :=
  s.useServer v fun server =>
    ((s.createConnection sockfd (.server v)).setServer v
      { server with connections_ := server.connections_ ++ [s.nextObject] }).connectEstablished
        s.nextObject

/-- `Acceptor::handleRead()`, with the descriptor that `accept` returns. -/
def acceptorHandleRead (s : OwnerLoop) (a : ℕ) (accepted : Option Fd) :
    Except OwnerHalt OwnerLoop :=
  s.useAcceptor a fun acceptor =>
    match accepted with
    | none => .ok s
    | some connfd =>
      (s.openFd connfd).bind fun s =>
        match acceptor.server with
        | none => .ok (s.callUser none)
        | some v => s.newServerConnection v connfd

/-- `TcpServer::removeConnection(conn)`. -/
def removeServerConnection (s : OwnerLoop) (v c : ℕ) : Except OwnerHalt OwnerLoop :=
  s.useServer v fun server =>
    .ok ((s.setServer v
      { server with connections_ := server.connections_.erase c }).queueInLoop
        (.connectDestroyed c))

/-- `~TcpServer` up to its loop, which goes through the map `connections_` in the given order: that
of an `unordered_map` is unspecified. -/
def destroyServer (s : OwnerLoop) (v : ℕ) (order : List ℕ) : Except OwnerHalt OwnerLoop :=
  s.useServer v fun server =>
    if order.Perm server.connections_ then
      .ok ({ s with servers := Function.update s.servers v none }.push
        (.destroyServer server.acceptor_ order))
    else .error .impossible

/-! ## UdpSocket -/

/-- `start()`, where `::socket` returns `fd`. -/
def startUdp (s : OwnerLoop) (u : ℕ) (fd : Fd) : Except OwnerHalt OwnerLoop :=
  if s.udpSockets u then
    (if fd < 0 then .ok s else s.openFd fd).bind fun s =>
      ((s.detach (.udpSocket u)).attach (.udpSocket u) fd).run (.udpSocket u) .enableReading
  else .error (.fault .useAfterFree)

/-- `~UdpSocket`. -/
def destroyUdp (s : OwnerLoop) (u : ℕ) : Except OwnerHalt OwnerLoop :=
  if s.udpSockets u then
    match s.channel? (.udpSocket u) with
    | none => .error (.fault .nullPointer)
    | some channel =>
      let s := (if 0 < channel.fd_ then s.close channel.fd_ else s).detach (.udpSocket u)
      .ok { s with udpSockets := Function.update s.udpSockets u false }
  else .error (.fault .useAfterFree)

end OwnerLoop

end SimpleMuduo
