import SimpleMuduo.Connector.State
import SimpleMuduo.Foundation.EventHistory

/-!
# The client between the threads

Any thread may call `stop()` of a client while the thread of the loop is in the middle of a member
function.  Here the member functions of `TcpClient` and `Connector` are translated access by access:
one step of a thread contains at most one access to what the threads share, that is the `connect_`
of the client, the `connect_` of the connector and `pendingFunctors_`, and what the thread has still
to do after it is a part of the state.  `queueInLoop` does not lock, so that it reads the vector in
one step and writes the extended vector back in another one.

Of a `TcpConnection` only its identity matters here.  The kernel's answers come with the steps, and
which descriptors are open is left out.
-/

namespace SimpleMuduo

/-- A functor in the queue of the loop. -/
inductive ClientFunctor
  /-- A functor of the user. -/
  | user
  /-- `forceCloseInLoop` of the connection `i`. -/
  | forceCloseInLoop (i : ℕ)
  | connectDestroyed (i : ℕ)
  | stopInLoop
  | resetChannel
  deriving DecidableEq, Repr

/-- A functor, and the number of the `queueInLoop` that has appended it. -/
structure NumberedFunctor where
  number : ℕ
  functor : ClientFunctor
  deriving DecidableEq, Repr

/-- What a thread has still to do in a call that is not left to the loop. -/
inductive ClientCallPc
  | idle
  /-- `stop()` of the client has been called. -/
  | stop
  /-- `connector_->stop()`. -/
  | connectorStop
  /-- `queueInLoop(f)`: `emplace_back` reads the vector. -/
  | queueInLoop (f : ClientFunctor)
  /-- `emplace_back` writes back the vector that it has read, with `f`. -/
  | writeBack (read : List NumberedFunctor) (f : ClientFunctor)
  /-- `stop()` of the client returns. -/
  | stopReturns
  /-- `connect()` of the client has been called. -/
  | connect
  /-- `connector_->start()`. -/
  | connectorStart
  deriving DecidableEq, Repr

/-- What the thread of the loop has still to do. -/
inductive LoopTask
  /-- User code is running. -/
  | user
  /-- `closeCallback_` of the connection `i`. -/
  | removeConnection (i : ℕ)
  /-- `if (retry_ && connect_)` in `removeConnection`. -/
  | testConnect
  | restart
  | startInLoop
  | connect
  | retry (sockfd : Fd)
  | stopInLoop
  | handleError
  | handleWrite
  /-- `handleWrite` behind `removeAndResetChannel`. -/
  | connected (sockfd : Fd)
  | newConnection
  | queueInLoop (f : ClientFunctor)
  | resetChannel
  /-- The functor returns. -/
  | return (f : NumberedFunctor)
  deriving DecidableEq, Repr

/-- The functor that returns. -/
def LoopTask.returning : LoopTask → Option NumberedFunctor
  | .return f => some f
  | _ => none

/-- What is recorded of a run. -/
inductive ReconnectEffect
  /-- `connect()` of the client has been called, or its `start()` has stored `connect_`. -/
  | connect
  /-- The thread has called `stop()`. -/
  | stop (t : ThreadId)
  /-- The `stop()` of the thread has returned, while these functors had not run. -/
  | stopReturned (t : ThreadId) (unfinished : List NumberedFunctor)
  /-- The functor has run. -/
  | ran (f : NumberedFunctor)
  /-- A socket was created. -/
  | socket (sockfd : Fd)
  | close (sockfd : Fd)
  /-- A `TcpConnection` was created. -/
  | newConnection (i : ℕ)
  deriving DecidableEq, Repr

/-- Why the process ends. -/
inductive ReconnectFault
  | assertion
  | nullPointer
  /-- `LOG_ERROR`, which aborts. -/
  | abort
  deriving DecidableEq, Repr

/-- The `channel_` of the connector, and whether the poller has it. -/
structure ClientChannel where
  fd : Fd
  registered : Bool
  deriving DecidableEq, Repr

/-- The answers of the kernel to a step of the loop: to `::socket` and `::connect`, to `SO_ERROR`,
and whether the socket is connected to itself. -/
structure TaskAnswers where
  attempt : ConnectAttempt
  err : Errno
  selfConnect : Bool
  deriving DecidableEq, Repr

/-- A client with its connector, the threads that use it, and the queue of its loop. -/
structure ReconnectingClient where
  retry_ : Bool
  connect_ : Bool
  connection_ : Option ℕ
  /-- How many connections have been created. -/
  connections : ℕ
  /-- The `connect_` of the connector. -/
  connectorConnect_ : Bool
  state_ : ConnectorState
  channel_ : Option ClientChannel
  pendingFunctors_ : List NumberedFunctor
  /-- The functors that `doPendingFunctors` has still to call. -/
  functors : List NumberedFunctor
  /-- How many functors have been appended. -/
  queued : ℕ
  calls : ThreadId → ClientCallPc
  tasks : List LoopTask
  history : List ReconnectEffect
  fault : Option ReconnectFault

/-- What happens next. -/
inductive ReconnectEvent
  | enableRetry
  /-- A thread calls `disconnect()`. -/
  | disconnect
  /-- A thread calls `stop()`. -/
  | stop (t : ThreadId)
  /-- A thread queues a functor of its own, or calls `forceClose()` of a connection. -/
  | queueInLoop (t : ThreadId) (forceClose : Option ℕ)
  /-- The thread of the loop calls `connect()`. -/
  | connect
  /-- The thread goes on in its call. -/
  | call (t : ThreadId)
  /-- The thread of the loop goes on. -/
  | task (answers : TaskAnswers)
  /-- `handleEvent` of the channel. -/
  | handleEvent (err out : Bool)
  /-- `handleClose` of the connection `i`, called by its channel. -/
  | handleClose (i : ℕ)
  /-- `doPendingFunctors` swaps. -/
  | swap
  /-- `doPendingFunctors` calls the next functor; `isOpen` is what `forceCloseInLoop` finds. -/
  | functor (isOpen : Bool)
  deriving DecidableEq

namespace ReconnectingClient

open VectorQueue (loopThread)

/-- A new client. -/
def new : ReconnectingClient where
  retry_ := false
  connect_ := true
  connection_ := none
  connections := 0
  connectorConnect_ := false
  state_ := .kDisconnected
  channel_ := none
  pendingFunctors_ := []
  functors := []
  queued := 0
  calls := fun _ => .idle
  tasks := []
  history := []
  fault := none

/-- The functors that have not run. -/
def unfinished (s : ReconnectingClient) : List NumberedFunctor :=
  s.pendingFunctors_ ++ s.functors ++ s.tasks.filterMap LoopTask.returning

/-! ## The calls -/

/-- The thread is at this point of its call. -/
def setCall (s : ReconnectingClient) (t : ThreadId) (pc : ClientCallPc) : ReconnectingClient :=
  { s with calls := Function.update s.calls t pc }

@[simp] lemma setCall_self (s : ReconnectingClient) (t : ThreadId) (pc : ClientCallPc) :
    (s.setCall t pc).calls t = pc := by simp [setCall]

lemma setCall_of_ne (s : ReconnectingClient) {t u : ThreadId} (hne : u ≠ t) (pc : ClientCallPc) :
    (s.setCall t pc).calls u = s.calls u := by simp [setCall, hne]

def record (s : ReconnectingClient) (e : ReconnectEffect) : ReconnectingClient :=
  { s with history := e :: s.history }

/-- The thread of the loop does this first. -/
def before (s : ReconnectingClient) (tasks : List LoopTask) : ReconnectingClient :=
  { s with tasks := tasks ++ s.tasks }

/-- The thread does not do anything else; the thread of the loop runs user code. -/
def mayCall (s : ReconnectingClient) (t : ThreadId) : Bool :=
  s.calls t = .idle ∧ (t = loopThread → s.tasks = [] ∨ s.tasks.head? = some .user)

/-- The thread goes on in its call. -/
def goOn (s : ReconnectingClient) (t : ThreadId) : Option ReconnectingClient :=
  match s.calls t with
  | .idle => none
  | .stop => some ({ s with connect_ := false }.setCall t .connectorStop)
  | .connectorStop =>
    some ({ s with connectorConnect_ := false }.setCall t (.queueInLoop .stopInLoop))
  | .queueInLoop f => some (s.setCall t (.writeBack s.pendingFunctors_ f))
  | .writeBack read f =>
    some ({ s with
      pendingFunctors_ := read ++ [NumberedFunctor.mk s.queued f]
      queued := s.queued + 1 }.setCall t
        (if f = ClientFunctor.stopInLoop then .stopReturns else .idle))
  | .stopReturns => some ((s.record (.stopReturned t s.unfinished)).setCall t .idle)
  | .connect => some ({ s with connect_ := true }.setCall t .connectorStart)
  | .connectorStart =>
    some ((({ s with connectorConnect_ := true }.record .connect).before [.startInLoop]).setCall t
      .idle)

/-! ## The member functions on the thread of the loop -/

/-- The process ends. -/
def fail (s : ReconnectingClient) (f : ReconnectFault) : ReconnectingClient :=
  { s with fault := some f }

def close (s : ReconnectingClient) (sockfd : Fd) : ReconnectingClient := s.record (.close sockfd)

/-- `removeConnection(conn)` up to its test. -/
def removeConnection (s : ReconnectingClient) (i : ℕ) : ReconnectingClient :=
  if s.connection_ = some i then
    { s with connection_ := none }.before [.queueInLoop (.connectDestroyed i), .testConnect]
  else s.fail .assertion

/-- `if (retry_ && connect_)` in `removeConnection`. -/
def testConnect (s : ReconnectingClient) : ReconnectingClient :=
  if s.retry_ && s.connect_ then s.before [.restart] else s

/-- `restart()` up to its call of `startInLoop()`. -/
def restart (s : ReconnectingClient) : ReconnectingClient :=
  { s with state_ := .kDisconnected, connectorConnect_ := true }.before [.startInLoop]

/-- `startInLoop()` up to its call of `connect()`. -/
def startInLoop (s : ReconnectingClient) : ReconnectingClient :=
  if s.state_ = .kDisconnected then
    if s.connectorConnect_ then s.before [.connect] else s.fail .abort
  else s.fail .assertion

/-- `connecting(int sockfd)`. -/
def connecting (s : ReconnectingClient) (sockfd : Fd) : ReconnectingClient :=
  let s := { s with state_ := .kConnecting }
  if s.channel_ = none then { s with channel_ := some ⟨sockfd, true⟩ } else s.fail .assertion

/-- `connect()` of the connector. -/
def connect (s : ReconnectingClient) (attempt : ConnectAttempt) : ReconnectingClient :=
  if attempt.sockfd < 0 then s.fail .abort
  else
    let s := s.record (.socket attempt.sockfd)
    match connectCase attempt.savedErrno with
    | .connecting => s.connecting attempt.sockfd
    | .retry => s.before [.retry attempt.sockfd]
    | .close => s.close attempt.sockfd

/-- `retry(int sockfd)`, whose `runInLoop` calls `startInLoop()` at once. -/
def retry (s : ReconnectingClient) (sockfd : Fd) : ReconnectingClient :=
  let s := { s.close sockfd with state_ := .kDisconnected }
  if s.connectorConnect_ then s.before [.startInLoop] else s

/-- `removeAndResetChannel()`, and what the caller does with the descriptor that it returns. -/
def removeAndResetChannel (s : ReconnectingClient) (next : Fd → LoopTask) : ReconnectingClient :=
  match s.channel_ with
  | none => s.fail .nullPointer
  | some channel =>
    { s with channel_ := some { channel with registered := false } }.before
      [.queueInLoop .resetChannel, next channel.fd]

/-- `stopInLoop()`. -/
def stopInLoop (s : ReconnectingClient) : ReconnectingClient :=
  if s.state_ = .kConnecting then
    { s with state_ := .kDisconnected }.removeAndResetChannel .retry
  else s

/-- `handleError()`. -/
def handleError (s : ReconnectingClient) : ReconnectingClient :=
  if s.state_ = .kConnecting then s.removeAndResetChannel .retry else s

/-- `handleWrite()` up to `getSocketError`. -/
def handleWrite (s : ReconnectingClient) : ReconnectingClient :=
  if s.state_ = .kConnecting then s.removeAndResetChannel .connected
  else if s.state_ = .kDisconnected then s
  else s.fail .assertion

/-- `handleWrite()` behind `removeAndResetChannel()`. -/
def connected (s : ReconnectingClient) (answers : TaskAnswers) (sockfd : Fd) :
    ReconnectingClient :=
  if answers.err ≠ 0 ∨ answers.selfConnect then s.before [.retry sockfd]
  else
    let s := { s with state_ := .kConnected }
    if s.connectorConnect_ then s.before [.newConnection] else s.close sockfd

/-- `TcpClient::newConnection`, which calls `connectionCallback_`. -/
def newConnection (s : ReconnectingClient) : ReconnectingClient :=
  { s.record (.newConnection s.connections) with
    connection_ := some s.connections
    connections := s.connections + 1 }.before [.user]

/-- The next thing that the thread of the loop does. -/
def runTask (s : ReconnectingClient) (answers : TaskAnswers) : LoopTask → ReconnectingClient
  | .user => s
  | .removeConnection i => s.removeConnection i
  | .testConnect => s.testConnect
  | .restart => s.restart
  | .startInLoop => s.startInLoop
  | .connect => s.connect answers.attempt
  | .retry sockfd => s.retry sockfd
  | .stopInLoop => s.stopInLoop
  | .handleError => s.handleError
  | .handleWrite => s.handleWrite
  | .connected sockfd => s.connected answers sockfd
  | .newConnection => s.newConnection
  | .queueInLoop f => s.setCall loopThread (.queueInLoop f)
  | .resetChannel => { s with channel_ := none }
  | .return f => s.record (.ran f)

/-- What a functor does. -/
def tasksOf (isOpen : Bool) : ClientFunctor → List LoopTask
  | .user => [.user]
  | .forceCloseInLoop i => if isOpen then [.user, .removeConnection i] else []
  | .connectDestroyed _ => [.user]
  | .stopInLoop => [.stopInLoop]
  | .resetChannel => [.resetChannel]

/-! ## The step relation -/

/-- One step of a process that goes on.  The channels are handled where no functor is left. -/
def stepRunning (s : ReconnectingClient) : ReconnectEvent → Option ReconnectingClient
  | .enableRetry => some { s with retry_ := true }
  | .disconnect => some { s with connect_ := false }
  | .stop t => if s.mayCall t then some ((s.record (.stop t)).setCall t .stop) else none
  | .queueInLoop t forceClose =>
    if s.mayCall t then
      some (s.setCall t (.queueInLoop (forceClose.elim .user .forceCloseInLoop)))
    else none
  | .connect =>
    if s.mayCall loopThread then some ((s.record .connect).setCall loopThread .connect) else none
  | .call t => s.goOn t
  | .task answers =>
    match s.tasks with
    | task :: rest =>
      if s.calls loopThread = .idle then some ({ s with tasks := rest }.runTask answers task)
      else none
    | [] => none
  | .handleEvent err out =>
    if s.calls loopThread = .idle ∧ s.tasks = [] ∧ s.functors = [] ∧
        s.channel_.any ClientChannel.registered then
      some (s.before ((if err then [.handleError] else []) ++ if out then [.handleWrite] else []))
    else none
  | .handleClose i =>
    if s.calls loopThread = .idle ∧ s.tasks = [] ∧ s.functors = [] ∧ i < s.connections then
      some (s.before [.user, .removeConnection i])
    else none
  | .swap =>
    if s.calls loopThread = .idle ∧ s.tasks = [] ∧ s.functors = [] then
      some { s with functors := s.pendingFunctors_, pendingFunctors_ := [] }
    else none
  | .functor isOpen =>
    match s.functors with
    | f :: rest =>
      if s.calls loopThread = .idle ∧ s.tasks = [] then
        some ({ s with functors := rest }.before (tasksOf isOpen f.functor ++ [LoopTask.return f]))
      else none
    | [] => none

/-- One step: nothing happens any more after a fault. -/
def step (s : ReconnectingClient) (e : ReconnectEvent) : Option ReconnectingClient :=
  match s.fault with
  | none => s.stepRunning e
  | some _ => none

end ReconnectingClient

end SimpleMuduo
