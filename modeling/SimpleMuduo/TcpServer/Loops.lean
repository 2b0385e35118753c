import SimpleMuduo.Poller.Poll
import SimpleMuduo.TcpConnection.State
import SimpleMuduo.TcpServer.ConnectionMap

/-!
# The server and its loops

A connection is accepted on the base loop and lives on the loop that the pool has handed out for it.
The two loops talk to each other through their functor queues: `connectEstablished` goes to the loop
of the connection, `removeConnectionInLoop` goes back to the base loop when the connection has been
closed, and `connectDestroyed` goes to the loop of the connection again.  Every functor holds a
`TcpConnectionPtr`.

Two things are assumed.  A push into a queue is one step, although the `emplace_back` of
`queueInLoop` is not protected by the mutex, so that pushes of two threads at the same time may lose
a functor.  And runs with a certain race are left out by `Allowed`, the hypothesis of the results: a
connection that is closed between the load of `state_` and the store of `kDisconnecting` in another
thread's `shutdown` or `forceClose` would be closed a second time.

Other threads may call `shutdown` and `forceClose`; the load of `state_`, the store of
`setState` and the push of the functor are steps of their own.  What user code does in a callback
comes after the function that has called it.
-/

namespace SimpleMuduo

/-- A functor that concerns the life of a connection. -/
inductive ServerFunctor
  | connectEstablished (c : ConnId)
  | removeConnectionInLoop (c : ConnId)
  | connectDestroyed (c : ConnId)
  | forceCloseInLoop (c : ConnId)
  deriving DecidableEq, Repr

/-- The connection to which the functor holds a pointer. -/
def ServerFunctor.conn : ServerFunctor → ConnId
  | .connectEstablished c | .removeConnectionInLoop c | .connectDestroyed c
  | .forceCloseInLoop c => c

/-- A call that is recorded for a connection. -/
inductive ServerCall
  | connectEstablished
  | handleClose
  | removeConnectionInLoop
  | connectDestroyed
  deriving DecidableEq, Repr

/-- Where a thread is inside `shutdown` or `forceClose`. -/
inductive ServerCallerPc
  | idle
  | shutdownStore (c : ConnId)
  | forceCloseStore (c : ConnId)
  | forceClosePush (c : ConnId)
  deriving DecidableEq, Repr

/-- The connection on which the thread makes its call. -/
def ServerCallerPc.conn : ServerCallerPc → Option ConnId
  | .idle => none
  | .shutdownStore c | .forceCloseStore c | .forceClosePush c => some c

/-- The server, its connections and all loops. -/
structure ServerLoops where
  server : TcpServer
  /-- The server has not been destroyed. -/
  serverAlive : Bool
  /-- `state_` of each connection. -/
  state_ : ConnId → StateE
  /-- The poller of each loop with the channels of its connections; the address of a channel is the
  number of its connection. -/
  tables : LoopId → ChannelTable ChannelPtr
  /-- `pendingFunctors_` of each loop. -/
  pendingFunctors_ : LoopId → List ServerFunctor
  /-- What is left of the batch that `doPendingFunctors` has taken. -/
  functors : LoopId → List ServerFunctor
  /-- What has been run of that batch, whose pointers it still holds. -/
  held : LoopId → List ServerFunctor
  /-- The number of pointers that users hold. -/
  users : ConnId → ℕ
  threads : ThreadId → ServerCallerPc
  /-- The calls for each connection so far, and the loops they were made on. -/
  calls : ConnId → List (LoopId × ServerCall)
  fault : Option Fault

/-- What can happen. -/
inductive ServerLoopsEvent
  /-- A member function of the server that does not concern a connection. -/
  | configure (e : TcpServerEvent)
  /-- The acceptor calls `newConnection`. -/
  | newConnection (sockfd : ℕ)
  /-- The loop of the connection handles a hang-up or the end of the input. -/
  | handleClose (c : ConnId)
  /-- `doPendingFunctors` of the loop takes the pending functors. -/
  | swap (l : LoopId)
  /-- It runs the next one. -/
  | runFunctor (l : LoopId)
  /-- It returns, and the batch is destroyed. -/
  | finish (l : LoopId)
  /-- `shutdown()` or `forceClose()` loads `state_`, stores `kDisconnecting`, queues. -/
  | shutdownLoad (t : ThreadId) (c : ConnId)
  | shutdownStore (t : ThreadId)
  | forceCloseLoad (t : ThreadId) (c : ConnId)
  | forceCloseStore (t : ThreadId)
  | forceClosePush (t : ThreadId)
  /-- A user copies or gives up a pointer. -/
  | hold (c : ConnId)
  | drop (c : ConnId)
  /-- `~TcpServer()`, which goes through the map in this order. -/
  | destroyServer (order : List ConnId)

namespace ServerLoops

/-- A server without threads and connections. -/
def new (loop : LoopId) (ipPort name : Bytes) : ServerLoops where
  server := .new loop ipPort name
  serverAlive := true
  state_ := fun _ => .kConnecting
  tables := fun _ => PollLoop.new.table
  pendingFunctors_ := fun _ => []
  functors := fun _ => []
  held := fun _ => []
  users := fun _ => 0
  threads := fun _ => .idle
  calls := fun _ => []
  fault := none

/-! ## Elementary steps -/

/-- `conn->getLoop()`. -/
def ioLoop (s : ServerLoops) (c : ConnId) : LoopId :=
  (s.server.accepted[c]?).elim s.server.loop_ AcceptedConnection.loop_

/-- What a loop has still to run. -/
def queue (s : ServerLoops) (l : LoopId) : List ServerFunctor :=
  s.functors l ++ s.pendingFunctors_ l

/-- `connections_` holds the connection. -/
def InConnections (s : ServerLoops) (c : ConnId) : Prop :=
  ∃ a, s.server.accepted[c]? = some a ∧ s.server.connections_ a.name_ = some c

instance (s : ServerLoops) (c : ConnId) : Decidable (s.InConnections c) :=
  match h : s.server.accepted[c]? with
  | none => isFalse (by rintro ⟨a, ha, -⟩; simp [h] at ha)
  | some a =>
    decidable_of_iff (s.server.connections_ a.name_ = some c)
      ⟨fun hmap => ⟨a, h, hmap⟩, by
        rintro ⟨b, hb, hmap⟩
        obtain rfl : a = b := Option.some.inj (h.symm.trans hb)
        exact hmap⟩

/-- Record a call. -/
@[simps] def record (s : ServerLoops) (l : LoopId) (call : ServerCall) (c : ConnId) : ServerLoops :=
  { s with calls := Function.update s.calls c (s.calls c ++ [(l, call)]) }

/-- `setState(StateE state)`. -/
@[simps] def setState (s : ServerLoops) (c : ConnId) (state : StateE) : ServerLoops :=
  { s with state_ := Function.update s.state_ c state }

/-- The entry of the connection in `connections_` holds it no more, after
`connections_.erase(conn->name())` or `item.second.reset()`. -/
def erase (s : ServerLoops) (c : ConnId) : ServerLoops :=
  match s.server.accepted[c]? with
  | some a => { s with server := s.server.removeConnectionInLoop c a }
  | none => s

/-- `queueInLoop(cb)`. -/
@[simps] def queueInLoop (s : ServerLoops) (l : LoopId) (f : ServerFunctor) : ServerLoops :=
  { s with
    pendingFunctors_ := Function.update s.pendingFunctors_ l (s.pendingFunctors_ l ++ [f]) }

/-- A member function of `channel_`; a failing `epoll_ctl` aborts. -/
def operate (s : ServerLoops) (l : LoopId) (c : ConnId) (op : ChannelOp) : ServerLoops :=
  match (s.tables l).step (c, op) with
  | some table => { s with tables := Function.update s.tables l table }
  | none => { s with fault := some .abort }

/-- The thread is now at `pc`. -/
@[simps] def setThread (s : ServerLoops) (t : ThreadId) (pc : ServerCallerPc) : ServerLoops :=
  { s with threads := Function.update s.threads t pc }

/-! ## The functions -/

/-- `TcpConnection::connectEstablished()` on the loop `l`. -/
def connectEstablished (s : ServerLoops) (l : LoopId) (c : ConnId) : ServerLoops :=
  ((s.record l .connectEstablished c).setState c .kConnected).operate l c .enableReading

/-- `TcpConnection::connectDestroyed()` on the loop `l`. -/
def connectDestroyed (s : ServerLoops) (l : LoopId) (c : ConnId) : ServerLoops :=
  let s := s.record l .connectDestroyed c
  if s.state_ c = .kConnected then
    ((s.setState c .kDisconnected).operate l c .disableAll).operate l c .remove
  else s.operate l c .remove

/-- `TcpServer::removeConnectionInLoop(conn)` on the loop `l`. -/
def removeConnectionInLoop (s : ServerLoops) (l : LoopId) (c : ConnId) : ServerLoops :=
  if s.serverAlive then
    let s := (s.record l .removeConnectionInLoop c).erase c
    s.queueInLoop (s.ioLoop c) (.connectDestroyed c)
  else { s with fault := some .useAfterFree }

/-- `closeCallback_`, which is bound to `TcpServer::removeConnection`, on the loop `l`. -/
def removeConnection (s : ServerLoops) (l : LoopId) (c : ConnId) : ServerLoops :=
  if s.serverAlive then
    if l = s.server.loop_ then s.removeConnectionInLoop l c
    else s.queueInLoop s.server.loop_ (.removeConnectionInLoop c)
  else { s with fault := some .useAfterFree }

/-- `TcpConnection::handleClose()` on the loop `l`. -/
def handleClose (s : ServerLoops) (l : LoopId) (c : ConnId) : ServerLoops :=
  (((s.record l .handleClose c).setState c .kDisconnected).operate l c .disableAll).removeConnection
    l c

/-- `TcpConnection::forceCloseInLoop()` on the loop `l`. -/
def forceCloseInLoop (s : ServerLoops) (l : LoopId) (c : ConnId) : ServerLoops :=
  if s.state_ c = .kConnected ∨ s.state_ c = .kDisconnecting then s.handleClose l c else s

/-- `TcpServer::newConnection(int sockfd, const InetAddress& peerAddr)`. -/
def newConnection (s : ServerLoops) (sockfd : ℕ) : ServerLoops :=
  let c := s.server.accepted.length
  let ioLoop := s.server.threadPool_.getNextLoop.1
  let table := s.tables ioLoop
  let s := { s with
    server := s.server.newConnection sockfd
    state_ := Function.update s.state_ c .kConnecting
    tables := Function.update s.tables ioLoop
      { table with channels := Function.update table.channels c (Channel.new c sockfd) } }
  if ioLoop = s.server.loop_ then s.connectEstablished ioLoop c
  else s.queueInLoop ioLoop (.connectEstablished c)

/-- The body of the loop in `~TcpServer()`, on the base loop. -/
def destroyConnection (s : ServerLoops) (c : ConnId) : ServerLoops :=
  let s := s.erase c
  if s.ioLoop c = s.server.loop_ then s.connectDestroyed (s.ioLoop c) c
  else s.queueInLoop (s.ioLoop c) (.connectDestroyed c)

/-- `~TcpServer()`. -/
def destroyServer (s : ServerLoops) (order : List ConnId) : ServerLoops :=
  order.foldl destroyConnection { s with serverAlive := false }

/-- The call of a functor on the loop `l`. -/
def runFunctor (s : ServerLoops) (l : LoopId) : ServerFunctor → ServerLoops
  | .connectEstablished c => s.connectEstablished l c
  | .removeConnectionInLoop c => s.removeConnectionInLoop l c
  | .connectDestroyed c => s.connectDestroyed l c
  | .forceCloseInLoop c => s.forceCloseInLoop l c

/-- The functor at the head of the batch is being run. -/
def take (s : ServerLoops) (l : LoopId) (f : ServerFunctor) (rest : List ServerFunctor) :
    ServerLoops :=
  { s with
    functors := Function.update s.functors l rest
    held := Function.update s.held l (f :: s.held l) }

/-- `doPendingFunctors` takes the pending functors. -/
def swap (s : ServerLoops) (l : LoopId) : ServerLoops :=
  { s with
    functors := Function.update s.functors l (s.pendingFunctors_ l)
    pendingFunctors_ := Function.update s.pendingFunctors_ l [] }

/-- `doPendingFunctors` returns, and its batch is destroyed. -/
def finish (s : ServerLoops) (l : LoopId) : ServerLoops :=
  { s with held := Function.update s.held l [] }

/-- The order is one in which the map can be gone through. -/
def IsOrder (s : ServerLoops) (order : List ConnId) : Prop :=
  order.Nodup ∧ (∀ c ∈ order, s.InConnections c) ∧
    ∀ c < s.server.accepted.length, s.InConnections c → c ∈ order

instance (s : ServerLoops) (order : List ConnId) : Decidable (s.IsOrder order) :=
  inferInstanceAs (Decidable (_ ∧ _ ∧ _))

/-- The channel of the connection is in the interest set of its loop, which is not running
functors. -/
def CanHandle (s : ServerLoops) (c : ConnId) : Prop :=
  let table := s.tables (s.ioLoop c)
  s.functors (s.ioLoop c) = [] ∧ s.held (s.ioLoop c) = [] ∧
    (table.poller.interest (table.channels c).fd_).map EpollEvent.data = some c

instance (s : ServerLoops) (c : ConnId) : Decidable (s.CanHandle c) :=
  inferInstanceAs (Decidable (_ ∧ _ ∧ _))

/-- One step of the loops and the threads. -/
def act (s : ServerLoops) : ServerLoopsEvent → Option ServerLoops
  | .configure (.newConnection _) | .configure (.removeConnectionInLoop _) => none
  | .configure e =>
    if s.serverAlive then (s.server.step e).map fun server => { s with server } else none
  | .newConnection sockfd =>
    if s.serverAlive ∧ s.server.listenning ∧ s.server.nextConnId_ < intMax then
      some (s.newConnection sockfd)
    else none
  | .handleClose c =>
    if c < s.server.accepted.length ∧ s.CanHandle c then some (s.handleClose (s.ioLoop c) c)
    else none
  | .swap l =>
    if s.functors l = [] ∧ s.held l = [] then some (s.swap l) else none
  | .runFunctor l =>
    match s.functors l with
    | [] => none
    | f :: rest => some ((s.take l f rest).runFunctor l f)
  | .finish l => if s.functors l = [] then some (s.finish l) else none
  | .shutdownLoad t c =>
    if s.threads t = .idle then
      if s.state_ c = .kConnected then some (s.setThread t (.shutdownStore c)) else some s
    else none
  | .shutdownStore t =>
    match s.threads t with
    | .shutdownStore c => some ((s.setState c .kDisconnecting).setThread t .idle)
    | _ => none
  | .forceCloseLoad t c =>
    if s.threads t = .idle then
      if s.state_ c = .kConnected ∨ s.state_ c = .kDisconnecting then
        some (s.setThread t (.forceCloseStore c))
      else some s
    else none
  | .forceCloseStore t =>
    match s.threads t with
    | .forceCloseStore c => some ((s.setState c .kDisconnecting).setThread t (.forceClosePush c))
    | _ => none
  | .forceClosePush t =>
    match s.threads t with
    | .forceClosePush c =>
      some ((s.queueInLoop (s.ioLoop c) (.forceCloseInLoop c)).setThread t .idle)
    | _ => none
  | .hold c => some { s with users := Function.update s.users c (s.users c + 1) }
  | .drop c =>
    if 0 < s.users c then some { s with users := Function.update s.users c (s.users c - 1) }
    else none
  | .destroyServer order =>
    if s.serverAlive ∧ s.IsOrder order then some (s.destroyServer order) else none

/-- One step.  Nothing happens any more after a fault. -/
def step (s : ServerLoops) (e : ServerLoopsEvent) : Option ServerLoops :=
  if s.fault = none then s.act e else none

/-! ## Pointers -/

/-- Somebody holds a `TcpConnectionPtr` to the connection. -/
def Referenced (s : ServerLoops) (c : ConnId) : Prop :=
  s.InConnections c ∨ (∃ l, ∃ f ∈ s.queue l ++ s.held l, f.conn = c) ∨ 0 < s.users c ∨
    ∃ t, (s.threads t).conn = some c

/-- What the kernel and the users see to.  A new socket does not get the descriptor of one that is
open, that is, of a connection that still exists.  Who calls a member function or copies a pointer
has a pointer.  And no connection is closed between the load of `state_` and the store of
`kDisconnecting` in `shutdown` and `forceClose`. -/
def Allowed (s : ServerLoops) : ServerLoopsEvent → Prop
  | .newConnection sockfd => ∀ c a, s.server.accepted[c]? = some a → s.Referenced c →
      a.sockfd ≠ sockfd
  | .shutdownLoad _ c | .forceCloseLoad _ c | .hold c => s.Referenced c
  | .shutdownStore t | .forceCloseStore t => ∀ c ∈ (s.threads t).conn, s.state_ c ≠ .kDisconnected
  | _ => True

end ServerLoops

end SimpleMuduo
