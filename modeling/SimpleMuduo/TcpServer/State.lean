import SimpleMuduo.Foundation.DecimalText
import SimpleMuduo.Foundation.TransitionSystem
import SimpleMuduo.Kernel
import Mathlib.Data.Nat.Find
import Mathlib.Logic.Function.Basic

/-!
# The server

`TcpServer` with its `EventLoopThreadPool`: the choice of a loop for a new connection, the name it
is given, and the map that keeps it alive.  Loops are numbered in the order in which they are
created, and connections in the order in which they are accepted.
-/

namespace SimpleMuduo

/-- The identity of an `EventLoop`. -/
abbrev LoopId := ℕ

/-- The identity of a `TcpConnection` of the server. -/
abbrev ConnId := ℕ

/-! ## The pool -/

/-- `simple_muduo::EventLoopThreadPool`. -/
structure EventLoopThreadPool where
  baseLoop_ : LoopId
  started_ : Bool
  numThreads_ : ℤ
  next_ : ℕ
  loops_ : List LoopId
  /-- The cursor is on a loop as soon as there are loops. -/
  next_lt : next_ = 0 ∨ next_ < loops_.length

namespace EventLoopThreadPool

/-- `EventLoopThreadPool(EventLoop* baseLoop, const std::string& nameArg)`. -/
def new (baseLoop : LoopId) : EventLoopThreadPool where
  baseLoop_ := baseLoop
  started_ := false
  numThreads_ := 0
  next_ := 0
  loops_ := []
  next_lt := .inl rfl

/-- `setThreadNum(int numThreads)`. -/
def setThreadNum (p : EventLoopThreadPool) (numThreads : ℤ) : EventLoopThreadPool :=
  { p with numThreads_ := numThreads }

/-- `start(const ThreadInitCallback& cb)`, when the next loop to be created has the number
`nextLoop`. -/
def start (p : EventLoopThreadPool) (nextLoop : LoopId) : EventLoopThreadPool :=
  { p with
    started_ := true
    loops_ := p.loops_ ++ List.range' nextLoop p.numThreads_.toNat
    next_lt := by
      have := p.next_lt
      rw [List.length_append]
      omega }

/-- `getNextLoop()`. -/
def getNextLoop (p : EventLoopThreadPool) : LoopId × EventLoopThreadPool :=
  if h : p.loops_ = [] then (p.baseLoop_, p)
  else
    have hlength : 0 < p.loops_.length := List.length_pos_iff.mpr h
    (p.loops_.get ⟨p.next_, p.next_lt.elim (fun hzero => hzero ▸ hlength) id⟩,
      if hend : p.loops_.length ≤ p.next_ + 1 then { p with next_ := 0, next_lt := .inl rfl }
      else { p with next_ := p.next_ + 1, next_lt := .inr (by omega) })

end EventLoopThreadPool

/-! ## The server -/

/-- What a `TcpConnection` of the server is constructed with. -/
structure AcceptedConnection where
  loop_ : LoopId
  name_ : Bytes
  sockfd : ℕ
  deriving DecidableEq, Repr

/-- `simple_muduo::TcpServer`, and what has become of its connections. -/
structure TcpServer where
  loop_ : LoopId
  ipPort_ : Bytes
  name_ : Bytes
  threadPool_ : EventLoopThreadPool
  started_ : ℤ
  /-- `acceptor_->listenning()`. -/
  listenning : Bool
  nextConnId_ : ℤ
  connections_ : Bytes → Option ConnId
  /-- The number of loops that have been created. -/
  createdLoops : LoopId
  /-- The connections that have been accepted, in order. -/
  accepted : List AcceptedConnection
  /-- The connections for which `removeConnectionInLoop` has run. -/
  removed : List ConnId

/-- The largest `int`. -/
def intMax : ℤ := 2 ^ 31 - 1

namespace TcpServer

/-- `TcpServer(EventLoop* loop, const InetAddress& listenAddr, const std::string& nameArg, ...)`. -/
def new (loop : LoopId) (ipPort nameArg : Bytes) : TcpServer where
  loop_ := loop
  ipPort_ := ipPort
  name_ := nameArg
  threadPool_ := .new loop
  started_ := 0
  listenning := false
  nextConnId_ := 1
  connections_ := fun _ => none
  createdLoops := loop + 1
  accepted := []
  removed := []

/-- `setThreadNum(int numThreads)`. -/
def setThreadNum (s : TcpServer) (numThreads : ℤ) : TcpServer :=
  { s with threadPool_ := s.threadPool_.setThreadNum numThreads }

/-- `start()`.  The pool of threads is not started here. -/
def start (s : TcpServer) : TcpServer :=
  { s with
    started_ := s.started_ + 1
    listenning := if s.started_ = 0 then true else s.listenning }

/-- `threadPool()->start()`. -/
def startThreadPool (s : TcpServer) : TcpServer :=
  { s with
    threadPool_ := s.threadPool_.start s.createdLoops
    createdLoops := s.createdLoops + s.threadPool_.numThreads_.toNat }

/-- `threadPool()->getNextLoop()`. -/
def getNextLoop (s : TcpServer) : TcpServer :=
  { s with threadPool_ := s.threadPool_.getNextLoop.2 }

/-- The name of the connection with this number, of a server with this name and address. -/
def connNameOf (name ipPort : Bytes) (connId : ℤ) : Bytes :=
  name ++ snprintf 64 (['-'.toUInt8] ++ cString ipPort ++ ['#'.toUInt8] ++ decimalText connId)

/-- `connName` of `newConnection`. -/
def connName (s : TcpServer) : Bytes := connNameOf s.name_ s.ipPort_ s.nextConnId_

/-- `newConnection(int sockfd, const InetAddress& peerAddr)`, up to the callbacks. -/
def newConnection (s : TcpServer) (sockfd : ℕ) : TcpServer :=
  let ioLoop := s.threadPool_.getNextLoop.1
  { s with
    threadPool_ := s.threadPool_.getNextLoop.2
    nextConnId_ := s.nextConnId_ + 1
    connections_ := Function.update s.connections_ s.connName (some s.accepted.length)
    accepted := s.accepted ++ [⟨ioLoop, s.connName, sockfd⟩] }

/-- `removeConnectionInLoop(const TcpConnectionPtr& conn)`, as far as the server is concerned. -/
def removeConnectionInLoop (s : TcpServer) (conn : ConnId) (c : AcceptedConnection) : TcpServer :=
  { s with
    connections_ := Function.update s.connections_ c.name_ none
    removed := conn :: s.removed }

end TcpServer

/-- The steps of the server. -/
inductive TcpServerEvent
  | setThreadNum (numThreads : ℤ)
  | start
  | startThreadPool
  | getNextLoop
  | newConnection (sockfd : ℕ)
  | removeConnectionInLoop (conn : ConnId)
  deriving DecidableEq, Repr

namespace TcpServer

/-- One step of the server.  The overflow of `nextConnId_` is undefined, and only connections that
have been accepted are removed. -/
def step (s : TcpServer) : TcpServerEvent → Option TcpServer
  | .setThreadNum numThreads => some (s.setThreadNum numThreads)
  | .start => some s.start
  | .startThreadPool => some s.startThreadPool
  | .getNextLoop => some s.getNextLoop
  | .newConnection sockfd =>
    if s.listenning ∧ s.nextConnId_ < intMax then some (s.newConnection sockfd) else none
  | .removeConnectionInLoop conn =>
    (s.accepted[conn]?).map fun c => s.removeConnectionInLoop conn c

end TcpServer

end SimpleMuduo
