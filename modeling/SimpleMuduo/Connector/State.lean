import SimpleMuduo.EventLoop.FunctorQueue
import SimpleMuduo.Kernel
import SimpleMuduo.Poller

/-!
# The connector

`Connector` of `Connector.cpp`: the client side of a connection attempt.  Its member functions are
translated one by one.  A call that `runInLoop` makes on the loop's own thread is made at once, and
what `queueInLoop` queues is executed when the loop gets to it; so `retry` starts the next attempt
while the `resetChannel` of the failed one is still queued.

The kernel is an argument.  Every attempt of `connect` takes its socket and its `errno` from a list,
and `startInLoop` is recursive on this list; `SO_ERROR` and the result of `isSelfConnect` come
with the event.  Descriptors are numbers that the kernel may use again after a `close`, so the table
`descriptors` says which open file a number stands for at the moment, and the sockets that
`connect` creates are told apart by the order of their creation.
-/

namespace SimpleMuduo

/-! ## Results of `::connect` -/

/-- What `Connector::connect` does with a result of `::connect`. -/
inductive ConnectCase
  | connecting
  | retry
  | close
  deriving DecidableEq, Repr

def EAGAIN : Errno := 11

def EADDRINUSE : Errno := 98

def EADDRNOTAVAIL : Errno := 99

def ENETUNREACH : Errno := 101

def EISCONN : Errno := 106

def ECONNREFUSED : Errno := 111

def EINPROGRESS : Errno := 115

/-- The `switch` of `Connector::connect`; every other error closes the socket. -/
def connectCase (savedErrno : Errno) : ConnectCase :=
  if savedErrno ∈ [0, EINPROGRESS, EINTR, EISCONN] then .connecting
  else if savedErrno ∈ [EAGAIN, EADDRINUSE, EADDRNOTAVAIL, ECONNREFUSED, ENETUNREACH] then .retry
  else .close

/-- What the kernel answers to `::socket` and to `::connect` on that socket. -/
structure ConnectAttempt where
  sockfd : Fd
  savedErrno : Errno
  deriving DecidableEq, Repr

/-! ## The state -/

/-- `Connector::States`. -/
inductive ConnectorState
  | kDisconnected
  | kConnecting
  | kConnected
  deriving DecidableEq, Repr

/-- The `Channel` object that `channel_` owns: which of the channels the connector has created it
is, and whether the poller has it. -/
structure ConnectorChannel where
  id : ℕ
  fd : Fd
  registered : Bool
  deriving DecidableEq, Repr

/-- The open file that a descriptor stands for. -/
inductive OpenFile
  /-- The socket that `Connector::connect` has created as the `n`-th. -/
  | socket (n : ℕ)
  /-- A file of somebody else. -/
  | other
  deriving DecidableEq, Repr

/-- The functors that the connector queues. -/
inductive ConnectorFunctor
  | startInLoop
  | stopInLoop
  /-- `resetChannel`, queued when the channel `own` was removed. -/
  | resetChannel (own : ℕ)
  deriving DecidableEq, Repr

/-- The callbacks of a channel event that the connector has set. -/
inductive ConnectorCallback
  | handleError
  | handleWrite
  deriving DecidableEq, Repr

/-- Where another thread is in `start` or `stop`. -/
inductive CommandPc
  | idle
  /-- Between `connect_ = true` and the push of `startInLoop`. -/
  | starting
  /-- Between `connect_ = false` and the push of `stopInLoop`. -/
  | stopping
  deriving DecidableEq, Repr

/-- What is recorded of a run. -/
inductive ConnectorEffect
  /-- `start()` has stored `connect_ = true`. -/
  | start
  /-- `stop()` has stored `connect_ = false`. -/
  | stop
  /-- A descriptor was closed that stood for `file`. -/
  | close (file : Option OpenFile)
  /-- `newConnectionCallback_` was called with a descriptor that stood for `file`. -/
  | newConnection (file : Option OpenFile)
  /-- The `resetChannel` that was queued for the channel `own` has destroyed `destroyed`. -/
  | resetChannel (own : ℕ) (destroyed : Option ℕ)
  deriving DecidableEq, Repr

/-- Why the process ends. -/
inductive ConnectorFault
  /-- `assert(state_ == kDisconnected)` in `startInLoop`. -/
  | startNotDisconnected
  /-- `assert(!channel_)` in `connecting`. -/
  | channelInUse
  /-- `assert(state_ == kDisconnected)` in `handleWrite`. -/
  | handleWriteNotDisconnected
  /-- `channel_` is null in `removeAndResetChannel`. -/
  | nullChannel
  /-- `LOG_ERROR`, which aborts. -/
  | abort
  deriving DecidableEq, Repr

/-- A connector, the descriptors of its process, the threads that use it and what has been recorded.
`υ` is the state of the user, which `newConnectionCallback_` changes. -/
structure Connector (υ : Type*) where
  connect_ : Bool
  state_ : ConnectorState
  channel_ : Option ConnectorChannel
  /-- How many channels have been created. -/
  channels : ℕ
  /-- How many sockets have been created. -/
  sockets : ℕ
  descriptors : Fd → Option OpenFile
  /-- The functors of the connector in `pendingFunctors_` of the loop. -/
  pendingFunctors_ : List ConnectorFunctor
  /-- The functors that `doPendingFunctors` has still to call. -/
  functors : List ConnectorFunctor
  /-- The callbacks that `handleEvent` has still to call. -/
  callbacks : List ConnectorCallback
  callers : ThreadId → CommandPc
  history : List ConnectorEffect
  fault : Option ConnectorFault
  user : υ

/-- Why a member function does not return: the process ends, or the kernel does not answer like
this. -/
inductive ConnectorHalt
  | fault (f : ConnectorFault)
  | impossible
  deriving DecidableEq, Repr

namespace Connector

variable {υ : Type*}

/-- `Connector(EventLoop* loop, const InetAddress& serverAddr)`. -/
def new (user : υ) : Connector υ where
  connect_ := false
  state_ := .kDisconnected
  channel_ := none
  channels := 0
  sockets := 0
  descriptors := fun _ => none
  pendingFunctors_ := []
  functors := []
  callbacks := []
  callers := fun _ => .idle
  history := []
  fault := none
  user := user

/-! ## The member functions -/

/-- `setState(States s)`. -/
def setState (c : Connector υ) (s : ConnectorState) : Connector υ := { c with state_ := s }

/-- `loop_->queueInLoop(functor)`. -/
def queueInLoop (c : Connector υ) (f : ConnectorFunctor) : Connector υ :=
  { c with pendingFunctors_ := c.pendingFunctors_ ++ [f] }

/-- `sockets::close(sockfd)`. -/
def close (c : Connector υ) (sockfd : Fd) : Connector υ :=
  { c with
    descriptors := Function.update c.descriptors sockfd none
    history := .close (c.descriptors sockfd) :: c.history }

/-- The kernel creates a socket with the descriptor `sockfd`. -/
def openSocket (c : Connector υ) (sockfd : Fd) : Connector υ :=
  { c with
    descriptors := Function.update c.descriptors sockfd (some (.socket c.sockets))
    sockets := c.sockets + 1 }

/-- `sockets::createNonblockingOrDie(family)`.  The kernel returns an error, or a descriptor that is
not in use. -/
def createNonblockingOrDie (c : Connector υ) (sockfd : Fd) :
    Except ConnectorHalt (Connector υ) :=
  if sockfd < 0 then .error (.fault .abort)
  else if c.descriptors sockfd = none then .ok (c.openSocket sockfd)
  else .error .impossible

/-- `channel_.reset(new Channel(loop_, sockfd))` and `channel_->enableWriting()`. -/
def newChannel (c : Connector υ) (sockfd : Fd) : Connector υ :=
  { c with
    channel_ := some ⟨c.channels, sockfd, true⟩
    channels := c.channels + 1 }

/-- `connecting(int sockfd)`. -/
def connecting (c : Connector υ) (sockfd : Fd) : Except ConnectorHalt (Connector υ) :=
  let c := c.setState .kConnecting
  if c.channel_ = none then .ok (c.newChannel sockfd) else .error (.fault .channelInUse)

/-- `channel_->disableAll()` and `channel_->remove()`, where `channel_` is `channel`. -/
def removeChannel (c : Connector υ) (channel : ConnectorChannel) : Connector υ :=
  { c with channel_ := some { channel with registered := false } }

/-- `removeAndResetChannel()`. -/
def removeAndResetChannel (c : Connector υ) : Except ConnectorHalt (Fd × Connector υ) :=
  match c.channel_ with
  | none => .error (.fault .nullChannel)
  | some channel =>
    .ok (channel.fd, (c.removeChannel channel).queueInLoop (.resetChannel channel.id))

/-- `resetChannel()`, queued for the channel `own`. -/
def resetChannel (c : Connector υ) (own : ℕ) : Connector υ :=
  { c with
    channel_ := none
    history := .resetChannel own (c.channel_.map ConnectorChannel.id) :: c.history }

/-- `retry(int sockfd)`, on the loop's thread; `startInLoop` is what its `runInLoop` calls. -/
def retry (startInLoop : Connector υ → Except ConnectorHalt (Connector υ)) (c : Connector υ)
    (sockfd : Fd) : Except ConnectorHalt (Connector υ) :=
  let c := (c.close sockfd).setState .kDisconnected
  if c.connect_ then startInLoop c else .ok c

/-- `connect()`. -/
def connect (startInLoop : Connector υ → Except ConnectorHalt (Connector υ))
    (attempt : ConnectAttempt) (c : Connector υ) : Except ConnectorHalt (Connector υ) :=
  (c.createNonblockingOrDie attempt.sockfd).bind fun c =>
    match connectCase attempt.savedErrno with
    | .connecting => c.connecting attempt.sockfd
    | .retry => c.retry startInLoop attempt.sockfd
    | .close => .ok (c.close attempt.sockfd)

/-- `startInLoop()` up to its call of `connect()`. -/
def beforeConnect (connect : Connector υ → Except ConnectorHalt (Connector υ))
    (c : Connector υ) : Except ConnectorHalt (Connector υ) :=
  if c.state_ = .kDisconnected then
    if c.connect_ then connect c else .error (.fault .abort)
  else .error (.fault .startNotDisconnected)

/-- `startInLoop()`, with the attempts that the kernel answers to. -/
def startInLoop : List ConnectAttempt → Connector υ → Except ConnectorHalt (Connector υ)
  | [] => beforeConnect fun _ => .error .impossible
  | attempt :: rest => beforeConnect (connect (startInLoop rest) attempt)

/-- `stopInLoop()`. -/
def stopInLoop (attempts : List ConnectAttempt) (c : Connector υ) :
    Except ConnectorHalt (Connector υ) :=
  if c.state_ = .kConnecting then
    (c.setState .kDisconnected).removeAndResetChannel.bind fun (sockfd, c) =>
      c.retry (startInLoop attempts) sockfd
  else .ok c

/-- `start()` on the loop's thread. -/
def start (attempts : List ConnectAttempt) (c : Connector υ) :
    Except ConnectorHalt (Connector υ) :=
  startInLoop attempts { c with connect_ := true, history := .start :: c.history }

/-- `stop()` on the loop's thread. -/
def stop (c : Connector υ) : Connector υ :=
  { c with connect_ := false, history := .stop :: c.history }.queueInLoop .stopInLoop

/-- `restart()`. -/
def restart (attempts : List ConnectAttempt) (c : Connector υ) :
    Except ConnectorHalt (Connector υ) :=
  startInLoop attempts { c.setState .kDisconnected with connect_ := true }

/-- What the kernel answers while a callback of the channel runs: `SO_ERROR`, whether the socket is
connected to itself, and the attempts of a retry. -/
structure CompletionResult where
  err : Errno
  selfConnect : Bool
  attempts : List ConnectAttempt
  deriving DecidableEq, Repr

variable (newConnectionCallback_ : Fd → υ → υ)

/-- `newConnectionCallback_(sockfd)`. -/
def callNewConnection (c : Connector υ) (sockfd : Fd) : Connector υ :=
  { c with
    history := .newConnection (c.descriptors sockfd) :: c.history
    user := newConnectionCallback_ sockfd c.user }

/-- `handleWrite()`. -/
def handleWrite (result : CompletionResult) (c : Connector υ) :
    Except ConnectorHalt (Connector υ) :=
  if c.state_ = .kConnecting then
    c.removeAndResetChannel.bind fun (sockfd, c) =>
      if result.err ≠ 0 then c.retry (startInLoop result.attempts) sockfd
      else if result.selfConnect then c.retry (startInLoop result.attempts) sockfd
      else
        let c := c.setState .kConnected
        if c.connect_ then .ok (c.callNewConnection newConnectionCallback_ sockfd)
        else .ok (c.close sockfd)
  else if c.state_ = .kDisconnected then .ok c
  else .error (.fault .handleWriteNotDisconnected)

/-- `handleError()`. -/
def handleError (result : CompletionResult) (c : Connector υ) :
    Except ConnectorHalt (Connector υ) :=
  if c.state_ = .kConnecting then
    c.removeAndResetChannel.bind fun (sockfd, c) =>
      c.retry (startInLoop result.attempts) sockfd
  else .ok c

/-! ## The step relation -/

/-- A callback of the channel. -/
def call (result : CompletionResult) (c : Connector υ) :
    ConnectorCallback → Except ConnectorHalt (Connector υ)
  | .handleError => c.handleError result
  | .handleWrite => c.handleWrite newConnectionCallback_ result

/-- A functor of the connector. -/
def run (attempts : List ConnectAttempt) (c : Connector υ) :
    ConnectorFunctor → Except ConnectorHalt (Connector υ)
  | .startInLoop => c.startInLoop attempts
  | .stopInLoop => c.stopInLoop attempts
  | .resetChannel own => .ok (c.resetChannel own)

end Connector

/-- What happens next. -/
inductive ConnectorEvent
  /-- The loop's thread calls `start()`. -/
  | start (attempts : List ConnectAttempt)
  /-- The loop's thread calls `stop()`. -/
  | stop
  /-- The loop's thread calls `restart()`. -/
  | restart (attempts : List ConnectAttempt)
  /-- Another thread stores `connect_ = true` in `start()`. -/
  | storeStart (t : ThreadId)
  /-- Another thread stores `connect_ = false` in `stop()`. -/
  | storeStop (t : ThreadId)
  /-- Another thread queues the functor of its `start()` or `stop()`. -/
  | push (t : ThreadId)
  /-- The loop calls `handleEvent` of the channel, with `EPOLLERR` and `EPOLLOUT` as given. -/
  | handleEvent (err out : Bool)
  /-- `handleEvent` calls the next callback. -/
  | callback (result : Connector.CompletionResult)
  /-- `doPendingFunctors` swaps. -/
  | swap
  /-- `doPendingFunctors` calls the next functor. -/
  | functor (attempts : List ConnectAttempt)
  /-- Somebody else opens a file. -/
  | openOther (fd : Fd)
  /-- Somebody else closes a file, which may be a socket that was handed over. -/
  | closeOther (fd : Fd)
  deriving DecidableEq

namespace Connector

variable {υ : Type*} (newConnectionCallback_ : Fd → υ → υ)

/-- The state after a member function: the one it returns, or the old one with the fault. -/
def outcome (c : Connector υ) :
    Except ConnectorHalt (Connector υ) → Option (Connector υ)
  | .ok c' => some c'
  | .error (.fault f) => some { c with fault := some f }
  | .error .impossible => none

/-- Somebody else changes what the descriptor stands for. -/
def setDescriptor (c : Connector υ) (fd : Fd) (file : Option OpenFile) : Connector υ :=
  { c with descriptors := Function.update c.descriptors fd file }

/-- Somebody else may close the descriptor. -/
def ClosableByOther (c : Connector υ) (fd : Fd) : Prop :=
  c.descriptors fd = some .other ∨
    c.descriptors fd ≠ none ∧ .newConnection (c.descriptors fd) ∈ c.history

instance (c : Connector υ) (fd : Fd) : Decidable (c.ClosableByOther fd) :=
  inferInstanceAs (Decidable (_ ∨ _))

/-- One step of a process that goes on.  The loop's thread calls the commands where no callback of
the channel is waiting, `restart` only in the state `kConnected`, and `handleEvent` on a registered
channel, outside `doPendingFunctors`. -/
def stepRunning (c : Connector υ) : ConnectorEvent → Option (Connector υ)
  | .start attempts => if c.callbacks = [] then c.outcome (c.start attempts) else none
  | .stop => if c.callbacks = [] then some c.stop else none
  | .restart attempts =>
    if c.callbacks = [] ∧ c.state_ = .kConnected then c.outcome (c.restart attempts) else none
  | .storeStart t =>
    if c.callers t = .idle then
      some { c with
        connect_ := true
        history := .start :: c.history
        callers := Function.update c.callers t .starting }
    else none
  | .storeStop t =>
    if c.callers t = .idle then
      some { c with
        connect_ := false
        history := .stop :: c.history
        callers := Function.update c.callers t .stopping }
    else none
  | .push t =>
    match c.callers t with
    | .idle => none
    | .starting =>
      some { c.queueInLoop .startInLoop with callers := Function.update c.callers t .idle }
    | .stopping =>
      some { c.queueInLoop .stopInLoop with callers := Function.update c.callers t .idle }
  | .handleEvent err out =>
    if c.callbacks = [] ∧ c.functors = [] ∧ c.channel_.any ConnectorChannel.registered then
      some { c with
        callbacks := (if err then [.handleError] else []) ++ if out then [.handleWrite] else [] }
    else none
  | .callback result =>
    match c.callbacks with
    | [] => none
    | f :: rest => ({ c with callbacks := rest }).outcome
        (({ c with callbacks := rest }).call newConnectionCallback_ result f)
  | .swap =>
    if c.callbacks = [] ∧ c.functors = [] then
      some { c with functors := c.pendingFunctors_, pendingFunctors_ := [] }
    else none
  | .functor attempts =>
    match c.functors with
    | [] => none
    | f :: rest => ({ c with functors := rest }).outcome
        (({ c with functors := rest }).run attempts f)
  | .openOther fd =>
    if c.descriptors fd = none then some (c.setDescriptor fd (some .other)) else none
  | .closeOther fd => if c.ClosableByOther fd then some (c.setDescriptor fd none) else none

/-- One step: nothing happens any more after a fault. -/
def step (c : Connector υ) (e : ConnectorEvent) : Option (Connector υ) :=
  match c.fault with
  | none => c.stepRunning newConnectionCallback_ e
  | some _ => none

end Connector

end SimpleMuduo
