import SimpleMuduo.OwnerLoop.State
import SimpleMuduo.Foundation.TransitionSystem

/-!
# The steps of the loop

What user code may call, what the loop does in an iteration, and how a member function goes on that
has called user code.
-/

namespace SimpleMuduo

/-- What user code calls on the thread of the loop. -/
inductive UserCall
  | createUdp
  | startUdp (u : ℕ) (fd : Fd)
  | destroyUdp (u : ℕ)
  | createAcceptor (fd : Fd)
  | listen (a : ℕ)
  | destroyAcceptor (a : ℕ)
  | createServer (fd : Fd)
  | startServer (v : ℕ)
  /-- `~TcpServer`, with the order in which it goes through `connections_`. -/
  | destroyServer (v : ℕ) (order : List ℕ)
  | createClient
  | enableRetry (k : ℕ)
  | connect (k : ℕ) (attempts : List ConnectAttempt)
  | disconnect (k : ℕ)
  | stop (k : ℕ)
  | destroyClient (k : ℕ)
  | shutdown (c : ℕ)
  | forceClose (c : ℕ)
  | send (c : ℕ) (leftOver queued : Bool)
  /-- A `TcpConnectionPtr` is copied. -/
  | hold (c : ℕ)
  /-- A copy is destroyed. -/
  | drop (c : ℕ)
  /-- `queueInLoop` with a functor of the user. -/
  | queueInLoop
  deriving DecidableEq, Repr

/-- What `readFd` returns in `TcpConnection::handleRead`. -/
inductive ReadOutcome
  | data
  | endOfFile
  | error
  deriving DecidableEq, Repr

/-- What the kernel answers while a callback of a channel runs. -/
structure CallbackAnswers where
  read : ReadOutcome
  /-- `outputBuffer_` becomes empty. -/
  drained : Bool
  /-- `writeCompleteCallback_` is set. -/
  queued : Bool
  accepted : Option Fd
  completion : Connector.CompletionResult
  deriving DecidableEq, Repr

/-- What happens next. -/
inductive OwnerLoopEvent
  | call (u : UserCall)
  /-- User code returns. -/
  | return
  /-- A member function goes on. -/
  | resume (attempts : List ConnectAttempt)
  /-- `handleEventWithGuard` calls the next callback. -/
  | callback (answers : CallbackAnswers)
  /-- An iteration begins, and `poll` returns with these descriptors and events. -/
  | poll (ready : List (Fd × EventMask))
  /-- The loop calls `handleEvent` on the next channel. -/
  | dispatch
  /-- `runTimer` calls the callback of a timer. -/
  | timer
  /-- `doPendingFunctors` swaps. -/
  | swap
  /-- `doPendingFunctors` calls the next functor. -/
  | functor (attempts : List ConnectAttempt)
  /-- `doPendingFunctors` returns. -/
  | endIteration
  /-- The last `TcpConnectionPtr` to the connection is gone. -/
  | release (c : ℕ)
  deriving DecidableEq

/-- The callbacks that `handleEventWithGuard` calls, in this order. -/
def callbacksOf (revents : EventMask) : List ChannelCallback :=
  (if revents &&& EPOLLHUP ≠ 0 ∧ revents &&& EPOLLIN = 0 then [.close] else []) ++
    (if revents &&& EPOLLERR ≠ 0 then [.error] else []) ++
    (if revents &&& (EPOLLIN ||| EPOLLPRI) ≠ 0 then [.read] else []) ++
    if revents &&& EPOLLOUT ≠ 0 then [.write] else []

namespace OwnerLoop

/-! ## User code -/

/-- User code runs, in a callback or outside `loop()`. -/
def inUserCode (s : OwnerLoop) : Bool :=
  match s.frames with
  | [] => s.pc = .outside
  | .user _ :: _ => true
  | _ => false

/-- User code has a `TcpConnectionPtr` to the connection. -/
def Reaches (s : OwnerLoop) (c : ℕ) : Prop := c ∈ s.userRefs ∨ .user (some c) ∈ s.frames

instance (s : OwnerLoop) (c : ℕ) : Decidable (s.Reaches c) :=
  inferInstanceAs (Decidable (_ ∨ _))

/-- A member function of a connection is called by user code. -/
def callConnection (s : OwnerLoop) (c : ℕ) (r : Except OwnerHalt OwnerLoop) :
    Except OwnerHalt OwnerLoop :=
  if s.Reaches c then r else .error .impossible

/-- The acceptor belongs to user code. -/
def callAcceptor (s : OwnerLoop) (a : ℕ) (r : Except OwnerHalt OwnerLoop) :
    Except OwnerHalt OwnerLoop :=
  s.useAcceptor a fun acceptor => if acceptor.server = none then r else .error .impossible

/-- What user code calls. -/
def callApi (s : OwnerLoop) : UserCall → Except OwnerHalt OwnerLoop
  | .createUdp => .ok { s with
      udpSockets := Function.update s.udpSockets s.nextObject true
      nextObject := s.nextObject + 1 }
  | .startUdp u fd => s.startUdp u fd
  | .destroyUdp u => s.destroyUdp u
  | .createAcceptor fd => s.createAcceptor fd none
  | .listen a => s.callAcceptor a (s.listen a)
  | .destroyAcceptor a => s.callAcceptor a (s.destroyAcceptor a)
  | .createServer fd => s.createServer fd
  | .startServer v => s.startServer v
  | .destroyServer v order => s.destroyServer v order
  | .createClient =>
    .ok { s.setClient s.nextObject ⟨false, true, none, false, .kDisconnected⟩ with
      nextObject := s.nextObject + 1 }
  | .enableRetry k => s.useClient k fun client => .ok (s.setClient k { client with retry_ := true })
  | .connect k attempts => s.connectClient k attempts
  | .disconnect k => s.disconnect k
  | .stop k => s.stop k
  | .destroyClient k => s.destroyClient k
  | .shutdown c => s.callConnection c (s.shutdown c)
  | .forceClose c => s.callConnection c (s.forceClose c)
  | .send c leftOver queued => s.callConnection c (s.send c leftOver queued)
  | .hold c => s.callConnection c (.ok { s with userRefs := c :: s.userRefs })
  | .drop c =>
    if c ∈ s.userRefs then .ok { s with userRefs := s.userRefs.erase c } else .error .impossible
  | .queueInLoop => .ok (s.queueInLoop .user)

/-! ## The loop -/

/-- `EPollPoller::fillActiveChannels`. -/
def fillActiveChannels : List (Fd × EventMask) → OwnerLoop → Except OwnerHalt OwnerLoop
  | [], s => .ok s
  | (fd, revents) :: rest, s =>
    match s.poller.interest fd with
    | none => .error .impossible
    | some event =>
      match s.objects event.data with
      | none => .error (.fault .useAfterFree)
      | some o =>
        if o.live then
          fillActiveChannels rest { s with
            objects := Function.update s.objects event.data
              (some { o with channel := { o.channel with revents_ := revents } })
            activeChannels_ := s.activeChannels_ ++ [event.data] }
        else .error (.fault .useAfterFree)

/-- `activeChannels_.clear()` and `poll`. -/
def poll (s : OwnerLoop) (ready : List (Fd × EventMask)) : Except OwnerHalt OwnerLoop :=
  (fillActiveChannels ready { s with activeChannels_ := [] }).bind fun s =>
    .ok { s with pc := .handlers, history := .poll :: s.history }

/-- `TcpConnection::handleRead`. -/
def handleRead (s : OwnerLoop) (c : ℕ) : ReadOutcome → Except OwnerHalt OwnerLoop
  | .data => s.useConnection c fun _ => .ok (s.callUser (some c))
  | .endOfFile => s.handleClose c
  | .error => .error (.fault .abort)

/-- The callbacks that the owners have set; `TcpConnection::handleError` ends in `LOG_ERROR`. -/
def callCallback (s : OwnerLoop) (answers : CallbackAnswers) :
    ChannelOwner → ChannelCallback → Except OwnerHalt OwnerLoop
  | .udpSocket _, .read => .ok (s.callUser none)
  | .acceptor a, .read => s.acceptorHandleRead a answers.accepted
  | .connector k, .error => s.connectorHandleError k answers.completion.attempts
  | .connector k, .write => s.connectorHandleWrite k answers.completion
  | .connection c, .close => s.handleClose c
  | .connection _, .error => .error (.fault .abort)
  | .connection c, .read => s.handleRead c answers.read
  | .connection c, .write => s.handleWrite c answers.drained answers.queued
  | _, _ => .ok s

/-- The channel is used. -/
def useChannel (s : OwnerLoop) (p : ChannelPtr)
    (f : ChannelObject → Except OwnerHalt OwnerLoop) : Except OwnerHalt OwnerLoop :=
  match s.objects p with
  | none => .error (.fault .useAfterFree)
  | some o => if o.live then f o else .error (.fault .useAfterFree)

/-- `tie_.lock()` in `handleEvent`; the channels of other objects are not tied. -/
def lockTie (s : OwnerLoop) : ChannelOwner → Option (Option ℕ)
  | .connection c => (s.connections c).map fun _ => some c
  | _ => some none

/-- `handleEvent` of the channel. -/
def handleEvent (s : OwnerLoop) (p : ChannelPtr) : Except OwnerHalt OwnerLoop :=
  s.useChannel p fun o =>
    match s.lockTie o.owner with
    | none => .ok s
    | some guard => .ok (s.push (.handleEventWithGuard p guard (callbacksOf o.channel.revents_)))

/-- `closeCallback_(connPtr)`. -/
def callClose (s : OwnerLoop) (c : ℕ) (attempts : List ConnectAttempt) :
    Except OwnerHalt OwnerLoop :=
  s.useConnection c fun conn =>
    match conn.closeCallback_ with
    | .server v => s.removeServerConnection v c
    | .client k => s.removeClientConnection k c attempts
    | .detached => .ok (s.queueInLoop (.connectDestroyed c))

/-- The member function that is left on top goes on. -/
def resumeFrame (s : OwnerLoop) (attempts : List ConnectAttempt) :
    OwnerFrame → Except OwnerHalt OwnerLoop
  | .user _ => .error .impossible
  | .handleEvent p => s.handleEvent p
  | .handleEventWithGuard _ _ [] => .ok s
  | .handleEventWithGuard _ _ (_ :: _) => .error .impossible
  | .handleClose c => s.callClose c attempts
  | .connectDestroyed c => s.useConnection c fun _ => s.run (.connection c) .remove
  | .destroyServer a [] => s.destroyAcceptor a
  | .destroyServer a (c :: rest) => (s.push (.destroyServer a rest)).connectDestroyed c

/-- A functor. -/
def callFunctor (s : OwnerLoop) (attempts : List ConnectAttempt) :
    OwnerFunctor → Except OwnerHalt OwnerLoop
  | .user => .ok (s.callUser none)
  | .callback c => s.useConnection c fun _ => .ok (s.callUser (some c))
  | .connectDestroyed c => s.connectDestroyed c
  | .forceCloseInLoop c => s.forceCloseInLoop c
  | .stopInLoop k => s.stopInLoop k attempts
  | .resetChannel k => s.resetChannel k

/-! ## The step relation -/

/-- The state after a member function: the one it returns, or the old one with the fault. -/
def outcome (s : OwnerLoop) : Except OwnerHalt OwnerLoop → Option OwnerLoop
  | .ok s' => some s'
  | .error (.fault f) => some { s with fault := some f }
  | .error .impossible => none

/-- No connection is about to be destroyed. -/
def Settled (s : OwnerLoop) : Prop :=
  ∀ c < s.nextObject, (s.connections c).isSome → s.refs c ≠ 0

instance (s : OwnerLoop) : Decidable s.Settled := inferInstanceAs (Decidable (∀ c < _, _))

/-- One step of the thread of the loop. -/
def stepThread (s : OwnerLoop) : OwnerLoopEvent → Option OwnerLoop
  | .call u => if s.inUserCode then s.outcome (s.callApi u) else none
  | .return =>
    match s.frames with
    | .user _ :: rest => some { s with frames := rest }
    | _ => none
  | .resume attempts =>
    match s.frames with
    | f :: rest => s.outcome ({ s with frames := rest }.resumeFrame attempts f)
    | [] => none
  | .callback answers =>
    match s.frames with
    | .handleEventWithGuard p guard (callback :: rest) :: frames =>
      let s' := { s with frames := .handleEventWithGuard p guard rest :: frames }
      s.outcome (s'.useChannel p fun o => s'.callCallback answers o.owner callback)
    | _ => none
  | .poll ready =>
    if s.pc = .outside ∧ s.frames = [] ∧ (ready.map Prod.fst).Nodup then s.outcome (s.poll ready)
    else none
  | .dispatch =>
    match s.activeChannels_ with
    | p :: rest =>
      if s.pc = .handlers ∧ s.frames = [] then
        some ({ s with
          activeChannels_ := rest
          history := .handleEvent p :: s.history }.push (.handleEvent p))
      else none
    | [] => none
  | .timer =>
    if s.pc = .handlers ∧ s.frames = [] ∧ s.activeChannels_ = [] then some (s.callUser none)
    else none
  | .swap =>
    if s.pc = .handlers ∧ s.frames = [] ∧ s.activeChannels_ = [] then
      some { s with pc := .functors, functors := s.pendingFunctors_, pendingFunctors_ := [] }
    else none
  | .functor attempts =>
    match s.functors with
    | f :: rest =>
      if s.pc = .functors ∧ s.frames = [] then
        s.outcome (({ s with functors := rest, called := f :: s.called }).callFunctor attempts f)
      else none
    | [] => none
  | .endIteration =>
    if s.pc = .functors ∧ s.frames = [] ∧ s.functors = [] then
      some { s with pc := .outside, called := [] }
    else none
  | .release _ => none

/-- One step: a connection without references is destroyed first, and nothing happens any more after
a fault. -/
def step (s : OwnerLoop) (e : OwnerLoopEvent) : Option OwnerLoop :=
  if s.fault ≠ none then none
  else
    match e with
    | .release c =>
      match s.connections c with
      | some conn => if s.refs c = 0 then some (s.destroyConnection c conn) else none
      | none => none
    | e => if s.Settled then s.stepThread e else none

end OwnerLoop

end SimpleMuduo
