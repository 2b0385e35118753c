import SimpleMuduo.EventLoop.FunctorQueue
import SimpleMuduo.Timestamp

/-!
# The event loop and the threads around it

`EventLoop::loop` with the functor queue and the eventfd that wakes it up, one step for each
access to what the threads share: `quit_`, `callingPendingFunctors_`, `pendingFunctors_` and the
counter of `wakeupFd_`.  A push into `pendingFunctors_` is one step.

The loop's own thread runs user code outside `loop()`, in the handlers of the channels, in timer
callbacks, in functors, and in the destructors of the functors that `doPendingFunctors` has
finished with; there it may call `queueInLoop` and `quit`.  Any other thread may call them at any
time, and for such a thread the call and its `wakeup()` are two steps.  The deadlines of the
timers and the clock are arbitrary.
-/

namespace SimpleMuduo

/-- A functor in the queue: the call of `queueInLoop` that pushed it, and whether this call goes on
to `wakeup()`. -/
structure QueuedFunctor extends QueueCall where
  wakes : Bool
  deriving DecidableEq, Repr

/-- Where the thread of the loop is. -/
inductive LoopPc
  /-- Before `loop()` is entered, or after it has returned. -/
  | outside
  /-- In `loop()`, before `quit_ = false`. -/
  | entered
  /-- Before the test of `while (!quit_)`. -/
  | condition
  /-- In the body of the loop, before `poll`. -/
  | preparing
  /-- In `poller_->poll(timeoutMs, …)`. -/
  | polling (timeoutMs : ℤ)
  /-- In the loop over `activeChannels_`; `handleRead` of `wakeupChannel_` may be still to come. -/
  | handlers (readable : Bool)
  /-- In `timerQueue_->runTimer(now)`. -/
  | timers
  /-- In `doPendingFunctors()`, before the swap. -/
  | swapping
  /-- In the loop over `functors`. -/
  | running
  /-- At the end of `doPendingFunctors()`, where `functors` is destroyed. -/
  | destroying
  /-- Before `looping_ = false`. -/
  | leaving
  deriving DecidableEq, Repr

/-- Where another thread is in a call on the loop. -/
inductive CallerPc
  | idle
  /-- In `queueInLoop`, between the push and `wakeup()`. -/
  | pushed
  /-- In `quit`, between `quit_ = true` and `wakeup()`. -/
  | quitting
  deriving DecidableEq, Repr

/-- `simple_muduo::EventLoop`, the local variable `functors` of `doPendingFunctors` split into the
functors that have been called and those that have not, and the places where the threads are. -/
structure EventLoop where
  threadId_ : ThreadId
  looping_ : Bool
  quit_ : Bool
  callingPendingFunctors_ : Bool
  pendingFunctors_ : List QueuedFunctor
  functors : List QueuedFunctor
  called : List QueuedFunctor
  /-- How many functors each thread has pushed. -/
  returned : ThreadId → ℕ
  /-- All the functors that have been called, the first one first. -/
  executed : List QueueCall
  /-- The counter of the eventfd `wakeupFd_`. -/
  wakeupCounter : ℕ
  pc : LoopPc
  callers : ThreadId → CallerPc

/-- What the threads do next. -/
inductive LoopEvent
  /-- `loop()` is entered: `looping_ = true`. -/
  | enter
  /-- `quit_ = false`. -/
  | clearQuit
  /-- The test of `while (!quit_)`. -/
  | test
  /-- The loop computes its timeout from the nearest deadline and the clock, and calls `poll`. -/
  | poll (nextExpired now : Timestamp)
  /-- `poll` returns; `wakeupChannel_` may be among the active channels. -/
  | pollReturns (readable : Bool)
  /-- `EventLoop::handleRead`. -/
  | handleRead
  /-- The active channels have been handled; `runTimer` is called. -/
  | runTimer
  /-- `doPendingFunctors()` is called: `callingPendingFunctors_ = true`. -/
  | doPendingFunctors
  /-- `functors.swap(pendingFunctors_)`. -/
  | swap
  /-- The next functor is called. -/
  | callFunctor
  /-- All functors have been called: `callingPendingFunctors_ = false`. -/
  | functorsCalled
  /-- `functors` has been destroyed. -/
  | functorsDestroyed
  /-- `loop()` returns: `looping_ = false`. -/
  | leave
  /-- The thread of the loop calls `queueInLoop`. -/
  | queueInLoop
  /-- The thread of the loop calls `quit`. -/
  | quit
  /-- Another thread pushes a functor in `queueInLoop`. -/
  | push (t : ThreadId)
  /-- Another thread stores `quit_ = true` in `quit`. -/
  | storeQuit (t : ThreadId)
  /-- Another thread calls `wakeup()` at the end of `queueInLoop` or `quit`. -/
  | wakeup (t : ThreadId)
  deriving DecidableEq

/-- The timeout of `poll`, in milliseconds. -/
def pollTimeout (nextExpired now : Timestamp) : Option ℤ :=
  if nextExpired.valid then
    let seconds := Timestamp.timeDiff nextExpired now
    if seconds ≤ 0 then some 0 else toInt (seconds * 1000)
  else some 0

namespace EventLoop

/-- `EventLoop()`, called by the thread `threadId`. -/
def new (threadId : ThreadId) : EventLoop where
  threadId_ := threadId
  looping_ := false
  quit_ := false
  callingPendingFunctors_ := false
  pendingFunctors_ := []
  functors := []
  called := []
  returned := fun _ => 0
  executed := []
  wakeupCounter := 0
  pc := .outside
  callers := fun _ => .idle

/-- The thread of the loop is in user code.  In `doPendingFunctors` this is the code of a functor
that has been called. -/
def inUserCode (l : EventLoop) : Bool :=
  match l.pc with
  | .outside | .handlers _ | .timers => true
  | .running | .destroying => !l.called.isEmpty
  | _ => false

/-- The thread of the loop goes on at `pc`. -/
def goto (l : EventLoop) (pc : LoopPc) : EventLoop := { l with pc := pc }

/-- `::write` on `wakeupFd_`. -/
def writeWakeup (l : EventLoop) : EventLoop := { l with wakeupCounter := l.wakeupCounter + 1 }

/-- `queueInLoop(cb)` up to the push. -/
def pushFunctor (l : EventLoop) (t : ThreadId) : EventLoop :=
  let wakes := decide (t ≠ l.threadId_) || l.callingPendingFunctors_
  { l with
    pendingFunctors_ := l.pendingFunctors_ ++ [⟨⟨t, l.returned t⟩, wakes⟩]
    returned := Function.update l.returned t (l.returned t + 1) }

/-- The other thread `t` is at `pc` from now on. -/
def setCaller (l : EventLoop) (t : ThreadId) (pc : CallerPc) : EventLoop :=
  { l with callers := Function.update l.callers t pc }

/-- The thread of the loop takes its next step. -/
def stepLoop (l : EventLoop) : LoopPc → LoopEvent → Option EventLoop
  | .outside, .enter => some { l with looping_ := true, pc := .entered }
  | .entered, .clearQuit => some { l with quit_ := false, pc := .condition }
  | .condition, .test => some (l.goto (if l.quit_ then .leaving else .preparing))
  | .preparing, .poll nextExpired now =>
    (pollTimeout nextExpired now).map fun timeoutMs => l.goto (.polling timeoutMs)
  | .polling _, .pollReturns readable =>
    if readable = true → 0 < l.wakeupCounter then some (l.goto (.handlers readable)) else none
  | .handlers true, .handleRead => some { l with wakeupCounter := 0, pc := .handlers false }
  | .handlers false, .runTimer => some (l.goto .timers)
  | .timers, .doPendingFunctors =>
    some { l with callingPendingFunctors_ := true, pc := .swapping }
  | .swapping, .swap =>
    some { l with functors := l.pendingFunctors_, pendingFunctors_ := [], pc := .running }
  | .running, .callFunctor =>
    match l.functors with
    | [] => none
    | f :: rest => some
      { l with
        functors := rest
        called := l.called ++ [f]
        executed := l.executed ++ [f.toQueueCall] }
  | .running, .functorsCalled =>
    if l.functors = [] then
      some { l with callingPendingFunctors_ := false, pc := .destroying }
    else none
  | .destroying, .functorsDestroyed => some { l with called := [], pc := .condition }
  | .leaving, .leave => some { l with looping_ := false, pc := .outside }
  | _, _ => none

/-- One step of one of the threads. -/
def step (l : EventLoop) : LoopEvent → Option EventLoop
  | .queueInLoop =>
    if l.inUserCode then
      let pushed := l.pushFunctor l.threadId_
      some (if l.callingPendingFunctors_ then pushed.writeWakeup else pushed)
    else none
  | .quit => if l.inUserCode then some { l with quit_ := true } else none
  | .push t =>
    if t ≠ l.threadId_ ∧ l.callers t = .idle then
      some ((l.pushFunctor t).setCaller t .pushed)
    else none
  | .storeQuit t =>
    if t ≠ l.threadId_ ∧ l.callers t = .idle then
      some ({ l with quit_ := true }.setCaller t .quitting)
    else none
  | .wakeup t =>
    if l.callers t ≠ .idle then some (l.writeWakeup.setCaller t .idle) else none
  | e => l.stepLoop l.pc e

end EventLoop

end SimpleMuduo
