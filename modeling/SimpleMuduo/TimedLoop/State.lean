import SimpleMuduo.TimerQueue.Consistent

/-!
# The loop, its timers and the clock

`EventLoop::loop` with its local variable `now`: an iteration reads the clock only when the nearest
deadline is valid, waits in `poll`, lets the channels handle their events, calls `runTimer(now)`,
and runs the pending functors.  The timer queue, with the threads and the user code that call it,
takes its own steps in between, and the clock may advance at any time.  How long `poll` waits is
left open.

The triggers are recorded, each with the deadline, the clock and the argument of `runTimer` at that
moment.
-/

namespace SimpleMuduo

/-- `getNearestExpiration()`. -/
def TimerQueue.getNearestExpiration (q : TimerQueue) : Timestamp :=
  match q.timers_.toList with
  | [] => Timestamp.invalid
  | e :: _ => e.expiration

/-- The serial numbers and the deadlines of the timers in `timers_`. -/
def TimerQueue.pendingTimers (q : TimerQueue) : List (ℕ × Timestamp) :=
  q.timers_.toList.filterMap fun e => (q.heap e.timer).map fun timer => (timer.serial, e.expiration)

/-- Where the thread of the loop is. -/
inductive TimedPc
  /-- Outside `loop()`. -/
  | outside
  /-- Before the test of `while (!quit_)`. -/
  | condition
  /-- In `poll`, or in the handlers of the active channels. -/
  | handlers
  /-- In `runTimer`. -/
  | timers
  /-- In `doPendingFunctors`, before the swap. -/
  | swapping
  /-- In the loop over `functors`. -/
  | running
  deriving DecidableEq, Repr

/-- A trigger of a timer. -/
structure Trigger where
  serial : ℕ
  /-- `expires_at()`. -/
  deadline : Timestamp
  interval : ℚ
  /-- The argument of `runTimer`. -/
  now : Timestamp
  clock : ℕ
  /-- The iteration of the loop, which calls `runTimer` once. -/
  iteration : ℕ
  /-- The timers that were pending when `runTimer` was called. -/
  pending : List (ℕ × Timestamp)
  deriving DecidableEq

/-- The timer queue, the clock in microseconds, and the local variables `now` and `nextExpired` of
`loop()`.  Not in the source: the number of the iteration, the timers that were overdue at its
start, those that were pending when it called `runTimer`, and the triggers so far, the newest first.
-/
structure TimedLoop where
  queue : TimerQueue
  clock : ℕ
  now : Timestamp
  nextExpired : Timestamp
  pc : TimedPc
  iteration : ℕ
  due : List ℕ
  pending : List (ℕ × Timestamp)
  triggers : List Trigger

/-- What happens next. -/
inductive TimedEvent
  /-- Time passes. -/
  | tick (microseconds : ℕ)
  /-- `loop()` is called. -/
  | enter
  /-- `loop()` returns. -/
  | leave
  /-- An iteration begins: `getNearestExpiration()` is called, and the clock may be read. -/
  | beginIteration
  /-- The events have been handled, and `runTimer(now)` is called. -/
  | runTimer
  /-- A step of the timer queue. -/
  | queue (e : TimerEvent)
  /-- The functors have been run. -/
  | endIteration
  deriving DecidableEq

namespace TimedLoop

/-- A loop whose timer queue has an uninitialised `atomic_`. -/
def new (atomic_ : BitVec 32) (clock : ℕ) : TimedLoop where
  queue := .new atomic_
  clock := clock
  now := Timestamp.invalid
  nextExpired := Timestamp.invalid
  pc := .outside
  iteration := 0
  due := []
  pending := []
  triggers := []

/-- The start of an iteration up to the call of `poll`. -/
def beginIteration (s : TimedLoop) : TimedLoop :=
  let nextExpired := s.queue.getNearestExpiration
  { s with
    nextExpired := nextExpired
    now := if nextExpired.valid then s.clock else s.now
    pc := .handlers
    iteration := s.iteration + 1
    due := (s.queue.pendingTimers.filter fun timer => timer.2 < (s.clock : ℤ)).map Prod.fst }

/-- The step of the timer queue can be taken here; other threads take theirs at any time. -/
def permits (s : TimedLoop) : TimerEvent → Bool
  | .takeId | .newTimer .. | .queueCancel _ | .queueOther | .writeBack _ => true
  | .addTimer .. | .cancelTimer _ => s.pc ∉ [.condition, .swapping]
  | .swap => s.pc = .swapping
  | .functor => s.pc = .running
  | .runTimer _ => false
  | .trigger | .triggered | .restart | .finish => s.pc = .timers

/-- Where the thread of the loop is after a step of the timer queue. -/
def pcAfter (s : TimedLoop) (e : TimerEvent) (q : TimerQueue) : TimedPc :=
  if s.pc = .timers ∧ q.phase = .idle then .swapping
  else if e = .swap then .running
  else s.pc

/-- The trigger that is about to happen. -/
def nextTrigger (s : TimedLoop) : List Trigger :=
  match s.queue.phase with
  | .triggering now _ (e :: _) => (s.queue.heap e.timer).toList.map fun timer =>
      { serial := timer.serial
        deadline := timer.when_
        interval := timer.interval_
        now := now
        clock := s.clock
        iteration := s.iteration
        pending := s.pending }
  | _ => []

/-- The timer queue has taken a step. -/
def queueStep (s : TimedLoop) (e : TimerEvent) (q : TimerQueue) : TimedLoop :=
  { s with
    queue := q
    pc := s.pcAfter e q
    triggers := if e = .trigger then s.nextTrigger ++ s.triggers else s.triggers }

/-- `runTimer(now)` has been called. -/
def runTimer (s : TimedLoop) (q : TimerQueue) : TimedLoop :=
  { s with
    queue := q
    pc := if q.phase = .idle then .swapping else .timers
    pending := s.queue.pendingTimers }

/-- One step: nothing happens any more after a fault. -/
def step (s : TimedLoop) (e : TimedEvent) : Option TimedLoop :=
  if s.queue.fault ≠ none then none
  else
    match e with
    | .tick microseconds => some { s with clock := s.clock + microseconds }
    | .enter =>
      if s.pc = .outside then some { s with now := Timestamp.invalid, pc := .condition } else none
    | .leave => if s.pc = .condition then some { s with pc := .outside } else none
    | .beginIteration => if s.pc = .condition then some s.beginIteration else none
    | .runTimer =>
      if s.pc = .handlers then (s.queue.step (.runTimer s.now)).map s.runTimer else none
    | .queue e => if s.permits e then (s.queue.step e).map (s.queueStep e) else none
    | .endIteration =>
      if s.pc = .running ∧ s.queue.functors = [] then some { s with pc := .condition } else none

end TimedLoop

end SimpleMuduo
