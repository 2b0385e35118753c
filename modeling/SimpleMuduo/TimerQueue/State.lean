import Mathlib.Data.BitVec
import Mathlib.Data.Finset.Insert
import Mathlib.Data.List.AList
import Mathlib.Order.Lattice.Nat
import Mathlib.Data.Prod.Lex
import SimpleMuduo.EventLoop.FunctorQueue
import SimpleMuduo.Foundation.OrderedSet
import SimpleMuduo.Timestamp

/-!
# The timer queue

`TimerQueue` of `TimerQueue.cpp` with the `Timer` objects on the heap, and the part of the event
loop's functor queue that it uses.

`addTimer` and `cancelTimer` may be called by any thread, and on the loop's own thread by user code:
outside `runTimer`, or in the callback of a timer that `runTimer` has just triggered.  On another
thread a call of `addTimer` takes its id, creates the timer, and appends a functor to
`pendingFunctors_`; as `queueInLoop` does not hold the lock, appending is a read of the vector
followed by a separate write back.  Functors of other parts of the program are queued in the same
way.  An address of a deleted timer may be used again for a new one.
-/

namespace SimpleMuduo

/-- `TimerId`, an `int`. -/
abbrev TimerId := BitVec 32

/-- `Timer*`. -/
abbrev TimerPtr := ℕ

/-- `INT_MAX`, which `getExpiredTimers` casts to a `Timer*`. -/
def INT_MAX : TimerPtr := 2147483647

/-- `simple_muduo::Timer`, without its callback.  `serial` is not a member: it tells which call of
`addTimer` has created the timer. -/
structure Timer where
  serial : ℕ
  id_ : TimerId
  when_ : Timestamp
  interval_ : ℚ
  deriving DecidableEq

namespace Timer

/-- `repeat()`. -/
def repeats (t : Timer) : Prop := 0 < t.interval_

instance (t : Timer) : Decidable t.repeats := inferInstanceAs (Decidable (0 < t.interval_))

/-- `restart(const Timestamp& now)`. -/
def restart (t : Timer) (now : Timestamp) : Timer :=
  if t.repeats then { t with when_ := now.addSeconds t.interval_ }
  else { t with when_ := Timestamp.invalid }

@[simp] lemma restart_serial (t : Timer) (now : Timestamp) : (t.restart now).serial = t.serial := by
  unfold restart
  split_ifs <;> rfl

@[simp] lemma restart_id_ (t : Timer) (now : Timestamp) : (t.restart now).id_ = t.id_ := by
  unfold restart
  split_ifs <;> rfl

@[simp] lemma restart_interval_ (t : Timer) (now : Timestamp) :
    (t.restart now).interval_ = t.interval_ := by
  unfold restart
  split_ifs <;> rfl

end Timer

/-- `TimerQueue::Entry`, a pair that is ordered by its first component, then by its second. -/
structure TimerEntry where
  expiration : Timestamp
  timer : TimerPtr
  deriving DecidableEq, Repr

namespace TimerEntry

/-- The pair in its lexicographic order. -/
def toPair (e : TimerEntry) : ℤ ×ₗ ℕ := toLex (e.expiration, e.timer)

lemma toPair_injective : Function.Injective toPair := by
  rintro ⟨expiration, timer⟩ ⟨expiration', timer'⟩ h
  obtain ⟨rfl, rfl⟩ := Prod.mk.inj (toLex.injective h)
  rfl

instance : LinearOrder TimerEntry := LinearOrder.lift' toPair toPair_injective

end TimerEntry

/-- A functor of the loop. -/
inductive TimerFunctor
  /-- `std::bind(&TimerQueue::addTimerInLoop, this, timer)`. -/
  | addTimerInLoop (timer : TimerPtr)
  /-- `std::bind(&TimerQueue::cancelTimerInLoop, this, id)`. -/
  | cancelTimerInLoop (id : TimerId)
  /-- A functor of another part of the program. -/
  | other
  deriving DecidableEq, Repr

/-- The timer that a functor is going to add. -/
def TimerFunctor.timer? : TimerFunctor → Option TimerPtr
  | .addTimerInLoop timer => some timer
  | _ => none

/-- Where the loop's thread is in `runTimer`. -/
inductive TimerPhase
  /-- Outside `runTimer`. -/
  | idle
  /-- In the loop that triggers the expired timers; those in `done` have been triggered. -/
  | triggering (now : Timestamp) (done next : List TimerEntry)
  /-- In the loop that restarts or deletes them. -/
  | restarting (now : Timestamp) (rest : List TimerEntry)
  deriving DecidableEq

/-- The local variable `expired` of `runTimer`, as far as it has not been dealt with. -/
def TimerPhase.batch : TimerPhase → List TimerEntry
  | .idle => []
  | .triggering _ done next => done ++ next
  | .restarting _ rest => rest

/-- What has happened. -/
inductive TimerEffect
  /-- The call `n` of `addTimer` has added or queued its timer, and returns `id`. -/
  | addTimer (n : ℕ) (id : TimerId)
  /-- `trigger()` of the timer of the call `n`. -/
  | trigger (n : ℕ)
  /-- `delete` of the timer of the call `n`. -/
  | delete (n : ℕ)
  /-- `cancelTimerInLoop(id)` has returned. -/
  | cancelTimerInLoop (id : TimerId)
  /-- `runTimer(now)` is called. -/
  | runTimer (now : Timestamp)
  deriving DecidableEq

/-- Why the process goes on no more. -/
inductive TimerFault
  /-- An assertion fails. -/
  | assertion
  /-- A timer is used after it has been deleted. -/
  | useAfterFree
  deriving DecidableEq, Repr

/-- The members of `TimerQueue`, the timers on the heap, the functors of the loop, and where the
threads are.  Not in the source: `calls` counts the calls of `addTimer`, and `history` records what
has happened, the newest first. -/
structure TimerQueue where
  timers_ : OrderedSet TimerEntry
  activeTimers_ : AList fun _ : TimerId => TimerPtr
  cancelTimers_ : Finset TimerId
  atomic_ : BitVec 32
  callingTimesFunctor_ : Bool
  heap : TimerPtr → Option Timer
  pendingFunctors_ : List TimerFunctor
  /-- The rest of the batch of `doPendingFunctors`. -/
  functors : List TimerFunctor
  /-- The calls of `queueInLoop` that have read the vector and have not written it back: the functor
  and what was read. -/
  pushes : List (TimerFunctor × List TimerFunctor)
  phase : TimerPhase
  calls : ℕ
  /-- The calls of `addTimer` that have taken their id and have not created their timer. -/
  inFlight : List (ℕ × TimerId)
  history : List TimerEffect
  fault : Option TimerFault

namespace TimerQueue

/-- `TimerQueue(EventLoop* loop)`.  The constructor leaves `atomic_` uninitialised. -/
def new (atomic_ : BitVec 32) : TimerQueue where
  timers_ := .empty
  activeTimers_ := ∅
  cancelTimers_ := ∅
  atomic_ := atomic_
  callingTimesFunctor_ := false
  heap := fun _ => none
  pendingFunctors_ := []
  functors := []
  pushes := []
  phase := .idle
  calls := 0
  inFlight := []
  history := []
  fault := none

/-- Something has happened. -/
def record (q : TimerQueue) (e : TimerEffect) : TimerQueue := { q with history := e :: q.history }

/-! ## `addTimer` and `cancelTimer` -/

/-- `TimerId id = ++atomic_`. -/
def takeId (q : TimerQueue) : TimerQueue :=
  { q with
    atomic_ := q.atomic_ + 1
    calls := q.calls + 1
    inFlight := (q.calls, q.atomic_ + 1) :: q.inFlight }

/-- `new Timer(id, cb, when, interval)`, at the address `p`. -/
def newTimer (q : TimerQueue) (call : ℕ × TimerId) (p : TimerPtr) (when_ : Timestamp)
    (interval_ : ℚ) : TimerQueue :=
  { q with
    inFlight := q.inFlight.erase call
    heap := Function.update q.heap p (some ⟨call.1, call.2, when_, interval_⟩) }

/-- `delete timer`, where the address is `p`. -/
def deleteTimer (q : TimerQueue) (p : TimerPtr) (timer : Timer) : TimerQueue :=
  { q with
    heap := Function.update q.heap p none
    history := .delete timer.serial :: q.history }

@[simp] lemma deleteTimer_heap_self (q : TimerQueue) (p : TimerPtr) (timer : Timer) :
    (q.deleteTimer p timer).heap p = none := Function.update_self ..

@[simp] lemma deleteTimer_heap_of_ne {p p' : TimerPtr} (h : p' ≠ p) (q : TimerQueue)
    (timer : Timer) : (q.deleteTimer p timer).heap p' = q.heap p' := Function.update_of_ne h ..

/-- `timers_.insert` and `activeTimers_.insert`, which keeps the entry that has the key already. -/
def insertTimer (q : TimerQueue) (p : TimerPtr) (timer : Timer) : TimerQueue :=
  { q with
    timers_ := q.timers_.insert ⟨timer.when_, p⟩
    activeTimers_ :=
      if timer.id_ ∈ q.activeTimers_ then q.activeTimers_ else q.activeTimers_.insert timer.id_ p }

/-- `addTimer(Timer* timer)`, which is all that `addTimerInLoop` does. -/
def addTimer (q : TimerQueue) (p : TimerPtr) : Except TimerFault TimerQueue :=
  match q.heap p with
  | none => .error .useAfterFree
  | some timer => .ok (q.insertTimer p timer)

/-- `addTimer(cb, when, interval)` on the loop's thread. -/
def addTimerOnLoop (q : TimerQueue) (p : TimerPtr) (when_ : Timestamp) (interval_ : ℚ) :
    Except TimerFault TimerQueue :=
  let id := q.atomic_ + 1
  ((q.takeId.newTimer (q.calls, id) p when_ interval_).record (.addTimer q.calls id)).addTimer p

/-- `assert(timers_.size() == activeTimers_.size())`. -/
def checkSizes (q : TimerQueue) : Except TimerFault TimerQueue :=
  if q.timers_.size = q.activeTimers_.entries.length then .ok q else .error .assertion

/-- `activeTimers_.erase(it)` and `timers_.erase(iter)`. -/
def eraseTimer (q : TimerQueue) (id : TimerId) (e : TimerEntry) : TimerQueue :=
  { q with
    activeTimers_ := q.activeTimers_.erase id
    timers_ := q.timers_.erase e }

/-- `cancelTimerInLoop(TimerId id)`. -/
def cancelTimerInLoop (q : TimerQueue) (id : TimerId) : Except TimerFault TimerQueue :=
  match q.activeTimers_.lookup id with
  | some p =>
    match q.heap p with
    | none => .error .useAfterFree
    | some timer =>
      if ⟨timer.when_, p⟩ ∈ q.timers_ then
        (((q.deleteTimer p timer).eraseTimer id ⟨timer.when_, p⟩).record
          (.cancelTimerInLoop id)).checkSizes
      else .error .assertion
  | none =>
    if q.callingTimesFunctor_ then
      ({ q with cancelTimers_ := insert id q.cancelTimers_ }.record
        (.cancelTimerInLoop id)).checkSizes
    else (q.record (.cancelTimerInLoop id)).checkSizes

/-! ## `runTimer` -/

/-- The loop over `expired` in `getExpiredTimers`. -/
def eraseExpired (heap : TimerPtr → Option Timer) :
    List TimerEntry → AList (fun _ : TimerId => TimerPtr) →
      Except TimerFault (AList fun _ : TimerId => TimerPtr)
  | [], activeTimers_ => .ok activeTimers_
  | e :: rest, activeTimers_ =>
    match heap e.timer with
    | none => .error .useAfterFree
    | some timer => eraseExpired heap rest (activeTimers_.erase timer.id_)

/-- `getExpiredTimers(const Timestamp& now)`. -/
def getExpiredTimers (q : TimerQueue) (now : Timestamp) :
    Except TimerFault (List TimerEntry × TimerQueue) :=
  let piovt : TimerEntry := ⟨now, INT_MAX⟩
  let expired := q.timers_.before piovt
  let later := q.timers_.notBefore piovt
  if ∀ e ∈ later.toList.head?, now < e.expiration then
    (eraseExpired q.heap expired q.activeTimers_).map fun activeTimers_ =>
      (expired, { q with timers_ := later, activeTimers_ := activeTimers_ })
  else .error .assertion

/-- `callingTimesFunctor_ = true` and `cancelTimers_.clear()`. -/
def beginRun (q : TimerQueue) : TimerQueue :=
  { q with callingTimesFunctor_ := true, cancelTimers_ := ∅ }

/-- `runTimer(const Timestamp& now)` up to its first loop. -/
def runTimer (q : TimerQueue) (now : Timestamp) : Except TimerFault TimerQueue :=
  if q.timers_.toList = [] then .ok (q.record (.runTimer now))
  else
    (q.beginRun.getExpiredTimers now).map fun (expired, q) =>
      { q with phase := .triggering now [] expired, history := .runTimer now :: q.history }

/-- `it->second->trigger()`, where `it` is at the entry `e`. -/
def trigger (q : TimerQueue) (now : Timestamp) (done : List TimerEntry) (e : TimerEntry)
    (next : List TimerEntry) : Except TimerFault TimerQueue :=
  match q.heap e.timer with
  | none => .error .useAfterFree
  | some timer =>
    .ok { q with
      phase := .triggering now (done ++ [e]) next
      history := .trigger timer.serial :: q.history }

/-- The body of the second loop of `runTimer`, where `it` is at the entry `e`. -/
def restartOrDelete (q : TimerQueue) (now : Timestamp) (e : TimerEntry) (rest : List TimerEntry) :
    Except TimerFault TimerQueue :=
  match q.heap e.timer with
  | none => .error .useAfterFree
  | some timer =>
    if timer.repeats ∧ timer.id_ ∉ q.cancelTimers_ then
      { q with
        heap := Function.update q.heap e.timer (some (timer.restart now))
        phase := .restarting now rest }.addTimer e.timer
    else .ok ({ q with phase := .restarting now rest }.deleteTimer e.timer timer)

/-! ## The functor queue -/

/-- `queueInLoop(cb)` reads `pendingFunctors_`. -/
def queueInLoop (q : TimerQueue) (f : TimerFunctor) : TimerQueue :=
  { q with pushes := (f, q.pendingFunctors_) :: q.pushes }

/-- The call of `addTimer` that returns when its functor has been queued. -/
def returned (q : TimerQueue) : TimerFunctor → List TimerEffect
  | .addTimerInLoop p => (q.heap p).toList.map fun timer => .addTimer timer.serial timer.id_
  | _ => []

/-- `queueInLoop(cb)` writes the extended vector back. -/
def writeBack (q : TimerQueue) (push : TimerFunctor × List TimerFunctor) : TimerQueue :=
  { q with
    pendingFunctors_ := push.2 ++ [push.1]
    pushes := q.pushes.erase push
    history := q.returned push.1 ++ q.history }

/-- `functor()`. -/
def call (q : TimerQueue) : TimerFunctor → Except TimerFault TimerQueue
  | .addTimerInLoop p => q.addTimer p
  | .cancelTimerInLoop id => q.cancelTimerInLoop id
  | .other => .ok q

end TimerQueue

/-! ## The step relation -/

/-- What happens next. -/
inductive TimerEvent
  /-- Another thread takes the id in `addTimer(cb, when, interval)`. -/
  | takeId
  /-- The other thread creates its timer at the address `p`, and `queueInLoop` reads the vector. -/
  | newTimer (call : ℕ × TimerId) (p : TimerPtr) (when_ : Timestamp) (interval_ : ℚ)
  /-- Another thread calls `cancelTimer(id)`, and `queueInLoop` reads the vector. -/
  | queueCancel (id : TimerId)
  /-- Some other call of `queueInLoop` reads the vector. -/
  | queueOther
  /-- A call of `queueInLoop` writes the extended vector back. -/
  | writeBack (push : TimerFunctor × List TimerFunctor)
  /-- The loop's thread calls `addTimer(cb, when, interval)`, which creates its timer at `p`. -/
  | addTimer (p : TimerPtr) (when_ : Timestamp) (interval_ : ℚ)
  /-- The loop's thread calls `cancelTimer(id)`. -/
  | cancelTimer (id : TimerId)
  /-- `doPendingFunctors` swaps. -/
  | swap
  /-- `doPendingFunctors` calls the next functor. -/
  | functor
  /-- The loop calls `runTimer(now)`. -/
  | runTimer (now : Timestamp)
  /-- `runTimer` triggers the next expired timer. -/
  | trigger
  /-- All expired timers have been triggered: `callingTimesFunctor_ = false`. -/
  | triggered
  /-- `runTimer` restarts or deletes the next expired timer. -/
  | restart
  /-- `runTimer` returns. -/
  | finish
  deriving DecidableEq

namespace TimerQueue

/-- The state after a member function: the one it returns, or the old one with the fault. -/
def outcome (q : TimerQueue) : Except TimerFault TimerQueue → TimerQueue
  | .ok q' => q'
  | .error f => { q with fault := some f }

/-- The loop's thread may be in user code. -/
def inUserCode (q : TimerQueue) : Bool :=
  match q.phase with
  | .idle => true
  | .triggering _ done _ => !done.isEmpty
  | .restarting .. => false

/-- The address can be that of a new object. -/
def Free (q : TimerQueue) (p : TimerPtr) : Prop := p ≠ 0 ∧ q.heap p = none

instance (q : TimerQueue) (p : TimerPtr) : Decidable (q.Free p) :=
  inferInstanceAs (Decidable (_ ∧ _))

/-- The loop of `doPendingFunctors` calls the next functor. -/
def callNextFunctor (q : TimerQueue) : Option TimerQueue :=
  match q.phase, q.functors with
  | .idle, f :: rest =>
    some (({ q with functors := rest }).outcome (({ q with functors := rest }).call f))
  | _, _ => none

/-- The next step of `runTimer` itself. -/
def stepRunTimer (q : TimerQueue) : TimerPhase → TimerEvent → Option TimerQueue
  | .idle, .runTimer now => if q.functors = [] then some (q.outcome (q.runTimer now)) else none
  | .triggering now done (e :: next), .trigger => some (q.outcome (q.trigger now done e next))
  | .triggering now done [], .triggered =>
    some { q with callingTimesFunctor_ := false, phase := .restarting now done }
  | .restarting now (e :: rest), .restart => some (q.outcome (q.restartOrDelete now e rest))
  | .restarting _ [], .finish => some (q.outcome { q with phase := .idle }.checkSizes)
  | _, _ => none

/-- One step of a process that goes on. -/
def stepRunning (q : TimerQueue) : TimerEvent → Option TimerQueue
  | .takeId => some q.takeId
  | .newTimer call p when_ interval_ =>
    if call ∈ q.inFlight ∧ q.Free p then
      some ((q.newTimer call p when_ interval_).queueInLoop (.addTimerInLoop p))
    else none
  | .queueCancel id => some (q.queueInLoop (.cancelTimerInLoop id))
  | .queueOther => some (q.queueInLoop .other)
  | .writeBack push => if push ∈ q.pushes then some (q.writeBack push) else none
  | .addTimer p when_ interval_ =>
    if q.inUserCode ∧ q.Free p then some (q.outcome (q.addTimerOnLoop p when_ interval_))
    else none
  | .cancelTimer id => if q.inUserCode then some (q.outcome (q.cancelTimerInLoop id)) else none
  | .swap =>
    if q.phase = .idle ∧ q.functors = [] then
      some { q with functors := q.pendingFunctors_, pendingFunctors_ := [] }
    else none
  | .functor => q.callNextFunctor
  | e => q.stepRunTimer q.phase e

/-- One step: nothing happens any more after a fault. -/
def step (q : TimerQueue) (e : TimerEvent) : Option TimerQueue :=
  match q.fault with
  | none => q.stepRunning e
  | some _ => none

end TimerQueue

end SimpleMuduo
