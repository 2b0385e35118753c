import SimpleMuduo.EventLoop.Loop
import SimpleMuduo.Foundation.EventHistory

/-!
# Quitting a loop that runs in a thread of its own

`EventLoopThread::threadFunc` publishes the pointer to its loop before it enters `loop()`, and
`loop()` begins with `quit_ = false`.  A controller that calls `quit()` as soon as `startLoop` has
returned may store its `quit_ = true` in between, and then it is overwritten.  The quit is kept in
exactly those runs in which this does not happen.
-/

namespace SimpleMuduo

/-- Where the thread of `EventLoopThread::threadFunc` is. -/
inductive ThreadFuncPc
  | notStarted
  /-- The loop has been constructed; `callback_(&loop)` is running. -/
  | initializing
  /-- `loop_ = &loop` has been stored. -/
  | published
  /-- In `loop.loop()`. -/
  | looping
  /-- `loop.loop()` has returned. -/
  | returned
  /-- `loop_ = nullptr` has been stored, and the loop is destroyed. -/
  | finished
  deriving DecidableEq, Repr

/-- Where the controller is. -/
inductive ControllerPc
  | idle
  /-- In `startLoop`, waiting for `loop_`. -/
  | waiting
  /-- In `startLoop`, which has copied `loop_` and released `mutex_`. -/
  | returning
  /-- `startLoop` has returned. -/
  | started
  /-- In `quit`, before `wakeup()`. -/
  | quitting
  /-- `quit` has returned. -/
  | done
  deriving DecidableEq, Repr

/-- What is recorded of a run. -/
inductive QuitEffect
  /-- `quit()` of the controller has stored `quit_ = true`. -/
  | quitStored
  /-- `loop()` has started an iteration. -/
  | iterationStarted
  deriving DecidableEq, Repr

/-- `simple_muduo::EventLoopThread`, with the local variable `loop` of `threadFunc`. -/
structure EventLoopThread where
  loop : EventLoop
  /-- `loop_ != nullptr`. -/
  loop_ : Bool
  threadFunc : ThreadFuncPc
  controllerId : ThreadId
  controller : ControllerPc
  history : List QuitEffect

/-- What the threads do next. -/
inductive ThreadEvent
  /-- The controller calls `startLoop`, which starts the thread. -/
  | startLoop
  /-- The thread stores `loop_ = &loop`. -/
  | publish
  /-- `startLoop` sees `loop_ != nullptr` under `mutex_` and copies it. -/
  | readLoop
  /-- `startLoop` returns the pointer it has copied. -/
  | startLoopReturns
  /-- `quit` of the controller stores `quit_ = true`. -/
  | storeQuit
  /-- `quit` of the controller calls `wakeup()` and returns. -/
  | wakeup
  /-- A step of the loop, or of another thread on it. -/
  | loop (e : LoopEvent)
  /-- The thread stores `loop_ = nullptr` and ends. -/
  | finish
  deriving DecidableEq

/-! ## `quit_` in the steps of the loop -/

namespace EventLoop

variable {l l' : EventLoop}

/-- The test of the condition leaves the loop exactly when `quit_` is set. -/
lemma step_test (h : l.step .test = some l') :
    l'.pc = (if l.quit_ then .leaving else .preparing) := by
  change l.stepLoop l.pc .test = some l' at h
  generalize l.pc = pc at h
  cases pc <;> simp only [stepLoop, Option.some.injEq, reduceCtorEq] at h
  subst h
  rfl

/-- After `quit_ = false` the condition is tested next, and `quit_` is not set. -/
lemma step_clearQuit (h : l.step .clearQuit = some l') :
    l'.pc = .condition ∧ l'.quit_ = false := by
  change l.stepLoop l.pc .clearQuit = some l' at h
  generalize l.pc = pc at h
  cases pc <;> simp only [stepLoop, Option.some.injEq, reduceCtorEq] at h
  subst h
  exact ⟨rfl, rfl⟩

/-- Once set, `quit_` stays set until `loop()` clears it. -/
lemma stepLoop_quit_ {pc : LoopPc} {e : LoopEvent} (hquit : l.quit_ = true) (he : e ≠ .clearQuit)
    (h : l.stepLoop pc e = some l') : l'.quit_ = true := by
  unfold stepLoop at h
  split at h
  case h_2 => exact absurd rfl he
  case h_4 =>
    obtain ⟨timeoutMs, -, rfl⟩ := Option.map_eq_some_iff.mp h
    exact hquit
  case h_5 | h_11 =>
    simp only [Option.ite_none_right_eq_some, Option.some.injEq] at h
    obtain ⟨-, rfl⟩ := h
    exact hquit
  case h_10 =>
    split at h
    · cases h
    · obtain rfl := Option.some.inj h
      exact hquit
  case h_14 => cases h
  all_goals
    obtain rfl := Option.some.inj h
    exact hquit

lemma step_quit_ {e : LoopEvent} (hquit : l.quit_ = true) (he : e ≠ .clearQuit)
    (h : l.step e = some l') : l'.quit_ = true := by
  cases e with
  | queueInLoop =>
    simp only [step, Option.ite_none_right_eq_some, Option.some.injEq] at h
    obtain ⟨-, rfl⟩ := h
    split <;> exact hquit
  | quit | push t | storeQuit t | wakeup t =>
    simp only [step, Option.ite_none_right_eq_some, Option.some.injEq] at h
    obtain ⟨-, rfl⟩ := h
    first | exact hquit | rfl
  | _ => exact stepLoop_quit_ hquit he h

/-- The store of `quit`. -/
lemma step_storeQuit {t : ThreadId} (h : l.step (.storeQuit t) = some l') : l'.quit_ = true := by
  simp only [step, Option.ite_none_right_eq_some, Option.some.injEq] at h
  obtain ⟨-, rfl⟩ := h
  rfl

end EventLoop

/-! ## The threads -/

namespace EventLoopThread

/-- A new object, whose thread and controller have the given ids. -/
def new (threadId controllerId : ThreadId) : EventLoopThread where
  loop := .new threadId
  loop_ := false
  threadFunc := .notStarted
  controllerId := controllerId
  controller := .idle
  history := []

/-- The loop exists. -/
def alive (s : EventLoopThread) : Bool := s.threadFunc ≠ .notStarted ∧ s.threadFunc ≠ .finished

/-- The steps of the loop that can come next: `loop()` is entered once after `loop_` has been
published, user code runs in `callback_` and inside `loop()`, and the other threads use the loop as
long as it exists. -/
def mayStep (s : EventLoopThread) : LoopEvent → Bool
  | .enter => s.threadFunc = .published
  | .queueInLoop | .quit => s.threadFunc = .initializing ∨ s.threadFunc = .looping
  | .push t | .storeQuit t | .wakeup t => t ≠ s.controllerId ∧ s.alive
  | _ => s.threadFunc = .looping

/-- Where `threadFunc` is after a step of the loop. -/
def threadFuncAfter (s : EventLoopThread) : LoopEvent → ThreadFuncPc
  | .enter => .looping
  | .leave => .returned
  | _ => s.threadFunc

/-- What a step of the loop that leads to `l` records. -/
def recorded (l : EventLoop) : LoopEvent → List QuitEffect
  | .test => if l.pc = .preparing then [.iterationStarted] else []
  | _ => []

/-- One step of the threads. -/
def step (s : EventLoopThread) : ThreadEvent → Option EventLoopThread
  | .startLoop =>
    if s.controller = .idle then
      some { s with controller := .waiting, threadFunc := .initializing }
    else none
  | .publish =>
    if s.threadFunc = .initializing then
      some { s with loop_ := true, threadFunc := .published }
    else none
  | .readLoop =>
    if s.controller = .waiting ∧ s.loop_ = true then some { s with controller := .returning }
    else none
  | .startLoopReturns =>
    if s.controller = .returning then some { s with controller := .started } else none
  | .storeQuit =>
    if s.controller = .started ∧ s.alive then
      (s.loop.step (.storeQuit s.controllerId)).map fun l =>
        { s with loop := l, controller := .quitting, history := .quitStored :: s.history }
    else none
  | .wakeup =>
    if s.controller = .quitting ∧ s.alive then
      (s.loop.step (.wakeup s.controllerId)).map fun l =>
        { s with loop := l, controller := .done }
    else none
  | .loop e =>
    if s.mayStep e then
      (s.loop.step e).map fun l =>
        { s with
          loop := l
          threadFunc := s.threadFuncAfter e
          history := recorded l e ++ s.history }
    else none
  | .finish =>
    if s.threadFunc = .returned then some { s with loop_ := false, threadFunc := .finished }
    else none

/-- After `quit()` has stored `quit_ = true` no iteration is started, and the next test of the
condition leaves the loop. -/
def QuitKept (s : EventLoopThread) : Prop :=
  NeverAfter (· = .quitStored) (· = .iterationStarted) s.history ∧
    (.quitStored ∈ s.history → ∀ l, s.loop.step .test = some l → l.pc = .leaving)

/-- `loop()` clears `quit_` before `quit()` sets it. -/
def ClearsBeforeQuit (s : EventLoopThread) (e : ThreadEvent) : Prop :=
  e = .loop .clearQuit → .quitStored ∉ s.history

/-! ## Which runs keep the quit -/

/-- As long as the quit is kept, `quit_` is set after it. -/
structure QuitInv (s : EventLoopThread) : Prop where
  never : NeverAfter (· = .quitStored) (· = .iterationStarted) s.history
  quit : .quitStored ∈ s.history → s.loop.quit_ = true

variable {s s' : EventLoopThread}

lemma QuitInv.new (threadId controllerId : ThreadId) : QuitInv (new threadId controllerId) := by
  constructor
  · exact neverAfter_nil
  · intro h
    cases h

lemma QuitInv.quitKept (hs : QuitInv s) : s.QuitKept := by
  refine ⟨hs.never, ?_⟩
  intro hstored l hl
  rw [EventLoop.step_test hl, hs.quit hstored]
  rfl

/-- A step of the loop other than `quit_ = false` after the quit. -/
lemma QuitInv.step_loop {e : LoopEvent} (hs : QuitInv s) (hok : s.ClearsBeforeQuit (.loop e))
    (h : s.step (.loop e) = some s') : QuitInv s' := by
  simp only [step, Option.ite_none_right_eq_some, Option.map_eq_some_iff] at h
  obtain ⟨-, l, hl, rfl⟩ := h
  by_cases hstored : .quitStored ∈ s.history
  · have hclear : e ≠ .clearQuit := by
      rintro rfl
      exact hok rfl hstored
    have hquit := hs.quit hstored
    have hrecorded : recorded l e = [] := by
      cases e
      case test =>
        have hpc := EventLoop.step_test hl
        rw [hquit] at hpc
        simp [recorded, hpc]
      all_goals rfl
    constructor
    · simpa [hrecorded] using hs.never
    · intro _
      exact EventLoop.step_quit_ hquit hclear hl
  · have hnone : .quitStored ∉ recorded l e ++ s.history := by
      cases e
      case test =>
        simp only [recorded]
        split <;> simp [hstored]
      all_goals simpa [recorded] using hstored
    constructor
    · apply neverAfter_of_forall_not
      rintro d hd rfl
      exact hnone hd
    · intro h
      exact absurd h hnone

lemma QuitInv.step {e : ThreadEvent} (hs : QuitInv s) (hok : s.ClearsBeforeQuit e)
    (h : s.step e = some s') : QuitInv s' := by
  cases e with
  | loop e => exact hs.step_loop hok h
  | storeQuit =>
    simp only [EventLoopThread.step, Option.ite_none_right_eq_some, Option.map_eq_some_iff] at h
    obtain ⟨-, l, hl, rfl⟩ := h
    constructor
    · exact ⟨by simp, hs.never⟩
    · intro _
      exact EventLoop.step_storeQuit hl
  | wakeup =>
    simp only [EventLoopThread.step, Option.ite_none_right_eq_some, Option.map_eq_some_iff] at h
    obtain ⟨-, l, hl, rfl⟩ := h
    constructor
    · exact hs.never
    · intro hstored
      exact EventLoop.step_quit_ (hs.quit hstored) (by simp) hl
  | startLoop | publish | readLoop | startLoopReturns | finish =>
    simp only [EventLoopThread.step, Option.ite_none_right_eq_some, Option.some.injEq] at h
    obtain ⟨-, rfl⟩ := h
    exact ⟨hs.never, hs.quit⟩

/-- When `loop()` clears `quit_` after the quit, the next test of the condition starts an
iteration. -/
lemma not_quitKept_of_not_clearsBeforeQuit {e : ThreadEvent} (hok : ¬ s.ClearsBeforeQuit e)
    (h : s.step e = some s') : ¬ s'.QuitKept := by
  simp only [ClearsBeforeQuit, Classical.not_imp, Decidable.not_not] at hok
  obtain ⟨rfl, hstored⟩ := hok
  simp only [step, Option.ite_none_right_eq_some, Option.map_eq_some_iff] at h
  obtain ⟨-, l, hl, rfl⟩ := h
  obtain ⟨hpc, hquit⟩ := EventLoop.step_clearQuit hl
  rintro ⟨-, hleaves⟩
  have htest : l.step .test = some (l.goto .preparing) := by
    change l.stepLoop l.pc .test = _
    rw [hpc, EventLoop.stepLoop, hquit]
    rfl
  have hleaving := hleaves hstored _ htest
  cases hleaving

/-- In a run of the thread and its controller the quit is kept all the time if and only if `loop()`
never executes its `quit_ = false` after `quit()` has stored `quit_ = true`. -/
theorem quitKept_iff (threadId controllerId : ThreadId) (es : List ThreadEvent) :
    Always step QuitKept (new threadId controllerId) es ↔
      Meets step ClearsBeforeQuit (new threadId controllerId) es := by
  apply always_iff_meets (I := QuitInv)
  · intro s e t hs hok h
    exact hs.step hok h
  · intro s hs
    exact hs.quitKept
  · intro s e t _ hok h
    exact not_quitKept_of_not_clearsBeforeQuit hok h
  · exact .new threadId controllerId

/-- The controller quits the loop between the publication of its address and the beginning of
`loop()`: the loop goes on to its first iteration. -/
theorem not_quitKept_quit_before_loop :
    ¬ ∀ (threadId controllerId : ThreadId) (es : List ThreadEvent) (s : EventLoopThread),
      exec step (new threadId controllerId) es = some s →
        NeverAfter (· = .quitStored) (· = .iterationStarted) s.history := by
  intro h
  have hrun : ∃ s, exec step (new 1 2)
      [.startLoop, .publish, .readLoop, .startLoopReturns, .storeQuit, .wakeup, .loop .enter,
        .loop .clearQuit, .loop .test] = some s ∧
      ¬ NeverAfter (· = .quitStored) (· = .iterationStarted) s.history :=
    exists_exec_of_any (by decide +kernel)
  obtain ⟨s, hrun, hbad⟩ := hrun
  exact hbad (h 1 2 _ s hrun)

end EventLoopThread

end SimpleMuduo
