import SimpleMuduo.EventLoop.Thread

/-!
# Waiting for the loop of a thread

`startLoop` waits until `loop_` is not null, and `threadFunc` sets it back to null when `loop()` has
returned.  So the pointer that `startLoop` copies is that of a loop which exists then, and
`startLoop` can return as long as the thread has not ended; but when the loop is quit and the thread
ends before the controller has looked at `loop_`, nobody sets it again and `startLoop` waits for
ever.  When the thread ends after the pointer has been copied, `startLoop` returns the pointer of a
loop that is gone.
-/

namespace SimpleMuduo

namespace EventLoopThread

variable {threadId controllerId : ThreadId} {s t : EventLoopThread} {e : ThreadEvent}
  {es more : List ThreadEvent}

/-- `loop_` is set between the publication and the end of the thread, and the thread has been
started when `startLoop` has been called. -/
structure StartInv (s : EventLoopThread) : Prop where
  loop_ : s.loop_ = true ↔
    s.threadFunc = .published ∨ s.threadFunc = .looping ∨ s.threadFunc = .returned
  started : s.controller = .idle ↔ s.threadFunc = .notStarted

lemma StartInv.new (threadId controllerId : ThreadId) : StartInv (new threadId controllerId) := by
  constructor
  · simp [EventLoopThread.new]
  · simp [EventLoopThread.new]

/-- Where a step of the loop takes `threadFunc`. -/
lemma step_loop_cases {e : LoopEvent} (h : s.step (.loop e) = some t) :
    t.loop_ = s.loop_ ∧ t.controller = s.controller ∧
      (t.threadFunc = s.threadFunc ∨
        s.threadFunc = .published ∧ t.threadFunc = .looping ∨
        s.threadFunc = .looping ∧ t.threadFunc = .returned) := by
  obtain ⟨hmay, h⟩ := Option.ite_none_right_eq_some.mp h
  obtain ⟨l, -, rfl⟩ := Option.map_eq_some_iff.mp h
  refine ⟨rfl, rfl, ?_⟩
  cases e with
  | enter => exact .inr (.inl ⟨by simpa [mayStep] using hmay, rfl⟩)
  | leave => exact .inr (.inr ⟨by simpa [mayStep] using hmay, rfl⟩)
  | _ => exact .inl rfl

lemma StartInv.step (hs : StartInv s) (h : s.step e = some t) : StartInv t := by
  cases e with
  | loop e =>
    obtain ⟨hloop, hcontroller, hthread⟩ := step_loop_cases h
    refine ⟨?_, ?_⟩
    · rw [hloop, hs.loop_]
      obtain heq | ⟨hold, hnew⟩ | ⟨hold, hnew⟩ := hthread
      · rw [heq]
      · simp [hold, hnew]
      · simp [hold, hnew]
    · rw [hcontroller, hs.started]
      obtain heq | ⟨hold, hnew⟩ | ⟨hold, hnew⟩ := hthread
      · rw [heq]
      · simp [hold, hnew]
      · simp [hold, hnew]
  | startLoop =>
    obtain ⟨hidle, h⟩ := Option.ite_none_right_eq_some.mp h
    obtain rfl := Option.some.inj h
    have hnot := hs.started.mp hidle
    refine ⟨?_, by simp⟩
    rw [show s.loop_ = false by simpa [hnot] using hs.loop_]
    simp
  | publish =>
    obtain ⟨hinit, h⟩ := Option.ite_none_right_eq_some.mp h
    obtain rfl := Option.some.inj h
    refine ⟨by simp, ?_⟩
    simpa [hinit] using hs.started
  | readLoop =>
    obtain ⟨⟨hwaiting, -⟩, h⟩ := Option.ite_none_right_eq_some.mp h
    obtain rfl := Option.some.inj h
    refine ⟨hs.loop_, ?_⟩
    simpa [hwaiting] using hs.started
  | startLoopReturns =>
    obtain ⟨hreturning, h⟩ := Option.ite_none_right_eq_some.mp h
    obtain rfl := Option.some.inj h
    refine ⟨hs.loop_, ?_⟩
    simpa [hreturning] using hs.started
  | storeQuit | wakeup =>
    obtain ⟨⟨hcontroller, -⟩, h⟩ := Option.ite_none_right_eq_some.mp h
    obtain ⟨l, -, rfl⟩ := Option.map_eq_some_iff.mp h
    refine ⟨hs.loop_, ?_⟩
    simpa [hcontroller] using hs.started
  | finish =>
    obtain ⟨hreturned, h⟩ := Option.ite_none_right_eq_some.mp h
    obtain rfl := Option.some.inj h
    refine ⟨by simp, ?_⟩
    simpa [hreturned] using hs.started

/-- The controller waits, and nobody is going to set `loop_`. -/
def Stuck (s : EventLoopThread) : Prop :=
  s.controller = .waiting ∧ s.threadFunc = .finished ∧ s.loop_ = false

lemma Stuck.step (hs : Stuck s) (h : s.step e = some t) : Stuck t := by
  obtain ⟨hwaiting, hfinished, hloop⟩ := hs
  cases e with
  | loop e =>
    obtain ⟨hloop', hcontroller, hthread⟩ := step_loop_cases h
    refine ⟨hcontroller.trans hwaiting, ?_, hloop'.trans hloop⟩
    obtain heq | ⟨hold, -⟩ | ⟨hold, -⟩ := hthread
    · exact heq.trans hfinished
    · simp [hfinished] at hold
    · simp [hfinished] at hold
  | _ => simp [EventLoopThread.step, hwaiting, hfinished, hloop] at h

/-- A waiting controller gets its pointer in three steps as long as the thread has not ended. -/
lemma StartInv.exists_return (hs : StartInv s) (hwaiting : s.controller = .waiting)
    (hrunning : s.threadFunc ≠ .finished) :
    ∃ more t, more.length ≤ 3 ∧ exec EventLoopThread.step s more = some t ∧
      t.controller = .started ∧ t.alive = true := by
  have hstarted : s.threadFunc ≠ .notStarted := fun hnot => by
    simpa [hwaiting] using hs.started.mpr hnot
  by_cases hinit : s.threadFunc = .initializing
  · refine ⟨[.publish, .readLoop, .startLoopReturns],
      { s with loop_ := true, threadFunc := .published, controller := .started }, by simp, ?_, rfl,
      by simp [alive]⟩
    simp [EventLoopThread.step, hinit, hwaiting]
  · have hloop : s.loop_ = true := by
      rw [hs.loop_]
      cases hthread : s.threadFunc <;> simp_all
    refine ⟨[.readLoop, .startLoopReturns], { s with controller := .started }, by simp, ?_, rfl,
      by simp [alive, hstarted, hrunning]⟩
    simp [EventLoopThread.step, hwaiting, hloop]

/-- In every state that the threads can reach in which `startLoop` waits, a pointer that it copies
is that of a loop that exists then; as long as the thread has not ended, it can return the pointer
of a loop that exists in three steps; and when the thread has ended it waits for ever, whatever the
threads do. -/
theorem startLoop_returns (hrun : exec step (new threadId controllerId) es = some s)
    (hwaiting : s.controller = .waiting) :
    (∀ t, s.step .readLoop = some t → t.alive = true) ∧
      (s.threadFunc ≠ .finished →
        ∃ more t, more.length ≤ 3 ∧ exec step s more = some t ∧ t.controller = .started ∧
          t.alive = true) ∧
      (s.threadFunc = .finished →
        ∀ more t, exec step s more = some t → t.controller = .waiting) := by
  have hs : StartInv s :=
    invariant_of_exec (fun _ _ _ h hstep => h.step hstep) (.new threadId controllerId) hrun
  refine ⟨fun t ht => ?_, hs.exists_return hwaiting, fun hfinished more t hmore => ?_⟩
  · obtain ⟨⟨-, hloop⟩, h⟩ := Option.ite_none_right_eq_some.mp ht
    obtain rfl := Option.some.inj h
    obtain hthread | hthread | hthread := hs.loop_.mp hloop <;> simp [alive, hthread]
  · have hstuck : Stuck s := ⟨hwaiting, hfinished, by simpa [hfinished] using hs.loop_⟩
    exact (invariant_of_exec (fun _ _ _ h hstep => h.step hstep) hstuck hmore).1

/-- The first iteration of the loop, in which a handler quits it. -/
def quitInFirstIteration : List ThreadEvent :=
  [.loop .enter, .loop .clearQuit, .loop .test, .loop (.poll 0 0), .loop (.pollReturns false),
    .loop .quit, .loop .runTimer, .loop .doPendingFunctors, .loop .swap, .loop .functorsCalled,
    .loop .functorsDestroyed, .loop .test, .loop .leave]

/-- A handler of the first iteration quits the loop.  `startLoop` waits for ever when the thread
ends before it has looked at `loop_`; it can copy the pointer as long as the thread has not, and
when the thread ends before it returns, the loop is gone. -/
theorem startLoop_waits_for_ever : ∃ s t u,
    exec step (new 1 2) (.startLoop :: .publish :: quitInFirstIteration) = some s ∧
    exec step s [.finish] = some t ∧ exec step s [.readLoop, .finish, .startLoopReturns] = some u ∧
    (∃ more v, more.length ≤ 3 ∧ exec step s more = some v ∧ v.controller = .started ∧
      v.alive = true) ∧
    (∀ more v, exec step t more = some v → v.controller = .waiting) ∧
    u.controller = .started ∧ u.alive = false := by
  obtain ⟨s, hrun, hwaiting, hreturned, hfinish, hdangling⟩ : ∃ s,
      exec step (new 1 2) (.startLoop :: .publish :: quitInFirstIteration) = some s ∧
        s.controller = .waiting ∧ s.threadFunc = .returned ∧
        ((exec step s [.finish]).any fun t =>
          decide (t.controller = .waiting ∧ t.threadFunc = .finished)) = true ∧
        ((exec step s [.readLoop, .finish, .startLoopReturns]).any fun u =>
          decide (u.controller = .started ∧ u.alive = false)) = true :=
    exists_exec_of_any (by decide +kernel)
  obtain ⟨t, ht, hwaiting', hfinished⟩ := exists_exec_of_any hfinish
  obtain ⟨u, hu, hdone⟩ := exists_exec_of_any hdangling
  refine ⟨s, t, u, hrun, ht, hu, ?_, ?_, hdone⟩
  · exact (startLoop_returns hrun hwaiting).2.1 (by simp [hreturned])
  · exact (startLoop_returns (exec_append_of_eq_some hrun ht) hwaiting').2.2 hfinished

end EventLoopThread

end SimpleMuduo
