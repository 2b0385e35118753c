import SimpleMuduo.TimerQueue.Steps

/-!
# The timers are accounted for

In a run with fewer than `2 ^ 32` calls of `addTimer` the two containers hold the same timers, every
timer is in exactly one place, and none is triggered after it has been deleted, or twice in one
call of `runTimer`, whatever the callbacks do.  This rests on `queueInLoop` writing back the vector
that it has read: two threads that append at the same time lose a functor, and its timer with it.

The callbacks may call the timer queue; the destructors of what they have captured, which run when
a timer is deleted, are assumed not to.
-/

namespace SimpleMuduo

namespace TimerQueue

variable {start : BitVec 32} {q q' : TimerQueue}

/-- In how many places the timer of the call `n` of `addTimer` is: in a queued functor, in the
containers, in the expired batch, or among the deleted timers. -/
def placesOf (q : TimerQueue) (n : ℕ) : ℕ :=
  (numbersAt Timer.serial q.heap q.queued).count n +
    (numbersAt Timer.serial q.heap q.contained).count n +
    (numbersAt Timer.serial q.heap q.batch).count n + (deletedIn q.history).count n

/-- The containers agree, every timer is in one place, and none is triggered too often. -/
structure Accounted (q : TimerQueue) : Prop where
  /-- No timer is used after it has been deleted. -/
  unharmed : q.fault ≠ some .useAfterFree
  /-- The containers have the same timers. -/
  same : ∀ p, p ∈ q.contained ↔ ∃ id, q.activeTimers_.lookup id = some p
  /-- The keys of `timers_` are the expirations of its timers. -/
  timersKeys : ∀ e ∈ q.timers_, ∃ timer, q.heap e.timer = some timer ∧ timer.when_ = e.expiration
  /-- The keys of `activeTimers_` are the ids of its timers. -/
  activeKeys : ∀ id p, q.activeTimers_.lookup id = some p →
    ∃ timer, q.heap p = some timer ∧ timer.id_ = id
  /-- Every timer that has been created is in exactly one place. -/
  places : ∀ n < q.calls, n ∉ q.inFlight.map Prod.fst → q.placesOf n = 1
  /-- No timer is triggered after it has been deleted. -/
  afterDelete : ∀ n, NeverAfter (· = .delete n) (· = .trigger n) q.history
  /-- A timer is triggered at most once by a call of `runTimer`. -/
  once : ∀ n, (sinceRunTimer q.history).count (.trigger n) ≤ 1

/-- The invariant accounts for the timers as long as no id has been taken twice. -/
lemma Inv.accounted (h : q.Inv start []) (hcalls : q.calls < 2 ^ 32) : q.Accounted := by
  refine ⟨h.unharmed, ?_, h.containers.keys, ?_, ?_, h.log.afterDelete, h.log.once⟩
  · intro p
    constructor
    · intro hp
      obtain ⟨e, he, rfl⟩ := mem_contained.mp hp
      obtain ⟨timer, htimer, -⟩ := h.containers.keys e he
      exact ⟨timer.id_, h.containers.indexed hcalls e he timer htimer⟩
    · rintro ⟨id, hlookup⟩
      obtain ⟨timer, -, -, hmem⟩ := h.containers.active id p hlookup
      exact mem_contained.mpr ⟨_, hmem, rfl⟩
  · intro id p hlookup
    obtain ⟨timer, htimer, hid, -⟩ := h.containers.active id p hlookup
    exact ⟨timer, htimer, hid⟩
  · intro n hn hcreated
    have hcount := h.census.count n
    rw [if_pos hn, List.count_eq_zero_of_not_mem hcreated] at hcount
    simp only [List.nil_append, held, numbersAt_append, List.count_append] at hcount
    rw [placesOf]
    omega

/-- The run lemma, by induction on the run. -/
lemma inv_of_exec {es : List TimerEvent} (hcurrent : Meets step WritesBackCurrent (new start) es)
    (hrun : exec step (new start) es = some q) : q.Inv start [] := by
  refine invariant_of_meets (I := fun q => q.Inv start []) ?_ (.new start) hcurrent hrun
  intro q e q' h hok hstep
  exact h.step hok hstep

/-- In every run in which `queueInLoop` writes back the vector that it has read, and in which there
are fewer than `2 ^ 32` calls of `addTimer`, the timers are accounted for. -/
theorem timers_accounted (start : BitVec 32) (es : List TimerEvent) (q : TimerQueue)
    (hcurrent : Meets step WritesBackCurrent (new start) es)
    (hrun : exec step (new start) es = some q) (hcalls : q.calls < 2 ^ 32) : q.Accounted :=
  (inv_of_exec hcurrent hrun).accounted hcalls

/-- A timer from another thread, whose callback cancels a second timer and adds a third one. -/
theorem timers_accounted_reentrant :
    ∃ q, exec step (new 0) [.takeId, .newTimer (0, 1) 100 5 (1 / 2),
        .writeBack (.addTimerInLoop 100, []), .swap, .functor, .addTimer 200 7 0, .runTimer 6,
        .trigger, .cancelTimer 2, .addTimer 200 9 0, .triggered, .restart, .finish] = some q ∧
      q.fault = none ∧ q.Accounted := by
  have hrun : ∃ q, exec step (new 0) [.takeId, .newTimer (0, 1) 100 5 (1 / 2),
        .writeBack (.addTimerInLoop 100, []), .swap, .functor, .addTimer 200 7 0, .runTimer 6,
        .trigger, .cancelTimer 2, .addTimer 200 9 0, .triggered, .restart, .finish] = some q ∧
      q.fault = none ∧ q.calls < 2 ^ 32 := exists_exec_of_any (by decide +kernel)
  obtain ⟨q, hrun, hfault, hcalls⟩ := hrun
  exact ⟨q, hrun, hfault, timers_accounted 0 _ q (by decide +kernel) hrun hcalls⟩

/-- Two threads add a timer at the same time, and both have read the empty vector before either
writes it back: the functor that adds the first timer is lost. -/
theorem not_accounted_overlap :
    ¬ ∀ (start : BitVec 32) (es : List TimerEvent) (q : TimerQueue),
      exec step (new start) es = some q → q.calls < 2 ^ 32 → q.fault ≠ some .assertion →
        q.Accounted := by
  intro h
  have hrun : ∃ q, exec step (new 0) [.takeId, .takeId, .newTimer (0, 1) 100 5 0,
      .newTimer (1, 2) 200 5 0, .writeBack (.addTimerInLoop 100, []),
      .writeBack (.addTimerInLoop 200, [])] = some q ∧
      q.calls = 2 ∧ q.inFlight = [] ∧ q.fault = none ∧ q.placesOf 0 = 0 :=
    exists_exec_of_any (by decide +kernel)
  obtain ⟨q, hrun, hcalls, hinFlight, hfault, hplaces⟩ := hrun
  have haccounted := h 0 _ q hrun (by rw [hcalls]; decide) (by rw [hfault]; decide)
  have hone := haccounted.places 0 (by rw [hcalls]; decide) (by rw [hinFlight]; decide)
  rw [hplaces] at hone
  exact absurd hone (by decide)

end TimerQueue

end SimpleMuduo
