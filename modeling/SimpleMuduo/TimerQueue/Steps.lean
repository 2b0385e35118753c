import SimpleMuduo.TimerQueue.Invariant

/-!
# The member functions and steps of the timer queue

Under the invariant no member function uses a deleted timer, so that each of them either returns, in
a state that is spelled out here, or fails an assertion.  Every step keeps the invariant, as long as
`queueInLoop` writes back the vector that it has read.
-/

namespace SimpleMuduo

namespace TimerQueue

variable {start : BitVec 32} {q q' : TimerQueue} {p : TimerPtr} {timer : Timer} {id : TimerId}
  {now : Timestamp} {e : TimerEntry} {done next rest : List TimerEntry}

/-! ## The member functions -/

/-- `addTimer` of a timer that exists inserts it. -/
lemma addTimer_eq (htimer : q.heap p = some timer) :
    q.addTimer p = .ok (q.insertTimer p timer) := by
  rw [addTimer, htimer]

/-- What `addTimer(cb, when, interval)` has made of the queue on the loop's thread. -/
def addedOnLoop (q : TimerQueue) (p : TimerPtr) (when_ : Timestamp) (interval_ : ℚ) : TimerQueue :=
  ((q.takeId.newTimer (q.calls, q.atomic_ + 1) p when_ interval_).record
    (.addTimer q.calls (q.atomic_ + 1))).insertTimer p ⟨q.calls, q.atomic_ + 1, when_, interval_⟩

/-- `addTimer` on the loop's thread takes an id, creates a timer and inserts it. -/
lemma addTimerOnLoop_eq (when_ : Timestamp) (interval_ : ℚ) :
    q.addTimerOnLoop p when_ interval_ = .ok (q.addedOnLoop p when_ interval_) :=
  addTimer_eq (Function.update_self ..)

/-- What `cancelTimerInLoop` has made of the queue when it has found the timer at `p`. -/
def cancelledAt (q : TimerQueue) (id : TimerId) (p : TimerPtr) (timer : Timer) : TimerQueue :=
  ((q.eraseTimer id ⟨timer.when_, p⟩).deleteTimer p timer).record (.cancelTimerInLoop id)

/-- What it has made of the queue when it has not found one. -/
def notFound (q : TimerQueue) (id : TimerId) : TimerQueue :=
  { q with
    cancelTimers_ :=
      if q.callingTimesFunctor_ then insert id q.cancelTimers_ else q.cancelTimers_ }.record
    (.cancelTimerInLoop id)

/-- `cancelTimerInLoop` deletes a timer that it finds. -/
lemma cancelTimerInLoop_of_found {calls : ℕ}
    (h : TimerContainers calls q.heap q.timers_ q.activeTimers_)
    (hlookup : q.activeTimers_.lookup id = some p) (htimer : q.heap p = some timer) :
    q.cancelTimerInLoop id = (q.cancelledAt id p timer).checkSizes := by
  obtain ⟨timer', htimer', -, hmem⟩ := h.active id p hlookup
  obtain rfl := Option.some.inj (htimer.symm.trans htimer')
  simp only [cancelTimerInLoop, hlookup, htimer]
  rw [if_pos hmem]
  rfl

/-- `cancelTimerInLoop` may note the id of a timer that it does not find. -/
lemma cancelTimerInLoop_of_not_found (hlookup : q.activeTimers_.lookup id = none) :
    q.cancelTimerInLoop id = (q.notFound id).checkSizes := by
  simp only [cancelTimerInLoop, hlookup, notFound]
  split_ifs <;> rfl

/-- `getExpiredTimers` takes the expired timers out of both containers, or fails its assertion. -/
lemma getExpiredTimers_cases {calls : ℕ}
    (h : TimerContainers calls q.heap q.timers_ q.activeTimers_) (now : Timestamp) :
    q.getExpiredTimers now = .error .assertion ∨
      ∃ activeTimers_, q.getExpiredTimers now = .ok (q.timers_.before ⟨now, INT_MAX⟩, { q with
          timers_ := q.timers_.notBefore ⟨now, INT_MAX⟩
          activeTimers_ := activeTimers_ }) ∧
        ∀ id p, activeTimers_.lookup id = some p ↔ q.activeTimers_.lookup id = some p ∧
          ∀ e ∈ q.timers_.before ⟨now, INT_MAX⟩, ∀ timer, q.heap e.timer = some timer →
            timer.id_ ≠ id := by
  have hlive : ∀ e ∈ q.timers_.before ⟨now, INT_MAX⟩, ∃ timer, q.heap e.timer = some timer := by
    intro e he
    obtain ⟨timer, htimer, -⟩ := h.keys e (OrderedSet.mem_of_mem_before he)
    exact ⟨timer, htimer⟩
  obtain ⟨activeTimers_, hok, hlookup⟩ := TimerContainers.eraseExpired_ok hlive q.activeTimers_
  unfold getExpiredTimers
  simp only [hok]
  split_ifs
  · exact .inr ⟨activeTimers_, rfl, hlookup⟩
  · exact .inl rfl

/-- What `runTimer` has made of the queue when it gets to its first loop. -/
def expiredTaken (q : TimerQueue) (now : Timestamp)
    (activeTimers_ : AList fun _ : TimerId => TimerPtr) : TimerQueue :=
  { q with
    timers_ := q.timers_.notBefore ⟨now, INT_MAX⟩
    activeTimers_ := activeTimers_
    cancelTimers_ := ∅
    callingTimesFunctor_ := true
    phase := .triggering now [] (q.timers_.before ⟨now, INT_MAX⟩)
    history := .runTimer now :: q.history }

/-- `runTimer` has nothing to do, takes the expired timers out, or fails an assertion. -/
lemma runTimer_cases {calls : ℕ}
    (h : TimerContainers calls q.heap q.timers_ q.activeTimers_) (now : Timestamp) :
    q.runTimer now = .ok (q.record (.runTimer now)) ∨ q.runTimer now = .error .assertion ∨
      ∃ activeTimers_, q.runTimer now = .ok (q.expiredTaken now activeTimers_) ∧
        ∀ id p, activeTimers_.lookup id = some p ↔ q.activeTimers_.lookup id = some p ∧
          ∀ e ∈ q.timers_.before ⟨now, INT_MAX⟩, ∀ timer, q.heap e.timer = some timer →
            timer.id_ ≠ id := by
  unfold runTimer
  split_ifs
  · exact .inl rfl
  · have hbegun : TimerContainers calls q.beginRun.heap q.beginRun.timers_
        q.beginRun.activeTimers_ := h
    rcases getExpiredTimers_cases hbegun now with herror | ⟨activeTimers_, hok, hlookup⟩
    · rw [herror]
      exact .inr (.inl rfl)
    · rw [hok]
      exact .inr (.inr ⟨activeTimers_, rfl, hlookup⟩)

/-- `trigger` calls the callback of a timer that exists. -/
lemma trigger_eq (htimer : q.heap e.timer = some timer) :
    q.trigger now done e next = .ok { q with
      phase := .triggering now (done ++ [e]) next
      history := .trigger timer.serial :: q.history } := by
  rw [trigger, htimer]

/-- The queue when `restart(now)` of a timer of the expired batch has returned. -/
def replaced (q : TimerQueue) (now : Timestamp) (e : TimerEntry) (rest : List TimerEntry)
    (timer : Timer) : TimerQueue :=
  { q with
    heap := Function.update q.heap e.timer (some (timer.restart now))
    phase := .restarting now rest }

/-- What the second loop of `runTimer` has made of the queue when it has restarted a timer. -/
def restarted (q : TimerQueue) (now : Timestamp) (e : TimerEntry) (rest : List TimerEntry)
    (timer : Timer) : TimerQueue :=
  (q.replaced now e rest timer).insertTimer e.timer (timer.restart now)

/-- A timer that repeats and has not been cancelled is restarted; others are deleted. -/
lemma restartOrDelete_eq (htimer : q.heap e.timer = some timer) :
    q.restartOrDelete now e rest =
      if timer.repeats ∧ timer.id_ ∉ q.cancelTimers_ then .ok (q.restarted now e rest timer)
      else .ok ({ q with phase := .restarting now rest }.deleteTimer e.timer timer) := by
  rw [restartOrDelete, htimer]
  simp only
  split_ifs with hrestart
  · exact addTimer_eq (Function.update_self ..)
  · rfl

/-! ## They keep the invariant -/

namespace Inv

/-- `addTimer` on the loop's thread. -/
lemma addTimerOnLoop (h : q.Inv start []) (hfree : q.Free p) (when_ : Timestamp)
    (interval_ : ℚ) : (q.addedOnLoop p when_ interval_).Inv start [] := by
  have hcreated : (q.takeId.newTimer (q.calls, q.atomic_ + 1) p when_ interval_).Inv start [p] :=
    h.takeId.newTimer List.mem_cons_self hfree when_ interval_
  exact (hcreated.record_addTimer _ _).insertTimer (Function.update_self ..)

/-- `cancelTimerInLoop`, whether it finds the timer or not. -/
lemma cancelTimerInLoop (h : q.Inv start []) (id : TimerId) :
    KeepsInv start (q.cancelTimerInLoop id) := by
  cases hlookup : q.activeTimers_.lookup id with
  | none =>
    rw [cancelTimerInLoop_of_not_found hlookup]
    exact ((h.setCancelling _ q.callingTimesFunctor_).record_cancel id).checkSizes
  | some p =>
    obtain ⟨timer, htimer, -⟩ := h.containers.active id p hlookup
    rw [cancelTimerInLoop_of_found h.containers hlookup htimer]
    exact (((h.eraseTimer hlookup htimer).deleteTimer htimer).record_cancel id).checkSizes

/-- `runTimer` up to its first loop. -/
lemma runTimer (h : q.Inv start []) (hidle : q.phase = .idle) (now : Timestamp) :
    KeepsInv start (q.runTimer now) := by
  rcases runTimer_cases h.containers now with hok | herror | ⟨activeTimers_, hok, hlookup⟩
  · rw [hok]
    refine ⟨h.census, ⟨h.ids.next, h.ids.inFlight, h.ids.timers⟩, h.containers, ?_, h.unharmed⟩
    exact h.log.runTimer now _
  · rw [herror]
    rfl
  · rw [hok]
    refine ⟨h.census.perm ?_, ⟨h.ids.next, h.ids.inFlight, h.ids.timers⟩,
      h.containers.expire hlookup, h.log.runTimer now _, h.unharmed⟩
    refine List.perm_iff_count.mpr fun x => ?_
    have hcut := congrArg (fun l => List.count x (l.map TimerEntry.timer))
      (q.timers_.before_append_notBefore ⟨now, INT_MAX⟩)
    simp only [List.map_append, List.count_append] at hcut
    simp only [held, queued, contained, batch, expiredTaken, hidle, TimerPhase.batch,
      List.map_nil, List.nil_append, List.append_nil, List.count_append]
    omega

/-- One round of the first loop of `runTimer`. -/
lemma trigger (h : q.Inv start []) (hphase : q.phase = .triggering now done (e :: next)) :
    KeepsInv start (q.trigger now done e next) := by
  have hbatch : q.phase.batch = done ++ e :: next := by
    rw [hphase]
    rfl
  have he : e.timer ∈ q.held := mem_held_of_mem_batch (hbatch ▸ by simp)
  obtain ⟨timer, htimer⟩ := h.census.live _ he
  rw [trigger_eq htimer]
  refine ⟨h.census.perm ?_, ⟨h.ids.next, h.ids.inFlight, h.ids.timers⟩, h.containers, ?_,
    h.unharmed⟩
  · simp only [held, queued, contained, batch, hphase, TimerPhase.batch, List.append_assoc,
      List.cons_append, List.nil_append]
    exact List.Perm.refl _
  · have hlog := h.log
    rw [hphase] at hlog
    refine TriggerLog.trigger hlog htimer ?_ ?_
    · intro hdeleted
      exact h.census.not_deleted he htimer (mem_deletedIn.mpr hdeleted)
    · intro e' he' timer' htimer' hserial
      have hnext : e' ∈ next := he'
      have hmem' : e'.timer ∈ q.held := mem_held_of_mem_batch (hbatch ▸ by simp [hnext])
      have heq := h.census.eq_of_number_eq hmem' he htimer' htimer hserial
      have hnodup := h.census.nodup
      simp only [held, batch, hbatch, List.nil_append, List.map_append, List.map_cons] at hnodup
      have hcons := (List.nodup_append.mp (List.nodup_append.mp hnodup).2.1).2.1
      exact (List.nodup_cons.mp hcons).1 (List.mem_map.mpr ⟨e', he', heq⟩)

/-- The end of the first loop. -/
lemma triggered (h : q.Inv start []) (hphase : q.phase = .triggering now done []) :
    ({ q with callingTimesFunctor_ := false, phase := .restarting now done }).Inv start [] := by
  refine ⟨h.census.perm ?_, ⟨h.ids.next, h.ids.inFlight, h.ids.timers⟩, h.containers,
    h.log.none_waiting _, h.unharmed⟩
  simp only [held, queued, contained, batch, hphase, TimerPhase.batch, List.append_nil]
  exact List.Perm.refl _

/-- One round of the second loop. -/
lemma restartOrDelete (h : q.Inv start []) (hphase : q.phase = .restarting now (e :: rest)) :
    KeepsInv start (q.restartOrDelete now e rest) := by
  have hpopped := h.popEntry hphase
  obtain ⟨timer, htimer⟩ : ∃ timer, q.heap e.timer = some timer := hpopped.live_inHand
  rw [restartOrDelete_eq htimer]
  split_ifs
  · refine insertTimer ?_ (Function.update_self ..)
    refine ⟨hpopped.census.replace htimer (timer.restart_serial now), ⟨h.ids.next, h.ids.inFlight,
      timers_update h.ids.timers ?_⟩, hpopped.containers.update hpopped.ne_of_mem_timers,
      h.log.none_waiting _, h.unharmed⟩
    intro timer' htimer'
    obtain rfl := Option.some.inj htimer'
    rw [Timer.restart_id_, Timer.restart_serial]
    exact h.ids.timers _ timer htimer
  · exact hpopped.deleteTimer htimer

/-- The end of `runTimer`. -/
lemma finish (h : q.Inv start []) (hphase : q.phase = .restarting now []) :
    KeepsInv start ({ q with phase := .idle }).checkSizes := by
  refine checkSizes ⟨h.census.perm ?_, ⟨h.ids.next, h.ids.inFlight, h.ids.timers⟩, h.containers,
    h.log.none_waiting _, h.unharmed⟩
  simp only [held, queued, contained, batch, hphase, TimerPhase.batch]
  exact List.Perm.refl _

/-- `doPendingFunctors` calls the next functor.  One that adds a timer always returns. -/
lemma callFunctor {f : TimerFunctor} {functors : List TimerFunctor} (h : q.Inv start [])
    (hfunctors : q.functors = f :: functors) :
    (({ q with functors := functors }).outcome (({ q with functors := functors }).call f)).Inv start
      [] := by
  have hpopped := h.popFunctor hfunctors
  cases f with
  | addTimerInLoop p =>
    obtain ⟨timer, htimer⟩ := hpopped.live_inHand
    rw [TimerQueue.call, addTimer_eq htimer]
    exact hpopped.insertTimer htimer
  | cancelTimerInLoop id => exact hpopped.outcome (hpopped.cancelTimerInLoop id)
  | other => exact hpopped

end Inv

/-! ## The steps -/

/-- `queueInLoop` writes back the vector that it has read: nobody has touched it in between. -/
def WritesBackCurrent (q : TimerQueue) : TimerEvent → Prop
  | .writeBack push => push.2 = q.pendingFunctors_
  | _ => True

instance (q : TimerQueue) (e : TimerEvent) : Decidable (q.WritesBackCurrent e) := by
  cases e <;> dsimp only [WritesBackCurrent] <;> infer_instance

namespace Inv

/-- The steps of `runTimer`. -/
lemma stepRunTimer {e : TimerEvent} (h : q.Inv start [])
    (hstep : q.stepRunTimer q.phase e = some q') : q'.Inv start [] := by
  unfold TimerQueue.stepRunTimer at hstep
  split at hstep
  · rename_i now hphase
    obtain ⟨-, hstep⟩ := Option.ite_none_right_eq_some.mp hstep
    obtain rfl := Option.some.inj hstep
    exact h.outcome (h.runTimer hphase now)
  · rename_i hphase
    obtain rfl := Option.some.inj hstep
    exact h.outcome (h.trigger hphase)
  · rename_i hphase
    obtain rfl := Option.some.inj hstep
    exact h.triggered hphase
  · rename_i hphase
    obtain rfl := Option.some.inj hstep
    exact h.outcome (h.restartOrDelete hphase)
  · rename_i hphase
    obtain rfl := Option.some.inj hstep
    exact h.outcome (h.finish hphase)
  · cases hstep

/-- The steps of the threads, as long as the process runs. -/
lemma stepRunning {e : TimerEvent} (h : q.Inv start []) (hok : q.WritesBackCurrent e)
    (hstep : q.stepRunning e = some q') : q'.Inv start [] := by
  cases e with
  | takeId =>
    obtain rfl := Option.some.inj hstep
    exact h.takeId
  | newTimer call p when_ interval_ =>
    obtain ⟨⟨hcall, hfree⟩, hstep⟩ := Option.ite_none_right_eq_some.mp hstep
    obtain rfl := Option.some.inj hstep
    exact (h.newTimer hcall hfree when_ interval_).queueInLoop (f := .addTimerInLoop p)
  | queueCancel id =>
    obtain rfl := Option.some.inj hstep
    exact h.queueInLoop (f := .cancelTimerInLoop id)
  | queueOther =>
    obtain rfl := Option.some.inj hstep
    exact h.queueInLoop (f := .other)
  | writeBack push =>
    obtain ⟨hpush, hstep⟩ := Option.ite_none_right_eq_some.mp hstep
    obtain rfl := Option.some.inj hstep
    exact h.writeBack hpush hok
  | addTimer p when_ interval_ =>
    obtain ⟨⟨-, hfree⟩, hstep⟩ := Option.ite_none_right_eq_some.mp hstep
    obtain rfl := Option.some.inj hstep
    rw [addTimerOnLoop_eq]
    exact h.addTimerOnLoop hfree when_ interval_
  | cancelTimer id =>
    obtain ⟨-, hstep⟩ := Option.ite_none_right_eq_some.mp hstep
    obtain rfl := Option.some.inj hstep
    exact h.outcome (h.cancelTimerInLoop id)
  | swap =>
    obtain ⟨⟨-, hfunctors⟩, hstep⟩ := Option.ite_none_right_eq_some.mp hstep
    obtain rfl := Option.some.inj hstep
    exact h.swap hfunctors
  | functor =>
    obtain ⟨f, rest, -, hfunctors, rfl⟩ := callNextFunctor_eq_some hstep
    exact h.callFunctor hfunctors
  | runTimer now => exact h.stepRunTimer (e := .runTimer now) hstep
  | trigger => exact h.stepRunTimer (e := .trigger) hstep
  | triggered => exact h.stepRunTimer (e := .triggered) hstep
  | restart => exact h.stepRunTimer (e := .restart) hstep
  | finish => exact h.stepRunTimer (e := .finish) hstep

/-- The step lemma. -/
lemma step {e : TimerEvent} (h : q.Inv start []) (hok : q.WritesBackCurrent e)
    (hstep : q.step e = some q') : q'.Inv start [] := by
  unfold TimerQueue.step at hstep
  split at hstep
  · exact h.stepRunning hok hstep
  · cases hstep

end Inv

end TimerQueue

end SimpleMuduo
