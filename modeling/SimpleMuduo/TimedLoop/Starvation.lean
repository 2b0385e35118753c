import SimpleMuduo.TimedLoop.Deadlines

/-!
# Overdue timers

`loop()` reads the clock at the start of an iteration only if the nearest deadline is valid, that is
positive; otherwise `runTimer(now)` gets the `now` of an earlier iteration, or the initial 0.  A
timer that is overdue by the clock then waits behind one whose deadline is not positive, until the
latter has been triggered and another iteration begins.
-/

namespace SimpleMuduo

namespace TimedLoop

variable {s s' : TimedLoop} {q : TimerQueue} {n : ℕ}

/-- The timer has been triggered in this iteration, or cancelled. -/
def Served (s : TimedLoop) (n : ℕ) : Prop :=
  (∃ t ∈ s.triggers, t.iteration = s.iteration ∧ t.serial = n) ∨ .delete n ∈ s.queue.history

/-- Once `runTimer` has been called, every timer that was overdue when the iteration began has been
triggered or cancelled, or is in the batch that is being triggered; and once `runTimer` has
returned, it has been triggered or cancelled. -/
def NotStarved (s : TimedLoop) : Prop :=
  s.pc ≠ .handlers → ∀ n ∈ s.due, s.Served n ∨
    s.pc = .timers ∧ ∃ e ∈ s.queue.phase.next, HasSerial s.queue e n

/-- Until `runTimer` is called, every timer that was overdue when the iteration began is still
pending, unless it has been cancelled. -/
def DuePending (s : TimedLoop) : Prop :=
  s.pc = .handlers → ∀ n ∈ s.due, .delete n ∈ s.queue.history ∨
    ∃ e ∈ s.queue.timers_, HasSerial s.queue e n ∧ (s.nextExpired.valid → e.expiration ≤ s.now)

/-- While an overdue timer is pending, `runTimer(now)` is called with a `now` that was refreshed in
this iteration or covers the deadline anyway, and its assertion about `now` holds. -/
def CoversDue (s : TimedLoop) : TimedEvent → Prop
  | .runTimer => ∀ e ∈ s.queue.timers_, (∃ n ∈ s.due, HasSerial s.queue e n) →
      (¬ s.nextExpired.valid → e.expiration ≤ s.now) ∧ s.queue.NoneBeyondPivot s.now
  | _ => True

/-! ## The start of an iteration -/

/-- When an iteration begins the overdue timers are pending, and a clock that is read covers them.
-/
lemma duePending_beginIteration (s : TimedLoop) : s.beginIteration.DuePending := by
  intro _ n hn
  obtain ⟨⟨n', deadline⟩, hmem, rfl⟩ := List.mem_map.mp hn
  obtain ⟨hpending, hdue⟩ := List.mem_filter.mp hmem
  obtain ⟨e, he, hserial, rfl⟩ := mem_pendingTimers.mp hpending
  refine .inr ⟨e, he, hserial, fun hvalid => ?_⟩
  have hnow : s.beginIteration.now = s.clock := if_pos hvalid
  rw [hnow]
  exact (of_decide_eq_true hdue).le

/-! ## The steps outside `runTimer` -/

/-- Outside `runTimer` an overdue timer stays pending or is cancelled. -/
lemma DuePending.frame (h : s.DuePending) {pc : TimedPc} (hframe : TimerQueue.Frame s.queue q)
    (hhandlers : pc = .handlers → s.pc = .handlers) :
    DuePending { s with queue := q, pc := pc } := by
  intro hpc n hn
  rcases h (hhandlers hpc) n hn with hdeleted | ⟨e, he, ⟨timer, htimer, rfl⟩, hcovers⟩
  · exact .inl (hframe.deleted n hdeleted)
  · rcases hframe.waiting e he timer htimer with ⟨he', htimer'⟩ | hdeleted
    · exact .inr ⟨e, he', ⟨timer, htimer', rfl⟩, hcovers⟩
    · exact .inl hdeleted

/-- What has been triggered or cancelled stays so, and the batch is left alone. -/
lemma NotStarved.frame (h : s.NotStarved) {pc : TimedPc} (hframe : TimerQueue.Frame s.queue q)
    (hhandlers : s.pc = .handlers → pc = .handlers)
    (htimers : s.pc = .timers → q.phase ≠ .idle → pc = .timers) :
    NotStarved { s with queue := q, pc := pc } := by
  intro hpc n hn
  rcases h (fun heq => hpc (hhandlers heq)) n hn with
    (htriggered | hdeleted) | ⟨hbatch, e, he, timer, htimer, hserial⟩
  · exact .inl (.inl htriggered)
  · exact .inl (.inr (hframe.deleted n hdeleted))
  · refine .inr ⟨htimers hbatch fun hidle => ?_, e, ?_, timer, ?_, hserial⟩
    · rw [← hframe.phase, hidle] at he
      cases he
    · rw [hframe.phase]
      exact he
    · rw [hframe.batch e (TimerQueue.mem_batch_of_mem_next he)]
      exact htimer

/-! ## The steps of `runTimer` -/

/-- An overdue timer that is covered gets into the batch. -/
lemma DuePending.notStarved (h : s.DuePending) (hpc : s.pc = .handlers)
    (hok : s.CoversDue .runTimer)
    (hstep : s.queue.RunStep (.runTimer s.now) q) : (s.runTimer q).NotStarved := by
  intro _ n hn
  have hmem {e : TimerEntry} (he : e ∈ s.queue.timers_) (hserial : HasSerial s.queue e n)
      (hcovers : s.nextExpired.valid → e.expiration ≤ s.now) :
      e.expiration ≤ s.now ∧ s.queue.NoneBeyondPivot s.now := by
    obtain ⟨hstale, hpivot⟩ := hok e he ⟨n, hn, hserial⟩
    by_cases hvalid : s.nextExpired.valid
    · exact ⟨hcovers hvalid, hpivot⟩
    · exact ⟨hstale hvalid, hpivot⟩
  rcases h hpc n hn with hdeleted | ⟨e, he, hserial, hcovers⟩
  · left
    right
    cases hstep with
    | nothing => exact List.mem_cons_of_mem _ hdeleted
    | asserts => exact hdeleted
    | expire => exact List.mem_cons_of_mem _ hdeleted
  · obtain ⟨hle, hpivot⟩ := hmem he hserial hcovers
    cases hstep with
    | nothing _ empty =>
      rw [← OrderedSet.mem_toList, empty] at he
      cases he
    | asserts _ pivot => exact absurd hpivot pivot
    | expire =>
      refine .inr ⟨rfl, e, ?_, hserial⟩
      change e ∈ s.queue.timers_.before ⟨s.now, INT_MAX⟩
      rw [hpivot.before_eq]
      exact List.mem_filter.mpr ⟨he, decide_eq_true hle⟩

/-- An overdue timer that is not covered is left behind. -/
lemma Inv.starved (h : s.Inv) (hpc : s.pc = .handlers) (hnot : ¬ s.CoversDue .runTimer)
    (hstep : s.queue.RunStep (.runTimer s.now) q) : ¬ (s.runTimer q).NotStarved := by
  intro hserved
  simp only [CoversDue, not_forall] at hnot
  obtain ⟨e, he, ⟨n, hn, timer, htimer, rfl⟩, hleft⟩ := hnot
  have hafter : (s.runTimer q).pc ≠ .handlers := by
    simp only [TimedLoop.runTimer]
    split <;> simp
  have hbefore : ∀ t ∈ s.triggers, t.iteration ≠ s.iteration := h.before hpc
  rcases hserved hafter _ hn with (⟨t, ht, hiteration, -⟩ | hdeleted) |
    ⟨-, e', he', hserial⟩
  · exact hbefore t ht hiteration
  · have hlive := h.consistent.not_deleted htimer
    cases hstep with
    | nothing => exact hlive (by simpa [TimedLoop.runTimer, TimerQueue.record] using hdeleted)
    | asserts => exact hlive hdeleted
    | expire => exact hlive (by simpa [TimedLoop.runTimer, TimerQueue.expiredTaken] using hdeleted)
  · cases hstep with
    | nothing idle => simp [TimedLoop.runTimer, TimerQueue.record, idle, TimerPhase.next] at he'
    | asserts idle => simp [TimedLoop.runTimer, idle, TimerPhase.next] at he'
    | expire _ pivot =>
      -- the entry in the batch is that of the timer, whose deadline lies after `now`
      have hmem : e' ∈ s.queue.timers_.before ⟨s.now, INT_MAX⟩ := he'
      obtain ⟨timer', htimer', hsame⟩ := hserial
      have hpointer := h.consistent.eq_of_serial_eq htimer' htimer hsame
      obtain rfl := h.consistent.containers.eq_of_timer_eq (OrderedSet.mem_of_mem_before hmem) he
        hpointer
      rw [pivot.before_eq] at hmem
      have hle := of_decide_eq_true (List.mem_filter.mp hmem).2
      exact hleft ⟨fun _ => hle, pivot⟩

/-- Behind the first loop of `runTimer` all overdue timers have been served. -/
lemma NotStarved.keep (h : s.NotStarved) (hpc : s.pc = .timers) {pc : TimedPc}
    (hnext : s.queue.phase.next = [])
    (hdeleted : ∀ n, .delete n ∈ s.queue.history → .delete n ∈ q.history) :
    NotStarved { s with queue := q, pc := pc } := by
  intro _ n hn
  rcases h (by simp [hpc]) n hn with (htriggered | hdeleted') | ⟨-, e, he, -⟩
  · exact .inl (.inl htriggered)
  · exact .inl (.inr (hdeleted n hdeleted'))
  · rw [hnext] at he
    cases he

/-- The timers of the batch are triggered one after the other. -/
lemma NotStarved.runStep (h : s.NotStarved) {e : TimerEvent} (hpermits : s.permits e = true)
    (hstep : s.queue.RunStep e q) : (s.queueStep e q).NotStarved := by
  cases hstep with
  | nothing => cases hpermits
  | asserts => cases hpermits
  | expire => cases hpermits
  | @trigger now done e next timer phase live =>
    have hpc : s.pc = .timers := of_decide_eq_true hpermits
    intro _ n hn
    rw [queueStep, if_pos rfl, nextTrigger_eq phase live]
    rcases h (by simp [hpc]) n hn with
      (⟨t, ht, htriggered⟩ | hdeleted) | ⟨-, e', he', timer', htimer', hserial⟩
    · exact .inl (.inl ⟨t, List.mem_cons_of_mem _ ht, htriggered⟩)
    · exact .inl (.inr (List.mem_cons_of_mem _ hdeleted))
    · rw [phase] at he'
      rcases List.mem_cons.mp he' with rfl | he'
      · obtain rfl := Option.some.inj (live.symm.trans htimer')
        exact .inl (.inl ⟨_, List.mem_cons_self, rfl, hserial⟩)
      · refine .inr ⟨?_, e', he', timer', htimer', hserial⟩
        simp [pcAfter, hpc]
  | triggered phase =>
    exact h.keep (of_decide_eq_true hpermits) (by rw [phase]; rfl) fun _ => id
  | restart phase =>
    exact h.keep (of_decide_eq_true hpermits) (by rw [phase]; rfl) fun _ => id
  | delete phase =>
    refine h.keep (of_decide_eq_true hpermits) (by rw [phase]; rfl) fun n hn => ?_
    exact List.mem_cons_of_mem _ hn
  | finish phase =>
    exact h.keep (of_decide_eq_true hpermits) (by rw [phase]; rfl) fun _ => id
  | finishAsserts phase =>
    exact h.keep (of_decide_eq_true hpermits) (by rw [phase]; rfl) fun _ => id

/-! ## All steps -/

/-- The thread of the loop goes on outside `runTimer`. -/
lemma NotStarved.goOn (h : s.NotStarved) {pc : TimedPc} {now : Timestamp}
    (hhandlers : s.pc ≠ .handlers) (htimers : s.pc ≠ .timers) :
    NotStarved { s with now := now, pc := pc } := by
  intro _ n hn
  rcases h hhandlers n hn with hserved | ⟨hpc, -⟩
  · exact .inl hserved
  · exact absurd hpc htimers

lemma Inv.step_notStarved (h : s.Inv) (hpending : s.DuePending) (hserved : s.NotStarved)
    {e : TimedEvent} (hok : s.CoversDue e) (hstep : s.step e = some s') :
    s'.DuePending ∧ s'.NotStarved := by
  unfold TimedLoop.step at hstep
  obtain ⟨-, hstep⟩ := Option.ite_none_left_eq_some.mp hstep
  cases e with
  | tick microseconds =>
    obtain rfl := Option.some.inj hstep
    exact ⟨hpending, hserved⟩
  | enter =>
    obtain ⟨hpc, hstep⟩ := Option.ite_none_right_eq_some.mp hstep
    obtain rfl := Option.some.inj hstep
    exact ⟨fun heq => (by cases heq), hserved.goOn (by simp [hpc]) (by simp [hpc])⟩
  | leave =>
    obtain ⟨hpc, hstep⟩ := Option.ite_none_right_eq_some.mp hstep
    obtain rfl := Option.some.inj hstep
    exact ⟨fun heq => (by cases heq), hserved.goOn (by simp [hpc]) (by simp [hpc])⟩
  | beginIteration =>
    obtain ⟨-, hstep⟩ := Option.ite_none_right_eq_some.mp hstep
    obtain rfl := Option.some.inj hstep
    exact ⟨duePending_beginIteration s, fun hpc => absurd rfl hpc⟩
  | runTimer =>
    obtain ⟨hpc, hstep⟩ := Option.ite_none_right_eq_some.mp hstep
    obtain ⟨q, hq, rfl⟩ := Option.map_eq_some_iff.mp hstep
    obtain ⟨-, ⟨hno, -⟩ | hrun⟩ := h.consistent.step hq
    · cases hno
    · refine ⟨fun hhandlers => ?_, hpending.notStarved hpc hok hrun⟩
      simp only [TimedLoop.runTimer] at hhandlers
      split at hhandlers <;> cases hhandlers
  | queue e =>
    obtain ⟨hpermits, hstep⟩ := Option.ite_none_right_eq_some.mp hstep
    obtain ⟨q, hq, rfl⟩ := Option.map_eq_some_iff.mp hstep
    obtain ⟨-, ⟨hother, hframe⟩ | hrun⟩ := h.consistent.step hq
    · have htrigger : e ≠ .trigger := by
        rintro rfl
        cases hother
      rw [queueStep, if_neg htrigger]
      refine ⟨hpending.frame hframe pcAfter_eq_handlers, hserved.frame hframe (fun hpc => ?_) ?_⟩
      · have hswap : e ≠ .swap := by
          rintro rfl
          simp [permits, hpc] at hpermits
        simp [pcAfter, hpc, hswap]
      · intro hpc hphase
        have hswap : e ≠ .swap := by
          rintro rfl
          simp [permits, hpc] at hpermits
        simp [pcAfter, hpc, hswap, hphase]
    · refine ⟨fun hhandlers => ?_, hserved.runStep hpermits hrun⟩
      have hpc : s.pc = .handlers := pcAfter_eq_handlers hhandlers
      cases hrun <;> simp [permits, hpc] at hpermits
  | endIteration =>
    obtain ⟨⟨hpc, -⟩, hstep⟩ := Option.ite_none_right_eq_some.mp hstep
    obtain rfl := Option.some.inj hstep
    exact ⟨fun heq => (by cases heq), hserved.goOn (by simp [hpc]) (by simp [hpc])⟩

/-- Where an overdue timer is not covered, it is starved. -/
lemma Inv.step_starved (h : s.Inv) {e : TimedEvent} (hnot : ¬ s.CoversDue e)
    (hstep : s.step e = some s') : ¬ s'.NotStarved := by
  unfold TimedLoop.step at hstep
  obtain ⟨-, hstep⟩ := Option.ite_none_left_eq_some.mp hstep
  cases e with
  | runTimer =>
    obtain ⟨hpc, hstep⟩ := Option.ite_none_right_eq_some.mp hstep
    obtain ⟨q, hq, rfl⟩ := Option.map_eq_some_iff.mp hstep
    obtain ⟨-, ⟨hno, -⟩ | hrun⟩ := h.consistent.step hq
    · cases hno
    · exact h.starved hpc hnot hrun
  | _ => exact absurd trivial hnot

end TimedLoop

/-- No overdue timer is starved in a run, if and only if each call of `runTimer(now)` while one is
pending has a `now` that covers it. -/
theorem not_starved_iff (atomic_ : BitVec 32) (clock : ℕ) (es : List TimedEvent) :
    Always TimedLoop.step TimedLoop.NotStarved (.new atomic_ clock) es ↔
      Meets TimedLoop.step TimedLoop.CoversDue (.new atomic_ clock) es := by
  refine always_iff_meets (I := fun s : TimedLoop => s.Inv ∧ s.DuePending ∧ s.NotStarved) ?_
    (fun s h => h.2.2) ?_
    ⟨.new atomic_ clock, fun hpc => (by cases hpc), fun _ _ hn => absurd hn List.not_mem_nil⟩
  · rintro s e s' ⟨hinv, hpending, hserved⟩ hok hstep
    exact ⟨hinv.step hstep, hinv.step_notStarved hpending hserved hok hstep⟩
  · rintro s e s' ⟨hinv, -⟩ hnot hstep
    exact hinv.step_starved hnot hstep

/-- At 10 there are timers for -1 and 5.  In the first iteration the nearest deadline is not valid,
so that `now` is 0, and only the timer for -1 is triggered. -/
theorem starved_behind_negative_deadline :
    ¬ ∀ (atomic_ : BitVec 32) (clock : ℕ) (es : List TimedEvent) (s : TimedLoop),
      exec TimedLoop.step (.new atomic_ clock) es = some s → s.pc = .condition →
        ∀ n ∈ s.due, s.Served n := by
  intro h
  have hrun : ∃ s, exec TimedLoop.step (.new 0 10) [.queue (.addTimer 100 (-1) 0),
      .queue (.addTimer 200 5 0), .enter, .beginIteration, .runTimer, .queue .trigger,
      .queue .triggered, .queue .restart, .queue .finish, .queue .swap, .endIteration] = some s ∧
      s.pc = .condition ∧ 1 ∈ s.due ∧ (∀ t ∈ s.triggers, t.serial ≠ 1) ∧
      .delete 1 ∉ s.queue.history := exists_exec_of_any (by decide +kernel)
  obtain ⟨s, hrun, hpc, hdue, htriggers, hdeleted⟩ := hrun
  rcases h 0 10 _ s hrun hpc 1 hdue with ⟨t, ht, -, hserial⟩ | hmem
  · exact htriggers t ht hserial
  · exact hdeleted hmem

end SimpleMuduo
