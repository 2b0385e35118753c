import SimpleMuduo.TimedLoop.State

/-!
# When timers are triggered

`now` is never ahead of the clock, and a batch is what lies before `now` in an ordered set.  So no
timer fires early, and a batch goes through its deadlines in order and leaves out none that is
earlier.  A repeating timer is restarted relative to the `now` of its batch; as long as `operator+`
does not overflow, it is triggered again only by a `runTimer(now)` that is at least its interval
later.  When the sum overflows, its next deadline lies in the past.  None of this depends on how the
functor queue is synchronised.

`Inv` holds in every run, and `SpacedInv`, on top of it, in those without an overflow.
-/

namespace SimpleMuduo

/-! ## The property -/

/-- What holds of the triggers of every run, the newest first. -/
structure TriggersInOrder (triggers : List Trigger) : Prop where
  /-- The clock has reached the deadline. -/
  notEarly : ∀ t ∈ triggers, t.deadline ≤ t.clock
  /-- The deadlines of one batch are not decreasing. -/
  ordered : triggers.Pairwise fun later earlier =>
    later.iteration = earlier.iteration → earlier.deadline ≤ later.deadline
  /-- A timer that was pending at the start of the batch with an earlier deadline has been triggered
  before. -/
  complete : ∀ later t earlier, triggers = later ++ t :: earlier →
    ∀ timer ∈ t.pending, timer.2 < t.deadline →
      ∃ t' ∈ earlier, t'.iteration = t.iteration ∧ t'.serial = timer.1

/-- Two triggers of one timer are at least the amount apart that `operator+` adds for its interval,
which is not negative. -/
def Trigger.Spaced (later earlier : Trigger) : Prop :=
  later.serial = earlier.serial →
    earlier.now + Timestamp.delta earlier.interval ≤ later.now ∧
      0 ≤ Timestamp.delta earlier.interval

/-- What is asked of the triggers of a run. -/
structure FiresInOrder (triggers : List Trigger) : Prop extends TriggersInOrder triggers where
  spaced : triggers.Pairwise Trigger.Spaced

lemma TriggersInOrder.nil : TriggersInOrder [] := by
  refine ⟨?_, List.Pairwise.nil, ?_⟩
  · intro t ht
    cases ht
  · intro later t earlier h
    exact absurd h (by simp)

/-- A trigger is added. -/
lemma TriggersInOrder.cons {triggers : List Trigger} {t : Trigger} (h : TriggersInOrder triggers)
    (hclock : t.deadline ≤ t.clock)
    (hordered : ∀ t' ∈ triggers, t'.iteration = t.iteration → t'.deadline ≤ t.deadline)
    (hcomplete : ∀ timer ∈ t.pending, timer.2 < t.deadline →
      ∃ t' ∈ triggers, t'.iteration = t.iteration ∧ t'.serial = timer.1) :
    TriggersInOrder (t :: triggers) := by
  refine ⟨?_, ?_, ?_⟩
  · exact List.forall_mem_cons.mpr ⟨hclock, h.notEarly⟩
  · exact List.pairwise_cons.mpr ⟨fun t' ht' heq => hordered t' ht' heq.symm, h.ordered⟩
  · intro later t' earlier heq
    cases later with
    | nil =>
      obtain ⟨rfl, rfl⟩ := List.cons.inj heq
      exact hcomplete
    | cons first later =>
      obtain ⟨-, hrest⟩ := List.cons.inj heq
      exact h.complete later t' earlier hrest

/-! ## The phases of `runTimer` -/

namespace TimerPhase

/-- The argument of `runTimer`. -/
def now : TimerPhase → Timestamp
  | .idle => 0
  | .triggering now _ _ => now
  | .restarting now _ => now

/-- The timers of the batch that have been triggered and not been restarted or deleted yet. -/
def triggered : TimerPhase → List TimerEntry
  | .idle => []
  | .triggering _ done _ => done
  | .restarting _ rest => rest

end TimerPhase

namespace TimedLoop

variable {s s' : TimedLoop} {q : TimerQueue}

/-- The serial number of the timer at an entry. -/
def HasSerial (q : TimerQueue) (e : TimerEntry) (n : ℕ) : Prop :=
  ∃ timer, q.heap e.timer = some timer ∧ timer.serial = n

/-- The batch against the clock and the triggers of the iteration. -/
structure BatchInv (s : TimedLoop) : Prop where
  now_le : s.queue.phase.now ≤ s.clock
  expired : ∀ e ∈ s.queue.phase.batch, e.expiration ≤ s.queue.phase.now
  sorted : s.queue.phase.batch.Pairwise (· ≤ ·)
  inOrder : ∀ t ∈ s.triggers, t.iteration = s.iteration →
    ∀ e ∈ s.queue.phase.next, t.deadline ≤ e.expiration
  waiting : ∀ now done next, s.queue.phase = .triggering now done next →
    ∀ timer ∈ s.pending, timer.2 < now →
      (∃ t ∈ s.triggers, t.iteration = s.iteration ∧ t.serial = timer.1) ∨
        ∃ e ∈ next, e.expiration = timer.2 ∧ HasSerial s.queue e timer.1

/-- The invariant of the loop. -/
structure Inv (s : TimedLoop) : Prop where
  consistent : s.queue.Consistent
  now_le : s.now ≤ s.clock
  idle : s.pc ≠ .timers → s.queue.phase = .idle
  iteration_le : ∀ t ∈ s.triggers, t.iteration ≤ s.iteration
  /-- In an iteration nothing is triggered before `runTimer`. -/
  before : s.pc = .handlers → ∀ t ∈ s.triggers, t.iteration ≠ s.iteration
  born : ∀ t ∈ s.triggers, ¬ s.queue.Unborn t.serial
  fires : TriggersInOrder s.triggers
  batch : BatchInv s

/-- A loop that has not triggered anything. -/
lemma Inv.new (atomic_ : BitVec 32) (clock : ℕ) : Inv (.new atomic_ clock) where
  consistent := .new atomic_
  now_le := Int.natCast_nonneg clock
  idle := fun _ => rfl
  iteration_le := fun _ ht => absurd ht List.not_mem_nil
  before := fun _ _ ht => absurd ht List.not_mem_nil
  born := fun _ ht => absurd ht List.not_mem_nil
  fires := .nil
  batch :=
    { now_le := Int.natCast_nonneg clock
      expired := fun _ he => absurd he List.not_mem_nil
      sorted := List.Pairwise.nil
      inOrder := fun _ ht => absurd ht List.not_mem_nil
      waiting := fun _ _ _ hphase => by cases hphase }

/-! ## The steps outside `runTimer` -/

lemma pcAfter_eq_handlers {e : TimerEvent} (h : s.pcAfter e q = .handlers) : s.pc = .handlers := by
  unfold pcAfter at h
  split_ifs at h
  exact h

/-- A step of the timer queue leaves `runTimer` when there is no batch any more. -/
lemma idle_of_pcAfter_ne {e : TimerEvent} (hpc : s.pcAfter e q ≠ .timers)
    (hpermits : s.permits e = true) (hidle : s.pc ≠ .timers → q.phase = .idle) :
    q.phase = .idle := by
  by_cases htimers : s.pc = .timers
  · by_contra hphase
    have hswap : e ≠ .swap := by
      rintro rfl
      simp [permits, htimers] at hpermits
    simp [pcAfter, htimers, hphase, hswap] at hpc
  · exact hidle htimers

/-- Steps outside `runTimer` change neither the batch nor the timers that have been triggered. -/
lemma Inv.frame (h : s.Inv) {pc : TimedPc} (hconsistent : q.Consistent)
    (hframe : TimerQueue.Frame s.queue q) (hidle : pc ≠ .timers → q.phase = .idle)
    (hhandlers : pc = .handlers → s.pc = .handlers) :
    Inv { s with queue := q, pc := pc } := by
  have hnext : ∀ e ∈ s.queue.phase.next, q.heap e.timer = s.queue.heap e.timer := fun e he =>
    hframe.batch e (TimerQueue.mem_batch_of_mem_next he)
  obtain ⟨hnow, hexpired, hsorted, hinOrder, hwaiting⟩ := h.batch
  refine ⟨hconsistent, h.now_le, hidle, h.iteration_le, fun hpc => h.before (hhandlers hpc), ?_,
    h.fires, ⟨?_, ?_, ?_, ?_, ?_⟩⟩
  · intro t ht hunborn
    exact h.born t ht (hframe.unborn _ hunborn)
  · rw [hframe.phase]
    exact hnow
  · rw [hframe.phase]
    exact hexpired
  · rw [hframe.phase]
    exact hsorted
  · rw [hframe.phase]
    exact hinOrder
  · intro now done next hphase timer htimer hlt
    have hphase' : s.queue.phase = .triggering now done next := hframe.phase.symm.trans hphase
    rcases hwaiting now done next hphase' timer htimer hlt with
      htriggered | ⟨e, he, heq, object, hobject, hserial⟩
    · exact .inl htriggered
    · refine .inr ⟨e, he, heq, object, ?_, hserial⟩
      rw [hnext e (by rw [hphase']; exact he)]
      exact hobject

/-! ## The steps of `runTimer` -/

/-- A timer that is pending is at an entry of `timers_`. -/
lemma mem_pendingTimers {n : ℕ} {deadline : Timestamp} :
    (n, deadline) ∈ q.pendingTimers ↔
      ∃ e ∈ q.timers_, HasSerial q e n ∧ e.expiration = deadline := by
  simp only [TimerQueue.pendingTimers, List.mem_filterMap, Option.map_eq_some_iff, HasSerial,
    Prod.mk.injEq]
  constructor
  · rintro ⟨e, he, timer, htimer, rfl, rfl⟩
    exact ⟨e, he, ⟨timer, htimer, rfl⟩, rfl⟩
  · rintro ⟨e, he, ⟨timer, htimer, rfl⟩, rfl⟩
    exact ⟨e, he, timer, htimer, rfl, rfl⟩

/-- `runTimer` is called when there is no timer, or fails its assertion. -/
lemma Inv.runTimer_idle (h : s.Inv) (hconsistent : q.Consistent) (hphase : q.phase = .idle)
    (hunborn : ∀ n, q.Unborn n → s.queue.Unborn n) : Inv (s.runTimer q) := by
  refine ⟨hconsistent, h.now_le, fun _ => hphase, h.iteration_le, ?_,
    fun t ht hu => h.born t ht (hunborn _ hu), h.fires, ⟨?_, ?_, ?_, ?_, ?_⟩⟩
  · intro hpc
    simp [TimedLoop.runTimer, hphase] at hpc
  · simp only [TimedLoop.runTimer, hphase]
    exact Int.natCast_nonneg s.clock
  · simp only [TimedLoop.runTimer, hphase]
    exact fun _ he => absurd he List.not_mem_nil
  · simp only [TimedLoop.runTimer, hphase]
    exact List.Pairwise.nil
  · simp only [TimedLoop.runTimer, hphase]
    exact fun _ _ _ _ he => absurd he List.not_mem_nil
  · intro now done next hphase'
    rw [TimedLoop.runTimer, hphase] at hphase'
    cases hphase'

/-- `runTimer` takes what lies before `now` out of `timers_`, in order. -/
lemma Inv.runTimer_expire (h : s.Inv) (hpc : s.pc = .handlers)
    {activeTimers_ : AList fun _ : TimerId => TimerPtr}
    (hconsistent : (s.queue.expiredTaken s.now activeTimers_).Consistent) :
    Inv (s.runTimer (s.queue.expiredTaken s.now activeTimers_)) := by
  have hbatch : (s.queue.expiredTaken s.now activeTimers_).phase.batch =
      s.queue.timers_.before ⟨s.now, INT_MAX⟩ := rfl
  refine ⟨hconsistent, h.now_le, ?_, h.iteration_le, ?_, h.born, h.fires,
    ⟨h.now_le, ?_, ?_, ?_, ?_⟩⟩
  · intro hne
    exact absurd rfl hne
  · intro hhandlers
    simp [TimedLoop.runTimer, TimerQueue.expiredTaken] at hhandlers
  · intro e he
    have hmem : e ∈ s.queue.timers_.before ⟨s.now, INT_MAX⟩ := he
    rw [OrderedSet.before_eq_filter] at hmem
    have hlt := of_decide_eq_true (List.mem_filter.mp hmem).2
    rcases TimerQueue.lt_pivot_iff.mp hlt with hlt | ⟨heq, -⟩
    · exact hlt.le
    · exact heq.le
  · change List.Pairwise (· ≤ ·) (s.queue.timers_.before ⟨s.now, INT_MAX⟩)
    exact s.queue.timers_.sorted.sublist (List.takeWhile_sublist _)
  · intro t ht hiteration
    exact absurd hiteration (h.before hpc t ht)
  · intro now done next hphase timer htimer hlt
    obtain ⟨rfl, rfl, rfl⟩ : s.now = now ∧ [] = done ∧
        s.queue.timers_.before ⟨s.now, INT_MAX⟩ = next := by
      simpa [TimedLoop.runTimer, TimerQueue.expiredTaken] using hphase
    obtain ⟨e, he, hserial, hdeadline⟩ := mem_pendingTimers.mp htimer
    refine .inr ⟨e, ?_, hdeadline, hserial⟩
    rw [OrderedSet.before_eq_filter]
    refine List.mem_filter.mpr ⟨he, decide_eq_true (TimerQueue.lt_pivot_iff.mpr (.inl ?_))⟩
    rw [hdeadline]
    exact hlt

section RunSteps

variable {now : Timestamp} {done next rest : List TimerEntry} {e : TimerEntry} {timer : Timer}
  {pc : TimedPc}

/-- The record of a trigger. -/
def triggerOf (s : TimedLoop) (now : Timestamp) (timer : Timer) : Trigger where
  serial := timer.serial
  deadline := timer.when_
  interval := timer.interval_
  now := now
  clock := s.clock
  iteration := s.iteration
  pending := s.pending

/-- `runTimer` triggers the next timer of the batch. -/
lemma Inv.trigger (h : s.Inv) (hphase : s.queue.phase = .triggering now done (e :: next))
    (hlive : s.queue.heap e.timer = some timer) (hwhen : timer.when_ = e.expiration)
    (hconsistent : q.Consistent) (hq : q = { s.queue with
      phase := .triggering now (done ++ [e]) next
      history := .trigger timer.serial :: s.queue.history }) (hpc : pc = .timers) :
    Inv { s with queue := q, pc := pc, triggers := s.triggerOf now timer :: s.triggers } := by
  subst hq hpc
  obtain ⟨hnow, hexpired, hsorted, hinOrder, hwaiting⟩ := h.batch
  rw [hphase] at hnow hexpired hsorted hinOrder
  have hle : e.expiration ≤ now := hexpired e (by simp [TimerPhase.batch])
  have hafter : ∀ e' ∈ next, e ≤ e' :=
    (List.pairwise_cons.mp (List.pairwise_append.mp hsorted).2.1).1
  refine ⟨hconsistent, h.now_le, fun hne => absurd rfl hne, ?_, ?_, ?_, ?_,
    ⟨hnow, ?_, ?_, ?_, ?_⟩⟩
  · exact List.forall_mem_cons.mpr ⟨le_rfl, h.iteration_le⟩
  · intro hhandlers
    cases hhandlers
  · refine List.forall_mem_cons.mpr ⟨?_, h.born⟩
    exact h.consistent.not_unborn hlive
  · refine h.fires.cons ?_ ?_ ?_
    · exact (hwhen.le.trans hle).trans hnow
    · intro t ht hiteration
      rw [triggerOf, hwhen]
      exact hinOrder t ht hiteration e List.mem_cons_self
    · intro pending hpending hlt
      have hlt' : pending.2 < e.expiration := hlt.trans_eq hwhen
      rcases hwaiting now done (e :: next) hphase pending hpending (hlt'.trans_le hle) with
        htriggered | ⟨e', he', hdeadline, -⟩
      · exact htriggered
      · -- the entry would come before the one that is triggered
        exfalso
        have horder : e ≤ e' := by
          rcases List.mem_cons.mp he' with rfl | he'
          · exact le_rfl
          · exact hafter e' he'
        have hexpiration : e.expiration ≤ e'.expiration := by
          rcases Prod.Lex.toLex_le_toLex.mp horder with hlt | ⟨heq, -⟩
          · exact hlt.le
          · exact heq.le
        exact absurd (hdeadline ▸ hlt') (not_lt.mpr hexpiration)
  · intro e' he'
    exact hexpired e' (by simpa [TimerPhase.batch] using he')
  · simpa [TimerPhase.batch] using hsorted
  · intro t ht hiteration e' he'
    rcases List.mem_cons.mp ht with rfl | ht
    · rw [triggerOf, hwhen]
      rcases Prod.Lex.toLex_le_toLex.mp (hafter e' he') with hlt | ⟨heq, -⟩
      · exact hlt.le
      · exact heq.le
    · exact hinOrder t ht hiteration e' (List.mem_cons_of_mem e he')
  · intro now' done' next' hphase' pending hpending hlt
    obtain ⟨rfl, -, rfl⟩ := TimerPhase.triggering.inj hphase'
    rcases hwaiting now done (e :: next) hphase pending hpending hlt with
      ⟨t, ht, htriggered⟩ | ⟨e', he', hdeadline, hserial⟩
    · exact .inl ⟨t, List.mem_cons_of_mem _ ht, htriggered⟩
    · rcases List.mem_cons.mp he' with rfl | he'
      · left
        obtain ⟨timer', htimer', hserial'⟩ := hserial
        obtain rfl := Option.some.inj (hlive.symm.trans htimer')
        exact ⟨_, List.mem_cons_self, rfl, hserial'⟩
      · exact .inr ⟨e', he', hdeadline, hserial⟩

/-- `runTimer` goes on to restart what it has triggered, has restarted or deleted a timer, or is
done. -/
lemma Inv.restarting (h : s.Inv) (hconsistent : q.Consistent)
    (hnext : q.phase.next = []) (hnot : ∀ now done next, q.phase ≠ .triggering now done next)
    (hnow : q.phase.now ≤ s.clock) (hexpired : ∀ e ∈ q.phase.batch, e.expiration ≤ q.phase.now)
    (hsorted : q.phase.batch.Pairwise (· ≤ ·)) (hunborn : ∀ n, q.Unborn n → s.queue.Unborn n)
    (hidle : pc ≠ .timers → q.phase = .idle) (hhandlers : pc ≠ .handlers) :
    Inv { s with queue := q, pc := pc } := by
  refine ⟨hconsistent, h.now_le, hidle, h.iteration_le, fun hpc => absurd hpc hhandlers,
    fun t ht hu => h.born t ht (hunborn _ hu), h.fires, ⟨hnow, hexpired, hsorted, ?_, ?_⟩⟩
  · intro t _ _ e he
    rw [hnext] at he
    cases he
  · intro now done next hphase
    exact absurd hphase (hnot now done next)

/-- The first loop of `runTimer` is done. -/
lemma Inv.triggered (h : s.Inv) (hphase : s.queue.phase = .triggering now done [])
    (hconsistent : q.Consistent) (hq : q = { s.queue with
      callingTimesFunctor_ := false, phase := .restarting now done }) (hpc : pc = .timers) :
    Inv { s with queue := q, pc := pc } := by
  subst hq hpc
  obtain ⟨hnow, hexpired, hsorted, -, -⟩ := h.batch
  rw [hphase] at hnow hexpired hsorted
  rw [TimerPhase.batch, List.append_nil] at hexpired hsorted
  exact h.restarting hconsistent rfl (fun _ _ _ heq => by cases heq) hnow hexpired hsorted
    (fun _ => id) (fun hne => absurd rfl hne) (fun hpc => by cases hpc)

/-- The timer of the batch that `runTimer` restarts or deletes next has expired, and so have those
behind it. -/
lemma BatchInv.tail (h : BatchInv s) (hphase : s.queue.phase = .restarting now (e :: rest)) :
    now ≤ s.clock ∧ e.expiration ≤ now ∧ (∀ e' ∈ rest, e'.expiration ≤ now) ∧
      rest.Pairwise (· ≤ ·) := by
  obtain ⟨hnow, hexpired, hsorted, -, -⟩ := h
  rw [hphase] at hnow hexpired hsorted
  exact ⟨hnow, hexpired e List.mem_cons_self,
    fun e' he' => hexpired e' (List.mem_cons_of_mem e he'), (List.pairwise_cons.mp hsorted).2⟩

/-- The timer at the head of the batch is restarted or deleted. -/
lemma Inv.takeHead (h : s.Inv) (hphase : s.queue.phase = .restarting now (e :: rest))
    (hconsistent : q.Consistent) (hq : q.phase = .restarting now rest)
    (hunborn : ∀ n, q.Unborn n → s.queue.Unborn n) (hpc : pc = .timers) :
    Inv { s with queue := q, pc := pc } := by
  obtain ⟨hnow, -, hexpired, hsorted⟩ := h.batch.tail hphase
  refine h.restarting hconsistent ?_ ?_ ?_ ?_ ?_ hunborn (fun hne => absurd hpc hne) (by simp [hpc])
  · rw [hq]
    rfl
  · rw [hq]
    exact fun _ _ _ heq => by cases heq
  · rw [hq]
    exact hnow
  · rw [hq]
    exact hexpired
  · rw [hq]
    exact hsorted

/-- `runTimer` returns. -/
lemma Inv.finish (h : s.Inv) (hconsistent : q.Consistent) (hq : q = { s.queue with phase := .idle })
    (hpc : pc ≠ .handlers) : Inv { s with queue := q, pc := pc } := by
  subst hq
  exact h.restarting hconsistent rfl (fun _ _ _ heq => by cases heq)
    (Int.natCast_nonneg s.clock) (fun _ he => absurd he List.not_mem_nil) List.Pairwise.nil
    (fun _ => id) (fun _ => rfl) hpc

/-- The last assertion of `runTimer` fails. -/
lemma Inv.finishAsserts (h : s.Inv) (hphase : s.queue.phase = .restarting now [])
    (hconsistent : q.Consistent) (hq : q = { s.queue with fault := some .assertion })
    (hpc : pc = .timers) : Inv { s with queue := q, pc := pc } := by
  subst hq hpc
  obtain ⟨hnow, -, -, -, -⟩ := h.batch
  rw [hphase] at hnow
  refine h.restarting hconsistent ?_ ?_ ?_ ?_ ?_ (fun _ => id) (fun hne => absurd rfl hne)
    (fun hpc => by cases hpc)
  · change s.queue.phase.next = []
    rw [hphase]
    rfl
  · intro now' done' next' heq
    cases hphase.symm.trans heq
  · change s.queue.phase.now ≤ s.clock
    rw [hphase]
    exact hnow
  · exact h.batch.expired
  · exact h.batch.sorted

end RunSteps

/-- The trigger that is about to happen is that of the next timer of the batch. -/
lemma nextTrigger_eq {now : Timestamp} {done next : List TimerEntry} {e : TimerEntry}
    {timer : Timer} (hphase : s.queue.phase = .triggering now done (e :: next))
    (hlive : s.queue.heap e.timer = some timer) :
    s.nextTrigger = [s.triggerOf now timer] := by
  unfold nextTrigger
  rw [hphase]
  simp [hlive, triggerOf]

/-- The steps of `runTimer` after the first. -/
lemma Inv.runStep (h : s.Inv) {e : TimerEvent} (hpermits : s.permits e = true)
    (hstep : s.queue.RunStep e q) (hconsistent : q.Consistent) : Inv (s.queueStep e q) := by
  have hstay (hpc : s.pc = .timers) (hphase : q.phase ≠ .idle) (hswap : e ≠ .swap) :
      s.pcAfter e q = .timers := by
    rw [pcAfter, if_neg fun hidle => hphase hidle.2, if_neg hswap, hpc]
  cases hstep with
  | nothing => cases hpermits
  | asserts => cases hpermits
  | expire => cases hpermits
  | trigger phase live when_ =>
    have hpc := hstay (of_decide_eq_true hpermits) (by simp) (by simp)
    rw [queueStep, if_pos rfl, nextTrigger_eq phase live]
    exact h.trigger phase live when_ hconsistent rfl hpc
  | triggered phase =>
    have hpc := hstay (of_decide_eq_true hpermits) (by simp) (by simp)
    exact h.triggered phase hconsistent rfl hpc
  | restart phase =>
    have hpc := hstay (of_decide_eq_true hpermits) (by simp [TimerQueue.restarted,
      TimerQueue.insertTimer, TimerQueue.replaced]) (by simp)
    exact h.takeHead phase hconsistent rfl (fun _ => id) hpc
  | delete phase =>
    have hpc := hstay (of_decide_eq_true hpermits) (by simp [TimerQueue.deleteTimer]) (by simp)
    exact h.takeHead phase hconsistent rfl (fun _ => id) hpc
  | finish =>
    refine h.finish hconsistent rfl fun hpc => ?_
    have hhandlers := pcAfter_eq_handlers hpc
    simp [permits, hhandlers] at hpermits
  | finishAsserts phase =>
    have hpc := hstay (of_decide_eq_true hpermits) (by simp [phase]) (by simp)
    exact h.finishAsserts phase hconsistent rfl hpc

/-! ## All steps -/

/-- Time passes. -/
lemma Inv.tick (h : s.Inv) (microseconds : ℕ) :
    Inv { s with clock := s.clock + microseconds } := by
  have hle : (s.clock : ℤ) ≤ ((s.clock + microseconds : ℕ) : ℤ) :=
    Int.ofNat_le.mpr (Nat.le_add_right _ _)
  obtain ⟨hnow, hexpired, hsorted, hinOrder, hwaiting⟩ := h.batch
  exact ⟨h.consistent, h.now_le.trans hle, h.idle, h.iteration_le, h.before, h.born, h.fires,
    ⟨hnow.trans hle, hexpired, hsorted, hinOrder, hwaiting⟩⟩

/-- The thread of the loop goes on outside `runTimer`. -/
lemma Inv.goOn (h : s.Inv) {pc : TimedPc} {now : Timestamp} (hnow : now ≤ s.clock)
    (hidle : s.pc ≠ .timers) (hpc : pc ≠ .handlers) : Inv { s with now := now, pc := pc } := by
  obtain ⟨hphase, hexpired, hsorted, hinOrder, hwaiting⟩ := h.batch
  exact ⟨h.consistent, hnow, fun _ => h.idle hidle, h.iteration_le, fun heq => absurd heq hpc,
    h.born, h.fires, ⟨hphase, hexpired, hsorted, hinOrder, hwaiting⟩⟩

/-- An iteration begins, in which nothing has been triggered yet. -/
lemma Inv.beginIteration (h : s.Inv) (hpc : s.pc = .condition) : Inv s.beginIteration := by
  have hidle : s.queue.phase = .idle := h.idle (by simp [hpc])
  have hearlier : ∀ t ∈ s.triggers, t.iteration ≠ s.iteration + 1 := fun t ht heq =>
    absurd (h.iteration_le t ht) (by omega)
  obtain ⟨hphase, hexpired, hsorted, -, -⟩ := h.batch
  refine ⟨h.consistent, ?_, fun _ => hidle, fun t ht => Nat.le_succ_of_le (h.iteration_le t ht),
    fun _ => hearlier, h.born, h.fires, ⟨hphase, hexpired, hsorted, ?_, ?_⟩⟩
  · change (if s.queue.getNearestExpiration.valid then (s.clock : ℤ) else s.now) ≤ s.clock
    split
    · exact le_rfl
    · exact h.now_le
  · intro t ht hiteration
    exact absurd hiteration (hearlier t ht)
  · intro now done next hphase'
    cases hidle.symm.trans hphase'

/-- `runTimer` is called. -/
lemma Inv.callRunTimer (h : s.Inv) (hpc : s.pc = .handlers)
    (hstep : s.queue.RunStep (.runTimer s.now) q) (hconsistent : q.Consistent) :
    Inv (s.runTimer q) := by
  have hidle : s.queue.phase = .idle := h.idle (by simp [hpc])
  cases hstep with
  | nothing | asserts => exact h.runTimer_idle hconsistent hidle fun _ => id
  | expire => exact h.runTimer_expire hpc hconsistent

/-- Every step keeps the invariant. -/
theorem Inv.step (h : s.Inv) {e : TimedEvent} (hstep : s.step e = some s') : s'.Inv := by
  unfold TimedLoop.step at hstep
  obtain ⟨-, hstep⟩ := Option.ite_none_left_eq_some.mp hstep
  cases e with
  | tick microseconds =>
    obtain rfl := Option.some.inj hstep
    exact h.tick microseconds
  | enter =>
    obtain ⟨hpc, hstep⟩ := Option.ite_none_right_eq_some.mp hstep
    obtain rfl := Option.some.inj hstep
    exact h.goOn (Int.natCast_nonneg s.clock) (by simp [hpc]) (by simp)
  | leave =>
    obtain ⟨hpc, hstep⟩ := Option.ite_none_right_eq_some.mp hstep
    obtain rfl := Option.some.inj hstep
    exact h.goOn h.now_le (by simp [hpc]) (by simp)
  | beginIteration =>
    obtain ⟨hpc, hstep⟩ := Option.ite_none_right_eq_some.mp hstep
    obtain rfl := Option.some.inj hstep
    exact h.beginIteration hpc
  | runTimer =>
    obtain ⟨hpc, hstep⟩ := Option.ite_none_right_eq_some.mp hstep
    obtain ⟨q, hq, rfl⟩ := Option.map_eq_some_iff.mp hstep
    obtain ⟨hconsistent, ⟨hno, -⟩ | hrun⟩ := h.consistent.step hq
    · cases hno
    · exact h.callRunTimer hpc hrun hconsistent
  | queue e =>
    obtain ⟨hpermits, hstep⟩ := Option.ite_none_right_eq_some.mp hstep
    obtain ⟨q, hq, rfl⟩ := Option.map_eq_some_iff.mp hstep
    obtain ⟨hconsistent, ⟨hother, hframe⟩ | hrun⟩ := h.consistent.step hq
    · have htrigger : e ≠ .trigger := by
        rintro rfl
        cases hother
      rw [queueStep, if_neg htrigger]
      refine h.frame hconsistent hframe (fun hne => ?_) pcAfter_eq_handlers
      refine idle_of_pcAfter_ne hne hpermits fun hpc => ?_
      rw [hframe.phase]
      exact h.idle hpc
    · exact h.runStep hpermits hrun hconsistent
  | endIteration =>
    obtain ⟨⟨hpc, -⟩, hstep⟩ := Option.ite_none_right_eq_some.mp hstep
    obtain rfl := Option.some.inj hstep
    exact h.goOn h.now_le (by simp [hpc]) (by simp)

/-- The invariant holds in every state of a run. -/
lemma inv_of_exec {atomic_ : BitVec 32} {clock : ℕ} {es : List TimedEvent}
    (hrun : exec TimedLoop.step (.new atomic_ clock) es = some s) : s.Inv :=
  invariant_of_exec (fun _ _ _ h hstep => h.step hstep) (.new atomic_ clock) hrun

/-! ## How far apart the triggers of a timer are -/

/-- A timer that has been triggered waits in the batch to be restarted, or has been restarted. -/
def Restarted (q : TimerQueue) (p : TimerPtr) (timer : Timer) (t : Trigger) : Prop :=
  (0 ≤ Timestamp.delta t.interval ∧ t.now + Timestamp.delta t.interval ≤ timer.when_) ∨
    ((∃ e ∈ q.phase.triggered, e.timer = p) ∧ t.now = q.phase.now)

/-- The triggers so far against the timers that are still there. -/
structure SpacedInv (q : TimerQueue) (triggers : List Trigger) : Prop where
  spaced : triggers.Pairwise Trigger.Spaced
  restarted : ∀ p timer, q.heap p = some timer → ∀ t ∈ triggers, t.serial = timer.serial →
    t.interval = timer.interval_ ∧ Restarted q p timer t

/-- The timer that the step restarts, with the argument of `runTimer`. -/
def nextRestart (s : TimedLoop) : TimedEvent → Option (Timestamp × Timer)
  | .queue .restart => match s.queue.phase with
    | .restarting now (e :: _) =>
      ((s.queue.heap e.timer).filter fun timer =>
        timer.repeats ∧ timer.id_ ∉ s.queue.cancelTimers_).map fun timer => (now, timer)
    | _ => none
  | _ => none

/-- When the step restarts a timer, its next deadline is computed without an overflow. -/
def RestartsInRange (s : TimedLoop) (e : TimedEvent) : Prop :=
  ∀ r ∈ s.nextRestart e, Timestamp.AddsInRange r.1 r.2.interval_

instance (s : TimedLoop) (e : TimedEvent) : Decidable (s.RestartsInRange e) :=
  inferInstanceAs (Decidable (∀ r ∈ s.nextRestart e, _))

section Spaced

variable {now : Timestamp} {done next rest : List TimerEntry} {e : TimerEntry} {timer : Timer}
  {triggers : List Trigger}

/-- Nothing has been triggered yet. -/
lemma SpacedInv.new (q : TimerQueue) : SpacedInv q [] :=
  ⟨List.Pairwise.nil, fun _ _ _ _ ht => absurd ht List.not_mem_nil⟩

/-- Steps outside `runTimer` do not touch a timer that has been triggered. -/
lemma SpacedInv.frame (h : SpacedInv s.queue s.triggers) (hinv : s.Inv)
    (hframe : TimerQueue.Frame s.queue q) : SpacedInv q s.triggers := by
  refine ⟨h.spaced, fun p timer htimer t ht hserial => ?_⟩
  rcases hframe.born p timer htimer with hold | hnew
  · rw [Restarted, hframe.phase]
    exact h.restarted p timer hold t ht hserial
  · exact absurd (hserial ▸ hnew) (hinv.born t ht)

/-- When `runTimer` begins, every timer that has been triggered has been restarted. -/
lemma SpacedInv.of_idle (h : SpacedInv s.queue triggers) (hidle : s.queue.phase = .idle)
    (hheap : q.heap = s.queue.heap) : SpacedInv q triggers := by
  refine ⟨h.spaced, fun p timer htimer t ht hserial => ?_⟩
  obtain ⟨hinterval, hrestarted | ⟨⟨e, he, -⟩, -⟩⟩ :=
    h.restarted p timer (hheap ▸ htimer) t ht hserial
  · exact ⟨hinterval, .inl hrestarted⟩
  · rw [hidle] at he
    cases he

/-- `runTimer` triggers the next timer of the batch: its earlier triggers were restarts ago. -/
lemma SpacedInv.trigger (h : SpacedInv s.queue s.triggers) (hinv : s.Inv)
    (hphase : s.queue.phase = .triggering now done (e :: next))
    (hlive : s.queue.heap e.timer = some timer) (hwhen : timer.when_ = e.expiration)
    (hq : q = { s.queue with
      phase := .triggering now (done ++ [e]) next
      history := .trigger timer.serial :: s.queue.history }) :
    SpacedInv q (s.triggerOf now timer :: s.triggers) := by
  subst hq
  have hle : e.expiration ≤ now := by
    have hexpired := hinv.batch.expired
    rw [hphase] at hexpired
    exact hexpired e (by simp [TimerPhase.batch])
  have hnotDone : ¬ ∃ e' ∈ done, e'.timer = e.timer := by
    rintro ⟨e', he', heq⟩
    have hnodup := hinv.consistent.nodup
    rw [TimerQueue.batch, hphase, TimerPhase.batch, List.map_append, List.map_cons] at hnodup
    have hdisjoint := (List.nodup_append.mp hnodup).2.2
    exact hdisjoint _ (List.mem_map.mpr ⟨e', he', rfl⟩) _ List.mem_cons_self heq
  refine ⟨List.pairwise_cons.mpr ⟨fun t ht hserial => ?_, h.spaced⟩, ?_⟩
  · obtain ⟨-, ⟨hnonneg, hrestarted⟩ | ⟨htriggered, -⟩⟩ :=
      h.restarted _ timer hlive t ht hserial.symm
    · exact ⟨hrestarted.trans (hwhen.le.trans hle), hnonneg⟩
    · rw [hphase] at htriggered
      exact absurd htriggered hnotDone
  · intro p timer' htimer' t ht hserial
    rcases List.mem_cons.mp ht with rfl | ht
    · -- the trigger itself: the timer waits in the batch
      obtain rfl := hinv.consistent.eq_of_serial_eq hlive htimer' hserial
      obtain rfl := Option.some.inj (hlive.symm.trans htimer')
      exact ⟨rfl, .inr ⟨⟨e, List.mem_append_right _ List.mem_cons_self, rfl⟩, rfl⟩⟩
    · obtain ⟨hinterval, hrestarted | ⟨⟨e', he', heq⟩, hsame⟩⟩ :=
        h.restarted p timer' htimer' t ht hserial
      · exact ⟨hinterval, .inl hrestarted⟩
      · rw [hphase] at he' hsame
        exact ⟨hinterval, .inr ⟨⟨e', List.mem_append_left _ he', heq⟩, hsame⟩⟩

/-- The first loop of `runTimer` is done. -/
lemma SpacedInv.triggered (h : SpacedInv s.queue triggers)
    (hphase : s.queue.phase = .triggering now done []) (hheap : q.heap = s.queue.heap)
    (hq : q.phase = .restarting now done) : SpacedInv q triggers := by
  refine ⟨h.spaced, fun p timer htimer t ht hserial => ?_⟩
  obtain ⟨hinterval, hrestarted⟩ := h.restarted p timer (hheap ▸ htimer) t ht hserial
  rw [Restarted, hphase] at hrestarted
  rw [Restarted, hq]
  exact ⟨hinterval, hrestarted⟩

/-- A restarted timer has its next deadline after an interval, or later. -/
lemma restarted_of_restart {t : Trigger} (hrepeats : timer.repeats)
    (hrange : now.AddsInRange timer.interval_) (hinterval : t.interval = timer.interval_)
    (hwhen : timer.when_ ≤ now)
    (h : t.now + Timestamp.delta t.interval ≤ timer.when_ ∨ t.now = now) :
    0 ≤ Timestamp.delta t.interval ∧
      t.now + Timestamp.delta t.interval ≤ (timer.restart now).when_ := by
  have hrestart : timer.restart now = { timer with when_ := now.addSeconds timer.interval_ } :=
    if_pos hrepeats
  have hnonneg : 0 ≤ Timestamp.delta timer.interval_ := Timestamp.delta_nonneg hrepeats hrange.1
  rw [hrestart, hrange.addSeconds_eq, hinterval]
  refine ⟨hnonneg, ?_⟩
  rcases h with hle | heq
  · rw [hinterval] at hle
    exact (hle.trans hwhen).trans (Int.le_add_of_nonneg_right hnonneg)
  · rw [heq]

/-- When the timer at the head of the batch is taken, the others still wait there. -/
lemma Restarted.tail {p : TimerPtr} {timer' : Timer} {t : Trigger}
    (h : Restarted s.queue p timer' t) (hphase : s.queue.phase = .restarting now (e :: rest))
    (hne : p ≠ e.timer) (hq : q.phase = .restarting now rest) : Restarted q p timer' t := by
  rcases h with hrestarted | ⟨⟨e', he', rfl⟩, hsame⟩
  · exact .inl hrestarted
  · rw [hphase] at he' hsame
    rcases List.mem_cons.mp he' with rfl | he'
    · exact absurd rfl hne
    · right
      rw [hq]
      exact ⟨⟨e', he', rfl⟩, hsame⟩

/-- The timer at the head of the batch is restarted. -/
lemma SpacedInv.restart (h : SpacedInv s.queue triggers) (hinv : s.Inv)
    (hphase : s.queue.phase = .restarting now (e :: rest))
    (hlive : s.queue.heap e.timer = some timer) (hrepeats : timer.repeats)
    (hrange : now.AddsInRange timer.interval_) :
    SpacedInv (s.queue.restarted now e rest timer) triggers := by
  obtain ⟨-, hle, -, -⟩ := hinv.batch.tail hphase
  obtain ⟨object, hobject, hwhen⟩ := hinv.consistent.keys e (by
    rw [hphase]
    exact List.mem_cons_self)
  obtain rfl := Option.some.inj (hlive.symm.trans hobject)
  refine ⟨h.spaced, fun p timer' htimer' t ht hserial => ?_⟩
  have hheap : Function.update s.queue.heap e.timer (some (timer.restart now)) p = some timer' :=
    htimer'
  by_cases hp : p = e.timer
  · rw [hp, Function.update_self] at hheap
    obtain rfl := Option.some.inj hheap
    rw [timer.restart_serial now] at hserial
    obtain ⟨hinterval, hrestarted⟩ := h.restarted e.timer timer hlive t ht hserial
    rw [Restarted, hphase] at hrestarted
    have hnext := restarted_of_restart hrepeats hrange hinterval (hwhen.le.trans hle)
      (hrestarted.imp And.right And.right)
    exact ⟨hinterval.trans (timer.restart_interval_ now).symm, .inl hnext⟩
  · rw [Function.update_of_ne hp] at hheap
    obtain ⟨hinterval, hrestarted⟩ := h.restarted p timer' hheap t ht hserial
    exact ⟨hinterval, hrestarted.tail hphase hp rfl⟩

/-- The timer at the head of the batch is deleted. -/
lemma SpacedInv.delete (h : SpacedInv s.queue triggers)
    (hphase : s.queue.phase = .restarting now (e :: rest))
    (hq : q = ({ s.queue with phase := .restarting now rest }).deleteTimer e.timer timer) :
    SpacedInv q triggers := by
  subst hq
  refine ⟨h.spaced, fun p timer' htimer' t ht hserial => ?_⟩
  have hp : p ≠ e.timer := by
    rintro rfl
    rw [TimerQueue.deleteTimer_heap_self] at htimer'
    cases htimer'
  rw [TimerQueue.deleteTimer_heap_of_ne hp] at htimer'
  obtain ⟨hinterval, hrestarted⟩ := h.restarted p timer' htimer' t ht hserial
  exact ⟨hinterval, hrestarted.tail hphase hp rfl⟩

/-- `runTimer` returns: nothing waits any more. -/
lemma SpacedInv.finish (h : SpacedInv s.queue triggers)
    (hphase : s.queue.phase = .restarting now []) (hheap : q.heap = s.queue.heap) :
    SpacedInv q triggers := by
  refine ⟨h.spaced, fun p timer htimer t ht hserial => ?_⟩
  obtain ⟨hinterval, hrestarted | ⟨⟨e', he', -⟩, -⟩⟩ :=
    h.restarted p timer (hheap ▸ htimer) t ht hserial
  · exact ⟨hinterval, .inl hrestarted⟩
  · rw [hphase] at he'
    cases he'

end Spaced

/-- The steps of `runTimer` after the first, without an overflow. -/
lemma SpacedInv.runStep (h : SpacedInv s.queue s.triggers) (hinv : s.Inv) {e : TimerEvent}
    (hrange : s.RestartsInRange (.queue e)) (hpermits : s.permits e = true)
    (hstep : s.queue.RunStep e q) : SpacedInv q (s.queueStep e q).triggers := by
  cases hstep with
  | nothing => cases hpermits
  | asserts => cases hpermits
  | expire => cases hpermits
  | trigger phase live when_ =>
    rw [queueStep, if_pos rfl, nextTrigger_eq phase live]
    exact h.trigger hinv phase live when_ rfl
  | triggered phase => exact h.triggered phase rfl rfl
  | restart phase live repeats kept =>
    refine h.restart hinv phase live repeats (hrange (_, _) ?_)
    simp [nextRestart, phase, live, repeats, kept]
  | delete phase => exact h.delete phase rfl
  | finish phase => exact h.finish phase rfl
  | finishAsserts phase => exact h.finish phase rfl

/-- Every step without an overflow keeps the triggers apart. -/
theorem SpacedInv.step (h : SpacedInv s.queue s.triggers) (hinv : s.Inv) {e : TimedEvent}
    (hrange : s.RestartsInRange e) (hstep : s.step e = some s') :
    SpacedInv s'.queue s'.triggers := by
  unfold TimedLoop.step at hstep
  obtain ⟨-, hstep⟩ := Option.ite_none_left_eq_some.mp hstep
  cases e with
  | tick =>
    obtain rfl := Option.some.inj hstep
    exact h
  | enter | leave | beginIteration | endIteration =>
    obtain ⟨-, hstep⟩ := Option.ite_none_right_eq_some.mp hstep
    obtain rfl := Option.some.inj hstep
    exact h
  | runTimer =>
    obtain ⟨hpc, hstep⟩ := Option.ite_none_right_eq_some.mp hstep
    obtain ⟨q, hq, rfl⟩ := Option.map_eq_some_iff.mp hstep
    have hidle : s.queue.phase = .idle := hinv.idle (by simp [hpc])
    obtain ⟨-, ⟨hno, -⟩ | hrun⟩ := hinv.consistent.step hq
    · cases hno
    · cases hrun with
      | nothing | asserts | expire => exact h.of_idle hidle rfl
  | queue e =>
    obtain ⟨hpermits, hstep⟩ := Option.ite_none_right_eq_some.mp hstep
    obtain ⟨q, hq, rfl⟩ := Option.map_eq_some_iff.mp hstep
    obtain ⟨-, ⟨hother, hframe⟩ | hrun⟩ := hinv.consistent.step hq
    · have htrigger : e ≠ .trigger := by
        rintro rfl
        cases hother
      rw [queueStep, if_neg htrigger]
      exact h.frame hinv hframe
    · exact h.runStep hinv hrange hpermits hrun

end TimedLoop

open TimedLoop

/-- In every run of the loop, with any timers added and cancelled at any point, in which no restart
of a repeating timer overflows, timers are triggered neither early, nor out of order, nor too
often. -/
theorem timers_fire_in_order {atomic_ : BitVec 32} {clock : ℕ} {es : List TimedEvent}
    {s : TimedLoop} (hrange : Meets TimedLoop.step RestartsInRange (.new atomic_ clock) es)
    (hrun : exec TimedLoop.step (.new atomic_ clock) es = some s) : FiresInOrder s.triggers := by
  have hinv := invariant_of_meets (I := fun s : TimedLoop => s.Inv ∧ SpacedInv s.queue s.triggers)
    (fun _ _ _ h hok hstep => ⟨h.1.step hstep, h.2.step h.1 hok hstep⟩)
    ⟨.new atomic_ clock, .new _⟩ hrange hrun
  exact ⟨hinv.1.fires, hinv.2.spaced⟩

/-- A repeating timer and one that is added later with an earlier deadline. -/
def repeatingRun : List TimedEvent :=
  [.queue (.addTimer 100 5 (1 / 2)), .queue (.addTimer 200 4 0), .enter, .beginIteration, .runTimer,
    .queue .trigger, .queue .trigger, .queue .triggered, .queue .restart, .queue .restart,
    .queue .finish, .queue .swap, .endIteration, .tick 600000, .beginIteration, .runTimer,
    .queue .trigger]

/-- The repeating timer is triggered twice. -/
theorem timers_fire_in_order_repeating :
    ∃ s, exec TimedLoop.step (.new 0 6) repeatingRun = some s ∧
      s.triggers.map (fun t => (t.serial, t.deadline, t.now)) =
        [(0, 500006, 600006), (0, 5, 6), (1, 4, 6)] ∧ FiresInOrder s.triggers := by
  have hrun : ∃ s, exec TimedLoop.step (.new 0 6) repeatingRun = some s ∧
      s.triggers.map (fun t => (t.serial, t.deadline, t.now)) =
        [(0, 500006, 600006), (0, 5, 6), (1, 4, 6)] := exists_exec_of_any (by decide +kernel)
  obtain ⟨s, hrun, htriggers⟩ := hrun
  exact ⟨s, hrun, htriggers, timers_fire_in_order (by decide +kernel) hrun⟩

/-- A timer is triggered whose interval is so long that the sum of the clock and the interval
overflows: the timer that is added in the first iteration, `addTimer(cb, 9223372036800.0, true)`,
has a deadline in the past at first and after each restart. -/
def overflowingRun : List TimedEvent :=
  [.queue (.addTimer 200 1000000000 0), .enter, .beginIteration, .runTimer, .queue .trigger,
    .queue (.addTimer 100 (Timestamp.addSeconds 1000000000 9223372036800) 9223372036800),
    .queue .triggered, .queue .restart, .queue .finish, .queue .swap, .endIteration,
    .beginIteration, .runTimer, .queue .trigger, .queue .triggered, .queue .restart,
    .queue .finish, .queue .swap, .endIteration, .beginIteration, .runTimer, .queue .trigger]

/-- The timer is triggered in two iterations one after the other, with the same `now`. -/
theorem triggered_too_often_overflow :
    ¬ ∀ (atomic_ : BitVec 32) (clock : ℕ) (es : List TimedEvent) (s : TimedLoop),
      exec TimedLoop.step (.new atomic_ clock) es = some s → FiresInOrder s.triggers := by
  have hrun : ∃ s, exec TimedLoop.step (.new 0 1000000000) overflowingRun = some s ∧
      (s.triggers.map fun t => (t.serial, t.now, Timestamp.delta t.interval)) =
        [(1, 1000000000, 9223372036800000000), (1, 1000000000, 9223372036800000000),
          (0, 1000000000, 0)] := exists_exec_of_any (by decide +kernel)
  obtain ⟨s, hrun, htriggers⟩ := hrun
  intro h
  have hspaced := (h 0 1000000000 overflowingRun s hrun).spaced
  rcases htail : s.triggers with - | ⟨t₁, - | ⟨t₂, ts⟩⟩
  · simp [htail] at htriggers
  · simp [htail] at htriggers
  · rw [htail] at hspaced htriggers
    simp only [List.map_cons, List.cons.injEq, Prod.mk.injEq] at htriggers
    obtain ⟨⟨hserial₁, hnow₁, -⟩, ⟨hserial₂, hnow₂, hdelta⟩, -⟩ := htriggers
    obtain ⟨hle, -⟩ := (List.pairwise_cons.mp hspaced).1 t₂ List.mem_cons_self
      (hserial₁.trans hserial₂.symm)
    rw [hnow₁, hnow₂, hdelta] at hle
    exact absurd hle (by decide)

end SimpleMuduo
