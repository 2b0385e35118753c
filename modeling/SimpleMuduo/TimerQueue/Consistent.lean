import SimpleMuduo.TimerQueue.Expired

/-!
# What holds of a timer queue in every run

When calls of `queueInLoop` overwrite each other, functors are lost or run twice, and with them the
calls of `addTimerInLoop` and `cancelTimerInLoop`.  Even then the keys of the containers are those
of live timers, no timer is in `timers_` and in the expired batch at the same time, and every timer
has a serial number of its own.  `step_cases` lists what a step can do, apart from the steps of
`runTimer` only by what it leaves unchanged.
-/

namespace SimpleMuduo

namespace TimerQueue

variable {q q' q'' : TimerQueue} {p : TimerPtr} {timer : Timer} {e : TimerEntry} {n : ℕ}

/-- The new timer is at its address. -/
lemma newTimer_heap_self (q : TimerQueue) (call : ℕ × TimerId) (p : TimerPtr) (when_ : Timestamp)
    (interval_ : ℚ) :
    (q.newTimer call p when_ interval_).heap p = some ⟨call.1, call.2, when_, interval_⟩ :=
  Function.update_self ..

/-- The others are where they were. -/
lemma newTimer_heap_of_ne {p' : TimerPtr} (h : p' ≠ p) (q : TimerQueue) (call : ℕ × TimerId)
    (when_ : Timestamp) (interval_ : ℚ) :
    (q.newTimer call p when_ interval_).heap p' = q.heap p' := Function.update_of_ne h ..

/-- The timer of the call `n` of `addTimer` has not been created yet. -/
def Unborn (q : TimerQueue) (n : ℕ) : Prop := q.calls ≤ n ∨ n ∈ q.inFlight.map Prod.fst

/-- The containers and the expired batch refer to different live timers under their keys, and every
serial number is accounted for once. -/
structure Consistent (q : TimerQueue) : Prop where
  census : ∃ live, (∀ p timer, q.heap p = some timer → p ∈ live) ∧
    Census Timer.serial q.calls (q.inFlight.map Prod.fst) q.heap live (deletedIn q.history)
  /-- The same id may have been taken twice, so that nothing is said about `indexed`. -/
  containers : TimerContainers (2 ^ 32) q.heap q.timers_ q.activeTimers_
  keys : ∀ e ∈ q.phase.batch, ∃ timer, q.heap e.timer = some timer ∧ timer.when_ = e.expiration
  nodup : q.batch.Nodup
  apart : ∀ e ∈ q.timers_, e.timer ∉ q.batch

namespace Consistent

/-- A new queue is consistent. -/
lemma new (start : BitVec 32) : (TimerQueue.new start).Consistent where
  census := ⟨[], fun _ timer htimer => (Option.some_ne_none timer htimer.symm).elim, .empty _⟩
  containers := ⟨(TimerContainers.empty _).keys, (TimerContainers.empty _).active,
    fun hlt => absurd hlt (lt_irrefl _)⟩
  keys := fun _ he => absurd he List.not_mem_nil
  nodup := List.nodup_nil
  apart := fun _ he => absurd he (OrderedSet.notMem_empty _)

/-- Two live timers with the same serial number are one. -/
lemma eq_of_serial_eq (h : q.Consistent) {p' : TimerPtr} {timer' : Timer}
    (htimer : q.heap p = some timer) (htimer' : q.heap p' = some timer')
    (heq : timer.serial = timer'.serial) : p = p' := by
  obtain ⟨live, hlive, hcensus⟩ := h.census
  exact hcensus.eq_of_number_eq (hlive p timer htimer) (hlive p' timer' htimer') htimer htimer' heq

/-- A live timer has been created. -/
lemma not_unborn (h : q.Consistent) (htimer : q.heap p = some timer) :
    ¬ q.Unborn timer.serial := by
  obtain ⟨live, hlive, hcensus⟩ := h.census
  rintro (hge | hreserved)
  · exact absurd (hcensus.number_lt (hlive p timer htimer) htimer) (not_lt.mpr hge)
  · exact hcensus.not_reserved (hlive p timer htimer) htimer hreserved

/-- A live timer has not been deleted. -/
lemma not_deleted (h : q.Consistent) (htimer : q.heap p = some timer) :
    .delete timer.serial ∉ q.history := by
  obtain ⟨live, hlive, hcensus⟩ := h.census
  exact fun hmem =>
    hcensus.not_deleted (hlive p timer htimer) htimer (mem_deletedIn.mpr hmem)

/-- There is no expired timer at a free address. -/
lemma notMem_batch_of_free (h : q.Consistent) (hp : q.heap p = none) : p ∉ q.batch := by
  intro hmem
  obtain ⟨e, he, rfl⟩ := mem_batch.mp hmem
  obtain ⟨timer, htimer, -⟩ := h.keys e he
  rw [hp] at htimer
  cases htimer

/-- There is no contained timer at a free address. -/
lemma ne_of_free (h : q.Consistent) (hp : q.heap p = none) : ∀ e ∈ q.timers_, e.timer ≠ p := by
  rintro e he rfl
  obtain ⟨timer, htimer, -⟩ := h.containers.keys e he
  rw [hp] at htimer
  cases htimer

/-- Only the heap, the containers, the batch and the serial numbers matter. -/
lemma congr (h : q.Consistent) (hcalls : q'.calls = q.calls) (hinFlight : q'.inFlight = q.inFlight)
    (hheap : q'.heap = q.heap) (htimers : q'.timers_ = q.timers_)
    (hactive : q'.activeTimers_ = q.activeTimers_) (hphase : q'.phase.batch = q.phase.batch)
    (hdeleted : deletedIn q'.history = deletedIn q.history) : q'.Consistent := by
  obtain ⟨hcensus, hcontainers, hkeys, hnodup, hapart⟩ := h
  refine ⟨?_, ?_, ?_, ?_, ?_⟩
  · rw [hcalls, hinFlight, hheap, hdeleted]
    exact hcensus
  · rw [hheap, htimers, hactive]
    exact hcontainers
  · rw [hphase, hheap]
    exact hkeys
  · rw [batch, hphase]
    exact hnodup
  · rw [htimers, batch, hphase]
    exact hapart

/-- `addTimer` takes an id. -/
lemma takeId (h : q.Consistent) : q.takeId.Consistent := by
  obtain ⟨live, hlive, hcensus⟩ := h.census
  exact ⟨⟨live, hlive, hcensus.reserve⟩, h.containers, h.keys, h.nodup, h.apart⟩

/-- A timer is created at a free address. -/
lemma newTimer {call : ℕ × TimerId} (h : q.Consistent) (hcall : call ∈ q.inFlight)
    (hfree : q.heap p = none) (when_ : Timestamp) (interval_ : ℚ) :
    (q.newTimer call p when_ interval_).Consistent := by
  obtain ⟨live, hlive, hcensus⟩ := h.census
  have hreserved := (List.perm_cons_erase hcall).map Prod.fst
  have hbatch := h.notMem_batch_of_free hfree
  refine ⟨⟨p :: live, ?_, ?_⟩, ?_, ?_, h.nodup, h.apart⟩
  · intro p' timer' htimer'
    by_cases hp : p' = p
    · exact hp ▸ List.mem_cons_self
    · rw [newTimer_heap_of_ne hp] at htimer'
      exact List.mem_cons_of_mem p (hlive p' timer' htimer')
  · exact (hcensus.reserved_perm hreserved).create (o := ⟨call.1, call.2, when_, interval_⟩) hfree
  · exact h.containers.update (h.ne_of_free hfree)
  · intro e he
    have hne : e.timer ≠ p := fun heq => hbatch (heq ▸ mem_batch.mpr ⟨e, he, rfl⟩)
    obtain ⟨timer, htimer, hwhen⟩ := h.keys e he
    exact ⟨timer, by rw [newTimer_heap_of_ne hne, htimer], hwhen⟩

/-- A live timer that is not in the batch is inserted into the containers. -/
lemma insertTimer (h : q.Consistent) (htimer : q.heap p = some timer) (hbatch : p ∉ q.batch) :
    (q.insertTimer p timer).Consistent := by
  refine ⟨h.census, h.containers.insert htimer fun hlt => absurd hlt (lt_irrefl _), h.keys, h.nodup,
    ?_⟩
  intro e he
  rcases OrderedSet.mem_insert.mp he with rfl | he
  · exact hbatch
  · exact h.apart e he

/-- A live timer that is in none of the containers and not in the batch is deleted. -/
lemma deleteTimer (h : q.Consistent) (htimer : q.heap p = some timer) (hbatch : p ∉ q.batch)
    (hnot : ∀ e ∈ q.timers_, e.timer ≠ p) : (q.deleteTimer p timer).Consistent := by
  classical
  obtain ⟨live, hlive, hcensus⟩ := h.census
  have hperm := List.perm_cons_erase (hlive p timer htimer)
  refine ⟨⟨live.erase p, ?_, (hcensus.perm hperm).delete htimer⟩, h.containers.update hnot, ?_,
    h.nodup, h.apart⟩
  · intro p' timer' htimer'
    have hne : p' ≠ p := by
      rintro rfl
      rw [deleteTimer_heap_self] at htimer'
      cases htimer'
    rw [deleteTimer_heap_of_ne hne] at htimer'
    exact (List.mem_erase_of_ne hne).mpr (hlive p' timer' htimer')
  · intro e he
    have hne : e.timer ≠ p := fun heq => hbatch (heq ▸ mem_batch.mpr ⟨e, he, rfl⟩)
    obtain ⟨timer', htimer', hwhen⟩ := h.keys e he
    exact ⟨timer', by rw [deleteTimer_heap_of_ne hne, htimer'], hwhen⟩

/-- The timer of an id is taken out of the containers. -/
lemma eraseTimer {id : TimerId} (h : q.Consistent) (hlookup : q.activeTimers_.lookup id = some p)
    (htimer : q.heap p = some timer) :
    (q.eraseTimer id ⟨timer.when_, p⟩).Consistent ∧
      ∀ e ∈ (q.eraseTimer id ⟨timer.when_, p⟩).timers_, e.timer ≠ p := by
  obtain ⟨timer', htimer', -, hmem⟩ := h.containers.active id p hlookup
  obtain rfl := Option.some.inj (htimer.symm.trans htimer')
  constructor
  · refine ⟨h.census, h.containers.erase hlookup htimer, h.keys, h.nodup, ?_⟩
    intro e he
    exact h.apart e (OrderedSet.mem_erase.mp he).2
  · rintro e he rfl
    obtain ⟨hne, he⟩ := OrderedSet.mem_erase.mp he
    exact hne (h.containers.eq_of_timer_eq he hmem rfl)

end Consistent

/-! ## The steps outside `runTimer` -/

/-- What the steps outside `runTimer` leave unchanged: the batch, the timers that are waiting unless
they are deleted, and the timers on the heap unless they are new. -/
structure Frame (q q' : TimerQueue) : Prop where
  phase : q'.phase = q.phase
  batch : ∀ e ∈ q.phase.batch, q'.heap e.timer = q.heap e.timer
  born : ∀ p timer, q'.heap p = some timer → q.heap p = some timer ∨ q.Unborn timer.serial
  unborn : ∀ n, q'.Unborn n → q.Unborn n
  waiting : ∀ e ∈ q.timers_, ∀ timer, q.heap e.timer = some timer →
    (e ∈ q'.timers_ ∧ q'.heap e.timer = some timer) ∨ .delete timer.serial ∈ q'.history
  deleted : ∀ n, .delete n ∈ q.history → .delete n ∈ q'.history

namespace Frame

/-- Two such steps after each other. -/
lemma trans (h₁ : Frame q q') (h₂ : Frame q' q'') : Frame q q'' := by
  refine ⟨h₂.phase.trans h₁.phase, ?_, ?_, fun n hn => h₁.unborn n (h₂.unborn n hn), ?_,
    fun n hn => h₂.deleted n (h₁.deleted n hn)⟩
  · intro e he
    have he' : e ∈ q'.phase.batch := by
      rw [h₁.phase]
      exact he
    exact (h₂.batch e he').trans (h₁.batch e he)
  · intro p timer htimer
    rcases h₂.born p timer htimer with hold | hnew
    · exact h₁.born p timer hold
    · exact .inr (h₁.unborn _ hnew)
  · intro e he timer htimer
    rcases h₁.waiting e he timer htimer with ⟨he', htimer'⟩ | hdeleted
    · exact h₂.waiting e he' timer htimer'
    · exact .inr (h₂.deleted _ hdeleted)

/-- Nothing has happened to the timers. -/
lemma same (hcalls : q'.calls = q.calls) (hinFlight : q'.inFlight = q.inFlight)
    (hheap : q'.heap = q.heap) (htimers : q'.timers_ = q.timers_) (hphase : q'.phase = q.phase)
    (hdeleted : ∀ n, .delete n ∈ q.history → .delete n ∈ q'.history) : Frame q q' := by
  refine ⟨hphase, fun e _ => by rw [hheap], fun p timer htimer => .inl ?_, ?_, ?_, hdeleted⟩
  · rw [← hheap]
    exact htimer
  · intro n hn
    rw [Unborn, hcalls, hinFlight] at hn
    exact hn
  · intro e he timer htimer
    left
    rw [htimers, hheap]
    exact ⟨he, htimer⟩

/-- Taking an id leaves the timers alone. -/
lemma takeId (q : TimerQueue) : Frame q q.takeId := by
  refine ⟨rfl, fun _ _ => rfl, fun _ _ => .inl, ?_, fun e he timer htimer => .inl ⟨he, htimer⟩,
    fun _ => id⟩
  rintro n (hge | hmem)
  · exact .inl (Nat.le_of_succ_le hge)
  · rcases List.mem_cons.mp hmem with rfl | hmem
    · exact .inl le_rfl
    · exact .inr hmem

/-- A new timer leaves the others alone. -/
lemma newTimer {call : ℕ × TimerId} (h : q.Consistent) (hcall : call ∈ q.inFlight)
    (hfree : q.heap p = none) (when_ : Timestamp) (interval_ : ℚ) :
    Frame q (q.newTimer call p when_ interval_) := by
  have hbatch := h.notMem_batch_of_free hfree
  refine ⟨rfl, ?_, ?_, ?_, ?_, fun _ => id⟩
  · intro e he
    refine Function.update_of_ne (fun heq => hbatch ?_) _ _
    exact heq ▸ mem_batch.mpr ⟨e, he, rfl⟩
  · intro p' timer htimer
    by_cases hp : p' = p
    · subst hp
      rw [newTimer_heap_self] at htimer
      obtain rfl := Option.some.inj htimer
      exact .inr (.inr (List.mem_map.mpr ⟨call, hcall, rfl⟩))
    · rw [newTimer_heap_of_ne hp] at htimer
      exact .inl htimer
  · rintro n (hge | hmem)
    · exact .inl hge
    · obtain ⟨call', hcall', rfl⟩ := List.mem_map.mp hmem
      exact .inr (List.mem_map.mpr ⟨call', List.mem_of_mem_erase hcall', rfl⟩)
  · intro e he timer htimer
    refine .inl ⟨he, ?_⟩
    rw [newTimer_heap_of_ne (h.ne_of_free hfree e he)]
    exact htimer

/-- Inserting a timer leaves the others alone. -/
lemma insertTimer (q : TimerQueue) (p : TimerPtr) (timer : Timer) :
    Frame q (q.insertTimer p timer) :=
  ⟨rfl, fun _ _ => rfl, fun _ _ => .inl, fun _ => id,
    fun _ he _ htimer => .inl ⟨OrderedSet.mem_insert.mpr (.inr he), htimer⟩, fun _ => id⟩

/-- The timer that `cancelTimerInLoop` has found is deleted. -/
lemma cancelledAt {i : TimerId} (h : q.Consistent) (hlookup : q.activeTimers_.lookup i = some p)
    (htimer : q.heap p = some timer) : Frame q (q.cancelledAt i p timer) := by
  obtain ⟨timer', htimer', -, hmem⟩ := h.containers.active i p hlookup
  obtain rfl := Option.some.inj (htimer.symm.trans htimer')
  refine ⟨rfl, ?_, ?_, fun _ => id, ?_, ?_⟩
  · intro e he
    refine Function.update_of_ne (fun heq => h.apart _ hmem ?_) _ _
    exact mem_batch.mpr ⟨e, he, heq⟩
  · intro p' timer' htimer'
    left
    by_cases hp : p' = p
    · subst hp
      exact absurd htimer' (by simp [TimerQueue.cancelledAt, record, deleteTimer, eraseTimer])
    · simpa [TimerQueue.cancelledAt, record, deleteTimer, eraseTimer, hp] using htimer'
  · intro e he timer' htimer'
    by_cases hp : e.timer = p
    · obtain rfl := h.containers.eq_of_timer_eq he hmem hp
      obtain rfl := Option.some.inj (htimer.symm.trans htimer')
      exact .inr (List.mem_cons_of_mem _ List.mem_cons_self)
    · refine .inl ⟨OrderedSet.mem_erase.mpr ⟨?_, he⟩, ?_⟩
      · rintro rfl
        exact hp rfl
      · simpa [TimerQueue.cancelledAt, record, deleteTimer, eraseTimer, hp] using htimer'
  · intro n hn
    exact List.mem_cons_of_mem _ (List.mem_cons_of_mem _ hn)

/-- Recording something leaves the timers alone. -/
lemma record (q : TimerQueue) (d : TimerEffect) : Frame q (q.record d) :=
  .same rfl rfl rfl rfl rfl fun _ => List.mem_cons_of_mem _

/-- The result of a member function that returns with this frame, or fails. -/
lemma outcome {r : Except TimerFault TimerQueue} (h : ∀ q', r = .ok q' → Frame q q') :
    Frame q (q.outcome r) := by
  cases r with
  | ok q' => exact h q' rfl
  | error f => exact same rfl rfl rfl rfl rfl fun _ => id

end Frame

/-! ## The steps of `runTimer` -/

/-- What the steps of `runTimer` can do. -/
inductive RunStep (q : TimerQueue) : TimerEvent → TimerQueue → Prop
  /-- There are no timers. -/
  | nothing {now : Timestamp} (idle : q.phase = .idle) (empty : q.timers_.toList = []) :
      RunStep q (.runTimer now) (q.record (.runTimer now))
  /-- The assertion of `getExpiredTimers` fails. -/
  | asserts {now : Timestamp} (idle : q.phase = .idle) (pivot : ¬ q.NoneBeyondPivot now) :
      RunStep q (.runTimer now) { q with fault := some .assertion }
  /-- The expired timers are taken out of the containers. -/
  | expire {now : Timestamp} (idle : q.phase = .idle) (pivot : q.NoneBeyondPivot now)
      {activeTimers_ : AList fun _ : TimerId => TimerPtr}
      (lookup : ∀ id p, activeTimers_.lookup id = some p ↔ q.activeTimers_.lookup id = some p ∧
        ∀ e ∈ q.timers_.before ⟨now, INT_MAX⟩, ∀ timer, q.heap e.timer = some timer →
          timer.id_ ≠ id) :
      RunStep q (.runTimer now) (q.expiredTaken now activeTimers_)
  | trigger {now : Timestamp} {done : List TimerEntry} {e : TimerEntry} {next : List TimerEntry}
      {timer : Timer} (phase : q.phase = .triggering now done (e :: next))
      (live : q.heap e.timer = some timer) (when_ : timer.when_ = e.expiration) :
      RunStep q .trigger { q with
        phase := .triggering now (done ++ [e]) next
        history := .trigger timer.serial :: q.history }
  | triggered {now : Timestamp} {done : List TimerEntry}
      (phase : q.phase = .triggering now done []) :
      RunStep q .triggered { q with callingTimesFunctor_ := false, phase := .restarting now done }
  | restart {now : Timestamp} {e : TimerEntry} {rest : List TimerEntry} {timer : Timer}
      (phase : q.phase = .restarting now (e :: rest)) (live : q.heap e.timer = some timer)
      (repeats : timer.repeats) (kept : timer.id_ ∉ q.cancelTimers_) :
      RunStep q .restart (q.restarted now e rest timer)
  | delete {now : Timestamp} {e : TimerEntry} {rest : List TimerEntry} {timer : Timer}
      (phase : q.phase = .restarting now (e :: rest)) (live : q.heap e.timer = some timer) :
      RunStep q .restart ({ q with phase := .restarting now rest }.deleteTimer e.timer timer)
  | finish {now : Timestamp} (phase : q.phase = .restarting now []) :
      RunStep q .finish { q with phase := .idle }
  /-- The containers do not have the same size. -/
  | finishAsserts {now : Timestamp} (phase : q.phase = .restarting now []) :
      RunStep q .finish { q with fault := some .assertion }

/-- `getExpiredTimers` fails its assertion when a timer with deadline `now` lies beyond the pivot.
-/
lemma noneBeyondPivot_iff (q : TimerQueue) (now : Timestamp) :
    q.NoneBeyondPivot now ↔
      ∀ e ∈ (q.timers_.notBefore ⟨now, INT_MAX⟩).toList.head?, now < e.expiration := by
  constructor
  · exact NoneBeyondPivot.assertion
  · intro h e he heq
    by_contra hbeyond
    -- the entry is not below the pivot, so the first entry that is not has its deadline at most
    have hmem : e ∈ (q.timers_.notBefore ⟨now, INT_MAX⟩).toList := by
      rw [OrderedSet.notBefore_eq_filter]
      refine List.mem_filter.mpr ⟨he, decide_eq_true (not_lt.mp ?_)⟩
      rw [lt_pivot_iff]
      rintro (hlt | ⟨-, hlt⟩)
      · exact absurd heq hlt.ne
      · exact hbeyond hlt
    cases hlater : (q.timers_.notBefore ⟨now, INT_MAX⟩).toList with
    | nil =>
      rw [hlater] at hmem
      cases hmem
    | cons first rest =>
      have hfirst : now < first.expiration := h first (by rw [hlater]; rfl)
      have hle : first ≤ e := by
        have hsorted := (q.timers_.notBefore ⟨now, INT_MAX⟩).sorted
        rw [hlater] at hmem hsorted
        rcases List.mem_cons.mp hmem with rfl | hmem
        · exact le_rfl
        · exact (List.pairwise_cons.mp hsorted).1 e hmem
      have hexpiration : first.expiration ≤ e.expiration := by
        rcases Prod.Lex.toLex_le_toLex.mp hle with hlt | ⟨heq, -⟩
        · exact hlt.le
        · exact heq.le
      exact absurd heq (hfirst.trans_le hexpiration).ne'

namespace Consistent

/-- `runTimer` up to its first loop. -/
lemma runTimer_outcome (h : q.Consistent) (hidle : q.phase = .idle) (now : Timestamp) :
    RunStep q (.runTimer now) (q.outcome (q.runTimer now)) := by
  by_cases hempty : q.timers_.toList = []
  · rw [runTimer, if_pos hempty]
    exact .nothing hidle hempty
  · have hlive : ∀ e ∈ q.timers_.before ⟨now, INT_MAX⟩, ∃ timer, q.heap e.timer = some timer := by
      intro e he
      obtain ⟨timer, htimer, -⟩ := h.containers.keys e (OrderedSet.mem_of_mem_before he)
      exact ⟨timer, htimer⟩
    obtain ⟨activeTimers_, hok, hlookup⟩ := TimerContainers.eraseExpired_ok hlive q.activeTimers_
    have herased : eraseExpired q.beginRun.heap (q.beginRun.timers_.before ⟨now, INT_MAX⟩)
        q.beginRun.activeTimers_ = .ok activeTimers_ := hok
    rw [runTimer, if_neg hempty, getExpiredTimers]
    by_cases hpivot : q.NoneBeyondPivot now
    · have htest : ∀ e ∈ (q.beginRun.timers_.notBefore ⟨now, INT_MAX⟩).toList.head?,
          now < e.expiration := (q.noneBeyondPivot_iff now).mp hpivot
      simp only [if_pos htest, herased]
      exact .expire hidle hpivot hlookup
    · have htest : ¬ ∀ e ∈ (q.beginRun.timers_.notBefore ⟨now, INT_MAX⟩).toList.head?,
          now < e.expiration := (q.noneBeyondPivot_iff now).not.mp hpivot
      simp only [if_neg htest]
      exact .asserts hidle hpivot

/-- Each step of `runTimer` is in the list. -/
lemma runStep (h : q.Consistent) {ev : TimerEvent} (hstep : q.stepRunTimer q.phase ev = some q') :
    RunStep q ev q' := by
  have hlive {e : TimerEntry} (he : e ∈ q.phase.batch) := h.keys e he
  unfold stepRunTimer at hstep
  split at hstep
  · rename_i now hphase
    obtain ⟨-, hstep⟩ := Option.ite_none_right_eq_some.mp hstep
    obtain rfl := Option.some.inj hstep
    exact h.runTimer_outcome hphase now
  · rename_i now done e next hphase
    obtain rfl := Option.some.inj hstep
    obtain ⟨timer, htimer, hwhen⟩ := hlive (e := e) (by rw [hphase]; simp [TimerPhase.batch])
    rw [trigger_eq htimer]
    exact .trigger hphase htimer hwhen
  · rename_i now done hphase
    obtain rfl := Option.some.inj hstep
    exact .triggered hphase
  · rename_i now e rest hphase
    obtain rfl := Option.some.inj hstep
    obtain ⟨timer, htimer, -⟩ := hlive (e := e) (by rw [hphase]; exact List.mem_cons_self)
    rw [restartOrDelete_eq htimer]
    split_ifs with hrestart
    · exact .restart hphase htimer hrestart.1 hrestart.2
    · exact .delete hphase htimer
  · rename_i now hphase
    obtain rfl := Option.some.inj hstep
    unfold checkSizes
    split_ifs
    · exact .finish hphase
    · exact .finishAsserts hphase
  · cases hstep

/-- The expired timers become the batch. -/
lemma expiredTaken {now : Timestamp} {activeTimers_ : AList fun _ : TimerId => TimerPtr}
    (h : q.Consistent)
    (hlookup : ∀ id p, activeTimers_.lookup id = some p ↔ q.activeTimers_.lookup id = some p ∧
      ∀ e ∈ q.timers_.before ⟨now, INT_MAX⟩, ∀ timer, q.heap e.timer = some timer →
        timer.id_ ≠ id) : (q.expiredTaken now activeTimers_).Consistent := by
  have hbatch : (q.expiredTaken now activeTimers_).batch =
      (q.timers_.before ⟨now, INT_MAX⟩).map TimerEntry.timer := rfl
  refine ⟨h.census, h.containers.expire hlookup, ?_, ?_, ?_⟩
  · intro e he
    exact h.containers.keys e (OrderedSet.mem_of_mem_before he)
  · rw [hbatch]
    refine List.Nodup.map_on ?_ (q.timers_.nodup.sublist (List.takeWhile_sublist _))
    intro e he e' he'
    exact h.containers.eq_of_timer_eq (OrderedSet.mem_of_mem_before he)
      (OrderedSet.mem_of_mem_before he')
  · intro e he hmem
    rw [hbatch] at hmem
    obtain ⟨e', he', heq⟩ := List.mem_map.mp hmem
    obtain rfl := h.containers.eq_of_timer_eq (OrderedSet.mem_of_mem_before he')
      (OrderedSet.mem_of_mem_notBefore he) heq
    exact OrderedSet.notMem_notBefore_of_mem_before he' he

/-- `runTimer` takes the next timer of the batch in hand, which is then nowhere else. -/
lemma popEntry {now : Timestamp} {rest : List TimerEntry} (h : q.Consistent)
    (hphase : q.phase = .restarting now (e :: rest)) :
    ({ q with phase := .restarting now rest }).Consistent ∧
      e.timer ∉ ({ q with phase := .restarting now rest }).batch ∧
      ∀ e' ∈ q.timers_, e'.timer ≠ e.timer := by
  have hbatch : q.batch = e.timer :: rest.map TimerEntry.timer := by
    rw [batch, hphase]
    rfl
  have hnodup := h.nodup
  rw [hbatch, List.nodup_cons] at hnodup
  refine ⟨⟨h.census, h.containers, ?_, hnodup.2, ?_⟩, hnodup.1, ?_⟩
  · intro e' he'
    exact h.keys e' (by rw [hphase]; exact List.mem_cons_of_mem e he')
  · intro e' he' hmem
    exact h.apart e' he' (by rw [hbatch]; exact List.mem_cons_of_mem _ hmem)
  · intro e' he' heq
    exact h.apart e' he' (by rw [hbatch, heq]; exact List.mem_cons_self)

/-- A timer of the batch is replaced by itself with another deadline. -/
lemma replaced {now : Timestamp} {rest : List TimerEntry} (h : q.Consistent)
    (hphase : q.phase = .restarting now (e :: rest)) (htimer : q.heap e.timer = some timer) :
    (q.replaced now e rest timer).Consistent := by
  obtain ⟨hpopped, hbatch, hcontained⟩ := h.popEntry hphase
  obtain ⟨live, hlive, hcensus⟩ := hpopped.census
  refine ⟨⟨live, ?_, hcensus.replace htimer (timer.restart_serial now)⟩,
    hpopped.containers.update hcontained, ?_, hpopped.nodup, hpopped.apart⟩
  · intro p' timer' htimer'
    by_cases hp : p' = e.timer
    · exact hp ▸ hlive _ timer htimer
    · exact hlive p' timer' ((Function.update_of_ne hp ..).symm.trans htimer')
  · intro e' he'
    have hne : e'.timer ≠ e.timer := fun heq => hbatch (heq ▸ mem_batch.mpr ⟨e', he', rfl⟩)
    obtain ⟨timer', htimer', hwhen⟩ := hpopped.keys e' he'
    exact ⟨timer', (Function.update_of_ne hne ..).trans htimer', hwhen⟩

/-- A timer of the batch is restarted and goes back into the containers. -/
lemma restarted {now : Timestamp} {rest : List TimerEntry} (h : q.Consistent)
    (hphase : q.phase = .restarting now (e :: rest)) (htimer : q.heap e.timer = some timer) :
    (q.restarted now e rest timer).Consistent :=
  (h.replaced hphase htimer).insertTimer (Function.update_self ..) (h.popEntry hphase).2.1

/-- The steps of `runTimer` keep the queue consistent. -/
lemma of_runStep {ev : TimerEvent} (h : q.Consistent) (hstep : RunStep q ev q') :
    q'.Consistent := by
  cases hstep with
  | nothing => exact h.congr rfl rfl rfl rfl rfl rfl rfl
  | asserts => exact h.congr rfl rfl rfl rfl rfl rfl rfl
  | expire idle pivot lookup => exact h.expiredTaken lookup
  | trigger phase =>
    refine h.congr rfl rfl rfl rfl rfl ?_ rfl
    rw [phase]
    simp [TimerPhase.batch]
  | triggered phase =>
    refine h.congr rfl rfl rfl rfl rfl ?_ rfl
    rw [phase]
    simp [TimerPhase.batch]
  | restart phase live => exact h.restarted phase live
  | delete phase live =>
    obtain ⟨hpopped, hbatch, hcontained⟩ := h.popEntry phase
    exact hpopped.deleteTimer live hbatch hcontained
  | finish phase =>
    refine h.congr rfl rfl rfl rfl rfl ?_ rfl
    rw [phase]
    rfl
  | finishAsserts => exact h.congr rfl rfl rfl rfl rfl rfl rfl

end Consistent

/-! ## All steps -/

/-- The event is a step of `runTimer`. -/
def ofRunTimer : TimerEvent → Bool
  | .runTimer _ | .trigger | .triggered | .restart | .finish => true
  | _ => false

/-- The assertion changes nothing. -/
lemma eq_of_checkSizes (hok : q.checkSizes = .ok q') : q' = q := by
  unfold checkSizes at hok
  split_ifs at hok
  exact (Except.ok.inj hok).symm

namespace Consistent

/-- A call that halts ends the process. -/
lemma outcome {r : Except TimerFault TimerQueue} (h : q.Consistent)
    (hr : ∀ q', r = .ok q' → q'.Consistent) : (q.outcome r).Consistent := by
  cases r with
  | ok q' => exact hr q' rfl
  | error f => exact h.congr rfl rfl rfl rfl rfl rfl rfl

/-- The recording of something that is not a deletion. -/
lemma record {d : TimerEffect} (h : q.Consistent) (hdelete : ∀ n, d ≠ .delete n) :
    (q.record d).Consistent := by
  refine h.congr rfl rfl rfl rfl rfl rfl ?_
  cases d with
  | delete n => exact absurd rfl (hdelete n)
  | _ => rfl

/-- `addTimer` on the loop's thread. -/
lemma addedOnLoop (h : q.Consistent) (hfree : q.heap p = none) (when_ : Timestamp)
    (interval_ : ℚ) :
    (q.addedOnLoop p when_ interval_).Consistent ∧ Frame q (q.addedOnLoop p when_ interval_) := by
  have hcall : (q.calls, q.atomic_ + 1) ∈ q.takeId.inFlight := List.mem_cons_self
  have hcreated := h.takeId.newTimer hcall hfree when_ interval_
  have hrecorded := hcreated.record (d := .addTimer q.calls (q.atomic_ + 1)) fun n => by simp
  constructor
  · exact hrecorded.insertTimer (Function.update_self ..) (h.notMem_batch_of_free hfree)
  · have hframe := Frame.newTimer h.takeId hcall hfree when_ interval_
    have hlogged := Frame.record
      (q.takeId.newTimer (q.calls, q.atomic_ + 1) p when_ interval_)
      (.addTimer q.calls (q.atomic_ + 1))
    exact (((Frame.takeId q).trans hframe).trans hlogged).trans (.insertTimer _ p _)

/-- `cancelTimerInLoop` deletes a timer that is waiting, or changes nothing but `cancelTimers_`. -/
lemma cancelTimerInLoop (h : q.Consistent) (i : TimerId) :
    (q.outcome (q.cancelTimerInLoop i)).Consistent ∧
      Frame q (q.outcome (q.cancelTimerInLoop i)) := by
  cases hlookup : q.activeTimers_.lookup i with
  | none =>
    rw [cancelTimerInLoop_of_not_found hlookup]
    have hsame : (q.notFound i).Consistent := h.congr rfl rfl rfl rfl rfl rfl rfl
    have hframe : Frame q (q.notFound i) :=
      .same rfl rfl rfl rfl rfl fun n => List.mem_cons_of_mem _
    constructor
    · refine h.outcome fun q' hok => ?_
      rwa [eq_of_checkSizes hok]
    · refine .outcome fun q' hok => ?_
      rwa [eq_of_checkSizes hok]
  | some p =>
    obtain ⟨timer, htimer, -, hmem⟩ := h.containers.active i p hlookup
    rw [cancelTimerInLoop_of_found h.containers hlookup htimer]
    obtain ⟨herased, hnot⟩ := h.eraseTimer hlookup htimer
    have hdeleted := herased.deleteTimer htimer (h.apart _ hmem) hnot
    have hcancelled : (q.cancelledAt i p timer).Consistent := hdeleted.record fun n => by simp
    have hframe := Frame.cancelledAt h hlookup htimer
    constructor
    · refine h.outcome fun q' hok => ?_
      rwa [eq_of_checkSizes hok]
    · refine .outcome fun q' hok => ?_
      rwa [eq_of_checkSizes hok]

end Consistent

namespace Consistent

/-- A functor is called: it adds a timer that is not in the batch, as there is no batch, or cancels
one. -/
lemma call (h : q.Consistent) (hidle : q.phase = .idle) (f : TimerFunctor) :
    (q.outcome (q.call f)).Consistent ∧ Frame q (q.outcome (q.call f)) := by
  cases f with
  | addTimerInLoop p =>
    cases hp : q.heap p with
    | none =>
      rw [TimerQueue.call, addTimer, hp]
      exact ⟨h.congr rfl rfl rfl rfl rfl rfl rfl, .same rfl rfl rfl rfl rfl fun _ => id⟩
    | some timer =>
      have hbatch : p ∉ q.batch := by
        rw [batch, hidle]
        exact List.not_mem_nil
      rw [TimerQueue.call, addTimer_eq hp]
      exact ⟨h.insertTimer hp hbatch, .insertTimer q p timer⟩
  | cancelTimerInLoop i => exact h.cancelTimerInLoop i
  | other => exact ⟨h, .same rfl rfl rfl rfl rfl fun _ => id⟩

/-- A step outside `runTimer`, and a step of `runTimer`. -/
theorem stepRunning (h : q.Consistent) {ev : TimerEvent} (hstep : q.stepRunning ev = some q') :
    q'.Consistent ∧ (ofRunTimer ev = false ∧ Frame q q' ∨ RunStep q ev q') := by
  cases ev with
  | takeId =>
    obtain rfl := Option.some.inj hstep
    exact ⟨h.takeId, .inl ⟨rfl, .takeId q⟩⟩
  | newTimer call p when_ interval_ =>
    obtain ⟨⟨hcall, hfree⟩, hstep⟩ := Option.ite_none_right_eq_some.mp hstep
    obtain rfl := Option.some.inj hstep
    have hcreated := h.newTimer hcall hfree.2 when_ interval_
    refine ⟨hcreated.congr rfl rfl rfl rfl rfl rfl rfl, .inl ⟨rfl, ?_⟩⟩
    exact (Frame.newTimer h hcall hfree.2 when_ interval_).trans
      (.same rfl rfl rfl rfl rfl fun _ => id)
  | queueCancel i =>
    obtain rfl := Option.some.inj hstep
    exact ⟨h.congr rfl rfl rfl rfl rfl rfl rfl, .inl ⟨rfl, .same rfl rfl rfl rfl rfl fun _ => id⟩⟩
  | queueOther =>
    obtain rfl := Option.some.inj hstep
    exact ⟨h.congr rfl rfl rfl rfl rfl rfl rfl, .inl ⟨rfl, .same rfl rfl rfl rfl rfl fun _ => id⟩⟩
  | writeBack push =>
    obtain ⟨-, hstep⟩ := Option.ite_none_right_eq_some.mp hstep
    obtain rfl := Option.some.inj hstep
    have hreturned : deletedIn (q.returned push.1) = [] := by
      unfold returned
      split
      · cases q.heap _ <;> rfl
      · rfl
    refine ⟨h.congr rfl rfl rfl rfl rfl rfl ?_, .inl ⟨rfl, .same rfl rfl rfl rfl rfl fun n => ?_⟩⟩
    · simp only [writeBack, deletedIn, List.filterMap_append] at hreturned ⊢
      rw [hreturned, List.nil_append]
    · exact List.mem_append_right _
  | addTimer p when_ interval_ =>
    obtain ⟨⟨-, hfree⟩, hstep⟩ := Option.ite_none_right_eq_some.mp hstep
    obtain rfl := Option.some.inj hstep
    rw [addTimerOnLoop_eq]
    obtain ⟨hconsistent, hframe⟩ := h.addedOnLoop hfree.2 when_ interval_
    exact ⟨hconsistent, .inl ⟨rfl, hframe⟩⟩
  | cancelTimer i =>
    obtain ⟨-, hstep⟩ := Option.ite_none_right_eq_some.mp hstep
    obtain rfl := Option.some.inj hstep
    obtain ⟨hconsistent, hframe⟩ := h.cancelTimerInLoop i
    exact ⟨hconsistent, .inl ⟨rfl, hframe⟩⟩
  | swap =>
    obtain ⟨-, hstep⟩ := Option.ite_none_right_eq_some.mp hstep
    obtain rfl := Option.some.inj hstep
    exact ⟨h.congr rfl rfl rfl rfl rfl rfl rfl, .inl ⟨rfl, .same rfl rfl rfl rfl rfl fun _ => id⟩⟩
  | functor =>
    obtain ⟨f, rest, hphase, -, rfl⟩ := callNextFunctor_eq_some hstep
    have hpopped : ({ q with functors := rest }).Consistent :=
      h.congr rfl rfl rfl rfl rfl rfl rfl
    obtain ⟨hconsistent, hframe⟩ := hpopped.call hphase f
    have hpop : Frame q { q with functors := rest } := .same rfl rfl rfl rfl rfl fun _ => id
    exact ⟨hconsistent, .inl ⟨rfl, hpop.trans hframe⟩⟩
  | runTimer | trigger | triggered | restart | finish =>
    have hrun := h.runStep hstep
    exact ⟨h.of_runStep hrun, .inr hrun⟩

/-- Every step keeps the queue consistent, and is a step of `runTimer` or keeps the frame. -/
theorem step (h : q.Consistent) {ev : TimerEvent} (hstep : q.step ev = some q') :
    q'.Consistent ∧ (ofRunTimer ev = false ∧ Frame q q' ∨ RunStep q ev q') := by
  unfold TimerQueue.step at hstep
  split at hstep
  · exact h.stepRunning hstep
  · cases hstep

end Consistent

end TimerQueue

end SimpleMuduo
