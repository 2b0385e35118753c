import SimpleMuduo.TimerQueue.Containers

/-!
# The invariant of the timer queue

The invariant is stated for a state in which the loop's thread has some timers in hand, on the way
from one place to another.  The member functions take a timer in hand and put it somewhere else, so
that each of them is a composition of the operations for which there are lemmas here.
-/

namespace SimpleMuduo

namespace TimerQueue

variable {start : BitVec 32} {q q' : TimerQueue} {p p' : TimerPtr} {timer : Timer}
  {inHand : List TimerPtr}

/-- The invariant of the timer queue when the addresses `inHand` are held by nobody else. -/
structure Inv (start : BitVec 32) (q : TimerQueue) (inHand : List TimerPtr) : Prop where
  census : Census Timer.serial q.calls (q.inFlight.map Prod.fst) q.heap (inHand ++ q.held)
    (deletedIn q.history)
  ids : TimerIds start q
  containers : TimerContainers q.calls q.heap q.timers_ q.activeTimers_
  log : TriggerLog q.heap q.phase.next q.history
  unharmed : q.fault ≠ some .useAfterFree

/-- What the invariant asks of the result of a member function. -/
def KeepsInv (start : BitVec 32) : Except TimerFault TimerQueue → Prop
  | .ok q' => q'.Inv start []
  | .error f => f = .assertion

lemma mem_batch_of_mem_next {phase : TimerPhase} {e : TimerEntry} (he : e ∈ phase.next) :
    e ∈ phase.batch := by
  cases phase with
  | triggering now done next => exact List.mem_append_right done he
  | _ => exact absurd he List.not_mem_nil

lemma mem_held_of_mem_timers {e : TimerEntry} (he : e ∈ q.timers_) : e.timer ∈ q.held := by
  refine List.mem_append_left _ (List.mem_append_right _ ?_)
  exact mem_contained.mpr ⟨e, he, rfl⟩

lemma mem_held_of_mem_batch {e : TimerEntry} (he : e ∈ q.phase.batch) : e.timer ∈ q.held :=
  List.mem_append_right _ (mem_batch.mpr ⟨e, he, rfl⟩)

namespace Inv

lemma new (start : BitVec 32) : (TimerQueue.new start).Inv start [] := by
  refine ⟨.empty _, ⟨?_, ?_, ?_⟩, .empty _, .empty _, ?_⟩
  · rfl
  · intro call hcall
    exact absurd hcall List.not_mem_nil
  · intro p timer htimer
    cases htimer
  · intro h
    cases h

/-- A fault other than a use after the end of an object changes nothing. -/
lemma outcome {r : Except TimerFault TimerQueue} (h : q.Inv start []) (hr : KeepsInv start r) :
    (q.outcome r).Inv start [] := by
  cases r with
  | ok q' => exact hr
  | error f =>
    obtain rfl : f = .assertion := hr
    refine ⟨h.census, ⟨h.ids.next, h.ids.inFlight, h.ids.timers⟩, h.containers, h.log, ?_⟩
    intro heq
    cases heq

/-! ## What is in hand is nowhere else -/

lemma ne_of_mem_held (h : q.Inv start [p]) (hp' : p' ∈ q.held) : p' ≠ p := by
  rintro rfl
  exact (List.nodup_cons.mp h.census.nodup).1 hp'

lemma ne_of_mem_timers (h : q.Inv start [p]) : ∀ e ∈ q.timers_, e.timer ≠ p :=
  fun _ he => h.ne_of_mem_held (mem_held_of_mem_timers he)

lemma ne_of_mem_next (h : q.Inv start [p]) : ∀ e ∈ q.phase.next, e.timer ≠ p :=
  fun _ he => h.ne_of_mem_held (mem_held_of_mem_batch (mem_batch_of_mem_next he))

lemma live_inHand (h : q.Inv start [p]) : ∃ timer, q.heap p = some timer :=
  h.census.live p List.mem_cons_self

/-! ## Putting the timer in hand somewhere -/

/-- As long as no id has been taken twice, the id of the timer in hand is not in use. -/
lemma fresh_of_inHand (h : q.Inv start [p]) (htimer : q.heap p = some timer)
    (hcalls : q.calls < 2 ^ 32) : timer.id_ ∉ q.activeTimers_ := by
  rw [← AList.lookup_eq_none, Option.eq_none_iff_forall_ne_some]
  intro p' hlookup
  obtain ⟨timer', htimer', hid, hmem⟩ := h.containers.active _ p' hlookup
  have hheld : p' ∈ [p] ++ q.held := List.mem_append_right _ (mem_held_of_mem_timers hmem)
  have hlt := h.census.number_lt List.mem_cons_self htimer
  have hlt' := h.census.number_lt hheld htimer'
  rw [h.ids.timers p timer htimer, h.ids.timers p' timer' htimer'] at hid
  have hserial := timerIdOf_injective (hlt'.trans hcalls) (hlt.trans hcalls) hid
  have heq := h.census.eq_of_number_eq hheld List.mem_cons_self htimer' htimer hserial
  exact h.ne_of_mem_timers _ hmem heq

/-- It is inserted into the containers. -/
lemma insertTimer (h : q.Inv start [p]) (htimer : q.heap p = some timer) :
    (q.insertTimer p timer).Inv start [] := by
  have hnew : (⟨timer.when_, p⟩ : TimerEntry) ∉ q.timers_ := fun he => h.ne_of_mem_timers _ he rfl
  have hcontained : (q.insertTimer p timer).contained.Perm (p :: q.contained) :=
    (OrderedSet.insert_perm hnew).map TimerEntry.timer
  refine ⟨h.census.perm ?_, ⟨h.ids.next, h.ids.inFlight, h.ids.timers⟩,
    h.containers.insert htimer (h.fresh_of_inHand htimer), h.log, h.unharmed⟩
  refine List.perm_iff_count.mpr fun x => ?_
  have hcount := hcontained.count_eq x
  change _ = List.count x (q.queued ++ (q.insertTimer p timer).contained ++ q.batch)
  simp only [held, List.count_append, hcount, List.count_cons, List.count_nil]
  omega

/-- It is deleted. -/
lemma deleteTimer (h : q.Inv start [p]) (htimer : q.heap p = some timer) :
    (q.deleteTimer p timer).Inv start [] := by
  refine ⟨h.census.delete htimer, ⟨h.ids.next, h.ids.inFlight, timers_update h.ids.timers ?_⟩,
    h.containers.update h.ne_of_mem_timers, ?_, h.unharmed⟩
  · intro timer' htimer'
    cases htimer'
  · refine (h.log.update h.ne_of_mem_next).record ?_ ?_
    · intro n heq
      cases heq
    · intro now heq
      cases heq

/-- It is passed to `queueInLoop` in a functor. -/
lemma queueInLoop {f : TimerFunctor} (h : q.Inv start f.timer?.toList) :
    (q.queueInLoop f).Inv start [] := by
  refine ⟨h.census.perm ?_, ⟨h.ids.next, h.ids.inFlight, h.ids.timers⟩, h.containers, h.log,
    h.unharmed⟩
  cases f <;> rfl

/-! ## Taking a timer in hand -/

/-- The call `call` of `addTimer` creates its timer. -/
lemma newTimer {call : ℕ × TimerId} (h : q.Inv start []) (hcall : call ∈ q.inFlight)
    (hfree : q.Free p) (when_ : Timestamp) (interval_ : ℚ) :
    (q.newTimer call p when_ interval_).Inv start [p] := by
  have hne : ∀ p' ∈ q.held, p' ≠ p := fun p' hp' => h.census.ne_of_free hfree.2 hp'
  have hreserved := (List.perm_cons_erase hcall).map Prod.fst
  refine ⟨?_, h.ids.newTimer hcall p when_ interval_, ?_, ?_, h.unharmed⟩
  · exact (h.census.reserved_perm hreserved).create
      (o := ⟨call.1, call.2, when_, interval_⟩) hfree.2
  · exact h.containers.update fun e he => hne _ (mem_held_of_mem_timers he)
  · exact h.log.update fun e he => hne _ (mem_held_of_mem_batch (mem_batch_of_mem_next he))

/-- `doPendingFunctors` calls the next functor. -/
lemma popFunctor {f : TimerFunctor} {rest : List TimerFunctor} (h : q.Inv start [])
    (hfunctors : q.functors = f :: rest) :
    ({ q with functors := rest }).Inv start f.timer?.toList := by
  refine ⟨h.census.perm ?_, ⟨h.ids.next, h.ids.inFlight, h.ids.timers⟩, h.containers, h.log,
    h.unharmed⟩
  refine List.perm_iff_count.mpr fun x => ?_
  simp only [held, queued, contained, batch, hfunctors, List.cons_append, List.filterMap_cons]
  cases f.timer? with
  | none => rfl
  | some p =>
    simp only [List.count_append, List.count_cons, List.count_nil, Option.toList]
    omega

/-- The timer of an id is erased from the containers. -/
lemma eraseTimer {id : TimerId} (h : q.Inv start []) (hlookup : q.activeTimers_.lookup id = some p)
    (htimer : q.heap p = some timer) : (q.eraseTimer id ⟨timer.when_, p⟩).Inv start [p] := by
  have hmem : (⟨timer.when_, p⟩ : TimerEntry) ∈ q.timers_ := by
    obtain ⟨timer', htimer', -, hmem⟩ := h.containers.active id p hlookup
    obtain rfl := Option.some.inj (htimer.symm.trans htimer')
    exact hmem
  have hcontained : q.contained.Perm (p :: (q.eraseTimer id ⟨timer.when_, p⟩).contained) :=
    (OrderedSet.erase_perm hmem).map TimerEntry.timer
  refine ⟨h.census.perm ?_, ⟨h.ids.next, h.ids.inFlight, h.ids.timers⟩,
    h.containers.erase hlookup htimer, h.log, h.unharmed⟩
  refine List.perm_iff_count.mpr fun x => ?_
  have hcount := hcontained.count_eq x
  change _ = List.count x ([p] ++ (q.queued ++ (q.eraseTimer id ⟨timer.when_, p⟩).contained ++
    q.batch))
  simp only [held, List.count_append, hcount, List.count_cons, List.count_nil]
  omega

/-- `runTimer` gets to the next entry that it restarts or deletes. -/
lemma popEntry {now : Timestamp} {e : TimerEntry} {rest : List TimerEntry} (h : q.Inv start [])
    (hphase : q.phase = .restarting now (e :: rest)) :
    ({ q with phase := .restarting now rest }).Inv start [e.timer] := by
  refine ⟨h.census.perm ?_, ⟨h.ids.next, h.ids.inFlight, h.ids.timers⟩, h.containers,
    h.log.none_waiting _, h.unharmed⟩
  refine List.perm_iff_count.mpr fun x => ?_
  simp only [held, queued, contained, batch, hphase, TimerPhase.batch, List.map_cons,
    List.count_append, List.count_cons, List.count_nil]
  omega

/-! ## The other operations -/

lemma takeId (h : q.Inv start []) : q.takeId.Inv start [] :=
  ⟨h.census.reserve, h.ids.takeId, h.containers.mono (Nat.le_succ _), h.log, h.unharmed⟩

/-- Something other than a trigger, a deletion or a call of `runTimer` is recorded. -/
lemma record {d : TimerEffect} (h : q.Inv start inHand) (htrigger : ∀ n, d ≠ .trigger n)
    (hdelete : ∀ n, d ≠ .delete n) (hrun : ∀ now, d ≠ .runTimer now) :
    (q.record d).Inv start inHand := by
  have hdeleted : deletedIn (d :: q.history) = deletedIn q.history := by
    cases d with
    | delete n => exact absurd rfl (hdelete n)
    | _ => rfl
  refine ⟨?_, ⟨h.ids.next, h.ids.inFlight, h.ids.timers⟩, h.containers,
    h.log.record htrigger hrun, h.unharmed⟩
  change Census _ _ _ _ _ (deletedIn (d :: q.history))
  rw [hdeleted]
  exact h.census

/-- A call of `addTimer` or `cancelTimerInLoop` returns. -/
lemma record_addTimer (h : q.Inv start inHand) (n : ℕ) (id : TimerId) :
    (q.record (.addTimer n id)).Inv start inHand := by
  refine h.record ?_ ?_ ?_ <;> intro _ heq <;> cases heq

lemma record_cancel (h : q.Inv start inHand) (id : TimerId) :
    (q.record (.cancelTimerInLoop id)).Inv start inHand := by
  refine h.record ?_ ?_ ?_ <;> intro _ heq <;> cases heq

/-- The members that only matter to `cancelTimerInLoop`. -/
lemma setCancelling (h : q.Inv start []) (cancelTimers_ : Finset TimerId) (b : Bool) :
    ({ q with cancelTimers_ := cancelTimers_, callingTimesFunctor_ := b }).Inv start [] :=
  ⟨h.census, ⟨h.ids.next, h.ids.inFlight, h.ids.timers⟩, h.containers, h.log, h.unharmed⟩

lemma checkSizes (h : q.Inv start []) : KeepsInv start q.checkSizes := by
  unfold TimerQueue.checkSizes
  split_ifs
  · exact h
  · rfl

/-- Nobody has touched the vector since it was read. -/
lemma writeBack {push : TimerFunctor × List TimerFunctor} (h : q.Inv start [])
    (hpush : push ∈ q.pushes) (hcurrent : push.2 = q.pendingFunctors_) :
    (q.writeBack push).Inv start [] := by
  obtain ⟨f, v⟩ := push
  obtain rfl : v = q.pendingFunctors_ := hcurrent
  have hqueued : ({ q with
      pendingFunctors_ := q.pendingFunctors_ ++ [f]
      pushes := q.pushes.erase (f, q.pendingFunctors_) }).queued.Perm q.queued := by
    refine List.perm_iff_count.mpr fun x => ?_
    have herase := (List.perm_cons_erase hpush).filterMap fun push => push.1.timer?
    have hcount := herase.count_eq x
    simp only [queued, List.filterMap_append, List.count_append, hcount, List.filterMap_cons,
      List.filterMap_nil]
    cases f.timer? with
    | none =>
      simp only [List.count_nil]
      omega
    | some p =>
      simp only [List.count_nil, List.count_cons]
      omega
  have hsame : ({ q with
      pendingFunctors_ := q.pendingFunctors_ ++ [f]
      pushes := q.pushes.erase (f, q.pendingFunctors_) }).Inv start [] := by
    refine ⟨h.census.perm ?_, ⟨h.ids.next, h.ids.inFlight, h.ids.timers⟩, h.containers, h.log,
      h.unharmed⟩
    exact (hqueued.symm.append_right _).append_right _
  cases f with
  | addTimerInLoop p =>
    cases hp : q.heap p with
    | none =>
      simp only [TimerQueue.writeBack, returned, hp]
      exact hsame
    | some timer =>
      simp only [TimerQueue.writeBack, returned, hp]
      exact hsame.record_addTimer timer.serial timer.id_
  | _ => exact hsame

lemma swap (h : q.Inv start []) (hfunctors : q.functors = []) :
    ({ q with functors := q.pendingFunctors_, pendingFunctors_ := [] }).Inv start [] := by
  refine ⟨h.census.perm ?_, ⟨h.ids.next, h.ids.inFlight, h.ids.timers⟩, h.containers, h.log,
    h.unharmed⟩
  simp only [held, queued, hfunctors, List.nil_append, List.append_nil]
  exact List.Perm.refl _

end Inv

end TimerQueue

end SimpleMuduo
