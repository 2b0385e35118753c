import SimpleMuduo.TimerQueue.Conservation

/-!
# Cancelled timers

When `cancelTimerInLoop` returns, the timer of its id should not be triggered any more.  It finds
the timer in the containers, and notes the id for the second loop of `runTimer`.  It misses a timer
whose `addTimerInLoop` is still queued, and one that waits in the expired batch for its own trigger.
In the runs in which it is never called for such a timer, cancelling is effective.

The callbacks may call the timer queue; the destructors of what they have captured, which run when
a timer is deleted, are assumed not to.
-/

namespace SimpleMuduo

namespace TimerQueue

variable {start : BitVec 32} {q q' : TimerQueue} {p : TimerPtr} {timer : Timer} {id : TimerId}
  {n : ℕ} {history : List TimerEffect}

/-! ## Cancelling is effective -/

/-- The calls of `addTimer` that have returned the id. -/
def returnedWith (id : TimerId) : List TimerEffect → List ℕ
  | [] => []
  | .addTimer n id' :: history =>
    if id' = id then n :: returnedWith id history else returnedWith id history
  | _ :: history => returnedWith id history

/-- The calls of `addTimer` that had returned their id when a `cancelTimerInLoop` of that id
returned. -/
def cancelledCalls : List TimerEffect → List ℕ
  | [] => []
  | .cancelTimerInLoop id :: history => returnedWith id history ++ cancelledCalls history
  | _ :: history => cancelledCalls history

/-- No timer has been triggered after it was cancelled. -/
def CancelEffective (q : TimerQueue) : Prop :=
  ∀ n, Whenever (· = .trigger n) (fun past => n ∉ cancelledCalls past) q.history

lemma mem_returnedWith : n ∈ returnedWith id history ↔ .addTimer n id ∈ history := by
  induction history with
  | nil => simp [returnedWith]
  | cons e history ih =>
    cases e with
    | addTimer m id' =>
      rw [returnedWith, List.mem_cons, TimerEffect.addTimer.injEq]
      split_ifs with hid
      · subst hid
        rw [List.mem_cons, ih]
        simp
      · rw [ih]
        simp [Ne.symm hid]
    | _ => simp [returnedWith, ih]

/-- A cancelled call had returned its id. -/
lemma exists_of_mem_cancelledCalls (h : n ∈ cancelledCalls history) :
    ∃ id, .addTimer n id ∈ history := by
  induction history with
  | nil => cases h
  | cons e history ih =>
    cases e with
    | cancelTimerInLoop id =>
      rcases List.mem_append.mp h with h | h
      · exact ⟨id, List.mem_cons_of_mem _ (mem_returnedWith.mp h)⟩
      · obtain ⟨id', hid'⟩ := ih h
        exact ⟨id', List.mem_cons_of_mem _ hid'⟩
    | _ =>
      obtain ⟨id', hid'⟩ := ih h
      exact ⟨id', List.mem_cons_of_mem _ hid'⟩

/-! ## When it is -/

/-- The timers whose `addTimerInLoop` has been queued. -/
def awaiting (q : TimerQueue) : List TimerPtr :=
  (q.functors ++ q.pendingFunctors_).filterMap TimerFunctor.timer?

/-- The timers whose `addTimerInLoop` is being queued. -/
def pushing (q : TimerQueue) : List TimerPtr := q.pushes.filterMap fun push => push.1.timer?

/-- No timer of the id waits in the functor queue, or in the expired batch for its own trigger; and
where `activeTimers_` has a timer of the id, the batch has no other one that would be restarted. -/
def CancelInTime (q : TimerQueue) (id : TimerId) : Prop :=
  (∀ p ∈ q.awaiting ++ q.phase.next.map TimerEntry.timer, ∀ timer ∈ q.heap p, timer.id_ ≠ id) ∧
    (id ∈ q.activeTimers_ → ∀ p ∈ q.batch, ∀ timer ∈ q.heap p, timer.id_ = id → ¬ timer.repeats)

instance (q : TimerQueue) (id : TimerId) : Decidable (q.CancelInTime id) :=
  inferInstanceAs (Decidable (_ ∧ _))

/-- The id that a functor is going to cancel. -/
def cancelledId? : TimerFunctor → Option TimerId
  | .cancelTimerInLoop id => some id
  | _ => none

/-- `cancelTimerInLoop` is called in time. -/
def CancelsInTime (q : TimerQueue) : TimerEvent → Prop
  | .cancelTimer id => q.CancelInTime id
  | .functor => (q.functors.head?.bind cancelledId?).all fun id => q.CancelInTime id
  | _ => True

instance (q : TimerQueue) (e : TimerEvent) : Decidable (q.CancelsInTime e) :=
  match e with
  | .cancelTimer id => inferInstanceAs (Decidable (q.CancelInTime id))
  | .functor => inferInstanceAs (Decidable (_ = true))
  | .takeId | .newTimer _ _ _ _ | .queueCancel _ | .queueOther | .writeBack _ | .addTimer _ _ _
  | .swap | .runTimer _ | .trigger | .triggered | .restart | .finish =>
    inferInstanceAs (Decidable True)

/-- The condition on a step. -/
def CancelSafe (q : TimerQueue) (e : TimerEvent) : Prop := q.WritesBackCurrent e ∧ q.CancelsInTime e

instance (q : TimerQueue) (e : TimerEvent) : Decidable (q.CancelSafe e) :=
  inferInstanceAs (Decidable (_ ∧ _))

/-! ## The invariant -/

/-- The timer at the address has not been cancelled. -/
def Uncancelled (q : TimerQueue) (p : TimerPtr) : Prop :=
  ∀ timer, q.heap p = some timer → timer.serial ∉ cancelledCalls q.history

/-- The call `n` has not returned. -/
def Unreturned (n : ℕ) (history : List TimerEffect) : Prop := ∀ id, .addTimer n id ∉ history

/-- A cancelled call has returned. -/
lemma not_cancelled_of_unreturned (h : Unreturned n history) : n ∉ cancelledCalls history := by
  intro hcancelled
  obtain ⟨id, hid⟩ := exists_of_mem_cancelledCalls hcancelled
  exact h id hid

/-- A call returns only when its `addTimer` is recorded. -/
lemma Unreturned.cons {d : TimerEffect} (h : Unreturned n history)
    (hd : ∀ id, d ≠ .addTimer n id) : Unreturned n (d :: history) := by
  intro id hid
  rcases List.mem_cons.mp hid with heq | hid
  · exact hd id heq.symm
  · exact h id hid

/-- What is known about cancelled timers: they are nowhere from where they could be triggered, and
in the expired batch they are going to be deleted. -/
structure CancelInv (start : BitVec 32) (q : TimerQueue) : Prop where
  ids : ∀ n id, .addTimer n id ∈ q.history → id = timerIdOf start n ∧ n < q.calls
  inFlight : ∀ call ∈ q.inFlight, Unreturned call.1 q.history
  pushing : ∀ p ∈ q.pushing, ∀ timer, q.heap p = some timer → Unreturned timer.serial q.history
  calling : ∀ now done next, q.phase = .triggering now done next → q.callingTimesFunctor_ = true
  gone : ∀ p ∈ q.awaiting ++ q.contained ++ q.phase.next.map TimerEntry.timer,
    q.Uncancelled p
  finished : ∀ p ∈ q.batch, ∀ timer, q.heap p = some timer →
    timer.serial ∈ cancelledCalls q.history → timer.repeats → timer.id_ ∈ q.cancelTimers_
  effective : q.CancelEffective

namespace CancelInv

lemma new (start : BitVec 32) : (TimerQueue.new start).CancelInv start := by
  refine ⟨?_, ?_, ?_, ?_, ?_, ?_, ?_⟩
  · intro n id h
    exact absurd h List.not_mem_nil
  · intro call h
    exact absurd h List.not_mem_nil
  · intro p h
    exact absurd h List.not_mem_nil
  · intro now done next h
    cases h
  · intro p h
    exact absurd h List.not_mem_nil
  · intro p h
    exact absurd h List.not_mem_nil
  · intro n
    exact whenever_nil

lemma setFault (h : q.CancelInv start) (f : TimerFault) :
    ({ q with fault := some f }).CancelInv start :=
  ⟨h.ids, h.inFlight, h.pushing, h.calling, h.gone, h.finished, h.effective⟩

/-! ### The record -/

/-- The ids that have been returned stay the same when no call of `addTimer` returns. -/
lemma ids_cons {d : TimerEffect} (h : q.CancelInv start) (hd : ∀ n id, d ≠ .addTimer n id) (n : ℕ)
    (id : TimerId) (hid : .addTimer n id ∈ d :: q.history) :
    id = timerIdOf start n ∧ n < q.calls := by
  rcases List.mem_cons.mp hid with heq | hid
  · exact absurd heq.symm (hd n id)
  · exact h.ids n id hid

/-- What is recorded when a timer is deleted, or when `runTimer` is called. -/
lemma record {d : TimerEffect} (h : q.CancelInv start)
    (hd : (∃ n, d = .delete n) ∨ ∃ now, d = .runTimer now) : (q.record d).CancelInv start := by
  have hcancelled : cancelledCalls (d :: q.history) = cancelledCalls q.history := by
    rcases hd with ⟨n, rfl⟩ | ⟨now, rfl⟩
    · rfl
    · rfl
  have hadd : ∀ n id, d ≠ .addTimer n id := by
    rcases hd with ⟨n, rfl⟩ | ⟨now, rfl⟩
    · exact nofun
    · exact nofun
  refine ⟨h.ids_cons hadd, ?_, ?_, h.calling, ?_, ?_, ?_⟩
  · intro call hcall
    exact (h.inFlight call hcall).cons (hadd _)
  · intro p hp timer htimer
    exact (h.pushing p hp timer htimer).cons (hadd _)
  · intro p hp timer htimer
    change _ ∉ cancelledCalls (d :: q.history)
    rw [hcancelled]
    exact h.gone p hp timer htimer
  · intro p hp timer htimer hmem
    change _ ∈ cancelledCalls (d :: q.history) at hmem
    rw [hcancelled] at hmem
    exact h.finished p hp timer htimer hmem
  · intro n
    refine whenever_cons.mpr ⟨?_, h.effective n⟩
    rintro rfl
    rcases hd with ⟨m, heq⟩ | ⟨now, heq⟩
    · cases heq
    · cases heq

/-- A call of `addTimer` returns. -/
lemma record_addTimer (h : q.CancelInv start) (hn : n < q.calls)
    (hinFlight : ∀ call ∈ q.inFlight, call.1 ≠ n)
    (hpushing : ∀ p ∈ q.pushing, ∀ timer, q.heap p = some timer → timer.serial ≠ n) :
    (q.record (.addTimer n (timerIdOf start n))).CancelInv start := by
  have hother : ∀ m, m ≠ n → ∀ id, TimerEffect.addTimer n (timerIdOf start n) ≠ .addTimer m id := by
    intro m hne id heq
    exact hne (TimerEffect.addTimer.inj heq).1.symm
  refine ⟨?_, ?_, ?_, h.calling, h.gone, h.finished, ?_⟩
  · intro m id hid
    rcases List.mem_cons.mp hid with heq | hid
    · obtain ⟨rfl, rfl⟩ := TimerEffect.addTimer.inj heq
      exact ⟨rfl, hn⟩
    · exact h.ids m id hid
  · intro call hcall
    exact (h.inFlight call hcall).cons (hother _ (hinFlight call hcall))
  · intro p hp timer htimer
    exact (h.pushing p hp timer htimer).cons (hother _ (hpushing p hp timer htimer))
  · intro m
    refine whenever_cons.mpr ⟨?_, h.effective m⟩
    intro heq
    cases heq

/-- `cancelTimerInLoop(id)` returns. -/
lemma record_cancel (h : q.CancelInv start)
    (hgone : ∀ p ∈ q.awaiting ++ q.contained ++ q.phase.next.map TimerEntry.timer,
      ∀ timer, q.heap p = some timer → timer.serial ∉ returnedWith id q.history)
    (hfinished : ∀ p ∈ q.batch, ∀ timer, q.heap p = some timer →
      timer.serial ∈ returnedWith id q.history → timer.repeats → timer.id_ ∈ q.cancelTimers_) :
    (q.record (.cancelTimerInLoop id)).CancelInv start := by
  refine ⟨h.ids_cons nofun, ?_, ?_, h.calling, ?_, ?_, ?_⟩
  · intro call hcall
    exact (h.inFlight call hcall).cons nofun
  · intro p hp timer htimer
    exact (h.pushing p hp timer htimer).cons nofun
  · intro p hp timer htimer hmem
    rcases List.mem_append.mp hmem with hmem | hmem
    · exact hgone p hp timer htimer hmem
    · exact h.gone p hp timer htimer hmem
  · intro p hp timer htimer hmem
    rcases List.mem_append.mp hmem with hmem | hmem
    · exact hfinished p hp timer htimer hmem
    · exact h.finished p hp timer htimer hmem
  · intro n
    refine whenever_cons.mpr ⟨?_, h.effective n⟩
    intro heq
    cases heq

/-! ### The heap -/

/-- The object at an address changes that is nowhere else. -/
lemma update {o : Option Timer} (h : q.CancelInv start)
    (hp : ∀ p' ∈ q.pushing ++ q.awaiting ++ q.contained ++ q.batch, p' ≠ p) :
    ({ q with heap := Function.update q.heap p o }).CancelInv start := by
  simp only [List.mem_append] at hp
  refine ⟨h.ids, h.inFlight, ?_, h.calling, ?_, ?_, h.effective⟩
  · intro p' hp' timer htimer
    have hne := hp p' (.inl (.inl (.inl hp')))
    exact h.pushing p' hp' timer ((Function.update_of_ne hne ..).symm.trans htimer)
  · intro p' hp' timer htimer
    have hne : p' ≠ p := by
      refine hp p' ?_
      simp only [List.mem_append, List.mem_map] at hp'
      rcases hp' with (hp' | hp') | ⟨e, he, rfl⟩
      · exact .inl (.inl (.inr hp'))
      · exact .inl (.inr hp')
      · exact .inr (mem_batch.mpr ⟨e, mem_batch_of_mem_next he, rfl⟩)
    exact h.gone p' hp' timer ((Function.update_of_ne hne ..).symm.trans htimer)
  · intro p' hp' timer htimer
    have hne := hp p' (.inr hp')
    exact h.finished p' hp' timer ((Function.update_of_ne hne ..).symm.trans htimer)

/-! ### The expired batch -/

/-- The batch and the timers that wait for their trigger become fewer. -/
lemma setPhase {phase : TimerPhase} (h : q.CancelInv start) (callingTimesFunctor_ : Bool)
    (hcalling : ∀ now done next, phase = .triggering now done next → callingTimesFunctor_ = true)
    (hnext : phase.next ⊆ q.phase.next) (hbatch : phase.batch ⊆ q.phase.batch) :
    ({ q with callingTimesFunctor_ := callingTimesFunctor_, phase := phase }).CancelInv start := by
  refine ⟨h.ids, h.inFlight, h.pushing, hcalling, ?_, ?_, h.effective⟩
  · intro p hp
    refine h.gone p ?_
    rcases List.mem_append.mp hp with hp | hp
    · exact List.mem_append_left _ hp
    · exact List.mem_append_right _ (List.map_subset _ hnext hp)
  · intro p hp
    exact h.finished p (List.map_subset _ hbatch hp)

end CancelInv

end TimerQueue

end SimpleMuduo
