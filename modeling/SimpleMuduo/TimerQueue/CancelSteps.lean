import SimpleMuduo.TimerQueue.Cancel

/-!
# When cancelling is effective

Every operation that the member functions are made of keeps what is known about cancelled timers,
and `cancelTimerInLoop` does when it is called in time.  The proof for `cancelTimerInLoop` uses the
assertion at its end: when the containers have the same size, `activeTimers_` knows every timer in
`timers_`, even if an id has been taken twice.
-/

namespace SimpleMuduo

namespace TimerQueue

variable {start : BitVec 32} {q q' : TimerQueue} {p : TimerPtr} {timer : Timer} {id : TimerId}
  {now : Timestamp} {e : TimerEntry} {done next rest : List TimerEntry}

/-- What the invariant asks of the result of a member function. -/
def KeepsCancelInv (start : BitVec 32) : Except TimerFault TimerQueue → Prop
  | .ok q' => q'.CancelInv start
  | .error _ => True

/-- The four places in which a timer is held. -/
lemma mem_held_iff : p ∈ q.held ↔ p ∈ q.pushing ++ q.awaiting ++ q.contained ++ q.batch := Iff.rfl

namespace CancelInv

/-- A call that halts ends the process. -/
lemma outcome {r : Except TimerFault TimerQueue} (h : q.CancelInv start)
    (hr : KeepsCancelInv start r) : (q.outcome r).CancelInv start := by
  cases r with
  | ok q' => exact hr
  | error f => exact h.setFault f

/-- The assertion on the sizes. -/
lemma checkSizes (h : q.timers_.size = q.activeTimers_.entries.length → q.CancelInv start) :
    KeepsCancelInv start q.checkSizes := by
  unfold TimerQueue.checkSizes
  split_ifs with hsize
  · exact h hsize
  · trivial

/-! ## Adding timers -/

/-- `addTimer` takes an id. -/
lemma takeId (h : q.CancelInv start) : q.takeId.CancelInv start := by
  refine ⟨?_, ?_, h.pushing, h.calling, h.gone, h.finished, h.effective⟩
  · intro n id hid
    obtain ⟨heq, hlt⟩ := h.ids n id hid
    exact ⟨heq, Nat.lt_succ_of_lt hlt⟩
  · intro call hcall id hid
    rcases List.mem_cons.mp hcall with rfl | hcall
    · exact Nat.lt_irrefl _ (h.ids _ id hid).2
    · exact h.inFlight call hcall id hid

/-- Nobody knows a free address. -/
lemma newTimer {call : ℕ × TimerId} (hinv : q.Inv start []) (h : q.CancelInv start)
    (hfree : q.Free p) (when_ : Timestamp) (interval_ : ℚ) :
    (q.newTimer call p when_ interval_).CancelInv start := by
  have hupdate := h.update (o := some ⟨call.1, call.2, when_, interval_⟩) (p := p) (by
    intro p' hp'
    exact hinv.census.ne_of_free hfree.2 (mem_held_iff.mpr hp'))
  refine ⟨hupdate.ids, ?_, hupdate.pushing, hupdate.calling, hupdate.gone, hupdate.finished,
    hupdate.effective⟩
  intro call' hcall'
  exact h.inFlight call' (List.mem_of_mem_erase hcall')

/-- A timer whose call has not returned is passed to `queueInLoop`. -/
lemma queueInLoop_addTimer (h : q.CancelInv start)
    (hp : ∀ timer, q.heap p = some timer → Unreturned timer.serial q.history) :
    (q.queueInLoop (.addTimerInLoop p)).CancelInv start := by
  refine ⟨h.ids, h.inFlight, ?_, h.calling, h.gone, h.finished, h.effective⟩
  intro p' hp'
  rcases List.mem_cons.mp (show p' ∈ p :: q.pushing from hp') with rfl | hp'
  · exact hp
  · exact h.pushing p' hp'

/-- A functor without a timer is queued. -/
lemma queueInLoop {f : TimerFunctor} (h : q.CancelInv start) (hf : f.timer? = none) :
    (q.queueInLoop f).CancelInv start := by
  refine ⟨h.ids, h.inFlight, ?_, h.calling, h.gone, h.finished, h.effective⟩
  intro p' hp'
  have hsame : (q.queueInLoop f).pushing = q.pushing := List.filterMap_cons_none hf
  rw [hsame] at hp'
  exact h.pushing p' hp'

/-- The timer in hand is inserted into the containers. -/
lemma insertTimer (h : q.CancelInv start) (hp : q.Uncancelled p) (timer : Timer) :
    (q.insertTimer p timer).CancelInv start := by
  refine ⟨h.ids, h.inFlight, h.pushing, h.calling, ?_, h.finished, h.effective⟩
  intro p' hp'
  have hgone := h.gone p'
  simp only [List.mem_append] at hp' hgone
  rcases hp' with (hp' | hp') | hp'
  · exact hgone (.inl (.inl hp'))
  · obtain ⟨e, he, rfl⟩ := mem_contained.mp hp'
    rcases OrderedSet.mem_insert.mp he with rfl | he
    · exact hp
    · exact hgone (.inl (.inr (mem_contained.mpr ⟨e, he, rfl⟩)))
  · exact hgone (.inr hp')

/-- `addTimer` on the loop's thread. -/
lemma addTimerOnLoop (hinv : q.Inv start []) (h : q.CancelInv start) (hfree : q.Free p)
    (when_ : Timestamp) (interval_ : ℚ) : (q.addedOnLoop p when_ interval_).CancelInv start := by
  have hcreated : (q.takeId.newTimer (q.calls, q.atomic_ + 1) p when_ interval_).CancelInv start
    := h.takeId.newTimer hinv.takeId hfree when_ interval_
  have hinFlight : (q.takeId.newTimer (q.calls, q.atomic_ + 1) p when_ interval_).inFlight =
      q.inFlight := List.erase_cons_head ..
  have hreturned := hcreated.record_addTimer (n := q.calls) (Nat.lt_succ_self _)
    (by
      intro call hcall heq
      rw [hinFlight] at hcall
      have hlt := hinv.census.reserved_lt (List.mem_map.mpr ⟨call, hcall, rfl⟩)
      omega)
    (by
      intro p' hp' timer htimer heq
      have hheld : p' ∈ q.held := mem_held_iff.mpr (by simp [show p' ∈ q.pushing from hp'])
      have hne : p' ≠ p := hinv.census.ne_of_free hfree.2 hheld
      have hsame : q.heap p' = some timer := (Function.update_of_ne hne ..).symm.trans htimer
      have hlt := hinv.census.number_lt hheld hsame
      omega)
  rw [← hinv.ids.next] at hreturned
  refine hreturned.insertTimer ?_ _
  intro timer htimer hcancelled
  have hnew : some ⟨q.calls, q.atomic_ + 1, when_, interval_⟩ = some timer :=
    (Function.update_self p _ q.heap).symm.trans htimer
  obtain rfl := Option.some.inj hnew
  have hmem : q.calls ∈ cancelledCalls q.history := hcancelled
  obtain ⟨id, hid⟩ := exists_of_mem_cancelledCalls hmem
  exact Nat.lt_irrefl _ (h.ids _ id hid).2

/-! ## The functor queue -/

/-- A functor that has been queued adds a timer that has not been cancelled. -/
lemma writeBack {push : TimerFunctor × List TimerFunctor} (hinv : q.Inv start [])
    (h : q.CancelInv start) (hpush : push ∈ q.pushes)
    (hcurrent : push.2 = q.pendingFunctors_) : (q.writeBack push).CancelInv start := by
  obtain ⟨f, v⟩ := push
  obtain rfl : v = q.pendingFunctors_ := hcurrent
  have hpushing := (List.perm_cons_erase hpush).filterMap fun push => push.1.timer?
  have hmoved : ({ q with
      pendingFunctors_ := q.pendingFunctors_ ++ [f]
      pushes := q.pushes.erase (f, q.pendingFunctors_) }).CancelInv start := by
    refine ⟨h.ids, h.inFlight, ?_, h.calling, ?_, h.finished, h.effective⟩
    · intro p hp
      have hmem := hpushing.mem_iff.mpr (List.mem_filterMap.mpr (by
        obtain ⟨push, hpush', hp⟩ := List.mem_filterMap.mp hp
        exact ⟨push, List.mem_cons_of_mem _ hpush', hp⟩))
      exact h.pushing p hmem
    · intro p hp
      have hgone := h.gone p
      simp only [awaiting, List.filterMap_append, List.mem_append, List.mem_filterMap,
        List.mem_singleton] at hp hgone
      by_cases hf : f.timer? = some p
      · intro timer htimer
        refine not_cancelled_of_unreturned (h.pushing p ?_ timer htimer)
        exact List.mem_filterMap.mpr ⟨_, hpush, hf⟩
      · refine hgone ?_
        rcases hp with ((hp | hp | ⟨_, rfl, hp⟩) | hp) | hp
        · exact .inl (.inl (.inl hp))
        · exact .inl (.inl (.inr hp))
        · exact absurd hp hf
        · exact .inl (.inr hp)
        · exact .inr hp
  cases f with
  | addTimerInLoop p =>
    have hp : p ∈ q.pushing := List.mem_filterMap.mpr ⟨_, hpush, rfl⟩
    have hheld : p ∈ q.held := mem_held_iff.mpr (by simp [hp])
    obtain ⟨timer, htimer⟩ := hinv.census.live p hheld
    have hreturned := hmoved.record_addTimer (n := timer.serial)
      (hinv.census.number_lt hheld htimer)
      (by
        intro call hcall heq
        refine hinv.census.not_reserved hheld htimer ?_
        exact heq ▸ List.mem_map.mpr ⟨call, hcall, rfl⟩)
      (by
        intro p' hp' timer' htimer' heq
        have hmem : p' ∈ q.pushing :=
          hpushing.mem_iff.mpr (List.mem_cons_of_mem p hp')
        have hheld' : p' ∈ q.held := mem_held_iff.mpr (by simp [hmem])
        obtain rfl := hinv.census.eq_of_number_eq hheld' hheld htimer' htimer heq
        have hnodup : q.pushing.Nodup := hinv.census.nodup.sublist (by
          simp only [List.nil_append, held, queued, List.append_assoc]
          exact List.sublist_append_left ..)
        exact (List.nodup_cons.mp (hpushing.nodup_iff.mp hnodup)).1 hp')
    rw [← hinv.ids.timers p timer htimer] at hreturned
    simp only [TimerQueue.writeBack, returned, htimer]
    exact hreturned
  | _ => exact hmoved

/-- `doPendingFunctors` swaps the functors out. -/
lemma swap (h : q.CancelInv start) (hfunctors : q.functors = []) :
    ({ q with functors := q.pendingFunctors_, pendingFunctors_ := [] }).CancelInv start := by
  refine ⟨h.ids, h.inFlight, h.pushing, h.calling, ?_, h.finished, h.effective⟩
  intro p hp
  have hgone := h.gone p
  simp only [awaiting, hfunctors, List.nil_append, List.append_nil] at hp hgone
  exact hgone hp

/-- `doPendingFunctors` takes the next functor. -/
lemma popFunctor {f : TimerFunctor} {functors : List TimerFunctor} (h : q.CancelInv start)
    (hfunctors : q.functors = f :: functors) :
    ({ q with functors := functors }).CancelInv start := by
  refine ⟨h.ids, h.inFlight, h.pushing, h.calling, ?_, h.finished, h.effective⟩
  intro p hp
  refine h.gone p ?_
  simp only [awaiting, hfunctors, List.cons_append, List.filterMap_cons, List.mem_append]
    at hp ⊢
  cases f.timer? with
  | none => exact hp
  | some p' =>
    rcases hp with (hp | hp) | hp
    · exact .inl (.inl (List.mem_cons_of_mem p' hp))
    · exact .inl (.inr hp)
    · exact .inr hp

/-! ## Deleting timers -/

/-- A timer that is nowhere else is deleted. -/
lemma deleteTimer (hinv : q.Inv start [p]) (h : q.CancelInv start) (timer : Timer) :
    (q.deleteTimer p timer).CancelInv start := by
  have hupdate := h.update (o := none) (p := p) fun p' hp' =>
    hinv.ne_of_mem_held (mem_held_iff.mpr hp')
  exact hupdate.record (.inl ⟨timer.serial, rfl⟩)

/-- A timer is taken out of both containers. -/
lemma eraseTimer (h : q.CancelInv start) (id : TimerId) (e : TimerEntry) :
    (q.eraseTimer id e).CancelInv start := by
  refine ⟨h.ids, h.inFlight, h.pushing, h.calling, ?_, h.finished, h.effective⟩
  intro p hp
  refine h.gone p ?_
  simp only [List.mem_append] at hp ⊢
  rcases hp with (hp | hp) | hp
  · exact .inl (.inl hp)
  · obtain ⟨e', he', rfl⟩ := mem_contained.mp hp
    exact .inl (.inr (mem_contained.mpr ⟨e', (OrderedSet.mem_erase.mp he').2, rfl⟩))
  · exact .inr hp

/-! ## `cancelTimerInLoop` -/

/-- A call that has returned the id has created a timer of this id. -/
lemma id_eq (hinv : q.Inv start []) (h : q.CancelInv start) (htimer : q.heap p = some timer)
    (hreturned : timer.serial ∈ returnedWith id q.history) : timer.id_ = id := by
  rw [hinv.ids.timers p timer htimer]
  exact (h.ids _ id (mem_returnedWith.mp hreturned)).1.symm

/-- `cancelTimerInLoop` returns in a state in which `activeTimers_` has no timer of the id, and the
sizes of the containers agree. -/
lemma record_cancelled (hinv : q.Inv start []) (h : q.CancelInv start)
    (hsize : q.timers_.size = q.activeTimers_.entries.length)
    (hlookup : q.activeTimers_.lookup id = none)
    (hwaiting : ∀ p ∈ q.awaiting ++ q.phase.next.map TimerEntry.timer, ∀ timer,
      q.heap p = some timer → timer.id_ ≠ id)
    (hbatch : ∀ p ∈ q.batch, ∀ timer, q.heap p = some timer → timer.id_ = id → timer.repeats →
      timer.id_ ∈ q.cancelTimers_) :
    (q.record (.cancelTimerInLoop id)).CancelInv start := by
  refine h.record_cancel ?_ ?_
  · intro p hp timer htimer hreturned
    have hid := id_eq hinv h htimer hreturned
    simp only [List.mem_append] at hp hwaiting
    rcases hp with (hp | hp) | hp
    · exact hwaiting p (.inl hp) timer htimer hid
    · obtain ⟨e, he, rfl⟩ := mem_contained.mp hp
      have hindexed := hinv.containers.indexed_of_size_eq hsize he htimer
      rw [hid, hlookup] at hindexed
      cases hindexed
    · exact hwaiting p (.inr hp) timer htimer hid
  · intro p hp timer htimer hreturned
    exact hbatch p hp timer htimer (id_eq hinv h htimer hreturned)

/-- `cancelTimerInLoop` deletes a timer that it finds. -/
lemma cancelledAt (hinv : q.Inv start []) (h : q.CancelInv start) (hsafe : q.CancelInTime id)
    (hlookup : q.activeTimers_.lookup id = some p) (htimer : q.heap p = some timer) :
    KeepsCancelInv start (q.cancelledAt id p timer).checkSizes := by
  have herased := hinv.eraseTimer hlookup htimer
  have hmem : id ∈ q.activeTimers_ := AList.lookup_isSome.mp (by rw [hlookup]; rfl)
  -- what is on the heap after the deletion has been there before
  have hheap : ∀ p' timer', ((q.eraseTimer id ⟨timer.when_, p⟩).deleteTimer p timer).heap p' =
      some timer' → q.heap p' = some timer' := by
    intro p' timer' htimer'
    have hne : p' ≠ p := by
      rintro rfl
      rw [deleteTimer_heap_self] at htimer'
      cases htimer'
    rw [deleteTimer_heap_of_ne hne] at htimer'
    exact htimer'
  refine checkSizes fun hsize => ?_
  refine record_cancelled (herased.deleteTimer htimer)
    ((h.eraseTimer id _).deleteTimer herased timer) hsize (AList.lookup_erase id _) ?_ ?_
  · intro p' hp' timer' htimer'
    exact hsafe.1 p' hp' timer' (hheap p' timer' htimer')
  · intro p' hp' timer' htimer' hid hrepeats
    exact absurd hrepeats (hsafe.2 hmem p' hp' timer' (hheap p' timer' htimer') hid)

/-- `cancelTimerInLoop` does not find the timer. -/
lemma notFound (hinv : q.Inv start []) (h : q.CancelInv start) (hsafe : q.CancelInTime id)
    (huser : q.inUserCode = true) (hlookup : q.activeTimers_.lookup id = none) :
    KeepsCancelInv start (q.notFound id).checkSizes := by
  have hsub : ∀ id' ∈ q.cancelTimers_, id' ∈
      if q.callingTimesFunctor_ then insert id q.cancelTimers_ else q.cancelTimers_ := by
    intro id' hid'
    split_ifs
    · exact Finset.mem_insert_of_mem hid'
    · exact hid'
  have hnoted : ({ q with cancelTimers_ :=
      if q.callingTimesFunctor_ then insert id q.cancelTimers_ else q.cancelTimers_ }).CancelInv
        start := by
    refine ⟨h.ids, h.inFlight, h.pushing, h.calling, h.gone, ?_, h.effective⟩
    intro p hp timer htimer hcancelled hrepeats
    exact hsub _ (h.finished p hp timer htimer hcancelled hrepeats)
  refine checkSizes fun hsize => ?_
  refine record_cancelled (hinv.setCancelling _ q.callingTimesFunctor_) hnoted hsize hlookup
    hsafe.1 ?_
  intro p hp timer _ hid _
  change timer.id_ ∈ if q.callingTimesFunctor_ then insert id q.cancelTimers_ else q.cancelTimers_
  -- user code runs while there is a batch only in the loop that triggers it
  cases hphase : q.phase with
  | idle =>
    have hp' : p ∈ q.phase.batch.map TimerEntry.timer := hp
    rw [hphase] at hp'
    exact absurd hp' List.not_mem_nil
  | triggering now done next =>
    rw [if_pos (h.calling now done next hphase), hid]
    exact Finset.mem_insert_self id _
  | restarting now rest =>
    rw [inUserCode, hphase] at huser
    cases huser

/-- `cancelTimerInLoop`, called in time. -/
lemma cancelTimerInLoop (hinv : q.Inv start []) (h : q.CancelInv start)
    (hsafe : q.CancelInTime id) (huser : q.inUserCode = true) :
    KeepsCancelInv start (q.cancelTimerInLoop id) := by
  cases hlookup : q.activeTimers_.lookup id with
  | none =>
    rw [cancelTimerInLoop_of_not_found hlookup]
    exact h.notFound hinv hsafe huser hlookup
  | some p =>
    obtain ⟨timer, htimer, -⟩ := hinv.containers.active id p hlookup
    rw [cancelTimerInLoop_of_found hinv.containers hlookup htimer]
    exact h.cancelledAt hinv hsafe hlookup htimer

/-! ## `runTimer` -/

/-- `runTimer` up to its first loop. -/
lemma runTimer (hinv : q.Inv start []) (h : q.CancelInv start) (now : Timestamp) :
    KeepsCancelInv start (q.runTimer now) := by
  have hrecorded : (q.record (.runTimer now)).CancelInv start := h.record (.inr ⟨now, rfl⟩)
  rcases runTimer_cases hinv.containers now with hok | herror | ⟨activeTimers_, hok, -⟩
  · rw [hok]
    exact hrecorded
  · rw [herror]
    trivial
  · have hbefore : ∀ p ∈ (q.timers_.before ⟨now, INT_MAX⟩).map TimerEntry.timer,
        (q.record (.runTimer now)).Uncancelled p := by
      intro p hp
      obtain ⟨e, he, rfl⟩ := List.mem_map.mp hp
      refine hrecorded.gone _ (List.mem_append_left _ (List.mem_append_right _ ?_))
      exact mem_contained.mpr ⟨e, OrderedSet.mem_of_mem_before he, rfl⟩
    rw [hok]
    refine ⟨hrecorded.ids, hrecorded.inFlight, hrecorded.pushing, ?_, ?_, ?_,
      hrecorded.effective⟩
    · intro _ _ _ _
      rfl
    · intro p hp
      rcases List.mem_append.mp hp with hp | hp
      · rcases List.mem_append.mp hp with hp | hp
        · exact hrecorded.gone p (List.mem_append_left _ (List.mem_append_left _ hp))
        · obtain ⟨e, he, rfl⟩ := mem_contained.mp hp
          refine hrecorded.gone _ (List.mem_append_left _ (List.mem_append_right _ ?_))
          exact mem_contained.mpr ⟨e, OrderedSet.mem_of_mem_notBefore he, rfl⟩
      · exact hbefore p hp
    · intro p hp timer htimer hcancelled
      exact absurd hcancelled (hbefore p hp timer htimer)

/-- A timer that is triggered has not been cancelled. -/
lemma trigger (h : q.CancelInv start) (hphase : q.phase = .triggering now done (e :: next))
    (htimer : q.heap e.timer = some timer) :
    ({ q with
      phase := .triggering now (done ++ [e]) next
      history := .trigger timer.serial :: q.history }).CancelInv start := by
  have hwaiting : q.Uncancelled e.timer := by
    refine h.gone e.timer (List.mem_append_right _ ?_)
    rw [hphase]
    exact List.mem_cons_self
  have hmoved : ({ q with phase := .triggering now (done ++ [e]) next }).CancelInv start := by
    refine h.setPhase q.callingTimesFunctor_ (fun _ _ _ _ => h.calling _ _ _ hphase) ?_ ?_
    · rw [hphase]
      exact List.subset_cons_self e next
    · rw [hphase, TimerPhase.batch, TimerPhase.batch, List.append_assoc]
      exact List.Subset.refl _
  have hadd : ∀ n id, TimerEffect.trigger timer.serial ≠ .addTimer n id := by
    intro n id heq
    cases heq
  refine ⟨h.ids_cons hadd, ?_, ?_, hmoved.calling, hmoved.gone, hmoved.finished, ?_⟩
  · intro call hcall
    exact (h.inFlight call hcall).cons (hadd _)
  · intro p hp timer' htimer'
    exact (h.pushing p hp timer' htimer').cons (hadd _)
  · intro n
    refine whenever_cons.mpr ⟨?_, h.effective n⟩
    intro heq
    obtain rfl := TimerEffect.trigger.inj heq
    exact hwaiting timer htimer

/-- The end of the first loop. -/
lemma triggered (h : q.CancelInv start) (hphase : q.phase = .triggering now done []) :
    ({ q with callingTimesFunctor_ := false, phase := .restarting now done }).CancelInv start := by
  refine h.setPhase false nofun (List.nil_subset _) ?_
  rw [hphase, TimerPhase.batch, TimerPhase.batch, List.append_nil]
  exact List.Subset.refl _

/-- The second loop of `runTimer` restarts only timers that have not been cancelled. -/
lemma restartOrDelete (hinv : q.Inv start []) (h : q.CancelInv start)
    (hphase : q.phase = .restarting now (e :: rest)) :
    KeepsCancelInv start (q.restartOrDelete now e rest) := by
  have hpopped := hinv.popEntry hphase
  obtain ⟨timer, htimer⟩ : ∃ timer, q.heap e.timer = some timer := hpopped.live_inHand
  have hbatch : q.batch = e.timer :: rest.map TimerEntry.timer := by
    rw [batch, hphase]
    rfl
  have hrest : ({ q with phase := .restarting now rest }).CancelInv start := by
    refine h.setPhase q.callingTimesFunctor_ (fun _ _ _ heq => by cases heq) (List.nil_subset _) ?_
    rw [hphase]
    exact List.subset_cons_self e rest
  rw [restartOrDelete_eq htimer]
  split_ifs with hrestart
  · obtain ⟨hrepeats, hnot⟩ := hrestart
    have hupdated := hrest.update (o := some (timer.restart now)) (p := e.timer) fun p' hp' =>
      hpopped.ne_of_mem_held (mem_held_iff.mpr hp')
    refine hupdated.insertTimer ?_ _
    intro timer' htimer' hcancelled
    have hnew : some (timer.restart now) = some timer' :=
      (Function.update_self e.timer _ q.heap).symm.trans htimer'
    obtain rfl := Option.some.inj hnew
    rw [Timer.restart_serial] at hcancelled
    exact hnot (h.finished e.timer (hbatch ▸ List.mem_cons_self) timer htimer hcancelled hrepeats)
  · exact hrest.deleteTimer hpopped timer

/-- The end of `runTimer`. -/
lemma finish (h : q.CancelInv start) :
    KeepsCancelInv start ({ q with phase := .idle }).checkSizes :=
  checkSizes fun _ =>
    h.setPhase q.callingTimesFunctor_ nofun (List.nil_subset _) (List.nil_subset _)

/-! ## The steps -/

/-- `doPendingFunctors` calls the next functor. -/
lemma callNextFunctor (hinv : q.Inv start []) (h : q.CancelInv start)
    (hsafe : q.CancelsInTime .functor) (hstep : q.callNextFunctor = some q') :
    q'.CancelInv start := by
  obtain ⟨f, functors, hphase, hfunctors, rfl⟩ := callNextFunctor_eq_some hstep
  have hpoppedInv := hinv.popFunctor hfunctors
  have hpopped := h.popFunctor hfunctors
  cases f with
  | addTimerInLoop p =>
    obtain ⟨timer, htimer⟩ := hpoppedInv.live_inHand
    have hp : p ∈ q.awaiting := by
      rw [awaiting, hfunctors]
      exact List.mem_cons_self
    rw [TimerQueue.call, addTimer_eq htimer]
    refine hpopped.insertTimer ?_ timer
    exact h.gone p (List.mem_append_left _ (List.mem_append_left _ hp))
  | cancelTimerInLoop id =>
    have hid : q.CancelInTime id := by
      refine of_decide_eq_true ((Option.all_eq_true _ _).mp hsafe id ?_)
      rw [hfunctors]
      rfl
    have huser : inUserCode { q with functors := functors } = true := by
      rw [inUserCode, hphase]
    refine hpopped.outcome (hpopped.cancelTimerInLoop hpoppedInv ⟨?_, hid.2⟩ huser)
    intro p hp
    refine hid.1 p ?_
    rw [awaiting, hfunctors]
    exact hp
  | other => exact hpopped

/-- The steps of `runTimer`. -/
lemma stepRunTimer {e : TimerEvent} (hinv : q.Inv start []) (h : q.CancelInv start)
    (hstep : q.stepRunTimer q.phase e = some q') : q'.CancelInv start := by
  unfold TimerQueue.stepRunTimer at hstep
  split at hstep
  · rename_i now hphase
    obtain ⟨-, hstep⟩ := Option.ite_none_right_eq_some.mp hstep
    obtain rfl := Option.some.inj hstep
    exact h.outcome (h.runTimer hinv now)
  · rename_i now done e next hphase
    obtain rfl := Option.some.inj hstep
    have he : e.timer ∈ q.held := by
      refine mem_held_of_mem_batch ?_
      rw [hphase]
      exact List.mem_append_right _ List.mem_cons_self
    obtain ⟨timer, htimer⟩ := hinv.census.live _ he
    rw [trigger_eq htimer]
    exact h.trigger hphase htimer
  · rename_i hphase
    obtain rfl := Option.some.inj hstep
    exact h.triggered hphase
  · rename_i hphase
    obtain rfl := Option.some.inj hstep
    exact h.outcome (h.restartOrDelete hinv hphase)
  · obtain rfl := Option.some.inj hstep
    exact h.outcome h.finish
  · cases hstep

/-- The steps of the threads, as long as the process runs. -/
lemma stepRunning {e : TimerEvent} (hinv : q.Inv start []) (h : q.CancelInv start)
    (hok : q.CancelSafe e) (hstep : q.stepRunning e = some q') : q'.CancelInv start := by
  obtain ⟨hcurrent, hsafe⟩ := hok
  cases e with
  | takeId =>
    obtain rfl := Option.some.inj hstep
    exact h.takeId
  | newTimer call p when_ interval_ =>
    obtain ⟨⟨hcall, hfree⟩, hstep⟩ := Option.ite_none_right_eq_some.mp hstep
    obtain rfl := Option.some.inj hstep
    refine (h.newTimer hinv hfree when_ interval_).queueInLoop_addTimer ?_
    intro timer htimer
    have hnew : some ⟨call.1, call.2, when_, interval_⟩ = some timer :=
      (Function.update_self p _ q.heap).symm.trans htimer
    obtain rfl := Option.some.inj hnew
    exact h.inFlight call hcall
  | queueCancel id =>
    obtain rfl := Option.some.inj hstep
    exact h.queueInLoop rfl
  | queueOther =>
    obtain rfl := Option.some.inj hstep
    exact h.queueInLoop rfl
  | writeBack push =>
    obtain ⟨hpush, hstep⟩ := Option.ite_none_right_eq_some.mp hstep
    obtain rfl := Option.some.inj hstep
    exact h.writeBack hinv hpush hcurrent
  | addTimer p when_ interval_ =>
    obtain ⟨⟨-, hfree⟩, hstep⟩ := Option.ite_none_right_eq_some.mp hstep
    obtain rfl := Option.some.inj hstep
    rw [addTimerOnLoop_eq]
    exact h.addTimerOnLoop hinv hfree when_ interval_
  | cancelTimer id =>
    obtain ⟨huser, hstep⟩ := Option.ite_none_right_eq_some.mp hstep
    obtain rfl := Option.some.inj hstep
    exact h.outcome (h.cancelTimerInLoop hinv hsafe huser)
  | swap =>
    obtain ⟨⟨-, hfunctors⟩, hstep⟩ := Option.ite_none_right_eq_some.mp hstep
    obtain rfl := Option.some.inj hstep
    exact h.swap hfunctors
  | functor => exact h.callNextFunctor hinv hsafe hstep
  | runTimer now => exact h.stepRunTimer (e := .runTimer now) hinv hstep
  | trigger => exact h.stepRunTimer (e := .trigger) hinv hstep
  | triggered => exact h.stepRunTimer (e := .triggered) hinv hstep
  | restart => exact h.stepRunTimer (e := .restart) hinv hstep
  | finish => exact h.stepRunTimer (e := .finish) hinv hstep

/-- The step lemma. -/
lemma step {e : TimerEvent} (hinv : q.Inv start []) (h : q.CancelInv start)
    (hok : q.CancelSafe e) (hstep : q.step e = some q') : q'.CancelInv start := by
  unfold TimerQueue.step at hstep
  split at hstep
  · exact h.stepRunning hinv hok hstep
  · cases hstep

end CancelInv

/-- In every run in which `cancelTimerInLoop` is only called in time, and `queueInLoop` writes back
the vector that it has read, a cancelled timer is never triggered again. -/
theorem cancel_effective (start : BitVec 32) (es : List TimerEvent) (q : TimerQueue)
    (hsafe : Meets step CancelSafe (new start) es) (hrun : exec step (new start) es = some q) :
    q.CancelEffective := by
  have hall : q.Inv start [] ∧ q.CancelInv start := by
    refine invariant_of_meets (I := fun q => q.Inv start [] ∧ q.CancelInv start) ?_
      ⟨.new start, .new start⟩ hsafe hrun
    rintro q e q' ⟨hinv, h⟩ hok hstep
    exact ⟨hinv.step hok.1 hstep, h.step hinv hok hstep⟩
  exact hall.2.effective

/-- A repeating timer cancels itself, and a pending timer of another thread is cancelled. -/
theorem cancel_effective_restarting :
    ∃ q, exec step (new 0) [.takeId, .newTimer (0, 1) 100 5 (1 / 2),
        .writeBack (.addTimerInLoop 100, []), .swap, .functor, .addTimer 200 9 0, .runTimer 6,
        .trigger, .cancelTimer 1, .cancelTimer 2, .triggered, .restart, .finish,
        .runTimer 500006] = some q ∧ q.fault = none ∧ q.CancelEffective := by
  have hrun : ∃ q, exec step (new 0) [.takeId, .newTimer (0, 1) 100 5 (1 / 2),
        .writeBack (.addTimerInLoop 100, []), .swap, .functor, .addTimer 200 9 0, .runTimer 6,
        .trigger, .cancelTimer 1, .cancelTimer 2, .triggered, .restart, .finish,
        .runTimer 500006] = some q ∧ q.fault = none := exists_exec_of_any (by decide +kernel)
  obtain ⟨q, hrun, hfault⟩ := hrun
  exact ⟨q, hrun, hfault, cancel_effective 0 _ q (by decide +kernel) hrun⟩

/-- Two timers are in the expired batch, and the callback of the first one cancels the second. -/
theorem not_cancelEffective_same_batch :
    ¬ ∀ (start : BitVec 32) (es : List TimerEvent) (q : TimerQueue),
      exec step (new start) es = some q → q.CancelEffective := by
  intro h
  have hrun : ∃ q, exec step (new 0) [.addTimer 100 5 0, .addTimer 200 6 0, .runTimer 10,
      .trigger, .cancelTimer 2, .trigger] = some q ∧
      ¬ Whenever (· = .trigger 1) (fun past => 1 ∉ cancelledCalls past) q.history :=
    exists_exec_of_any (by decide +kernel)
  obtain ⟨q, hrun, hnot⟩ := hrun
  exact hnot (h 0 _ q hrun 1)

end TimerQueue

end SimpleMuduo
