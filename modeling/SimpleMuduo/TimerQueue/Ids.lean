import SimpleMuduo.TimerQueue.Cancel
import SimpleMuduo.TimerQueue.Consistent

/-!
# Timer ids

`addTimer` takes its ids from a counter of 32 bits, so that an id comes back after `2 ^ 32` calls.
When the timer that has it is still pending, the two cannot be told apart: `activeTimers_` keeps the
old one only, and `cancelTimer` with the id of the new one deletes the old one.

The calls of `addTimer` are numbered, and everything here is said of these numbers: two calls have
the same id when their numbers differ by a multiple of `2 ^ 32`.  `idsUnambiguous_iff` says for runs
of any length when the ids are unambiguous: no timer is added while that of such another call is
pending, and the timer that `cancelTimer` would find is always that of the call that has returned
last.  This is so even when calls of `queueInLoop` overwrite each other.
-/

namespace SimpleMuduo

namespace TimerQueue

variable {start : BitVec 32} {q q' : TimerQueue} {p : TimerPtr} {timer : Timer} {id : TimerId}
  {e : TimerEntry} {ev : TimerEvent} {m n : ℕ} {history history' : List TimerEffect}

/-! ## The property -/

/-- When called now, `cancelTimerInLoop(id)` deletes the timer at `p`, or notes its id, so that
`runTimer` deletes it instead of restarting it. -/
def CancelsAt (q : TimerQueue) (id : TimerId) (p : TimerPtr) (timer : Timer) : Prop :=
  (q.outcome (q.cancelTimerInLoop id)).heap p = none ∨
    p ∈ q.batch ∧ timer.id_ ∉ q.cancelTimers_ ∧
      timer.id_ ∈ (q.outcome (q.cancelTimerInLoop id)).cancelTimers_

/-- Once the call `n` of `addTimer` has returned the id, it is the last one that has. -/
def ReturnedLast (id : TimerId) (n : ℕ) (history : List TimerEffect) : Prop :=
  n ∈ returnedWith id history → (returnedWith id history).head? = some n

/-- The ids tell the pending timers apart. -/
structure IdsUnambiguous (q : TimerQueue) : Prop where
  /-- No two timers in `timers_` have the same id. -/
  distinct : ∀ e ∈ q.timers_, ∀ e' ∈ q.timers_, ∀ timer timer', q.heap e.timer = some timer →
    q.heap e'.timer = some timer' → timer.id_ = timer'.id_ → e = e'
  sizes : q.timers_.size = q.activeTimers_.entries.length
  /-- `cancelTimer(id)` cancels nothing but the timer whose `addTimer` returned `id` last. -/
  cancels : ∀ id p timer, q.heap p = some timer → q.CancelsAt id p timer →
    timer.id_ = id ∧ ReturnedLast id timer.serial q.history

/-! ## The condition, in numbers of calls -/

/-- The calls `m` and `n` of `addTimer` take the same id. -/
def SameId (m n : ℕ) : Prop := m % 2 ^ 32 = n % 2 ^ 32

instance (m n : ℕ) : Decidable (SameId m n) := inferInstanceAs (Decidable (_ = _))

/-- The timer of the call `n` is in `timers_`. -/
def Pending (q : TimerQueue) (n : ℕ) : Prop :=
  ∃ e ∈ q.timers_, ∃ timer, q.heap e.timer = some timer ∧ timer.serial = n

/-- The timer of the call `n` has expired, and `runTimer` is in its first loop, so that
`cancelTimer` can keep it from being restarted, which it has not done yet. -/
def Expired (q : TimerQueue) (n : ℕ) : Prop :=
  q.callingTimesFunctor_ = true ∧
    ∃ p ∈ q.batch, ∃ timer, q.heap p = some timer ∧ timer.serial = n ∧ timer.id_ ∉ q.cancelTimers_

/-- `cancelTimer` with the id of the call `n` cancels the timer of this call. -/
def Cancellable (q : TimerQueue) (n : ℕ) : Prop :=
  q.Pending n ∨ q.Expired n ∧ ∀ m, q.Pending m → ¬ SameId m n

/-- The calls that have returned and take the same id as the call `n`, the last one first. -/
def returnedLike (n : ℕ) (history : List TimerEffect) : List ℕ :=
  history.filterMap fun
    | .addTimer m _ => if SameId m n then some m else none
    | _ => none

/-- Once the call `n` has returned, it is the last one of those with its id that has. -/
def LatestCall (n : ℕ) (history : List TimerEffect) : Prop :=
  n ∈ returnedLike n history → (returnedLike n history).head? = some n

/-- The timer of the call `n` may become pending: that of no other call with its id is, and none has
returned since. -/
def Unrivalled (q : TimerQueue) (n : ℕ) : Prop :=
  (∀ m, q.Pending m → SameId m n → m = n) ∧ LatestCall n q.history

/-- The step does not bring two calls into conflict that are a multiple of `2 ^ 32` calls apart. -/
def KeepsIdsApart (q : TimerQueue) : TimerEvent → Prop
  -- the call with the number `q.calls` adds its timer
  | .addTimer .. => ∀ m, q.Pending m → ¬ SameId m q.calls
  -- a call of another thread returns
  | .writeBack push => ∀ p timer, push.1 = .addTimerInLoop p → q.heap p = some timer →
      ∀ m, q.Cancellable m → m ∈ returnedLike m q.history → SameId m timer.serial →
        m = timer.serial
  -- the timer of such a call is added
  | .functor => ∀ p timer, q.functors.head? = some (.addTimerInLoop p) → q.heap p = some timer →
      q.Unrivalled timer.serial
  -- a repeating timer is added again
  | .restart => ∀ now e rest timer, q.phase = .restarting now (e :: rest) →
      q.heap e.timer = some timer → timer.repeats → timer.id_ ∉ q.cancelTimers_ →
        q.Unrivalled timer.serial
  -- a timer is deleted, and the expired one of another call can be found in its place
  | .cancelTimer id => ∀ p timer, q.activeTimers_.lookup id = some p → q.heap p = some timer →
      ∀ m, q.Expired m → SameId m timer.serial → LatestCall m q.history
  | _ => True

/-! ## What the record says about the ids -/

/-- Two calls have the same id exactly when their numbers differ by a multiple of `2 ^ 32`. -/
lemma timerIdOf_eq_iff : timerIdOf start m = timerIdOf start n ↔ SameId m n := by
  have hstart := start.isLt
  constructor
  · intro h
    have hnat := congrArg BitVec.toNat h
    simp only [timerIdOf, BitVec.toNat_add, BitVec.toNat_ofNat] at hnat
    unfold SameId
    omega
  · intro h
    unfold SameId at h
    refine BitVec.eq_of_toNat_eq ?_
    simp only [timerIdOf, BitVec.toNat_add, BitVec.toNat_ofNat]
    omega

/-- No call of `addTimer` returns. -/
def NoReturn (d : TimerEffect) : Prop := ∀ n id, d ≠ .addTimer n id

/-- A call returns the id. -/
lemma returnedWith_addTimer_self (n : ℕ) (id : TimerId) (history : List TimerEffect) :
    returnedWith id (.addTimer n id :: history) = n :: returnedWith id history := by
  rw [returnedWith, if_pos rfl]

/-- A call with the same id returns. -/
lemma returnedLike_addTimer (h : SameId m n) (id : TimerId) (history : List TimerEffect) :
    returnedLike n (.addTimer m id :: history) = m :: returnedLike n history :=
  List.filterMap_cons_some (if_pos h)

/-- A call with another id returns. -/
lemma returnedLike_addTimer_of_not (h : ¬ SameId m n) (id : TimerId) (history : List TimerEffect) :
    returnedLike n (.addTimer m id :: history) = returnedLike n history :=
  List.filterMap_cons_none (if_neg h)

/-- In a record in which every call has returned its own id, the two ways of counting the calls
agree. -/
lemma returnedWith_timerIdOf (h : ∀ m id, .addTimer m id ∈ history → id = timerIdOf start m) :
    returnedWith (timerIdOf start n) history = returnedLike n history := by
  induction history with
  | nil => rfl
  | cons d history ih =>
    have hrest := ih fun m id hmem => h m id (List.mem_cons_of_mem d hmem)
    cases d with
    | addTimer m id =>
      obtain rfl := h m id List.mem_cons_self
      by_cases hid : SameId m n
      · rw [timerIdOf_eq_iff.mpr hid, returnedWith_addTimer_self, hrest, returnedLike_addTimer hid]
      · rw [returnedWith, if_neg (timerIdOf_eq_iff.not.mpr hid), hrest,
          returnedLike_addTimer_of_not hid]
    | _ => exact hrest

/-- Where no call returns, the calls that have returned stay the same. -/
lemma returnedLike_eq (h : Extends NoReturn history history') (n : ℕ) :
    returnedLike n history' = returnedLike n history := by
  obtain ⟨ds, hds, rfl⟩ := h
  refine (List.filterMap_append).trans ?_
  rw [List.filterMap_eq_nil_iff.mpr, List.nil_append]
  · rfl
  · intro d hd
    cases d with
    | addTimer m id => exact absurd rfl (hds _ hd m id)
    | _ => rfl

/-- A call that is counted has returned. -/
lemma exists_of_mem_returnedLike (h : m ∈ returnedLike n history) :
    ∃ id, .addTimer m id ∈ history := by
  obtain ⟨d, hd, heq⟩ := List.mem_filterMap.mp h
  cases d with
  | addTimer k id =>
    simp only [Option.ite_none_right_eq_some, Option.some.injEq] at heq
    exact ⟨id, heq.2 ▸ hd⟩
  | _ => cases heq

/-! ## Which timers are pending, and which have expired -/

/-- Only the timers at the entries of `timers_` matter. -/
lemma pending_congr (htimers : q'.timers_ = q.timers_)
    (hheap : ∀ e ∈ q.timers_, (q'.heap e.timer).map Timer.serial =
      (q.heap e.timer).map Timer.serial) : q'.Pending n ↔ q.Pending n := by
  have hat {h : TimerPtr → Option Timer} {p : TimerPtr} :
      (∃ timer, h p = some timer ∧ timer.serial = n) ↔ (h p).map Timer.serial = some n := by
    rw [Option.map_eq_some_iff]
  simp only [Pending, hat, htimers]
  exact exists_congr fun e => and_congr_right fun he => by rw [hheap e he]

/-- A timer is inserted. -/
lemma pending_insertTimer (htimer : q.heap p = some timer) :
    (q.insertTimer p timer).Pending n ↔ n = timer.serial ∨ q.Pending n := by
  constructor
  · rintro ⟨e, he, object, hobject, rfl⟩
    rcases OrderedSet.mem_insert.mp he with rfl | he
    · exact .inl (congrArg Timer.serial (Option.some.inj (htimer.symm.trans hobject))).symm
    · exact .inr ⟨e, he, object, hobject, rfl⟩
  · rintro (rfl | ⟨e, he, object, hobject, rfl⟩)
    · exact ⟨_, OrderedSet.mem_insert.mpr (.inl rfl), timer, htimer, rfl⟩
    · exact ⟨e, OrderedSet.mem_insert.mpr (.inr he), object, hobject, rfl⟩

/-- No timer expires. -/
lemma Expired.mono (h : q'.Expired n)
    (hcalling : q'.callingTimesFunctor_ = true → q.callingTimesFunctor_ = true)
    (hnoted : q.cancelTimers_ ⊆ q'.cancelTimers_)
    (hbatch : ∀ p ∈ q'.batch, p ∈ q.batch ∧ q'.heap p = q.heap p) : q.Expired n := by
  obtain ⟨hcall, p, hp, timer, htimer, hserial, hnot⟩ := h
  obtain ⟨hp', hheap⟩ := hbatch p hp
  exact ⟨hcalling hcall, p, hp', timer, hheap ▸ htimer, hserial, fun hmem => hnot (hnoted hmem)⟩

/-! ## The invariant -/

/-- Both containers hold the same timers, and every timer has the id of its call. -/
structure Named (start : BitVec 32) (q : TimerQueue) : Prop where
  same : q.SameTimers
  ids : TimerIds start q
  returned : ∀ n id, .addTimer n id ∈ q.history → id = timerIdOf start n ∧ ¬ q.Unborn n

/-- Besides, no two pending timers have the same id, and no other call with its id has returned
since that of a timer that can be cancelled. -/
structure IdsInv (start : BitVec 32) (q : TimerQueue) : Prop extends Named start q where
  apart : ∀ m n, q.Pending m → q.Pending n → SameId m n → m = n
  latest : ∀ n, q.Cancellable n → LatestCall n q.history

namespace Named

/-- No call of `addTimer` returns. -/
lemma of_history (h : q.Named start) (hsame : q'.SameTimers) (hids : TimerIds start q')
    (hunborn : ∀ n, q'.Unborn n → q.Unborn n) (hhistory : Extends NoReturn q.history q'.history) :
    q'.Named start := by
  refine ⟨hsame, hids, fun n id hmem => ?_⟩
  obtain ⟨hid, hborn⟩ := h.returned n id ((hhistory.mem_iff fun hno => hno n id rfl).mp hmem)
  exact ⟨hid, fun hn => hborn (hunborn n hn)⟩

/-- Two timers have the same id exactly when their calls do. -/
lemma sameId_iff (h : q.Named start) {p' : TimerPtr} {timer' : Timer}
    (htimer : q.heap p = some timer) (htimer' : q.heap p' = some timer') :
    timer.id_ = timer'.id_ ↔ SameId timer.serial timer'.serial := by
  rw [h.ids.timers p timer htimer, h.ids.timers p' timer' htimer', timerIdOf_eq_iff]

/-- `activeTimers_` has no timer for an id when no timer with this id is pending. -/
lemma lookup_eq_none (h : q.Named start) (htimer : q.heap p = some timer)
    (hnone : ∀ m, q.Pending m → ¬ SameId m timer.serial) :
    q.activeTimers_.lookup timer.id_ = none := by
  rw [Option.eq_none_iff_forall_ne_some]
  intro p' hlookup
  obtain ⟨timer', htimer', hid, hmem⟩ := h.same.active _ p' hlookup
  exact hnone _ ⟨_, hmem, timer', htimer', rfl⟩ ((h.sameId_iff htimer' htimer).mp hid)

/-- The call that has created a timer returns. -/
lemma record_addTimer (h : q.Named start) (htimer : q.heap p = some timer)
    (hborn : ¬ q.Unborn timer.serial) :
    (q.record (.addTimer timer.serial timer.id_)).Named start := by
  refine ⟨h.same, ⟨h.ids.next, h.ids.inFlight, h.ids.timers⟩, fun n id hmem => ?_⟩
  rcases List.mem_cons.mp hmem with heq | hmem
  · obtain ⟨rfl, rfl⟩ := TimerEffect.addTimer.inj heq
    exact ⟨h.ids.timers p timer htimer, hborn⟩
  · exact h.returned n id hmem

/-- A timer is inserted into both containers, which may have it already. -/
lemma insertTimer (hc : q.Consistent) (h : q.Named start) (htimer : q.heap p = some timer)
    (halone : ∀ m, q.Pending m → SameId m timer.serial → m = timer.serial) :
    (q.insertTimer p timer).Named start := by
  refine h.of_history ?_ ⟨h.ids.next, h.ids.inFlight, h.ids.timers⟩ (fun _ => id) (.refl _)
  by_cases hmem : timer.id_ ∈ q.activeTimers_
  · obtain ⟨p', hlookup⟩ := Option.isSome_iff_exists.mp (AList.lookup_isSome.mpr hmem)
    obtain ⟨timer', htimer', hid, hcontained⟩ := h.same.active _ p' hlookup
    have hserial := halone _ ⟨_, hcontained, timer', htimer', rfl⟩
      ((h.sameId_iff htimer' htimer).mp hid)
    obtain rfl := hc.eq_of_serial_eq htimer' htimer hserial
    obtain rfl := Option.some.inj (htimer.symm.trans htimer')
    have hnothing : q.insertTimer p' timer = q := by
      simp only [TimerQueue.insertTimer, if_pos hmem, OrderedSet.insert, dif_pos hcontained]
    rw [hnothing]
    exact h.same
  · exact h.same.insert htimer fun _ => hmem

/-- `cancelTimerInLoop` deletes a timer. -/
lemma cancelledAt (hc : q.Consistent) (h : q.Named start)
    (hlookup : q.activeTimers_.lookup id = some p) (htimer : q.heap p = some timer) :
    (q.cancelledAt id p timer).Named start :=
  h.of_history ((h.same.erase hlookup htimer).update (hc.eraseTimer hlookup htimer).2)
    ⟨h.ids.next, h.ids.inFlight, timers_update h.ids.timers fun _ heq => by cases heq⟩
    (fun _ hn => hn) ((Extends.cons nofun).trans (.cons nofun))

end Named

namespace IdsInv

/-- No id has been taken yet. -/
lemma new (start : BitVec 32) : (TimerQueue.new start).IdsInv start := by
  have hnone (n : ℕ) : ¬ (TimerQueue.new start).Pending n :=
    fun ⟨e, he, _⟩ => OrderedSet.notMem_empty e he
  refine ⟨⟨.empty _, ⟨rfl, ?_, ?_⟩, ?_⟩, ?_, ?_⟩
  · exact fun call hcall => absurd hcall List.not_mem_nil
  · exact fun p timer htimer => (Option.some_ne_none timer htimer.symm).elim
  · exact fun n id h => absurd h List.not_mem_nil
  · exact fun m n hm => absurd hm (hnone m)
  · exact fun n _ hreturned => absurd hreturned List.not_mem_nil

/-- No call of `addTimer` returns. -/
lemma of_step (h : q.IdsInv start) (hsame : q'.SameTimers) (hids : TimerIds start q')
    (hunborn : ∀ n, q'.Unborn n → q.Unborn n) (hhistory : Extends NoReturn q.history q'.history)
    (hapart : ∀ m n, q'.Pending m → q'.Pending n → SameId m n → m = n)
    (hlatest : ∀ n, q'.Cancellable n → LatestCall n q.history) : q'.IdsInv start := by
  refine ⟨h.toNamed.of_history hsame hids hunborn hhistory, hapart, fun n hn => ?_⟩
  unfold LatestCall
  rw [returnedLike_eq hhistory]
  exact hlatest n hn

/-- The same timers are pending, and no other ones have expired. -/
lemma of_fewer (h : q.IdsInv start) (hsame : q'.SameTimers) (hids : TimerIds start q')
    (hunborn : ∀ n, q'.Unborn n → q.Unborn n) (hhistory : Extends NoReturn q.history q'.history)
    (hpending : ∀ n, q'.Pending n ↔ q.Pending n) (hexpired : ∀ n, q'.Expired n → q.Expired n) :
    q'.IdsInv start := by
  refine h.of_step hsame hids hunborn hhistory (fun m n hm hn => ?_) fun n hn => h.latest n ?_
  · exact h.apart m n ((hpending m).mp hm) ((hpending n).mp hn)
  · rcases hn with hn | ⟨hn, hnone⟩
    · exact .inl ((hpending n).mp hn)
    · exact .inr ⟨hexpired n hn, fun m hm => hnone m ((hpending m).mpr hm)⟩

/-- The call that has created a timer returns. -/
lemma record_addTimer (h : q.IdsInv start) (htimer : q.heap p = some timer)
    (hborn : ¬ q.Unborn timer.serial)
    (hrival : ∀ m, q.Cancellable m → m ∈ returnedLike m q.history → SameId m timer.serial →
      m = timer.serial) : (q.record (.addTimer timer.serial timer.id_)).IdsInv start := by
  refine ⟨h.toNamed.record_addTimer htimer hborn, h.apart, fun m hm => ?_⟩
  have hbefore : LatestCall m q.history := h.latest m hm
  change LatestCall m (_ :: q.history)
  unfold LatestCall
  by_cases hid : SameId timer.serial m
  · rw [returnedLike_addTimer hid, List.head?_cons]
    intro hmem
    rcases List.mem_cons.mp hmem with rfl | hmem
    · rfl
    · rw [hrival m hm hmem hid.symm]
  · rw [returnedLike_addTimer_of_not hid]
    exact hbefore

/-- `addTimer` takes an id. -/
lemma takeId (h : q.IdsInv start) : q.takeId.IdsInv start :=
  h.of_fewer h.same h.ids.takeId (Frame.takeId q).unborn (.refl _) (fun _ => Iff.rfl) fun _ => id

/-- A timer is created, which is not pending yet. -/
lemma newTimer {call : ℕ × TimerId} (hc : q.Consistent) (h : q.IdsInv start)
    (hcall : call ∈ q.inFlight) (hfree : q.heap p = none) (when_ : Timestamp) (interval_ : ℚ) :
    (q.newTimer call p when_ interval_).IdsInv start := by
  refine h.of_fewer (h.same.update (hc.ne_of_free hfree)) (h.ids.newTimer hcall p when_ interval_)
    (Frame.newTimer hc hcall hfree when_ interval_).unborn (.refl _)
    (fun n => pending_congr rfl fun e he => ?_) fun n hn => hn.mono id subset_rfl fun p' hp' => ?_
  · rw [newTimer_heap_of_ne (hc.ne_of_free hfree e he)]
  · have hne : p' ≠ p := fun heq => hc.notMem_batch_of_free hfree (heq ▸ hp')
    exact ⟨hp', newTimer_heap_of_ne hne ..⟩

/-- A timer becomes pending. -/
lemma insertTimer (hc : q.Consistent) (h : q.IdsInv start) (htimer : q.heap p = some timer)
    (hunrivalled : q.Unrivalled timer.serial) : (q.insertTimer p timer).IdsInv start := by
  obtain ⟨halone, hlast⟩ := hunrivalled
  refine h.of_step (h.toNamed.insertTimer hc htimer halone).same
    ⟨h.ids.next, h.ids.inFlight, h.ids.timers⟩ (fun _ => id) (.refl _) (fun m n hm hn hid => ?_)
    fun n hn => ?_
  · rw [pending_insertTimer htimer] at hm hn
    rcases hm with rfl | hm
    · rcases hn with rfl | hn
      · rfl
      · exact (halone n hn hid.symm).symm
    · rcases hn with rfl | hn
      · exact halone m hm hid
      · exact h.apart m n hm hn hid
  · rcases hn with hn | ⟨hn, hnone⟩
    · rcases (pending_insertTimer htimer).mp hn with rfl | hn
      · exact hlast
      · exact h.latest n (.inl hn)
    · refine h.latest n (.inr ⟨hn, fun m hm => hnone m ?_⟩)
      exact (pending_insertTimer htimer).mpr (.inr hm)

/-- The timer is not pending any more; the others are. -/
lemma pending_cancelledAt (hc : q.Consistent) (hlookup : q.activeTimers_.lookup id = some p)
    (htimer : q.heap p = some timer) :
    (q.cancelledAt id p timer).Pending n ↔ q.Pending n ∧ n ≠ timer.serial := by
  obtain ⟨-, hnot⟩ := hc.eraseTimer hlookup htimer
  constructor
  · rintro ⟨e, he, object, hobject, rfl⟩
    have hne : e.timer ≠ p := hnot e he
    have hold : q.heap e.timer = some object := by
      rw [← hobject]
      exact (Function.update_of_ne hne ..).symm
    refine ⟨⟨e, (OrderedSet.mem_erase.mp he).2, object, hold, rfl⟩, fun hserial => ?_⟩
    exact hne (hc.eq_of_serial_eq hold htimer hserial)
  · rintro ⟨⟨e, he, object, hobject, rfl⟩, hserial⟩
    have hne : e.timer ≠ p := by
      rintro rfl
      exact hserial (congrArg Timer.serial (Option.some.inj (hobject.symm.trans htimer)))
    refine ⟨e, OrderedSet.mem_erase.mpr ⟨?_, he⟩, object, ?_, rfl⟩
    · rintro rfl
      exact hne rfl
    · rw [← hobject]
      exact Function.update_of_ne hne ..

/-- The timers that have expired are still there. -/
lemma expired_cancelledAt (hc : q.Consistent) (hlookup : q.activeTimers_.lookup id = some p) :
    (q.cancelledAt id p timer).Expired n ↔ q.Expired n := by
  obtain ⟨timer', htimer', -, hmem⟩ := hc.containers.active id p hlookup
  have hheap : ∀ p' ∈ q.batch, (q.cancelledAt id p timer).heap p' = q.heap p' := by
    intro p' hp'
    refine Function.update_of_ne (fun heq => hc.apart _ hmem ?_) ..
    exact heq ▸ hp'
  constructor
  · exact fun hn => hn.mono (fun hcall => hcall) subset_rfl fun p' hp' => ⟨hp', hheap p' hp'⟩
  · exact fun hn => Expired.mono hn (fun hcall => hcall) subset_rfl
      fun p' hp' => ⟨hp', (hheap p' hp').symm⟩

/-- `cancelTimerInLoop` takes the timer of the id out of both containers and deletes it. -/
lemma cancelledAt (hc : q.Consistent) (h : q.IdsInv start)
    (hlookup : q.activeTimers_.lookup id = some p) (htimer : q.heap p = some timer)
    (hexposed : ∀ m, q.Expired m → SameId m timer.serial → LatestCall m q.history) :
    (q.cancelledAt id p timer).IdsInv start := by
  have hnamed := h.toNamed.cancelledAt hc hlookup htimer
  refine h.of_step hnamed.same hnamed.ids (fun _ hn => hn)
    ((Extends.cons nofun).trans (.cons nofun)) (fun m n hm hn => ?_) fun m hm => ?_
  · rw [pending_cancelledAt hc hlookup htimer] at hm hn
    exact h.apart m n hm.1 hn.1
  · rw [Cancellable, expired_cancelledAt hc hlookup] at hm
    rcases hm with hm | ⟨hm, hnone⟩
    · exact h.latest m (.inl ((pending_cancelledAt hc hlookup htimer).mp hm).1)
    · by_cases hid : SameId m timer.serial
      · exact hexposed m hm hid
      · refine h.latest m (.inr ⟨hm, fun k hk hkm => hnone k ?_ hkm⟩)
        refine (pending_cancelledAt hc hlookup htimer).mpr ⟨hk, ?_⟩
        rintro rfl
        exact hid hkm.symm

/-- The process ends. -/
lemma setFault (h : q.IdsInv start) (f : TimerFault) : ({ q with fault := some f }).IdsInv start :=
  ⟨⟨h.same, ⟨h.ids.next, h.ids.inFlight, h.ids.timers⟩, h.returned⟩, h.apart, h.latest⟩

/-- The assertion on the sizes. -/
lemma checkSizes (h : q.IdsInv start) {q₁ : TimerQueue} (h₁ : q₁.IdsInv start) :
    (q.outcome q₁.checkSizes).IdsInv start := by
  unfold TimerQueue.checkSizes
  split_ifs
  · exact h₁
  · exact h.setFault _

/-- `cancelTimerInLoop`, whether it finds the timer or not. -/
lemma cancelTimerInLoop (hc : q.Consistent) (h : q.IdsInv start) (id : TimerId)
    (hexposed : ∀ p timer, q.activeTimers_.lookup id = some p → q.heap p = some timer →
      ∀ m, q.Expired m → SameId m timer.serial → LatestCall m q.history) :
    (q.outcome (q.cancelTimerInLoop id)).IdsInv start := by
  cases hlookup : q.activeTimers_.lookup id with
  | none =>
    rw [cancelTimerInLoop_of_not_found hlookup]
    refine h.checkSizes (h.of_fewer h.same ⟨h.ids.next, h.ids.inFlight, h.ids.timers⟩
      (fun _ hn => hn) (.cons nofun) (fun _ => Iff.rfl) fun n hn => hn.mono (fun hcall => hcall) ?_
        fun p hp => ⟨hp, rfl⟩)
    change q.cancelTimers_ ⊆ if _ then _ else _
    split_ifs
    · exact Finset.subset_insert id q.cancelTimers_
    · exact subset_rfl
  | some p =>
    obtain ⟨timer, htimer, -⟩ := h.same.active id p hlookup
    rw [cancelTimerInLoop_of_found h.same hlookup htimer]
    exact h.checkSizes (h.cancelledAt hc hlookup htimer (hexposed p timer hlookup htimer))

/-- Outside `runTimer` nothing has expired. -/
lemma not_expired_of_idle (hidle : q.phase = .idle) : ¬ q.Expired n := by
  rintro ⟨-, p, hp, -⟩
  rw [batch, hidle] at hp
  cases hp

/-- A functor is called. -/
lemma call (hc : q.Consistent) (h : q.IdsInv start) (hidle : q.phase = .idle) (f : TimerFunctor)
    (hok : ∀ p timer, f = .addTimerInLoop p → q.heap p = some timer → q.Unrivalled timer.serial) :
    (q.outcome (q.call f)).IdsInv start := by
  cases f with
  | addTimerInLoop p =>
    cases hp : q.heap p with
    | none =>
      rw [TimerQueue.call, addTimer, hp]
      exact h.setFault _
    | some timer =>
      rw [TimerQueue.call, addTimer_eq hp]
      exact h.insertTimer hc hp (hok p timer rfl hp)
  | cancelTimerInLoop id =>
    exact h.cancelTimerInLoop hc id fun _ _ _ _ _ hm => absurd hm (not_expired_of_idle hidle)
  | other => exact h

section Restart

variable {now : Timestamp} {rest : List TimerEntry}

/-- The restarted timer is the same one. -/
lemma pending_replaced (htimer : q.heap e.timer = some timer) :
    (q.replaced now e rest timer).Pending n ↔ q.Pending n := by
  refine pending_congr rfl fun e' _ => ?_
  by_cases he : e'.timer = e.timer
  · simp [TimerQueue.replaced, he, htimer]
  · simp [TimerQueue.replaced, Function.update_of_ne he]

/-- A timer of the expired batch is replaced by itself with another deadline. -/
lemma replaced (h : q.IdsInv start) (hc : q.Consistent)
    (hphase : q.phase = .restarting now (e :: rest)) (htimer : q.heap e.timer = some timer) :
    (q.replaced now e rest timer).IdsInv start := by
  obtain ⟨-, hbatch, hcontained⟩ := hc.popEntry hphase
  have hids : TimerIds start (q.replaced now e rest timer) := by
    refine ⟨h.ids.next, h.ids.inFlight, timers_update h.ids.timers fun timer' heq => ?_⟩
    obtain rfl := Option.some.inj heq
    rw [timer.restart_id_, timer.restart_serial]
    exact h.ids.timers _ timer htimer
  refine h.of_fewer (h.same.update hcontained) hids (fun _ hn => hn) (.refl _)
    (fun n => pending_replaced htimer) fun n hn => hn.mono (fun hcall => hcall) subset_rfl
      fun p hp => ⟨?_, ?_⟩
  · rw [batch, hphase]
    exact List.mem_cons_of_mem _ hp
  · refine Function.update_of_ne (fun heq => hbatch ?_) ..
    exact heq ▸ hp

/-- A timer of the expired batch is restarted and goes back into the containers. -/
lemma restarted (hc : q.Consistent) (h : q.IdsInv start)
    (hphase : q.phase = .restarting now (e :: rest)) (htimer : q.heap e.timer = some timer)
    (hunrivalled : q.Unrivalled timer.serial) : (q.restarted now e rest timer).IdsInv start := by
  refine insertTimer (hc.replaced hphase htimer) (h.replaced hc hphase htimer)
    (Function.update_self ..) ?_
  rw [timer.restart_serial]
  exact ⟨fun m hm => hunrivalled.1 m ((pending_replaced htimer).mp hm), hunrivalled.2⟩

end Restart

/-- The steps of `runTimer`. -/
lemma of_runStep (hc : q.Consistent) (h : q.IdsInv start) (hstep : RunStep q ev q')
    (hok : q.KeepsIdsApart ev) : q'.IdsInv start := by
  have hids : TimerIds start q := h.ids
  cases hstep with
  | nothing =>
    exact h.of_fewer h.same ⟨hids.next, hids.inFlight, hids.timers⟩ (fun _ hn => hn)
      (.cons fun _ _ => by simp) (fun _ => Iff.rfl) fun _ => id
  | asserts => exact h.setFault _
  | @expire now idle pivot activeTimers_ lookup =>
    have hpending (n : ℕ) (hn : (q.expiredTaken now activeTimers_).Pending n) : q.Pending n := by
      obtain ⟨e, he, hserial⟩ := hn
      exact ⟨e, OrderedSet.mem_of_mem_notBefore he, hserial⟩
    refine h.of_step (h.same.expire lookup) ⟨hids.next, hids.inFlight, hids.timers⟩
      (fun _ hn => hn) (.cons fun _ _ => by simp)
      (fun m n hm hn => h.apart m n (hpending m hm) (hpending n hn))
      fun n hn => h.latest n (.inl ?_)
    rcases hn with hn | ⟨⟨-, p, hp, timer, htimer, hserial, -⟩, -⟩
    · exact hpending n hn
    · obtain ⟨e, he, rfl⟩ := mem_batch.mp hp
      exact ⟨e, OrderedSet.mem_of_mem_before he, timer, htimer, hserial⟩
  | @trigger now done e next timer phase =>
    refine h.of_fewer h.same ⟨hids.next, hids.inFlight, hids.timers⟩ (fun _ hn => hn)
      (.cons fun _ _ => by simp) (fun _ => Iff.rfl)
      fun n hn => hn.mono (fun hcall => hcall) subset_rfl fun p hp => ⟨?_, rfl⟩
    rw [batch, phase]
    simpa [batch, TimerPhase.batch] using hp
  | triggered =>
    refine h.of_fewer h.same ⟨hids.next, hids.inFlight, hids.timers⟩ (fun _ hn => hn) (.refl _)
      (fun _ => Iff.rfl) fun n hn => absurd hn.1 Bool.false_ne_true
  | restart phase live repeats kept =>
    exact h.restarted hc phase live (hok _ _ _ _ phase live repeats kept)
  | @delete now e rest timer phase live =>
    obtain ⟨-, hbatch, hcontained⟩ := hc.popEntry phase
    refine h.of_fewer (h.same.update hcontained)
      ⟨hids.next, hids.inFlight, timers_update hids.timers fun _ heq => by cases heq⟩
      (fun _ hn => hn) (.cons fun _ _ => by simp) (fun n => pending_congr rfl fun e' he' => ?_)
      fun n hn => hn.mono (fun hcall => hcall) subset_rfl fun p hp => ⟨?_, ?_⟩
    · rw [deleteTimer_heap_of_ne (hcontained e' he')]
    · rw [batch, phase]
      exact List.mem_cons_of_mem _ hp
    · refine deleteTimer_heap_of_ne (fun heq => hbatch ?_) ..
      exact heq ▸ hp
  | finish phase =>
    refine h.of_fewer h.same ⟨hids.next, hids.inFlight, hids.timers⟩ (fun _ hn => hn) (.refl _)
      (fun _ => Iff.rfl) fun n hn => absurd hn (not_expired_of_idle rfl)
  | finishAsserts => exact h.setFault _

/-- `queueInLoop` has written a vector back, and with it a call of `addTimer` may return. -/
lemma writeBack (hc : q.Consistent) (h : q.IdsInv start) {push : TimerFunctor × List TimerFunctor}
    (hok : q.KeepsIdsApart (.writeBack push)) : (q.writeBack push).IdsInv start := by
  obtain ⟨f, v⟩ := push
  cases f with
  | addTimerInLoop p =>
    cases hp : q.heap p with
    | none =>
      refine h.of_fewer h.same ⟨h.ids.next, h.ids.inFlight, h.ids.timers⟩ (fun _ hn => hn) ?_
        (fun _ => Iff.rfl) fun _ => id
      simp only [TimerQueue.writeBack, TimerQueue.returned, hp]
      exact .refl _
    | some timer =>
      have hreturned := h.record_addTimer hp (hc.not_unborn hp) (hok p timer rfl hp)
      refine hreturned.of_fewer h.same ⟨h.ids.next, h.ids.inFlight, h.ids.timers⟩
        (fun _ hn => hn) ?_ (fun _ => Iff.rfl) fun _ => id
      simp only [TimerQueue.writeBack, TimerQueue.returned, hp]
      exact .refl _
  | _ =>
    exact h.of_fewer h.same ⟨h.ids.next, h.ids.inFlight, h.ids.timers⟩ (fun _ hn => hn) (.refl _)
      (fun _ => Iff.rfl) fun _ => id

/-- `addTimer` on the loop's thread takes an id, creates the timer and inserts it. -/
lemma addedOnLoop (hc : q.Consistent) (h : q.IdsInv start) (hfree : q.heap p = none)
    (hok : ∀ m, q.Pending m → ¬ SameId m q.calls) (when_ : Timestamp) (interval_ : ℚ) :
    (q.addedOnLoop p when_ interval_).IdsInv start := by
  have hcall : (q.calls, q.atomic_ + 1) ∈ q.takeId.inFlight := List.mem_cons_self
  have hself := newTimer_heap_self q.takeId (q.calls, q.atomic_ + 1) p when_ interval_
  have hcreated : (q.takeId.newTimer (q.calls, q.atomic_ + 1) p when_ interval_).IdsInv start :=
    newTimer hc.takeId h.takeId hcall hfree when_ interval_
  have hconsistent := hc.takeId.newTimer hcall hfree when_ interval_
  have hpending (m : ℕ) :
      (q.takeId.newTimer (q.calls, q.atomic_ + 1) p when_ interval_).Pending m ↔ q.Pending m :=
    pending_congr rfl fun e he => by rw [newTimer_heap_of_ne (hc.ne_of_free hfree e he)]; rfl
  have hnew : LatestCall q.calls q.history := by
    intro hmem
    obtain ⟨id, hreturned⟩ := exists_of_mem_returnedLike hmem
    exact absurd (.inl le_rfl) (h.returned _ id hreturned).2
  have hinserted := hcreated.insertTimer hconsistent hself
    ⟨fun m hm hid => absurd hid (hok m ((hpending m).mp hm)), hnew⟩
  refine hinserted.record_addTimer hself (hconsistent.not_unborn hself) fun m hm _ hid => ?_
  rcases hm with hm | ⟨-, hnone⟩
  · rcases (pending_insertTimer hself).mp hm with heq | hm
    · exact heq
    · exact absurd hid (hok m ((hpending m).mp hm))
  · exact absurd hid.symm (hnone _ ((pending_insertTimer hself).mpr (.inl rfl)))

/-- The step lemma. -/
lemma stepRunning (hc : q.Consistent) (h : q.IdsInv start) (hok : q.KeepsIdsApart ev)
    (hstep : q.stepRunning ev = some q') : q'.IdsInv start := by
  cases ev with
  | takeId =>
    obtain rfl := Option.some.inj hstep
    exact h.takeId
  | newTimer call p when_ interval_ =>
    obtain ⟨⟨hcall, hfree⟩, hstep⟩ := Option.ite_none_right_eq_some.mp hstep
    obtain rfl := Option.some.inj hstep
    have hcreated := h.newTimer hc hcall hfree.2 when_ interval_
    exact ⟨⟨hcreated.same, ⟨hcreated.ids.next, hcreated.ids.inFlight, hcreated.ids.timers⟩,
      hcreated.returned⟩, hcreated.apart, hcreated.latest⟩
  | queueCancel | queueOther =>
    obtain rfl := Option.some.inj hstep
    exact ⟨⟨h.same, ⟨h.ids.next, h.ids.inFlight, h.ids.timers⟩, h.returned⟩, h.apart, h.latest⟩
  | writeBack push =>
    obtain ⟨-, hstep⟩ := Option.ite_none_right_eq_some.mp hstep
    obtain rfl := Option.some.inj hstep
    exact h.writeBack hc hok
  | addTimer p when_ interval_ =>
    obtain ⟨⟨-, hfree⟩, hstep⟩ := Option.ite_none_right_eq_some.mp hstep
    obtain rfl := Option.some.inj hstep
    rw [addTimerOnLoop_eq]
    exact h.addedOnLoop hc hfree.2 hok when_ interval_
  | cancelTimer id =>
    obtain ⟨-, hstep⟩ := Option.ite_none_right_eq_some.mp hstep
    obtain rfl := Option.some.inj hstep
    exact h.cancelTimerInLoop hc id hok
  | swap =>
    obtain ⟨-, hstep⟩ := Option.ite_none_right_eq_some.mp hstep
    obtain rfl := Option.some.inj hstep
    exact ⟨⟨h.same, ⟨h.ids.next, h.ids.inFlight, h.ids.timers⟩, h.returned⟩, h.apart, h.latest⟩
  | functor =>
    obtain ⟨f, rest, hphase, hfunctors, rfl⟩ := callNextFunctor_eq_some hstep
    have hconsistent : ({ q with functors := rest }).Consistent :=
      hc.congr rfl rfl rfl rfl rfl rfl rfl
    have hpopped : ({ q with functors := rest }).IdsInv start :=
      ⟨⟨h.same, ⟨h.ids.next, h.ids.inFlight, h.ids.timers⟩, h.returned⟩, h.apart, h.latest⟩
    refine hpopped.call hconsistent hphase f fun p timer hf htimer => hok p timer ?_ htimer
    rw [hfunctors, hf, List.head?_cons]
  | runTimer | trigger | triggered | restart | finish =>
    exact h.of_runStep hc (hc.runStep hstep) hok

/-- Every step that meets the condition keeps it. -/
lemma step (hc : q.Consistent) (h : q.IdsInv start) (hok : q.KeepsIdsApart ev)
    (hstep : q.step ev = some q') : q'.IdsInv start := by
  unfold TimerQueue.step at hstep
  split at hstep
  · exact h.stepRunning hc hok hstep
  · cases hstep

end IdsInv

/-! ## What can be cancelled -/

/-- When the assertion fails, no timer has been deleted and no id noted. -/
lemma cancels_of_checkSizes {q₁ : TimerQueue} (htimer : q.heap p = some timer)
    (hcancels : (q.outcome q₁.checkSizes).heap p = none ∨
      p ∈ q.batch ∧ id ∉ q.cancelTimers_ ∧ id ∈ (q.outcome q₁.checkSizes).cancelTimers_) :
    q₁.heap p = none ∨ p ∈ q.batch ∧ id ∉ q.cancelTimers_ ∧ id ∈ q₁.cancelTimers_ := by
  unfold TimerQueue.checkSizes at hcancels
  split_ifs at hcancels
  · exact hcancels
  · rcases hcancels with hdeleted | ⟨-, hnot, hnoted⟩
    · exact absurd (htimer.symm.trans hdeleted) (Option.some_ne_none timer)
    · exact absurd hnoted hnot

namespace IdsInv

/-- `cancelTimerInLoop(id)` cancels no timer with another id, and none but those that are
cancellable. -/
lemma cancellable_of_cancelsAt (h : q.IdsInv start) (htimer : q.heap p = some timer)
    (hcancels : q.CancelsAt id p timer) : timer.id_ = id ∧ q.Cancellable timer.serial := by
  unfold CancelsAt at hcancels
  cases hlookup : q.activeTimers_.lookup id with
  | none =>
    rw [cancelTimerInLoop_of_not_found hlookup] at hcancels
    rcases cancels_of_checkSizes htimer hcancels with hdeleted | ⟨hbatch, hnot, hnoted⟩
    · exact absurd (htimer.symm.trans hdeleted) (Option.some_ne_none timer)
    · simp only [notFound, TimerQueue.record] at hnoted
      split_ifs at hnoted with hcalling
      · obtain rfl := (Finset.mem_insert.mp hnoted).resolve_right hnot
        refine ⟨rfl, .inr ⟨⟨hcalling, p, hbatch, timer, htimer, rfl, hnot⟩, fun m hm hid => ?_⟩⟩
        obtain ⟨e, he, timer', htimer', rfl⟩ := hm
        have hfound := h.same.indexed (by decide) e he timer' htimer'
        rw [(h.toNamed.sameId_iff htimer' htimer).mpr hid, hlookup] at hfound
        cases hfound
      · exact absurd hnoted hnot
  | some p' =>
    obtain ⟨timer', htimer', hid, hmem⟩ := h.same.active id p' hlookup
    rw [cancelTimerInLoop_of_found h.same hlookup htimer'] at hcancels
    rcases cancels_of_checkSizes htimer hcancels with hdeleted | ⟨-, hnot, hnoted⟩
    · by_cases hp : p = p'
      · subst hp
        obtain rfl := Option.some.inj (htimer.symm.trans htimer')
        exact ⟨hid, .inl ⟨_, hmem, timer, htimer, rfl⟩⟩
      · have hkept : (q.cancelledAt id p' timer').heap p = q.heap p := Function.update_of_ne hp ..
        rw [hkept, htimer] at hdeleted
        cases hdeleted
    · exact absurd hnoted hnot

/-- The invariant makes the ids unambiguous. -/
lemma idsUnambiguous (hc : q.Consistent) (h : q.IdsInv start) : q.IdsUnambiguous := by
  refine ⟨fun e he e' he' timer timer' htimer htimer' hid => ?_, h.same.size_eq (by decide),
    fun id p timer htimer hcancels => ?_⟩
  · have hserial := h.apart _ _ ⟨e, he, timer, htimer, rfl⟩ ⟨e', he', timer', htimer', rfl⟩
      ((h.toNamed.sameId_iff htimer htimer').mp hid)
    exact h.same.eq_of_timer_eq he he' (hc.eq_of_serial_eq htimer htimer' hserial)
  · obtain ⟨rfl, hcancellable⟩ := h.cancellable_of_cancelsAt htimer hcancels
    refine ⟨rfl, ?_⟩
    have hlatest := h.latest _ hcancellable
    rw [h.ids.timers p timer htimer]
    unfold ReturnedLast
    rw [returnedWith_timerIdOf fun m id hmem => (h.returned m id hmem).1]
    exact hlatest

end IdsInv

/-- `cancelTimer` deletes a timer that is pending. -/
lemma cancelsAt_of_mem (hc : q.Consistent) (h : q.Named start) (he : e ∈ q.timers_)
    (htimer : q.heap e.timer = some timer) : q.CancelsAt timer.id_ e.timer timer := by
  have hlookup := h.same.indexed (by decide) e he timer htimer
  have hsizes := (h.cancelledAt hc hlookup htimer).same.size_eq (by decide)
  left
  rw [cancelTimerInLoop_of_found h.same hlookup htimer, checkSizes, if_pos hsizes]
  exact Function.update_self ..

/-- `cancelTimer` notes the id of a timer that has expired. -/
lemma cancelsAt_of_expired (h : q.Named start) (hcalling : q.callingTimesFunctor_ = true)
    (hbatch : p ∈ q.batch) (hnot : timer.id_ ∉ q.cancelTimers_)
    (hlookup : q.activeTimers_.lookup timer.id_ = none) : q.CancelsAt timer.id_ p timer := by
  have hsizes : (q.notFound timer.id_).timers_.size =
      (q.notFound timer.id_).activeTimers_.entries.length := h.same.size_eq (by decide)
  right
  refine ⟨hbatch, hnot, ?_⟩
  rw [cancelTimerInLoop_of_not_found hlookup, checkSizes, if_pos hsizes]
  simp [outcome, notFound, record, hcalling]

/-- Where the ids are unambiguous, a timer that can be cancelled is that of the call that has
returned last. -/
lemma latestCall_of_idsUnambiguous (hc : q.Consistent) (h : q.Named start)
    (hids : q.IdsUnambiguous) (hn : q.Cancellable n) : LatestCall n q.history := by
  have hlast (p : TimerPtr) (timer : Timer) (htimer : q.heap p = some timer)
      (hcancels : q.CancelsAt timer.id_ p timer) : LatestCall timer.serial q.history := by
    have hreturned := (hids.cancels _ p timer htimer hcancels).2
    rw [h.ids.timers p timer htimer, ReturnedLast,
      returnedWith_timerIdOf fun m id hmem => (h.returned m id hmem).1] at hreturned
    exact hreturned
  rcases hn with ⟨e, he, timer, htimer, rfl⟩ | ⟨⟨hcalling, p, hp, timer, htimer, rfl, hnot⟩, hnone⟩
  · exact hlast _ timer htimer (cancelsAt_of_mem hc h he htimer)
  · exact hlast p timer htimer
      (cancelsAt_of_expired h hcalling hp hnot (h.lookup_eq_none htimer hnone))

/-! ## Why the condition is needed -/

/-- Where the ids are unambiguous with a timer inserted, it had no rival. -/
lemma unrivalled_of_insertTimer (hc : q.Consistent) (h : q.Named start)
    (htimer : q.heap p = some timer) (hconsistent : (q.insertTimer p timer).Consistent)
    (hids : (q.insertTimer p timer).IdsUnambiguous) : q.Unrivalled timer.serial := by
  have halone (m : ℕ) (hm : q.Pending m) (hid : SameId m timer.serial) : m = timer.serial := by
    obtain ⟨e, he, timer', htimer', rfl⟩ := hm
    have heq := hids.distinct e (OrderedSet.mem_insert.mpr (.inr he)) ⟨timer.when_, p⟩
      (OrderedSet.mem_insert.mpr (.inl rfl)) timer' timer htimer' htimer
      ((h.sameId_iff htimer' htimer).mpr hid)
    subst heq
    exact congrArg Timer.serial (Option.some.inj (htimer'.symm.trans htimer))
  have hpending : (q.insertTimer p timer).Pending timer.serial :=
    (pending_insertTimer htimer).mpr (.inl rfl)
  have hlast : LatestCall timer.serial (q.insertTimer p timer).history :=
    latestCall_of_idsUnambiguous hconsistent (h.insertTimer hc htimer halone) hids (.inl hpending)
  exact ⟨halone, hlast⟩

/-- Where the ids are unambiguous after `addTimer` on the loop's thread, no timer with its id was
pending. -/
lemma not_sameId_of_addedOnLoop (hc : q.Consistent) (h : q.Named start) (hfree : q.heap p = none)
    {when_ : Timestamp} {interval_ : ℚ}
    (hids : (q.addedOnLoop p when_ interval_).IdsUnambiguous) (hm : q.Pending m) :
    ¬ SameId m q.calls := by
  obtain ⟨e, he, timer, htimer, rfl⟩ := hm
  intro hid
  have hne := hc.ne_of_free hfree e he
  have heq := hids.distinct e (OrderedSet.mem_insert.mpr (.inr he)) ⟨when_, p⟩
    (OrderedSet.mem_insert.mpr (.inl rfl)) timer ⟨q.calls, q.atomic_ + 1, when_, interval_⟩
    ((newTimer_heap_of_ne hne ..).trans htimer) (newTimer_heap_self ..) (by
      rw [h.ids.timers _ timer htimer, h.ids.next]
      exact timerIdOf_eq_iff.mpr hid)
  exact hne (congrArg TimerEntry.timer heq)

/-- Where the ids are unambiguous after a call has returned, it has no rival that can be
cancelled. -/
lemma eq_of_record_addTimer (hc : q.Consistent) (h : q.Named start) (hc' : q'.Consistent)
    (htimer : q.heap p = some timer) (hids : q'.IdsUnambiguous) (hsame : q'.SameTimers)
    (htimerIds : TimerIds start q') (hunborn : ∀ n, q'.Unborn n → q.Unborn n)
    (hhistory : q'.history = .addTimer timer.serial timer.id_ :: q.history)
    (hm : q'.Cancellable m) (hreturned : m ∈ returnedLike m q.history)
    (hid : SameId m timer.serial) : m = timer.serial := by
  have hrecorded := h.record_addTimer htimer (hc.not_unborn htimer)
  have hnamed : q'.Named start :=
    hrecorded.of_history hsame htimerIds hunborn (hhistory ▸ .refl _)
  have hlast := latestCall_of_idsUnambiguous hc' hnamed hids hm
  rw [LatestCall, hhistory, returnedLike_addTimer hid.symm, List.head?_cons] at hlast
  exact (Option.some.inj (hlast (List.mem_cons_of_mem _ hreturned))).symm

/-- Where the ids are unambiguous after a timer has been deleted, no expired one of an older call
can be found in its place. -/
lemma latestCall_of_cancelledAt (hc : q.Consistent) (h : q.IdsInv start)
    (hlookup : q.activeTimers_.lookup id = some p) (htimer : q.heap p = some timer)
    (hc' : (q.cancelledAt id p timer).Consistent)
    (hids : (q.cancelledAt id p timer).IdsUnambiguous) (hm : q.Expired m)
    (hid : SameId m timer.serial) : LatestCall m q.history := by
  obtain ⟨timer', htimer', -, hmem⟩ := h.same.active id p hlookup
  obtain rfl := Option.some.inj (htimer.symm.trans htimer')
  have hcancellable : (q.cancelledAt id p timer).Cancellable m := by
    refine .inr ⟨(IdsInv.expired_cancelledAt hc hlookup).mpr hm, fun k hk hkm => ?_⟩
    obtain ⟨hk, hne⟩ := (IdsInv.pending_cancelledAt hc hlookup htimer).mp hk
    exact hne (h.apart k timer.serial hk ⟨_, hmem, timer, htimer, rfl⟩ (hkm.trans hid))
  have hlast := latestCall_of_idsUnambiguous hc' (h.toNamed.cancelledAt hc hlookup htimer) hids
    hcancellable
  have hhistory : Extends NoReturn q.history (q.cancelledAt id p timer).history :=
    (Extends.cons nofun).trans (.cons nofun)
  rw [LatestCall, returnedLike_eq hhistory] at hlast
  exact hlast

/-- A step after which the ids are unambiguous meets the condition. -/
lemma keepsIdsApart_of_step (hc : q.Consistent) (h : q.IdsInv start) (hstep : q.step ev = some q')
    (hids : q'.IdsUnambiguous) : q.KeepsIdsApart ev := by
  have hc' := (hc.step hstep).1
  unfold TimerQueue.step at hstep
  split at hstep
  swap
  · cases hstep
  cases ev with
  | writeBack push =>
    obtain ⟨-, hstep⟩ := Option.ite_none_right_eq_some.mp hstep
    obtain rfl := Option.some.inj hstep
    obtain ⟨f, v⟩ := push
    intro p timer hf htimer m hm hreturned hid
    obtain rfl : f = .addTimerInLoop p := hf
    refine eq_of_record_addTimer hc h.toNamed hc' htimer hids h.same
      ⟨h.ids.next, h.ids.inFlight, h.ids.timers⟩ (fun _ hn => hn) ?_ hm hreturned hid
    simp [writeBack, TimerQueue.returned, htimer]
  | addTimer p when_ interval_ =>
    obtain ⟨⟨-, hfree⟩, hstep⟩ := Option.ite_none_right_eq_some.mp hstep
    obtain rfl := Option.some.inj hstep
    rw [addTimerOnLoop_eq] at hids
    exact fun m hm => not_sameId_of_addedOnLoop hc h.toNamed hfree.2 hids hm
  | cancelTimer id =>
    obtain ⟨-, hstep⟩ := Option.ite_none_right_eq_some.mp hstep
    obtain rfl := Option.some.inj hstep
    intro p timer hlookup htimer m hm hid
    have hsizes := (h.toNamed.cancelledAt hc hlookup htimer).same.size_eq (by decide)
    rw [cancelTimerInLoop_of_found h.same hlookup htimer, checkSizes, if_pos hsizes] at hids hc'
    exact latestCall_of_cancelledAt hc h hlookup htimer hc' hids hm hid
  | functor =>
    obtain ⟨f, rest, hphase, hfunctors, rfl⟩ := callNextFunctor_eq_some hstep
    intro p timer hf htimer
    rw [hfunctors, List.head?_cons, Option.some.injEq] at hf
    subst hf
    have hconsistent : ({ q with functors := rest }).Consistent :=
      hc.congr rfl rfl rfl rfl rfl rfl rfl
    have hpopped : ({ q with functors := rest }).Named start :=
      ⟨h.same, ⟨h.ids.next, h.ids.inFlight, h.ids.timers⟩, h.returned⟩
    rw [TimerQueue.call, addTimer_eq (q := { q with functors := rest }) htimer] at hids hc'
    have hunrivalled : ({ q with functors := rest } : TimerQueue).Unrivalled timer.serial :=
      unrivalled_of_insertTimer (q := { q with functors := rest }) hconsistent hpopped htimer hc'
        hids
    exact hunrivalled
  | restart =>
    intro now e rest timer hphase htimer hrepeats hkept
    have hrestarted : q' = q.restarted now e rest timer := by
      have hnext : q.stepRunning .restart = q.stepRunTimer q.phase .restart := rfl
      rw [hnext, hphase, stepRunTimer, restartOrDelete_eq htimer, if_pos ⟨hrepeats, hkept⟩] at hstep
      exact (Option.some.inj hstep).symm
    subst hrestarted
    have hreplaced := h.replaced hc hphase htimer
    have hunrivalled := unrivalled_of_insertTimer (hc.replaced hphase htimer) hreplaced.toNamed
      (Function.update_self ..) hc' hids
    rw [timer.restart_serial] at hunrivalled
    exact ⟨fun m hm => hunrivalled.1 m ((IdsInv.pending_replaced htimer).mpr hm), hunrivalled.2⟩
  | _ => trivial

/-- In every run of any length, the ids are unambiguous in all states, if and only if no step brings
two calls of `addTimer` into conflict that are a multiple of `2 ^ 32` calls apart. -/
theorem idsUnambiguous_iff (start : BitVec 32) (es : List TimerEvent) :
    Always step IdsUnambiguous (new start) es ↔ Meets step KeepsIdsApart (new start) es := by
  refine always_iff_meets (I := fun q => q.Consistent ∧ q.IdsInv start) ?_ ?_ ?_
    ⟨.new start, .new start⟩
  · rintro q ev q' ⟨hc, h⟩ hok hstep
    exact ⟨(hc.step hstep).1, h.step hc hok hstep⟩
  · exact fun q h => h.2.idsUnambiguous h.1
  · exact fun q ev q' h hbad hstep hids => hbad (keepsIdsApart_of_step h.1 h.2 hstep hids)

/-! ## An id comes back -/

/-- The loop's thread adds a timer. -/
lemma step_addTimer_of_free (hrunning : q.fault = none) (hidle : q.phase = .idle) (hfree : q.Free p)
    (when_ : Timestamp) (interval_ : ℚ) :
    q.step (.addTimer p when_ interval_) = some (q.addedOnLoop p when_ interval_) := by
  have huser : q.inUserCode = true := by
    rw [inUserCode, hidle]
  unfold TimerQueue.step
  rw [hrunning]
  change (if q.inUserCode ∧ q.Free p then _ else _) = _
  rw [if_pos ⟨huser, hfree⟩, addTimerOnLoop_eq]
  rfl

/-- The loop's thread cancels a timer. -/
lemma step_cancelTimer_of_found (hrunning : q.fault = none) (hidle : q.phase = .idle)
    (hc : q.Consistent) (h : q.Named start) (hlookup : q.activeTimers_.lookup id = some p)
    (htimer : q.heap p = some timer) :
    q.step (.cancelTimer id) = some (q.cancelledAt id p timer) := by
  have huser : q.inUserCode = true := by
    rw [inUserCode, hidle]
  have hsizes := (h.cancelledAt hc hlookup htimer).same.size_eq (by decide)
  unfold TimerQueue.step
  rw [hrunning]
  change (if q.inUserCode = true then _ else _) = _
  rw [if_pos huser, cancelTimerInLoop_of_found h.same hlookup htimer, checkSizes, if_pos hsizes]
  rfl

/-- A timer is added and cancelled, `n` times, where the first one has the id 2. -/
def addAndCancel (n : ℕ) : List TimerEvent :=
  (List.range n).flatMap fun k => [.addTimer 200 7 0, .cancelTimer (BitVec.ofNat 32 (k + 2))]

/-- The first timer that is added, a repeating one. -/
def firstTimer : Timer := ⟨0, 1, 5, 1 / 2⟩

/-- Only the first timer is there, and `n` ids have been taken since. -/
structure OnlyFirst (n : ℕ) (q : TimerQueue) : Prop where
  running : q.fault = none
  idle : q.phase = .idle
  heap : q.heap = Function.update (fun _ => none) 100 (some firstTimer)
  contained : ⟨5, 100⟩ ∈ q.timers_
  next : q.atomic_ + 1 = BitVec.ofNat 32 (n + 2)
  consistent : q.Consistent
  calls : q.calls = n + 1
  inv : q.IdsInv 0

namespace OnlyFirst

/-- The first timer is at its address. -/
lemma heap_self (h : OnlyFirst n q) : q.heap 100 = some firstTimer := by
  rw [h.heap, Function.update_self]

/-- There is no other timer. -/
lemma heap_of_ne (h : OnlyFirst n q) (hp : p ≠ 100) : q.heap p = none := by
  rw [h.heap, Function.update_of_ne hp]

/-- The address of the second timer is free. -/
lemma free (h : OnlyFirst n q) : q.Free 200 := ⟨by decide, h.heap_of_ne (by decide)⟩

/-- The next call is not a multiple of `2 ^ 32` calls behind the first one. -/
lemma not_sameId (h : OnlyFirst n q) (hn : n + 1 < 2 ^ 32) {m : ℕ} (hm : q.Pending m) :
    ¬ SameId m q.calls := by
  obtain ⟨e, -, timer, htimer, rfl⟩ := hm
  have hp : e.timer = 100 := by
    by_contra hp
    rw [h.heap_of_ne hp] at htimer
    cases htimer
  rw [hp, h.heap_self, Option.some.injEq] at htimer
  subst htimer
  have hserial : firstTimer.serial = 0 := rfl
  rw [SameId, hserial, h.calls]
  omega

/-- Another id than 1 is taken, and its timer is cancelled. -/
lemma addAndCancel_step (h : OnlyFirst n q) (hn : n + 1 < 2 ^ 32) :
    ∃ q', exec TimerQueue.step q [.addTimer 200 7 0, .cancelTimer (BitVec.ofNat 32 (n + 2))] =
      some q' ∧ OnlyFirst (n + 1) q' := by
  have hfree := h.free
  have hadd := step_addTimer_of_free h.running h.idle hfree 7 0
  have hc₁ := (h.consistent.step hadd).1
  have h₁ := h.inv.addedOnLoop h.consistent hfree.2 (fun _ hm => h.not_sameId hn hm) 7 0
  have htimer : (q.addedOnLoop 200 7 0).heap 200 = some ⟨q.calls, q.atomic_ + 1, 7, 0⟩ :=
    newTimer_heap_self q.takeId (q.calls, q.atomic_ + 1) 200 7 0
  have hmem : ⟨7, 200⟩ ∈ (q.addedOnLoop 200 7 0).timers_ := OrderedSet.mem_insert.mpr (.inl rfl)
  have hlookup := h₁.same.indexed (by decide) _ hmem _ htimer
  have hcancel := step_cancelTimer_of_found (q := q.addedOnLoop 200 7 0) h.running h.idle hc₁
    h₁.toNamed hlookup htimer
  have hrun := exec_cons_eq_some.mpr ⟨_, hadd, exec_cons_eq_some.mpr ⟨_, hcancel, exec_nil _⟩⟩
  rw [← h.next]
  have hcalls : q.calls + 1 = n + 1 + 1 := congrArg (· + 1) h.calls
  refine ⟨_, hrun, h.running, h.idle, ?_, ?_, ?_, (hc₁.step hcancel).1, hcalls,
    h₁.cancelledAt hc₁ hlookup htimer fun m hm => absurd hm (IdsInv.not_expired_of_idle h.idle)⟩
  · change Function.update (Function.update q.heap 200 _) 200 none = _
    rw [Function.update_idem]
    exact (Function.update_eq_self_iff.mpr hfree.2.symm).trans h.heap
  · refine OrderedSet.mem_erase.mpr ⟨?_, OrderedSet.mem_insert.mpr (.inr h.contained)⟩
    intro heq
    exact absurd (TimerEntry.mk.inj heq).2 (by decide)
  · change q.atomic_ + 1 + 1 = _
    rw [h.next, BitVec.ofNat_add (n + 2) 1]
    rfl

/-- By induction on the number of rounds. -/
lemma exec_addAndCancel (h : OnlyFirst 0 q) (hn : n < 2 ^ 32) :
    ∃ q', exec TimerQueue.step q (addAndCancel n) = some q' ∧ OnlyFirst n q' := by
  induction n with
  | zero => exact ⟨q, rfl, h⟩
  | succ n ih =>
    obtain ⟨q₁, hrun₁, h₁⟩ := ih (Nat.lt_of_succ_lt hn)
    obtain ⟨q₂, hrun₂, h₂⟩ := h₁.addAndCancel_step hn
    refine ⟨q₂, ?_, h₂⟩
    rw [addAndCancel, List.range_succ, List.flatMap_append, exec_append]
    rw [addAndCancel] at hrun₁
    rw [hrun₁]
    simpa using hrun₂

/-- It holds when the first timer has been added. -/
lemma first (hadd : (TimerQueue.new 0).step (.addTimer 100 5 (1 / 2)) = some q) :
    OnlyFirst 0 q := by
  have hapart : (TimerQueue.new 0).KeepsIdsApart (.addTimer 100 5 (1 / 2)) :=
    fun m ⟨e, he, _⟩ => absurd he (OrderedSet.notMem_empty e)
  have hconsistent := (Consistent.new 0).step hadd
  have hinv := (IdsInv.new 0).step (.new 0) hapart hadd
  obtain rfl := Option.some.inj
    ((step_addTimer_of_free rfl rfl ⟨by decide, rfl⟩ 5 (1 / 2)).symm.trans hadd)
  exact ⟨rfl, rfl, rfl, OrderedSet.mem_insert.mpr (.inl rfl), rfl, hconsistent.1, rfl, hinv⟩

end OnlyFirst

/-- While a repeating timer with the id 1 is there, `2 ^ 32 - 1` others are added and cancelled.
The next one gets the id 1 again: both are in `timers_`, only the first one is in `activeTimers_`,
and it is the one that `cancelTimer(1)` deletes. -/
theorem not_idsUnambiguous_reused :
    ∃ q, exec step (new 0) (.addTimer 100 5 (1 / 2) :: addAndCancel (2 ^ 32 - 1) ++
        [.addTimer 200 7 0]) = some q ∧
      ⟨5, 100⟩ ∈ q.timers_ ∧ ⟨7, 200⟩ ∈ q.timers_ ∧
      (q.heap 100).map Timer.id_ = some 1 ∧ (q.heap 200).map Timer.id_ = some 1 ∧
      q.timers_.size = q.activeTimers_.entries.length + 1 ∧
      q.activeTimers_.lookup 1 = some 100 ∧ ¬ q.IdsUnambiguous := by
  have hadd := step_addTimer_of_free (q := new 0) rfl rfl ⟨(by decide : 100 ≠ 0), rfl⟩ 5 (1 / 2)
  obtain ⟨q, hrun, h⟩ := (OnlyFirst.first hadd).exec_addAndCancel (n := 2 ^ 32 - 1) (by omega)
  have hagain := step_addTimer_of_free h.running h.idle h.free 7 0
  have hnext : q.atomic_ + 1 = 1 := h.next
  have hlookup : q.activeTimers_.lookup 1 = some 100 :=
    h.inv.same.indexed (by decide) _ h.contained _ h.heap_self
  have hmem : 1 ∈ q.activeTimers_ := AList.lookup_isSome.mp (by rw [hlookup]; rfl)
  have hnew : ⟨7, 200⟩ ∉ q.timers_ := fun he => h.consistent.ne_of_free h.free.2 _ he rfl
  have hactive : (q.addedOnLoop 200 7 0).activeTimers_ = q.activeTimers_ := by
    change (if q.atomic_ + 1 ∈ q.activeTimers_ then _ else _) = _
    rw [hnext, if_pos hmem]
    rfl
  have hfirst : (q.addedOnLoop 200 7 0).heap 100 = some firstTimer := by
    rw [← h.heap_self]
    exact newTimer_heap_of_ne (by decide : 100 ≠ 200) q.takeId (q.calls, q.atomic_ + 1) 7 0
  have hsecond : (q.addedOnLoop 200 7 0).heap 200 = some ⟨q.calls, q.atomic_ + 1, 7, 0⟩ :=
    newTimer_heap_self q.takeId (q.calls, q.atomic_ + 1) 200 7 0
  refine ⟨q.addedOnLoop 200 7 0, ?_, OrderedSet.mem_insert.mpr (.inr h.contained),
    OrderedSet.mem_insert.mpr (.inl rfl), ?_, ?_, ?_, ?_, ?_⟩
  · rw [List.cons_append, exec_cons_eq_some]
    refine ⟨_, hadd, ?_⟩
    rw [exec_append, hrun]
    exact exec_cons_eq_some.mpr ⟨_, hagain, exec_nil _⟩
  · rw [hfirst]
    rfl
  · rw [hsecond, hnext]
    rfl
  · rw [hactive, ← h.inv.same.size_eq (by decide)]
    exact (OrderedSet.insert_perm hnew).length_eq
  · rw [hactive]
    exact hlookup
  · intro hids
    have heq := hids.distinct _ (OrderedSet.mem_insert.mpr (.inr h.contained)) _
      (OrderedSet.mem_insert.mpr (.inl rfl)) _ _ hfirst hsecond hnext.symm
    exact absurd (TimerEntry.mk.inj heq).2 (by decide)

end TimerQueue

end SimpleMuduo
