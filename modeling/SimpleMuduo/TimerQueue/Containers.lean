import SimpleMuduo.Foundation.EventHistory
import SimpleMuduo.Foundation.ObjectCensus
import SimpleMuduo.Foundation.TransitionSystem
import SimpleMuduo.TimerQueue.State

/-!
# Where the timers are

What the containers of a timer queue say about the timers on the heap, where a timer can be, and
what the record of a run says about its triggers, each with the rules for the operations that the
member functions are made of.
-/

namespace SimpleMuduo

variable {start : BitVec 32} {q : TimerQueue} {p : TimerPtr} {timer : Timer}

/-! ## The places of the timers -/

namespace TimerQueue

/-- The timers whose `addTimerInLoop` is queued, or is being queued. -/
def queued (q : TimerQueue) : List TimerPtr :=
  q.pushes.filterMap (fun push => push.1.timer?) ++
    (q.functors ++ q.pendingFunctors_).filterMap TimerFunctor.timer?

/-- The timers in `timers_`. -/
def contained (q : TimerQueue) : List TimerPtr := q.timers_.toList.map TimerEntry.timer

/-- The timers of the expired batch. -/
def batch (q : TimerQueue) : List TimerPtr := q.phase.batch.map TimerEntry.timer

/-- The addresses that the timer queue and the functors hold. -/
def held (q : TimerQueue) : List TimerPtr := q.queued ++ q.contained ++ q.batch

/-- The calls of `addTimer` whose timers have been deleted, according to a record. -/
def deletedIn (history : List TimerEffect) : List ℕ :=
  history.filterMap fun
    | .delete n => some n
    | _ => none

lemma mem_deletedIn {n : ℕ} {history : List TimerEffect} :
    n ∈ deletedIn history ↔ .delete n ∈ history := by
  simp only [deletedIn, List.mem_filterMap]
  constructor
  · rintro ⟨e, he, hn⟩
    cases e with
    | delete m =>
      obtain rfl := Option.some.inj hn
      exact he
    | _ => cases hn
  · intro h
    exact ⟨_, h, rfl⟩

lemma mem_contained : p ∈ q.contained ↔ ∃ e ∈ q.timers_, e.timer = p := List.mem_map

lemma mem_batch : p ∈ q.batch ↔ ∃ e ∈ q.phase.batch, e.timer = p := List.mem_map

/-- The next functor is called outside of `runTimer`. -/
lemma callNextFunctor_eq_some {q' : TimerQueue} (h : q.callNextFunctor = some q') :
    ∃ f rest, q.phase = .idle ∧ q.functors = f :: rest ∧
      q' = ({ q with functors := rest }).outcome (({ q with functors := rest }).call f) := by
  unfold callNextFunctor at h
  split at h
  · rename_i f rest hphase hfunctors
    exact ⟨f, rest, hphase, hfunctors, (Option.some.inj h).symm⟩
  · cases h

end TimerQueue

/-! ## Ids -/

/-- The id that the call `n` of `addTimer` takes when `atomic_` is `start` at first. -/
def timerIdOf (start : BitVec 32) (n : ℕ) : TimerId := start + BitVec.ofNat 32 (n + 1)

/-- Fewer than `2 ^ 32` calls take different ids. -/
lemma timerIdOf_injective {m n : ℕ} (hm : m < 2 ^ 32) (hn : n < 2 ^ 32)
    (h : timerIdOf start m = timerIdOf start n) : m = n := by
  have hnat := congrArg BitVec.toNat h
  simp only [timerIdOf, BitVec.toNat_add, BitVec.toNat_ofNat] at hnat
  have hstart := start.isLt
  omega

/-- The ids are taken one after the other. -/
structure TimerIds (start : BitVec 32) (q : TimerQueue) : Prop where
  next : q.atomic_ + 1 = timerIdOf start q.calls
  inFlight : ∀ call ∈ q.inFlight, call.2 = timerIdOf start call.1
  timers : ∀ p timer, q.heap p = some timer → timer.id_ = timerIdOf start timer.serial

/-- The ids of the timers on the heap when the object at one address changes. -/
lemma timers_update {heap : TimerPtr → Option Timer} {o : Option Timer}
    (htimers : ∀ p timer, heap p = some timer → timer.id_ = timerIdOf start timer.serial)
    (ho : ∀ timer, o = some timer → timer.id_ = timerIdOf start timer.serial) (p' : TimerPtr)
    (timer' : Timer) (htimer' : Function.update heap p o p' = some timer') :
    timer'.id_ = timerIdOf start timer'.serial := by
  by_cases hp : p' = p
  · rw [hp, Function.update_self] at htimer'
    exact ho timer' htimer'
  · rw [Function.update_of_ne hp] at htimer'
    exact htimers p' timer' htimer'

/-- An id is taken. -/
lemma TimerIds.takeId (h : TimerIds start q) : TimerIds start q.takeId := by
  refine ⟨?_, fun call hcall => ?_, h.timers⟩
  · change q.atomic_ + 1 + 1 = timerIdOf start (q.calls + 1)
    rw [h.next, timerIdOf, timerIdOf, BitVec.add_assoc, BitVec.ofNat_add (q.calls + 1) 1]
    rfl
  · rcases List.mem_cons.mp hcall with rfl | hcall
    · exact h.next
    · exact h.inFlight call hcall

/-- A timer is created with the id that its call has taken. -/
lemma TimerIds.newTimer {call : ℕ × TimerId} (h : TimerIds start q) (hcall : call ∈ q.inFlight)
    (p : TimerPtr) (when_ : Timestamp) (interval_ : ℚ) :
    TimerIds start (q.newTimer call p when_ interval_) := by
  refine ⟨h.next, fun call' hcall' => h.inFlight call' (List.mem_of_mem_erase hcall'), ?_⟩
  refine timers_update h.timers fun timer htimer => ?_
  obtain rfl := Option.some.inj htimer
  exact h.inFlight call hcall

/-! ## The containers -/

/-- The keys of the containers are those of their timers, and every timer in `activeTimers_` is in
`timers_`; as long as no id has been taken twice, the converse holds as well. -/
structure TimerContainers (calls : ℕ) (heap : TimerPtr → Option Timer)
    (timers_ : OrderedSet TimerEntry) (activeTimers_ : AList fun _ : TimerId => TimerPtr) :
    Prop where
  keys : ∀ e ∈ timers_, ∃ timer, heap e.timer = some timer ∧ timer.when_ = e.expiration
  active : ∀ id p, activeTimers_.lookup id = some p →
    ∃ timer, heap p = some timer ∧ timer.id_ = id ∧ ⟨timer.when_, p⟩ ∈ timers_
  indexed : calls < 2 ^ 32 → ∀ e ∈ timers_, ∀ timer, heap e.timer = some timer →
    activeTimers_.lookup timer.id_ = some e.timer

namespace TimerContainers

variable {calls : ℕ} {heap : TimerPtr → Option Timer} {timers_ : OrderedSet TimerEntry}
  {activeTimers_ : AList fun _ : TimerId => TimerPtr} {e e' : TimerEntry} {id : TimerId}

lemma empty (heap : TimerPtr → Option Timer) : TimerContainers 0 heap .empty ∅ := by
  refine ⟨?_, ?_, ?_⟩
  · intro e he
    exact absurd he (OrderedSet.notMem_empty e)
  · intro id p h
    simp at h
  · intro _ e he
    exact absurd he (OrderedSet.notMem_empty e)

/-- A timer has one entry in `timers_`. -/
lemma eq_of_timer_eq (h : TimerContainers calls heap timers_ activeTimers_) (he : e ∈ timers_)
    (he' : e' ∈ timers_) (heq : e.timer = e'.timer) : e = e' := by
  obtain ⟨timer, htimer, hwhen⟩ := h.keys e he
  obtain ⟨timer', htimer', hwhen'⟩ := h.keys e' he'
  rw [heq, htimer', Option.some.injEq] at htimer
  subst htimer
  cases e
  cases e'
  simp_all

lemma mono {calls' : ℕ} (h : TimerContainers calls heap timers_ activeTimers_)
    (hcalls : calls ≤ calls') : TimerContainers calls' heap timers_ activeTimers_ :=
  ⟨h.keys, h.active, fun hlt => h.indexed (Nat.lt_of_le_of_lt hcalls hlt)⟩

/-- Only the timers in `timers_` matter. -/
lemma update (h : TimerContainers calls heap timers_ activeTimers_) {o : Option Timer}
    (hp : ∀ e ∈ timers_, e.timer ≠ p) :
    TimerContainers calls (Function.update heap p o) timers_ activeTimers_ := by
  refine ⟨?_, ?_, ?_⟩
  · intro e he
    rw [Function.update_of_ne (hp e he)]
    exact h.keys e he
  · intro id p' hlookup
    obtain ⟨timer, htimer, hid, hmem⟩ := h.active id p' hlookup
    refine ⟨timer, ?_, hid, hmem⟩
    rw [Function.update_of_ne (hp _ hmem)]
    exact htimer
  · intro hcalls e he timer htimer
    rw [Function.update_of_ne (hp e he)] at htimer
    exact h.indexed hcalls e he timer htimer

/-- A timer is inserted into both containers. -/
lemma insert (h : TimerContainers calls heap timers_ activeTimers_) (htimer : heap p = some timer)
    (hfresh : calls < 2 ^ 32 → timer.id_ ∉ activeTimers_) :
    TimerContainers calls heap (timers_.insert ⟨timer.when_, p⟩)
      (if timer.id_ ∈ activeTimers_ then activeTimers_ else activeTimers_.insert timer.id_ p) := by
  have hactive : ∀ id p', activeTimers_.lookup id = some p' →
      ∃ timer', heap p' = some timer' ∧ timer'.id_ = id ∧
        ⟨timer'.when_, p'⟩ ∈ timers_.insert ⟨timer.when_, p⟩ := by
    intro id p' hlookup
    obtain ⟨timer', htimer', hid, hmem⟩ := h.active id p' hlookup
    exact ⟨timer', htimer', hid, OrderedSet.mem_insert.mpr (.inr hmem)⟩
  refine ⟨?_, ?_, ?_⟩
  · intro e he
    rcases OrderedSet.mem_insert.mp he with rfl | he
    · exact ⟨timer, htimer, rfl⟩
    · exact h.keys e he
  · split_ifs with hmem
    · exact hactive
    · intro id p' hlookup
      by_cases hid : id = timer.id_
      · subst hid
        rw [AList.lookup_insert, Option.some.injEq] at hlookup
        subst hlookup
        exact ⟨timer, htimer, rfl, OrderedSet.mem_insert.mpr (.inl rfl)⟩
      · rw [AList.lookup_insert_ne hid] at hlookup
        exact hactive id p' hlookup
  · intro hcalls e he timer' htimer'
    rw [if_neg (hfresh hcalls)]
    rcases OrderedSet.mem_insert.mp he with rfl | he
    · obtain rfl := Option.some.inj (htimer.symm.trans htimer')
      exact AList.lookup_insert _
    · have hlookup := h.indexed hcalls e he timer' htimer'
      have hne : timer'.id_ ≠ timer.id_ := by
        intro heq
        rw [heq, AList.lookup_eq_none.mpr (hfresh hcalls)] at hlookup
        cases hlookup
      rw [AList.lookup_insert_ne hne]
      exact hlookup

/-- The timer that `activeTimers_` has for an id is erased from both containers. -/
lemma erase (h : TimerContainers calls heap timers_ activeTimers_)
    (hlookup : activeTimers_.lookup id = some p) (htimer : heap p = some timer) :
    TimerContainers calls heap (timers_.erase ⟨timer.when_, p⟩) (activeTimers_.erase id) := by
  refine ⟨?_, ?_, ?_⟩
  · intro e he
    exact h.keys e (OrderedSet.mem_erase.mp he).2
  · intro id' p' hlookup'
    by_cases hid : id' = id
    · rw [hid, AList.lookup_erase] at hlookup'
      cases hlookup'
    · rw [AList.lookup_erase_ne hid] at hlookup'
      obtain ⟨timer', htimer', hid', hmem⟩ := h.active id' p' hlookup'
      refine ⟨timer', htimer', hid', OrderedSet.mem_erase.mpr ⟨?_, hmem⟩⟩
      intro heq
      obtain ⟨-, rfl⟩ := TimerEntry.mk.inj heq
      obtain ⟨timer'', htimer'', hid'', -⟩ := h.active id p' hlookup
      rw [htimer', Option.some.injEq] at htimer''
      exact hid (hid'.symm.trans ((congrArg Timer.id_ htimer'').trans hid''))
  · intro hcalls e he timer' htimer'
    obtain ⟨hne, hmem⟩ := OrderedSet.mem_erase.mp he
    have hlookup' := h.indexed hcalls e hmem timer' htimer'
    have hid : timer'.id_ ≠ id := by
      rintro rfl
      rw [hlookup, Option.some.injEq] at hlookup'
      subst hlookup'
      obtain ⟨timer'', htimer'', hwhen⟩ := h.keys e hmem
      obtain rfl := Option.some.inj (htimer.symm.trans htimer'')
      exact hne (by rw [hwhen])
    rw [AList.lookup_erase_ne hid]
    exact hlookup'

/-- The loop over the expired entries erases their ids, by induction on the entries. -/
lemma eraseExpired_ok {expired : List TimerEntry}
    (hlive : ∀ e ∈ expired, ∃ timer, heap e.timer = some timer)
    (activeTimers_ : AList fun _ : TimerId => TimerPtr) :
    ∃ activeTimers_', TimerQueue.eraseExpired heap expired activeTimers_ = .ok activeTimers_' ∧
      ∀ id p, activeTimers_'.lookup id = some p ↔ activeTimers_.lookup id = some p ∧
        ∀ e ∈ expired, ∀ timer, heap e.timer = some timer → timer.id_ ≠ id := by
  induction expired generalizing activeTimers_ with
  | nil => exact ⟨activeTimers_, rfl, fun id p => by simp⟩
  | cons e rest ih =>
    obtain ⟨timer, htimer⟩ := hlive e List.mem_cons_self
    obtain ⟨activeTimers_', hok, hlookup⟩ := ih
      (fun e' he' => hlive e' (List.mem_cons_of_mem e he'))
      (activeTimers_.erase timer.id_)
    refine ⟨activeTimers_', ?_, ?_⟩
    · rw [TimerQueue.eraseExpired, htimer]
      exact hok
    · intro id p
      rw [hlookup, List.forall_mem_cons, htimer]
      by_cases hid : id = timer.id_
      · subst hid
        rw [AList.lookup_erase]
        simp
      · rw [AList.lookup_erase_ne hid]
        have hne : ∀ timer', some timer = some timer' → timer'.id_ ≠ id := by
          intro timer' htimer' heq
          obtain rfl := Option.some.inj htimer'
          exact hid heq.symm
        exact ⟨fun ⟨hp, hrest⟩ => ⟨hp, hne, hrest⟩, fun ⟨hp, _, hrest⟩ => ⟨hp, hrest⟩⟩

/-- The expired timers are taken out of both containers. -/
lemma expire (h : TimerContainers calls heap timers_ activeTimers_) {piovt : TimerEntry}
    {activeTimers_' : AList fun _ : TimerId => TimerPtr}
    (hlookup : ∀ id p, activeTimers_'.lookup id = some p ↔ activeTimers_.lookup id = some p ∧
      ∀ e ∈ timers_.before piovt, ∀ timer, heap e.timer = some timer → timer.id_ ≠ id) :
    TimerContainers calls heap (timers_.notBefore piovt) activeTimers_' := by
  refine ⟨?_, ?_, ?_⟩
  · intro e he
    exact h.keys e (OrderedSet.mem_of_mem_notBefore he)
  · intro id p hp
    obtain ⟨hp, hexpired⟩ := (hlookup id p).mp hp
    obtain ⟨timer, htimer, hid, hmem⟩ := h.active id p hp
    refine ⟨timer, htimer, hid, ?_⟩
    rcases OrderedSet.mem_before_or_mem_notBefore piovt hmem with hbefore | hafter
    · exact absurd hid (hexpired _ hbefore timer htimer)
    · exact hafter
  · intro hcalls e he timer htimer
    have hmem := OrderedSet.mem_of_mem_notBefore he
    have hindexed := h.indexed hcalls e hmem timer htimer
    refine (hlookup _ _).mpr ⟨hindexed, ?_⟩
    intro e' he' timer' htimer' hid
    have hmem' := OrderedSet.mem_of_mem_before he'
    have hindexed' := h.indexed hcalls e' hmem' timer' htimer'
    rw [hid, hindexed, Option.some.injEq] at hindexed'
    obtain rfl := h.eq_of_timer_eq hmem hmem' hindexed'
    exact OrderedSet.notMem_notBefore_of_mem_before he' he

/-- The entry in `timers_` of an entry of `activeTimers_`. -/
def entryOf (heap : TimerPtr → Option Timer) (s : Σ _ : TimerId, TimerPtr) : TimerEntry :=
  ⟨((heap s.2).map Timer.when_).getD Timestamp.invalid, s.2⟩

lemma entryOf_eq (heap : TimerPtr → Option Timer) (id : TimerId) (htimer : heap p = some timer) :
    entryOf heap ⟨id, p⟩ = ⟨timer.when_, p⟩ := by
  simp only [entryOf, htimer, Option.map_some, Option.getD_some]

/-- The entries of `activeTimers_` are entries of `timers_`, different ones. -/
lemma map_entryOf_subperm (h : TimerContainers calls heap timers_ activeTimers_) :
    (activeTimers_.entries.map (entryOf heap)).Subperm timers_.toList := by
  have hentry : ∀ s ∈ activeTimers_.entries, ∃ timer, heap s.2 = some timer ∧ timer.id_ = s.1 ∧
      ⟨timer.when_, s.2⟩ ∈ timers_ :=
    fun s hs => h.active s.1 s.2 (AList.mem_lookup_iff.mpr hs)
  have hnodup : (activeTimers_.entries.map (entryOf heap)).Nodup := by
    refine List.Nodup.map_on ?_ activeTimers_.nodupKeys.nodup
    intro s hs s' hs' heq
    obtain ⟨timer, htimer, hid, -⟩ := hentry s hs
    obtain ⟨timer', htimer', hid', -⟩ := hentry s' hs'
    have hptr : s.2 = s'.2 := congrArg TimerEntry.timer heq
    rw [hptr, htimer', Option.some.injEq] at htimer
    exact Sigma.ext (hid.symm.trans ((congrArg Timer.id_ htimer).symm.trans hid'))
      (heq_of_eq hptr)
  refine hnodup.subperm ?_
  intro e he
  obtain ⟨s, hs, rfl⟩ := List.mem_map.mp he
  obtain ⟨timer, htimer, -, hmem⟩ := hentry s hs
  rw [entryOf_eq heap s.1 htimer]
  exact hmem

/-- When the containers have the same size, every timer in `timers_` is in `activeTimers_`. -/
lemma indexed_of_size_eq (h : TimerContainers calls heap timers_ activeTimers_)
    (hsize : timers_.size = activeTimers_.entries.length) (he : e ∈ timers_)
    (htimer : heap e.timer = some timer) : activeTimers_.lookup timer.id_ = some e.timer := by
  have hperm := h.map_entryOf_subperm.perm_of_length_le (by
    rw [List.length_map, ← hsize, OrderedSet.size])
  obtain ⟨s, hs, rfl⟩ := List.mem_map.mp (hperm.mem_iff.mpr he)
  obtain ⟨timer', htimer', hid, -⟩ := h.active s.1 s.2 (AList.mem_lookup_iff.mpr hs)
  obtain rfl := Option.some.inj (htimer'.symm.trans htimer)
  rw [hid]
  exact AList.mem_lookup_iff.mpr hs

/-- When every timer in `timers_` is in `activeTimers_`, the containers have the same size. -/
lemma size_eq (h : TimerContainers calls heap timers_ activeTimers_) (hcalls : calls < 2 ^ 32) :
    timers_.size = activeTimers_.entries.length := by
  have hle := h.map_entryOf_subperm.length_le
  have hsubset : timers_.toList ⊆ activeTimers_.entries.map (entryOf heap) := by
    intro e he
    obtain ⟨timer, htimer, hwhen⟩ := h.keys e he
    have hlookup := h.indexed hcalls e he timer htimer
    refine List.mem_map.mpr ⟨⟨timer.id_, e.timer⟩, AList.mem_lookup_iff.mp hlookup, ?_⟩
    rw [entryOf_eq heap timer.id_ htimer, hwhen]
  have hge := (timers_.nodup.subperm hsubset).length_le
  rw [List.length_map] at hle hge
  exact le_antisymm hge hle

end TimerContainers

/-! ## The triggers -/

/-- The expired timers that are still to be triggered. -/
def TimerPhase.next : TimerPhase → List TimerEntry
  | .triggering _ _ next => next
  | _ => []

/-- What has happened since `runTimer` was last called. -/
def sinceRunTimer : List TimerEffect → List TimerEffect
  | [] => []
  | .runTimer _ :: _ => []
  | e :: history => e :: sinceRunTimer history

/-- No timer is triggered after it has been deleted, or twice in one call of `runTimer`, and those
that are waiting have not been triggered yet in this call. -/
structure TriggerLog (heap : TimerPtr → Option Timer) (next : List TimerEntry)
    (history : List TimerEffect) : Prop where
  afterDelete : ∀ n, NeverAfter (· = .delete n) (· = .trigger n) history
  once : ∀ n, (sinceRunTimer history).count (.trigger n) ≤ 1
  waiting : ∀ e ∈ next, ∀ timer, heap e.timer = some timer →
    .trigger timer.serial ∉ sinceRunTimer history

namespace TriggerLog

variable {heap : TimerPtr → Option Timer} {next : List TimerEntry} {history : List TimerEffect}
  {e : TimerEntry}

lemma empty (heap : TimerPtr → Option Timer) : TriggerLog heap [] [] := by
  refine ⟨?_, ?_, ?_⟩
  · intro n
    exact neverAfter_nil
  · intro n
    exact Nat.zero_le 1
  · intro e he
    exact absurd he List.not_mem_nil

/-- Nobody waits any more. -/
lemma none_waiting (h : TriggerLog heap next history) (heap' : TimerPtr → Option Timer) :
    TriggerLog heap' [] history :=
  ⟨h.afterDelete, h.once, fun _ he => absurd he List.not_mem_nil⟩

/-- Only the waiting timers matter. -/
lemma update (h : TriggerLog heap next history) {o : Option Timer}
    (hp : ∀ e ∈ next, e.timer ≠ p) : TriggerLog (Function.update heap p o) next history := by
  refine ⟨h.afterDelete, h.once, ?_⟩
  intro e he timer htimer
  rw [Function.update_of_ne (hp e he)] at htimer
  exact h.waiting e he timer htimer

/-- Effects other than `trigger` and `runTimer` do not matter. -/
lemma record (h : TriggerLog heap next history) {d : TimerEffect} (htrigger : ∀ n, d ≠ .trigger n)
    (hrun : ∀ now, d ≠ .runTimer now) : TriggerLog heap next (d :: history) := by
  have hsince : sinceRunTimer (d :: history) = d :: sinceRunTimer history := by
    cases d with
    | runTimer now => exact absurd rfl (hrun now)
    | _ => rfl
  refine ⟨?_, ?_, ?_⟩
  · intro n
    exact neverAfter_cons.mpr ⟨fun heq => absurd heq (htrigger n), h.afterDelete n⟩
  · intro n
    rw [hsince, List.count_cons_of_ne (htrigger n)]
    exact h.once n
  · intro e he timer htimer
    rw [hsince, List.mem_cons, not_or]
    exact ⟨(htrigger _).symm, h.waiting e he timer htimer⟩

/-- `runTimer` is called. -/
lemma runTimer (h : TriggerLog heap next history) (now : Timestamp) (next' : List TimerEntry) :
    TriggerLog heap next' (.runTimer now :: history) := by
  refine ⟨?_, ?_, ?_⟩
  · intro n
    refine neverAfter_cons.mpr ⟨?_, h.afterDelete n⟩
    intro heq
    cases heq
  · intro n
    exact Nat.zero_le 1
  · intro e _ timer _
    exact List.not_mem_nil

/-- The next waiting timer is triggered. -/
lemma trigger (h : TriggerLog heap (e :: next) history) (htimer : heap e.timer = some timer)
    (hdeleted : .delete timer.serial ∉ history)
    (hother : ∀ e' ∈ next, ∀ timer', heap e'.timer = some timer' → timer'.serial ≠ timer.serial) :
    TriggerLog heap next (.trigger timer.serial :: history) := by
  have hwaiting := h.waiting e List.mem_cons_self timer htimer
  have hsince : sinceRunTimer (.trigger timer.serial :: history) =
      .trigger timer.serial :: sinceRunTimer history := rfl
  refine ⟨?_, ?_, ?_⟩
  · intro n
    refine neverAfter_cons.mpr ⟨?_, h.afterDelete n⟩
    rintro heq d hd rfl
    obtain rfl := TimerEffect.trigger.inj heq
    exact hdeleted hd
  · intro n
    have honce := h.once n
    rw [hsince, List.count_cons]
    by_cases hn : timer.serial = n
    · subst hn
      rw [List.count_eq_zero_of_not_mem hwaiting, beq_self_eq_true, if_pos rfl]
    · rw [if_neg (by simpa using hn)]
      exact honce
  · intro e' he' timer' htimer'
    rw [hsince, List.mem_cons, not_or, TimerEffect.trigger.injEq]
    exact ⟨hother e' he' timer' htimer', h.waiting e' (List.mem_cons_of_mem e he') timer' htimer'⟩

end TriggerLog

end SimpleMuduo
