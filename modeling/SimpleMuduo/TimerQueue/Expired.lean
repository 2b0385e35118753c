import SimpleMuduo.TimerQueue.Conservation

/-!
# The expired timers

`getExpiredTimers(now)` cuts `timers_` at the lower bound of the pair of `now` and the address
`INT_MAX`.  Between two deadlines this is the cut at `now`; but among the timers whose deadline is
`now` itself it is a cut by their addresses, and the assertion fails when one of them is not below
`INT_MAX`.
-/

namespace SimpleMuduo

namespace TimerQueue

variable {start : BitVec 32} {q : TimerQueue} {now : Timestamp} {e : TimerEntry}

/-- Both containers hold the same timers, which are alive, under their keys. -/
def SameTimers (q : TimerQueue) : Prop := TimerContainers 0 q.heap q.timers_ q.activeTimers_

/-- `getExpiredTimers(now)` returns the entries that are due, in order, leaves the others in
`timers_`, and erases the timers that it returns from `activeTimers_`. -/
def ExtractsExpired (q : TimerQueue) (now : Timestamp) : Prop :=
  ∃ expired q', q.getExpiredTimers now = .ok (expired, q') ∧
    expired = q.timers_.toList.filter (fun e => e.expiration ≤ now) ∧
    q'.timers_.toList = q.timers_.toList.filter (fun e => now < e.expiration) ∧
    (∀ id p, q'.activeTimers_.lookup id = some p ↔
      q.activeTimers_.lookup id = some p ∧ ∀ e ∈ expired, e.timer ≠ p) ∧
    q' = { q with timers_ := q'.timers_, activeTimers_ := q'.activeTimers_ }

/-- No timer whose deadline is `now` has an address from `INT_MAX` on. -/
def NoneBeyondPivot (q : TimerQueue) (now : Timestamp) : Prop :=
  ∀ e ∈ q.timers_, e.expiration = now → e.timer < INT_MAX

instance (q : TimerQueue) (now : Timestamp) : Decidable (q.NoneBeyondPivot now) :=
  inferInstanceAs (Decidable (∀ e ∈ q.timers_.toList, _))

/-- What `getExpiredTimers(now)` has made of the queue when it returns. -/
lemma of_getExpiredTimers_ok {expired : List TimerEntry} {q' : TimerQueue}
    (h : q.getExpiredTimers now = .ok (expired, q')) :
    expired = q.timers_.before ⟨now, INT_MAX⟩ ∧ ∃ activeTimers_, q' = { q with
      timers_ := q.timers_.notBefore ⟨now, INT_MAX⟩
      activeTimers_ := activeTimers_ } := by
  simp only [getExpiredTimers] at h
  split_ifs at h
  cases herase : eraseExpired q.heap (q.timers_.before ⟨now, INT_MAX⟩) q.activeTimers_ with
  | error f =>
    rw [herase] at h
    cases h
  | ok activeTimers_ =>
    rw [herase] at h
    obtain ⟨rfl, rfl⟩ := Prod.mk.inj (Except.ok.inj h)
    exact ⟨rfl, activeTimers_, rfl⟩

/-- The order of the pairs. -/
lemma lt_pivot_iff : e < ⟨now, INT_MAX⟩ ↔
    e.expiration < now ∨ e.expiration = now ∧ e.timer < INT_MAX :=
  Prod.Lex.toLex_lt_toLex

/-- The cut is the cut at `now`. -/
lemma NoneBeyondPivot.lt_pivot_iff (h : q.NoneBeyondPivot now) (he : e ∈ q.timers_) :
    e < ⟨now, INT_MAX⟩ ↔ e.expiration ≤ now := by
  rw [TimerQueue.lt_pivot_iff, le_iff_lt_or_eq]
  constructor
  · rintro (hlt | ⟨heq, -⟩)
    · exact .inl hlt
    · exact .inr heq
  · rintro (hlt | heq)
    · exact .inl hlt
    · exact .inr ⟨heq, h e he heq⟩

lemma NoneBeyondPivot.before_eq (h : q.NoneBeyondPivot now) :
    q.timers_.before ⟨now, INT_MAX⟩ = q.timers_.toList.filter (fun e => e.expiration ≤ now) := by
  rw [OrderedSet.before_eq_filter]
  refine List.filter_congr fun e he => ?_
  exact decide_eq_decide.mpr (h.lt_pivot_iff he)

lemma NoneBeyondPivot.notBefore_eq (h : q.NoneBeyondPivot now) :
    (q.timers_.notBefore ⟨now, INT_MAX⟩).toList =
      q.timers_.toList.filter (fun e => now < e.expiration) := by
  rw [OrderedSet.notBefore_eq_filter]
  refine List.filter_congr fun e he => decide_eq_decide.mpr ?_
  rw [← not_lt, h.lt_pivot_iff he, not_le]

/-- What is left after the cut is not due. -/
lemma NoneBeyondPivot.assertion (h : q.NoneBeyondPivot now) :
    ∀ e ∈ (q.timers_.notBefore ⟨now, INT_MAX⟩).toList.head?, now < e.expiration := by
  intro e he
  have hmem := List.mem_of_mem_head? he
  rw [h.notBefore_eq] at hmem
  exact of_decide_eq_true (List.mem_filter.mp hmem).2

/-- Erasing the ids of the expired timers is erasing the expired timers. -/
lemma SameTimers.erased_iff (h : q.SameTimers) {id : TimerId} {p : TimerPtr}
    (hlookup : q.activeTimers_.lookup id = some p) {expired : List TimerEntry}
    (hsub : ∀ e ∈ expired, e ∈ q.timers_) :
    (∀ e ∈ expired, ∀ timer, q.heap e.timer = some timer → timer.id_ ≠ id) ↔
      ∀ e ∈ expired, e.timer ≠ p := by
  obtain ⟨timer, htimer, hid, -⟩ := h.active id p hlookup
  constructor
  · rintro hids e he rfl
    exact hids e he timer htimer hid
  · intro hne e he timer' htimer' hid'
    have hindexed := h.indexed (by decide) e (hsub e he) timer' htimer'
    rw [hid', hlookup] at hindexed
    exact hne e he (Option.some.inj hindexed).symm

/-- A timer with deadline `now` that lies beyond the pivot is left over. -/
lemma ExtractsExpired.noneBeyondPivot (h : q.ExtractsExpired now) : q.NoneBeyondPivot now := by
  obtain ⟨expired, q', hok, -, hlater, -⟩ := h
  obtain ⟨-, activeTimers_, rfl⟩ := of_getExpiredTimers_ok hok
  intro e he heq
  by_contra hbeyond
  have hnot : ¬ e < ⟨now, INT_MAX⟩ := by
    rw [lt_pivot_iff]
    rintro (hlt | ⟨-, hlt⟩)
    · exact absurd heq hlt.ne
    · exact hbeyond hlt
  have hmem : e ∈ (q.timers_.notBefore ⟨now, INT_MAX⟩).toList := by
    rw [OrderedSet.notBefore_eq_filter]
    exact List.mem_filter.mpr ⟨he, decide_eq_true (not_lt.mp hnot)⟩
  have hlt : e ∈ q.timers_.toList.filter (fun e => now < e.expiration) := hlater ▸ hmem
  exact absurd heq.symm (of_decide_eq_true (List.mem_filter.mp hlt).2).ne

/-- `getExpiredTimers(now)` extracts exactly the timers that are due, if and only if no timer whose
deadline is `now` itself has an address from `INT_MAX` on. -/
theorem extractsExpired_iff (h : q.SameTimers) (now : Timestamp) :
    q.ExtractsExpired now ↔ q.NoneBeyondPivot now := by
  constructor
  · exact ExtractsExpired.noneBeyondPivot
  · intro hpivot
    have hlive : ∀ e ∈ q.timers_.before ⟨now, INT_MAX⟩, ∃ timer, q.heap e.timer = some timer := by
      intro e he
      obtain ⟨timer, htimer, -⟩ := h.keys e (OrderedSet.mem_of_mem_before he)
      exact ⟨timer, htimer⟩
    obtain ⟨activeTimers_, hok, hlookup⟩ := TimerContainers.eraseExpired_ok hlive q.activeTimers_
    refine ⟨q.timers_.before ⟨now, INT_MAX⟩, { q with
      timers_ := q.timers_.notBefore ⟨now, INT_MAX⟩
      activeTimers_ := activeTimers_ }, ?_, hpivot.before_eq, hpivot.notBefore_eq, ?_, rfl⟩
    · simp only [getExpiredTimers]
      rw [if_pos hpivot.assertion, hok]
      rfl
    · intro id p
      rw [hlookup]
      refine and_congr_right fun hp => ?_
      exact h.erased_iff hp fun e he => OrderedSet.mem_of_mem_before he

/-- In the runs of a timer queue the containers hold the same timers. -/
lemma Inv.sameTimers (h : q.Inv start []) (hcalls : q.calls < 2 ^ 32) : q.SameTimers :=
  ⟨h.containers.keys, h.containers.active, fun _ => h.containers.indexed hcalls⟩

/-- Two timers with small addresses, one of which is due to the microsecond. -/
theorem extractsExpired_small_addresses :
    ∃ q, exec step (new 0) [.addTimer 100 5 0, .addTimer 200 7 0] = some q ∧
      q.ExtractsExpired 5 := by
  have hrun : ∃ q, exec step (new 0) [.addTimer 100 5 0, .addTimer 200 7 0] = some q ∧
      q.calls < 2 ^ 32 ∧ q.NoneBeyondPivot 5 := exists_exec_of_any (by decide +kernel)
  obtain ⟨q, hrun, hcalls, hpivot⟩ := hrun
  have hsame := (inv_of_exec (by decide +kernel) hrun).sameTimers hcalls
  exact ⟨q, hrun, (extractsExpired_iff hsame 5).mpr hpivot⟩

/-- A timer that is due to the microsecond and lies where the heap of a 64-bit process does. -/
theorem not_extractsExpired_heap_address :
    ¬ ∀ q : TimerQueue, q.SameTimers → ∀ now, q.ExtractsExpired now := by
  intro h
  have hrun : ∃ q, exec step (new 0) [.addTimer 0x555555556eb0 5 0] = some q ∧
      q.calls < 2 ^ 32 ∧ ⟨5, 0x555555556eb0⟩ ∈ q.timers_ := exists_exec_of_any (by decide +kernel)
  obtain ⟨q, hrun, hcalls, hmem⟩ := hrun
  have hsame := (inv_of_exec (by decide +kernel) hrun).sameTimers hcalls
  have hpivot := (h q hsame 5).noneBeyondPivot
  exact absurd (hpivot _ hmem rfl) (by decide)

end TimerQueue

end SimpleMuduo
