import Mathlib.Data.Rat.Floor
import Mathlib.Tactic.Ring
import SimpleMuduo.EventLoop.Loop
import SimpleMuduo.TimedLoop.State

/-!
# The timeout of `poll`

At the top of an iteration `loop()` computes how long `poll` may wait: the time to the nearest
deadline, as a `double` in seconds, then in milliseconds, converted to an `int`.  The conversion
rounds down, so that the loop does not sleep past a deadline; but an `int` of milliseconds ends
after some 24 days, and the conversion of a longer time is undefined.
-/

namespace SimpleMuduo

/-- `timeoutMs` of `loop()` when the clock shows `t` at the top of the iteration. -/
def TimerQueue.timeoutMs (q : TimerQueue) (t : Timestamp) : Option ℤ :=
  pollTimeout q.getNearestExpiration t

/-- The conversion to `timeoutMs` is defined, its result is not negative, and `poll` does not wait
past the deadline of a pending timer, or not at all where one is overdue. -/
def TimerQueue.SleepsInTime (q : TimerQueue) (t : Timestamp) : Prop :=
  ∃ timeoutMs, q.timeoutMs t = some timeoutMs ∧ 0 ≤ timeoutMs ∧
    ∀ e ∈ q.timers_, timeoutMs * 1000 ≤ max 0 (e.expiration - t)

/-- The nearest deadline is less than `2 ^ 31` milliseconds ahead. -/
def TimerQueue.NearestWithinInt (q : TimerQueue) (t : Timestamp) : Prop :=
  q.getNearestExpiration.valid → q.getNearestExpiration - t < 2 ^ 31 * 1000

/-! ## The conversion -/

/-- A number of microseconds is converted to milliseconds, rounded down. -/
lemma toInt_div_thousand {n : ℤ} (hn : 0 ≤ n) :
    toInt ((n : ℚ) / 1000) = if n / 1000 < 2 ^ 31 then some (n / 1000) else none := by
  have hfloor : ⌊(n : ℚ) / 1000⌋ = n / 1000 := by
    have hcast := Rat.floor_intCast_div_natCast n 1000
    push_cast at hcast
    exact hcast
  have hnum : 0 ≤ ((n : ℚ) / 1000).num := by
    rw [Rat.num_nonneg]
    exact div_nonneg (Int.cast_nonneg hn) (by norm_num)
  have htdiv : ((n : ℚ) / 1000).num.tdiv ((n : ℚ) / 1000).den = n / 1000 := by
    rw [Int.tdiv_eq_ediv_of_nonneg hnum, ← Rat.floor_def]
    exact hfloor
  have hlow : -2 ^ 31 ≤ n / 1000 := by omega
  unfold toInt
  rw [htdiv]
  simp only [hlow, true_and]

namespace Timestamp

lemma timeDiff_mul_thousand (d t : Timestamp) :
    timeDiff d t * 1000 = ((d - t : ℤ) : ℚ) / 1000 := by
  unfold timeDiff
  ring

lemma timeDiff_nonpos_iff {d t : Timestamp} : timeDiff d t ≤ 0 ↔ d ≤ t := by
  unfold timeDiff
  rw [div_le_iff₀ (by norm_num), zero_mul, Int.cast_nonpos, sub_nonpos]

end Timestamp

variable {d t : Timestamp}

lemma pollTimeout_of_not_valid (h : ¬ d.valid) : pollTimeout d t = some 0 := by
  rw [pollTimeout, if_neg h]

lemma pollTimeout_of_le (h : d ≤ t) : pollTimeout d t = some 0 := by
  unfold pollTimeout
  simp only [Timestamp.timeDiff_nonpos_iff.mpr h, if_true, ite_self]

lemma pollTimeout_of_lt (hvalid : d.valid) (h : t < d) :
    pollTimeout d t = if (d - t) / 1000 < 2 ^ 31 then some ((d - t) / 1000) else none := by
  have hpositive : ¬ Timestamp.timeDiff d t ≤ 0 :=
    Timestamp.timeDiff_nonpos_iff.not.mpr (not_le.mpr h)
  unfold pollTimeout
  simp only [if_pos hvalid, if_neg hpositive]
  rw [Timestamp.timeDiff_mul_thousand, toInt_div_thousand (sub_nonneg.mpr h.le)]

/-! ## Sleeping in time -/

namespace TimerQueue

variable {q : TimerQueue} {e : TimerEntry}

/-- The first entry of `timers_` has the nearest deadline. -/
lemma getNearestExpiration_le (he : e ∈ q.timers_) : q.getNearestExpiration ≤ e.expiration := by
  have hsorted := q.timers_.sorted
  have hmem : e ∈ q.timers_.toList := he
  unfold getNearestExpiration
  cases htimers : q.timers_.toList with
  | nil =>
    rw [htimers] at hmem
    cases hmem
  | cons first rest =>
    rw [htimers] at hmem hsorted
    rcases List.mem_cons.mp hmem with rfl | hmem
    · exact le_rfl
    · rcases Prod.Lex.toLex_le_toLex.mp ((List.pairwise_cons.mp hsorted).1 e hmem) with hlt | heq
      · exact hlt.le
      · exact heq.1.le

/-- A timeout of 0 is in time for every timer. -/
lemma sleepsInTime_of_zero (h : q.timeoutMs t = some 0) : q.SleepsInTime t := by
  refine ⟨0, h, le_rfl, fun e _ => ?_⟩
  rw [zero_mul]
  exact le_max_left 0 _

/-- For every set of pending timers and every clock reading, the loop sleeps in time if and only if
the nearest deadline is less than `2 ^ 31` milliseconds ahead. -/
theorem sleepsInTime_iff (q : TimerQueue) (t : Timestamp) :
    q.SleepsInTime t ↔ q.NearestWithinInt t := by
  by_cases hvalid : q.getNearestExpiration.valid
  · rcases le_or_gt q.getNearestExpiration t with hdue | hahead
    · refine ⟨fun _ _ => ?_, fun _ => sleepsInTime_of_zero (pollTimeout_of_le hdue)⟩
      exact (sub_nonpos.mpr hdue).trans_lt (by norm_num)
    · have htimeout := pollTimeout_of_lt hvalid hahead
      constructor
      · rintro ⟨n, hsome, -, -⟩ -
        obtain ⟨hfits, -⟩ := Option.ite_none_right_eq_some.mp (htimeout.symm.trans hsome)
        exact (Int.ediv_lt_iff_lt_mul (by norm_num)).mp hfits
      · intro hwithin
        rw [if_pos ((Int.ediv_lt_iff_lt_mul (by norm_num)).mpr (hwithin hvalid))] at htimeout
        have hpositive := Int.ediv_nonneg (sub_nonneg.mpr hahead.le) (by norm_num : (0 : ℤ) ≤ 1000)
        refine ⟨_, htimeout, hpositive, fun e he => ?_⟩
        -- rounded down to milliseconds, the time to the nearest deadline has not grown
        have hround := Int.ediv_mul_le (q.getNearestExpiration - t) (by norm_num : (1000 : ℤ) ≠ 0)
        have hnearest := sub_le_sub_right (getNearestExpiration_le he) t
        exact (hround.trans hnearest).trans (le_max_right 0 _)
  · refine ⟨fun _ h => absurd h hvalid, fun _ => ?_⟩
    exact sleepsInTime_of_zero (pollTimeout_of_not_valid hvalid)

/-- A timer that is due in 30 days, where the clock stands at ten seconds. -/
theorem not_sleepsInTime_month :
    ∃ q, exec step (new 0) [.addTimer 100 (10000000 + 2592000000000) 0] = some q ∧
      (∀ e ∈ q.timers_, 0 < e.expiration ∧ e.expiration < 2 ^ 63) ∧
      q.timeoutMs 10000000 = none ∧ ¬ q.SleepsInTime 10000000 := by
  have hrun : ∃ q, exec step (new 0) [.addTimer 100 (10000000 + 2592000000000) 0] = some q ∧
      (∀ e ∈ q.timers_.toList, 0 < e.expiration ∧ e.expiration < 2 ^ 63) ∧
      q.timeoutMs 10000000 = none := exists_exec_of_any (by decide +kernel)
  obtain ⟨q, hrun, hpositive, hnone⟩ := hrun
  refine ⟨q, hrun, hpositive, hnone, ?_⟩
  rintro ⟨timeoutMs, hsome, -⟩
  rw [hnone] at hsome
  cases hsome

end TimerQueue

/-- This is the timeout that an iteration of the loop begins with: where there is no valid deadline,
the clock is not read, and `now` is left over from an earlier iteration, but then it is not used. -/
theorem TimedLoop.pollTimeout_beginIteration (s : TimedLoop) :
    pollTimeout s.beginIteration.nextExpired s.beginIteration.now =
      s.queue.timeoutMs s.clock := by
  simp only [beginIteration, TimerQueue.timeoutMs]
  by_cases hvalid : s.queue.getNearestExpiration.valid
  · rw [if_pos hvalid]
  · rw [pollTimeout_of_not_valid hvalid, pollTimeout_of_not_valid hvalid]

end SimpleMuduo
