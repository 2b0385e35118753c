import Mathlib.Data.List.Rotate
import SimpleMuduo.TcpServer.SubLoops

/-!
# All loops of a pool

`getNextLoop` hands out the loops of the pool in turn, or the base loop when there are none.
`getAllLoops` should list the loops that it hands out, but its test is the wrong way round: with
loops in the pool it returns the base loop, and without any it returns nothing.
-/

namespace SimpleMuduo

namespace EventLoopThreadPool

/-- `getAllLoops()`. -/
def getAllLoops (p : EventLoopThreadPool) : List LoopId :=
  if p.loops_ ≠ [] then [p.baseLoop_] else p.loops_

/-- What `n` calls of `getNextLoop()` return, one after the other. -/
def getNextLoops : ℕ → EventLoopThreadPool → List LoopId
  | 0, _ => []
  | n + 1, p => p.getNextLoop.1 :: getNextLoops n p.getNextLoop.2

/-- The next loop is in the list, and as many calls of `getNextLoop` as the list is long return each
of its loops exactly once. -/
def HandsOut (p : EventLoopThreadPool) (loops : List LoopId) : Prop :=
  p.getNextLoop.1 ∈ loops ∧ ∀ l ∈ loops, (getNextLoops loops.length p).count l = 1

/-- The pool hands out all its loops. -/
def ViewsAgree (p : EventLoopThreadPool) : Prop := p.HandsOut p.getAllLoops

instance (p : EventLoopThreadPool) (loops : List LoopId) : Decidable (p.HandsOut loops) :=
  inferInstanceAs (Decidable (_ ∧ _))

instance (p : EventLoopThreadPool) : Decidable p.ViewsAgree :=
  inferInstanceAs (Decidable (p.HandsOut p.getAllLoops))

end EventLoopThreadPool

/-- What is called on a pool. -/
inductive PoolEvent
  | setThreadNum (numThreads : ℤ)
  /-- `start(cb)`, when the next loop to be created has the number `nextLoop`. -/
  | start (nextLoop : LoopId)
  | getNextLoop
  deriving DecidableEq, Repr

namespace EventLoopThreadPool

/-- One call.  The loops that `start` creates are new. -/
def step (p : EventLoopThreadPool) : PoolEvent → Option EventLoopThreadPool
  | .setThreadNum numThreads => some (p.setThreadNum numThreads)
  | .start nextLoop =>
    if ∀ l ∈ p.baseLoop_ :: p.loops_, l < nextLoop then some (p.start nextLoop) else none
  | .getNextLoop => some p.getNextLoop.2

/-- The loops of the pool are different from each other and from the base loop. -/
structure DistinctLoops (p : EventLoopThreadPool) : Prop where
  base : p.baseLoop_ ∉ p.loops_
  nodup : p.loops_.Nodup

variable {p p' : EventLoopThreadPool} {baseLoop : LoopId} {es : List PoolEvent}

lemma DistinctLoops.step (h : p.DistinctLoops) {e : PoolEvent} (hstep : p.step e = some p') :
    p'.DistinctLoops := by
  cases e with
  | setThreadNum numThreads =>
    obtain rfl := Option.some.inj hstep
    exact ⟨h.base, h.nodup⟩
  | start nextLoop =>
    obtain ⟨hnew, hstep⟩ := Option.ite_none_right_eq_some.mp hstep
    obtain rfl := Option.some.inj hstep
    have hbase : p.baseLoop_ < nextLoop := hnew _ List.mem_cons_self
    constructor
    · intro hmem
      rcases List.mem_append.mp hmem with hold | hcreated
      · exact h.base hold
      · exact absurd hbase (not_lt.mpr (List.mem_range'_1.mp hcreated).1)
    · refine List.nodup_append.mpr ⟨h.nodup, List.nodup_range', fun l hl m hm => ?_⟩
      have hlt : l < nextLoop := hnew l (List.mem_cons_of_mem _ hl)
      exact Nat.ne_of_lt (Nat.lt_of_lt_of_le hlt (List.mem_range'_1.mp hm).1)
  | getNextLoop =>
    obtain rfl := Option.some.inj hstep
    constructor
    · rw [getNextLoop_baseLoop_, getNextLoop_loops_]
      exact h.base
    · rw [getNextLoop_loops_]
      exact h.nodup

/-- The run lemma. -/
lemma distinctLoops_of_exec (hrun : exec step (new baseLoop) es = some p) : p.DistinctLoops :=
  invariant_of_exec (fun _ _ _ h hstep => h.step hstep) ⟨List.not_mem_nil, List.nodup_nil⟩ hrun

/-! ## The loops that are handed out -/

/-- The calls count on from the cursor. -/
lemma getNextLoops_eq (n : ℕ) (p : EventLoopThreadPool) :
    getNextLoops n p = (List.range n).map p.loopAt := by
  induction n generalizing p with
  | zero => rfl
  | succ n ih =>
    rw [getNextLoops, ih, List.range_succ_eq_map, List.map_cons, List.map_map, getNextLoop_fst]
    exact congrArg _ (List.map_congr_left fun k _ => p.getNextLoop_loopAt k)

lemma getNextLoop_of_nil (h : p.loops_ = []) : p.getNextLoop.1 = p.baseLoop_ := by
  rw [getNextLoop, dif_pos h]

/-- One round through the loops of the pool begins at the cursor. -/
lemma getNextLoops_length (p : EventLoopThreadPool) :
    getNextLoops p.loops_.length p = p.loops_.rotate p.next_ := by
  rw [getNextLoops_eq]
  refine List.ext_getElem (by simp) fun k hk hk' => ?_
  rw [List.length_map, List.length_range] at hk
  have hlt : (p.next_ + k) % p.loops_.length < p.loops_.length := Nat.mod_lt _ (by omega)
  rw [List.getElem_map, List.getElem_range, List.getElem_rotate, loopAt,
    List.getElem?_eq_getElem hlt, Option.getD_some]
  simp only [Nat.add_comm]

lemma getNextLoop_mem (h : p.loops_ ≠ []) : p.getNextLoop.1 ∈ p.loops_ := by
  rw [getNextLoop, dif_neg h]
  exact List.getElem_mem _

/-- The loops that `getNextLoop` hands out are those of the pool, or the base loop when there are
none. -/
theorem handsOut_loops (h : p.DistinctLoops) :
    p.HandsOut (if p.loops_ = [] then [p.baseLoop_] else p.loops_) := by
  split_ifs with hnil
  · have hbase := getNextLoop_of_nil hnil
    refine ⟨by rw [hbase]; exact List.mem_cons_self, fun l hl => ?_⟩
    obtain rfl := List.mem_singleton.mp hl
    simp [getNextLoops, hbase]
  · refine ⟨getNextLoop_mem hnil, fun l hl => ?_⟩
    rw [getNextLoops_length, (p.loops_.rotate_perm p.next_).count_eq]
    exact List.count_eq_one_of_mem h.nodup hl

/-- `getAllLoops` does not list the loop that `getNextLoop` returns. -/
lemma getNextLoop_notMem_getAllLoops (h : p.DistinctLoops) : p.getNextLoop.1 ∉ p.getAllLoops := by
  unfold getAllLoops
  split_ifs with hloops
  · intro hmem
    exact h.base (List.mem_singleton.mp hmem ▸ getNextLoop_mem hloops)
  · rw [not_not.mp hloops]
    exact List.not_mem_nil

/-- In no state that a pool can reach by construction, `setThreadNum`, `start` and `getNextLoop` do
its two views of its loops agree. -/
theorem not_viewsAgree (baseLoop : LoopId) (es : List PoolEvent) (p : EventLoopThreadPool)
    (hrun : exec step (new baseLoop) es = some p) : ¬ p.ViewsAgree := by
  intro h
  exact getNextLoop_notMem_getAllLoops (distinctLoops_of_exec hrun) h.1

/-- A pool of two threads, after one call of `getNextLoop`. -/
theorem not_viewsAgree_two_threads :
    ∃ p, exec step (new 0) [.setThreadNum 2, .start 1, .getNextLoop] = some p ∧
      p.getNextLoop.1 = 2 ∧ p.getAllLoops = [0] ∧ ¬ p.ViewsAgree := by
  have hrun : ∃ p, exec step (new 0) [.setThreadNum 2, .start 1, .getNextLoop] = some p ∧
      p.getNextLoop.1 = 2 ∧ p.getAllLoops = [0] := exists_exec_of_any (by decide)
  obtain ⟨p, hrun, hnext, hall⟩ := hrun
  exact ⟨p, hrun, hnext, hall, not_viewsAgree 0 _ p hrun⟩

/-- A pool without threads hands out the base loop, and lists no loop. -/
theorem viewsDisagree_no_threads :
    ¬ ∀ (baseLoop : LoopId) (es : List PoolEvent) (p : EventLoopThreadPool),
      exec step (new baseLoop) es = some p → p.ViewsAgree := by
  intro h
  have hviews := h 0 [.setThreadNum 0, .start 1] _ rfl
  exact absurd hviews.1 (by decide)

end EventLoopThreadPool

end SimpleMuduo
