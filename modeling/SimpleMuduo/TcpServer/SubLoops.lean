import SimpleMuduo.TcpServer.State
import Mathlib.Data.List.Nodup

/-!
# The loops of the connections

`newConnection` asks the pool for the next loop, and the pool goes round its loops.  But `start` of
the server does not start the pool, although its comment says that it does: unless the user starts
the pool himself, it has no loops and hands out the base loop.
-/

namespace SimpleMuduo

/-! ## Going round -/

namespace EventLoopThreadPool

variable {p : EventLoopThreadPool}

/-- The loop that the call of `getNextLoop` after `k` others returns. -/
def loopAt (p : EventLoopThreadPool) (k : ℕ) : LoopId :=
  p.loops_[(p.next_ + k) % p.loops_.length]?.getD p.baseLoop_

lemma getNextLoop_fst (p : EventLoopThreadPool) : p.getNextLoop.1 = p.loopAt 0 := by
  unfold loopAt
  by_cases h : p.loops_ = []
  · simp [getNextLoop, h]
  · have hlength : 0 < p.loops_.length := List.length_pos_iff.mpr h
    have hlt : p.next_ < p.loops_.length := by
      have := p.next_lt
      omega
    rw [getNextLoop, dif_neg h]
    simp [Nat.mod_eq_of_lt hlt, hlt]

@[simp] lemma getNextLoop_loops_ (p : EventLoopThreadPool) :
    p.getNextLoop.2.loops_ = p.loops_ := by
  unfold getNextLoop
  split_ifs <;> rfl

@[simp] lemma getNextLoop_baseLoop_ (p : EventLoopThreadPool) :
    p.getNextLoop.2.baseLoop_ = p.baseLoop_ := by
  unfold getNextLoop
  split_ifs <;> rfl

/-- After one call the cursor is one loop further, or back at the first one. -/
lemma getNextLoop_loopAt (p : EventLoopThreadPool) (k : ℕ) :
    p.getNextLoop.2.loopAt k = p.loopAt (k + 1) := by
  have hnext : (p.getNextLoop.2.next_ + k) % p.loops_.length =
        (p.next_ + (k + 1)) % p.loops_.length ∨ p.loops_ = [] := by
    by_cases h : p.loops_ = []
    · exact .inr h
    · left
      have hlength : 0 < p.loops_.length := List.length_pos_iff.mpr h
      have hlt : p.next_ < p.loops_.length := by
        have := p.next_lt
        omega
      simp only [getNextLoop, dif_neg h]
      split_ifs with hend
      · have hwhole : p.next_ + (k + 1) = p.loops_.length + k := by omega
        rw [hwhole, Nat.add_mod_left, Nat.zero_add]
      · rw [Nat.add_assoc, Nat.add_comm 1 k]
  unfold loopAt
  rw [getNextLoop_loops_, getNextLoop_baseLoop_]
  rcases hnext with hnext | hnil
  · rw [hnext]
  · simp [hnil]

end EventLoopThreadPool

namespace TcpServer

/-- The connections of a sequence of sockets go to the loops that the pool hands out in turn. -/
lemma exec_newConnection {sockets : List ℕ} {s t : TcpServer}
    (hrun : exec step s (sockets.map .newConnection) = some t) :
    t.threadPool_.loops_ = s.threadPool_.loops_ ∧ t.loop_ = s.loop_ ∧
      t.accepted.map AcceptedConnection.loop_ =
        s.accepted.map AcceptedConnection.loop_ ++
          (List.range sockets.length).map s.threadPool_.loopAt := by
  induction sockets generalizing s with
  | nil =>
    obtain rfl : s = t := by simpa using hrun
    simp
  | cons sockfd sockets ih =>
    obtain ⟨u, hu, hrest⟩ := exec_cons_eq_some.mp hrun
    simp only [step, Option.ite_none_right_eq_some, Option.some.injEq] at hu
    obtain ⟨-, rfl⟩ := hu
    obtain ⟨hloops, hloop, haccepted⟩ := ih hrest
    refine ⟨hloops.trans (s.threadPool_.getNextLoop_loops_), hloop, ?_⟩
    rw [haccepted, List.length_cons, List.range_succ_eq_map, List.map_cons, List.map_map]
    simp [newConnection, EventLoopThreadPool.getNextLoop_fst, Function.comp_def,
      EventLoopThreadPool.getNextLoop_loopAt]

/-! ## The loops of the pool -/

/-- The loops of the pool are different from each other and from the base loop. -/
structure LoopsInv (s : TcpServer) : Prop where
  baseLoop_ : s.threadPool_.baseLoop_ = s.loop_
  loop_lt : s.loop_ < s.createdLoops
  loops_ : ∀ l ∈ s.threadPool_.loops_, s.loop_ < l ∧ l < s.createdLoops
  nodup : s.threadPool_.loops_.Nodup

namespace LoopsInv

variable {s t : TcpServer}

lemma new (loop : LoopId) (ipPort name : Bytes) : LoopsInv (.new loop ipPort name) where
  baseLoop_ := rfl
  loop_lt := Nat.lt_succ_self loop
  loops_ := by simp [TcpServer.new, EventLoopThreadPool.new]
  nodup := List.nodup_nil

/-- The threads that are started have loops of their own. -/
lemma startThreadPool (h : LoopsInv s) : LoopsInv s.startThreadPool := by
  refine ⟨h.baseLoop_, Nat.lt_add_right _ h.loop_lt, fun l hl => ?_, ?_⟩
  · simp only [TcpServer.startThreadPool, EventLoopThreadPool.start, List.mem_append,
      List.mem_range'_1] at hl
    have hbase := h.loop_lt
    simp only [TcpServer.startThreadPool]
    rcases hl with hl | ⟨hge, hlt⟩
    · obtain ⟨habove, hbelow⟩ := h.loops_ l hl
      exact ⟨habove, Nat.lt_add_right _ hbelow⟩
    · exact ⟨Nat.lt_of_lt_of_le hbase hge, hlt⟩
  · refine List.nodup_append.mpr ⟨h.nodup, List.nodup_range', fun l hl m hm => ?_⟩
    exact Nat.ne_of_lt (Nat.lt_of_lt_of_le (h.loops_ l hl).2 (List.mem_range'_1.mp hm).1)

lemma step (h : LoopsInv s) {e : TcpServerEvent} (hstep : s.step e = some t) : LoopsInv t := by
  cases e with
  | setThreadNum | start =>
    obtain rfl := Option.some.inj hstep
    exact ⟨h.baseLoop_, h.loop_lt, h.loops_, h.nodup⟩
  | startThreadPool =>
    obtain rfl := Option.some.inj hstep
    exact h.startThreadPool
  | getNextLoop =>
    obtain rfl := Option.some.inj hstep
    exact ⟨(s.threadPool_.getNextLoop_baseLoop_).trans h.baseLoop_, h.loop_lt,
      fun l hl => h.loops_ l (by simpa [TcpServer.getNextLoop] using hl),
      by simpa [TcpServer.getNextLoop] using h.nodup⟩
  | newConnection sockfd =>
    simp only [TcpServer.step, Option.ite_none_right_eq_some, Option.some.injEq] at hstep
    obtain ⟨-, rfl⟩ := hstep
    exact ⟨(s.threadPool_.getNextLoop_baseLoop_).trans h.baseLoop_, h.loop_lt,
      fun l hl => h.loops_ l (by simpa [TcpServer.newConnection] using hl),
      by simpa [TcpServer.newConnection] using h.nodup⟩
  | removeConnectionInLoop conn =>
    obtain ⟨c, -, rfl⟩ := Option.map_eq_some_iff.mp hstep
    exact ⟨h.baseLoop_, h.loop_lt, h.loops_, h.nodup⟩

end LoopsInv

/-- The `k`-th connection is on the loop number `k % n` of the pool, and none is on the base
loop. -/
def SpreadOver (n : ℕ) (s : TcpServer) : Prop :=
  ∀ k c, s.accepted[k]? = some c →
    s.threadPool_.loops_[k % n]? = some c.loop_ ∧ c.loop_ ≠ s.loop_

/-- The pool has been started, its cursor is on the first loop, and it has as many loops as
expected, or at least the first of them and no more connections than these. -/
def PoolReady (n m : ℕ) (s : TcpServer) : Prop :=
  s.threadPool_.loops_ ≠ [] ∧ s.threadPool_.next_ = 0 ∧
    (s.threadPool_.loops_.length = n ∨ m ≤ min n s.threadPool_.loops_.length)

section Spread

variable {n : ℕ} {s t : TcpServer} {sockets : List ℕ}

/-- What the loops handed out say about the accepted connections. -/
lemma spreadOver_iff_loopAt (hfirst : s.accepted = [])
    (hrun : exec step s (sockets.map .newConnection) = some t) :
    SpreadOver n t ↔ ∀ k < sockets.length,
      s.threadPool_.loops_[k % n]? = some (s.threadPool_.loopAt k) ∧
        s.threadPool_.loopAt k ≠ s.loop_ := by
  obtain ⟨hloops, hloop, haccepted⟩ := exec_newConnection hrun
  rw [hfirst, List.map_nil, List.nil_append] at haccepted
  have hlength : t.accepted.length = sockets.length := by
    simpa using congrArg List.length haccepted
  have hat {k : ℕ} {c : AcceptedConnection} (hc : t.accepted[k]? = some c) :
      k < sockets.length ∧ c.loop_ = s.threadPool_.loopAt k := by
    obtain ⟨hlt, -⟩ := List.getElem?_eq_some_iff.mp hc
    have hloop : (t.accepted.map AcceptedConnection.loop_)[k]? = some c.loop_ := by
      rw [List.getElem?_map, hc, Option.map_some]
    rw [haccepted, List.getElem?_map, List.getElem?_range (hlength ▸ hlt)] at hloop
    exact ⟨hlength ▸ hlt, (Option.some.inj hloop).symm⟩
  rw [SpreadOver, hloops, hloop]
  constructor
  · intro h k hk
    obtain ⟨c, hc⟩ : ∃ c, t.accepted[k]? = some c :=
      ⟨_, List.getElem?_eq_getElem (hlength ▸ hk)⟩
    rw [← (hat hc).2]
    exact h k c hc
  · intro h k c hc
    obtain ⟨hk, heq⟩ := hat hc
    rw [heq]
    exact h k hk

/-- With loops in the pool, the next ones are found by counting from the cursor. -/
lemma getElem?_eq_some_loopAt (hne : s.threadPool_.loops_ ≠ []) (k : ℕ) :
    s.threadPool_.loops_[(s.threadPool_.next_ + k) % s.threadPool_.loops_.length]? =
      some (s.threadPool_.loopAt k) := by
  have hlt := Nat.mod_lt (s.threadPool_.next_ + k) (List.length_pos_iff.mpr hne)
  rw [EventLoopThreadPool.loopAt, List.getElem?_eq_getElem hlt, Option.getD_some]

/-- Connections that are spread over the pool have found it ready. -/
lemma PoolReady.of_spread (hinv : LoopsInv s) (hn : 1 ≤ n) (hpos : 0 < sockets.length)
    (h : ∀ k < sockets.length,
      s.threadPool_.loops_[k % n]? = some (s.threadPool_.loopAt k)) :
    PoolReady n sockets.length s := by
  have hne : s.threadPool_.loops_ ≠ [] := by
    intro hnil
    have hzero := h 0 hpos
    rw [hnil] at hzero
    cases hzero
  have hlength := List.length_pos_iff.mpr hne
  -- the loops are different, so a loop has one place
  have hplace {k i : ℕ} (hk : k < sockets.length) (hi : i = k % n) :
      i = (s.threadPool_.next_ + k) % s.threadPool_.loops_.length := by
    have hloop := h k hk
    rw [← hi, ← getElem?_eq_some_loopAt hne k] at hloop
    have hlt : i < s.threadPool_.loops_.length := by
      by_contra hge
      rw [List.getElem?_eq_none (Nat.le_of_not_lt hge), getElem?_eq_some_loopAt hne k] at hloop
      cases hloop
    exact (List.getElem?_inj hlt hinv.nodup).mp hloop
  have hnext : s.threadPool_.next_ = 0 := by
    have hzero := hplace hpos (Nat.zero_mod n).symm
    rcases s.threadPool_.next_lt with hzero' | hlt
    · exact hzero'
    · rw [Nat.add_zero, Nat.mod_eq_of_lt hlt] at hzero
      exact hzero.symm
  rw [hnext] at hplace
  refine ⟨hne, hnext, ?_⟩
  by_contra hnot
  obtain ⟨hdiff, hmany⟩ := not_or.mp hnot
  rcases Nat.lt_or_gt_of_ne hdiff with hfew | htoo
  · -- the loop after the last one of the pool is missing
    have hlast := hplace (k := s.threadPool_.loops_.length) (by omega) rfl
    rw [Nat.zero_add, Nat.mod_self, Nat.mod_eq_of_lt hfew] at hlast
    omega
  · -- the pool goes on to a loop where the first one is expected
    have hback := hplace (k := n) (by omega) rfl
    rw [Nat.zero_add, Nat.mod_self, Nat.mod_eq_of_lt htoo] at hback
    omega

/-- A pool that is ready spreads the connections. -/
lemma PoolReady.spread (h : PoolReady n sockets.length s) {k : ℕ} (hk : k < sockets.length) :
    s.threadPool_.loops_[k % n]? = some (s.threadPool_.loopAt k) := by
  obtain ⟨hne, hnext, hlength⟩ := h
  rw [← getElem?_eq_some_loopAt hne k, hnext, Nat.zero_add]
  rcases hlength with heq | hle
  · rw [heq]
  · rw [Nat.mod_eq_of_lt (by omega), Nat.mod_eq_of_lt (by omega)]

end Spread

end TcpServer

/-- Whatever has been called on a server before its first connection: its connections are spread
over the `n` loops of its pool if and only if there are none, or the pool has been started and is
ready. -/
theorem spreadOver_iff {n : ℕ} (hn : 1 ≤ n) {loop : LoopId} {ipPort name : Bytes}
    {calls : List TcpServerEvent} {sockets : List ℕ} {s t : TcpServer}
    (hcalls : exec TcpServer.step (.new loop ipPort name) calls = some s)
    (hfirst : s.accepted = [])
    (hrun : exec TcpServer.step s (sockets.map .newConnection) = some t) :
    TcpServer.SpreadOver n t ↔
      sockets = [] ∨ TcpServer.PoolReady n sockets.length s := by
  have hinv : TcpServer.LoopsInv s :=
    invariant_of_exec (fun s e t hI hstep => TcpServer.LoopsInv.step hI hstep)
      (TcpServer.LoopsInv.new loop ipPort name) hcalls
  rw [TcpServer.spreadOver_iff_loopAt hfirst hrun]
  constructor
  · intro h
    by_cases hnone : sockets = []
    · exact .inl hnone
    · exact .inr (.of_spread hinv hn (List.length_pos_iff.mpr hnone) fun k hk => (h k hk).1)
  · rintro (rfl | hready) k hk
    · cases hk
    · have hloop := hready.spread hk
      refine ⟨hloop, (Nat.ne_of_lt (hinv.loops_ _ ?_).1).symm⟩
      exact List.mem_of_getElem? hloop

/-- A user starts the pool of two threads himself, and three connections arrive. -/
theorem spreadOver_iff_started :
    ∃ s t : TcpServer, exec TcpServer.step (.new 0 [] [])
        [.setThreadNum 2, .start, .startThreadPool] = some s ∧
      exec TcpServer.step s ([5, 6, 7].map .newConnection) = some t ∧
      TcpServer.SpreadOver 2 t :=
  ⟨_, _, rfl, rfl, (@spreadOver_iff 2 (by decide) 0 [] []
    [.setThreadNum 2, .start, .startThreadPool] [5, 6, 7] _ _ rfl rfl rfl).mpr
      (.inr ⟨List.cons_ne_nil _ _, rfl, .inl rfl⟩)⟩

/-- One thread is set, the server is started, and the first connection goes to the base loop. -/
theorem not_spreadOver_base_loop :
    ¬ ∀ (n : ℕ) (loop : LoopId) (ipPort name : Bytes) (sockets : List ℕ) (t : TcpServer), 1 ≤ n →
      exec TcpServer.step (.new loop ipPort name)
        ([.setThreadNum n, .start] ++ sockets.map .newConnection) = some t →
      TcpServer.SpreadOver n t := by
  intro h
  have hspread := h 1 0 [] [] [5] _ le_rfl rfl
  have hloop := (hspread 0 _ rfl).2
  exact hloop rfl

end SimpleMuduo
