import SimpleMuduo.TcpServer.AllLoops
import SimpleMuduo.TcpServer.Destruction

/-!
# The connections are spread evenly

Seen from outside, every step of the loops is a few steps of `TcpServer`.  So between two changes of
the pool the loops get their connections in turn, whatever else happens meanwhile.
-/

namespace SimpleMuduo

namespace EventLoopThreadPool

variable {p : EventLoopThreadPool} {l : LoopId}

/-- The loops that `getNextLoop` hands out. -/
def handedOut (p : EventLoopThreadPool) : List LoopId :=
  if p.loops_ = [] then [p.baseLoop_] else p.loops_

/-- The pool after `n` calls of `getNextLoop()`. -/
def afterNextLoops : ℕ → EventLoopThreadPool → EventLoopThreadPool
  | 0, p => p
  | n + 1, p => afterNextLoops n p.getNextLoop.2

lemma getNextLoops_add (m n : ℕ) (p : EventLoopThreadPool) :
    getNextLoops (m + n) p = getNextLoops m p ++ getNextLoops n (afterNextLoops m p) := by
  induction m generalizing p with
  | zero => simp [getNextLoops, afterNextLoops]
  | succ m ih =>
    rw [Nat.succ_add, getNextLoops, getNextLoops, afterNextLoops, ih, List.cons_append]

lemma handedOut_getNextLoop (p : EventLoopThreadPool) :
    p.getNextLoop.2.handedOut = p.handedOut := by
  rw [handedOut, getNextLoop_loops_, getNextLoop_baseLoop_, ← handedOut]

lemma DistinctLoops.getNextLoop (h : p.DistinctLoops) : p.getNextLoop.2.DistinctLoops :=
  h.step (e := .getNextLoop) rfl

lemma afterNextLoops_spec (h : p.DistinctLoops) (n : ℕ) :
    (afterNextLoops n p).DistinctLoops ∧ (afterNextLoops n p).handedOut = p.handedOut := by
  induction n generalizing p with
  | zero => exact ⟨h, rfl⟩
  | succ n ih =>
    obtain ⟨hdistinct, hsame⟩ := ih h.getNextLoop
    exact ⟨hdistinct, hsame.trans p.handedOut_getNextLoop⟩

lemma length_handedOut_pos (p : EventLoopThreadPool) : 0 < p.handedOut.length := by
  unfold handedOut
  split
  · exact Nat.one_pos
  · exact List.length_pos_iff.mpr ‹_›

lemma mem_handedOut (h : p.DistinctLoops) {n : ℕ} (hl : l ∈ getNextLoops n p) :
    l ∈ p.handedOut := by
  induction n generalizing p with
  | zero => cases hl
  | succ n ih =>
    obtain rfl | hl := List.mem_cons.mp hl
    · exact (handsOut_loops h).1
    · exact p.handedOut_getNextLoop ▸ ih h.getNextLoop hl

/-- One loop gets every connection whose turn it is, and at most one more than the others. -/
lemma count_getNextLoops (h : p.DistinctLoops) (hl : l ∈ p.handedOut) (n : ℕ) :
    n / p.handedOut.length ≤ (getNextLoops n p).count l ∧
      (getNextLoops n p).count l ≤ n / p.handedOut.length + 1 := by
  have hround {q : EventLoopThreadPool} (hq : q.DistinctLoops) (hsame : q.handedOut = p.handedOut) :
      (getNextLoops p.handedOut.length q).count l = 1 := by
    have hone := (handsOut_loops hq).2
    rw [← handedOut, hsame] at hone
    exact hone l hl
  have hpos := p.length_handedOut_pos
  -- the calls that make up a whole round are counted off
  suffices hrun : ∀ q : EventLoopThreadPool, q.DistinctLoops → q.handedOut = p.handedOut →
      n / p.handedOut.length ≤ (getNextLoops n q).count l ∧
        (getNextLoops n q).count l ≤ n / p.handedOut.length + 1 from hrun p h rfl
  induction n using Nat.strong_induction_on with
  | _ n ih =>
    intro q hq hsame
    obtain hlt | hge := Nat.lt_or_ge n p.handedOut.length
    · have hsplit := congrArg (List.count l)
        (getNextLoops_add n (p.handedOut.length - n) q)
      rw [Nat.add_sub_cancel' hlt.le, hround hq hsame, List.count_append] at hsplit
      rw [Nat.div_eq_of_lt hlt]
      omega
    · obtain ⟨m, rfl⟩ := Nat.exists_eq_add_of_le hge
      obtain ⟨hdistinct, hagain⟩ := afterNextLoops_spec hq p.handedOut.length
      obtain ⟨hlow, hhigh⟩ := ih m (by omega) _ hdistinct (hagain.trans hsame)
      rw [getNextLoops_add, List.count_append, hround hq hsame, Nat.add_div_left m hpos]
      omega

end EventLoopThreadPool

namespace ServerLoops

variable {name ipPort : Bytes} {loop : LoopId} {c : ConnId} {s t : ServerLoops} {l : LoopId}
  {e : ServerLoopsEvent} {es : List ServerLoopsEvent}

/-! ## Steps of the server -/

/-- The server has changed by the removal of connections. -/
def Removes (s t : ServerLoops) : Prop :=
  ∃ fs, (∀ f ∈ fs, ∃ c, f = .removeConnectionInLoop c) ∧
    exec TcpServer.step s.server fs = some t.server

namespace Removes

lemma of_eq (h : t.server = s.server) : Removes s t := ⟨[], by simp, by rw [h, exec_nil]⟩

lemma trans {u : ServerLoops} (hst : Removes s t) (htu : Removes t u) : Removes s u := by
  obtain ⟨fs, hfs, ht⟩ := hst
  obtain ⟨gs, hgs, hu⟩ := htu
  refine ⟨fs ++ gs, fun f hf => ?_, exec_append_of_eq_some ht hu⟩
  exact (List.mem_append.mp hf).elim (hfs f) (hgs f)

lemma erase (s : ServerLoops) (c : ConnId) : Removes s (s.erase c) := by
  unfold ServerLoops.erase
  split
  · rename_i a ha
    exact ⟨[.removeConnectionInLoop c], by simp, by simp [TcpServer.step, ha]⟩
  · exact of_eq rfl

lemma removeConnectionInLoop (s : ServerLoops) (l : LoopId) (c : ConnId) :
    Removes s (s.removeConnectionInLoop l c) := by
  unfold ServerLoops.removeConnectionInLoop
  split
  · exact erase (s.record l .removeConnectionInLoop c) c
  · exact of_eq rfl

lemma handleClose (s : ServerLoops) (l : LoopId) (c : ConnId) :
    Removes s (s.handleClose l c) := by
  unfold ServerLoops.handleClose removeConnection
  have hdisabled : Removes s (((s.record l .handleClose c).setState c .kDisconnected).operate l c
      .disableAll) := of_eq (operate_server _ _ _ _)
  split
  · split
    · exact hdisabled.trans (removeConnectionInLoop _ l c)
    · exact hdisabled
  · exact hdisabled

lemma runFunctor (s : ServerLoops) (l : LoopId) (f : ServerFunctor) :
    Removes s (s.runFunctor l f) := by
  cases f with
  | connectEstablished c => exact of_eq (operate_server _ _ _ _)
  | connectDestroyed c => exact of_eq (connectDestroyed_server s l c)
  | removeConnectionInLoop c => exact removeConnectionInLoop s l c
  | forceCloseInLoop c =>
    simp only [ServerLoops.runFunctor, forceCloseInLoop]
    split
    · exact handleClose s l c
    · exact of_eq rfl

lemma destroyConnections (s : ServerLoops) (order : List ConnId) :
    Removes s (order.foldl destroyConnection s) := by
  induction order generalizing s with
  | nil => exact of_eq rfl
  | cons c order ih =>
    have hone : Removes s (s.destroyConnection c) := by
      obtain ⟨fs, hfs, hrun⟩ := erase s c
      exact ⟨fs, hfs, by rw [hrun, destroyConnection_server]⟩
    exact hone.trans (ih (s.destroyConnection c))

end Removes

/-- The steps of `TcpServer` that an event consists of. -/
lemma exists_server_steps (h : s.step e = some t) :
    (∃ f, e = .configure f ∧ s.server.step f = some t.server) ∨
      (∃ sockfd, e = .newConnection sockfd ∧
        s.server.step (.newConnection sockfd) = some t.server) ∨ Removes s t := by
  obtain ⟨-, h⟩ := Option.ite_none_right_eq_some.mp h
  cases e with
  | configure f =>
    have hserver (h : (if s.serverAlive = true then (s.server.step f).map
        fun server => { s with server } else none) = some t) : s.server.step f = some t.server := by
      obtain ⟨-, hmap⟩ := Option.ite_none_right_eq_some.mp h
      obtain ⟨server, hstep, rfl⟩ := Option.map_eq_some_iff.mp hmap
      exact hstep
    cases f with
    | newConnection sockfd | removeConnectionInLoop c => cases h
    | setThreadNum | start | startThreadPool | getNextLoop => exact .inl ⟨_, rfl, hserver h⟩
  | newConnection sockfd =>
    obtain ⟨⟨-, hlistenning, hnumber⟩, h⟩ := Option.ite_none_right_eq_some.mp h
    obtain rfl := Option.some.inj h
    refine .inr (.inl ⟨sockfd, rfl, ?_⟩)
    have hserver : (s.newConnection sockfd).server = s.server.newConnection sockfd := by
      rw [newConnection_eq]
      split
      · exact operate_server _ _ _ _
      · rfl
    rw [hserver, TcpServer.step, if_pos ⟨hlistenning, hnumber⟩]
  | handleClose c =>
    obtain ⟨-, h⟩ := Option.ite_none_right_eq_some.mp h
    obtain rfl := Option.some.inj h
    exact .inr (.inr (.handleClose s _ c))
  | runFunctor l =>
    rw [act] at h
    split at h
    · cases h
    · rename_i f rest hfunctors
      obtain rfl := Option.some.inj h
      exact .inr (.inr (.runFunctor (s.take l f rest) l f))
  | destroyServer order =>
    obtain ⟨-, h⟩ := Option.ite_none_right_eq_some.mp h
    obtain rfl := Option.some.inj h
    exact .inr (.inr (.destroyConnections { s with serverAlive := false } order))
  | swap l | finish l | drop c =>
    obtain ⟨-, h⟩ := Option.ite_none_right_eq_some.mp h
    obtain rfl := Option.some.inj h
    exact .inr (.inr (.of_eq rfl))
  | shutdownLoad th c | forceCloseLoad th c =>
    obtain ⟨-, h⟩ := Option.ite_none_right_eq_some.mp h
    split at h <;>
      (obtain rfl := Option.some.inj h
       exact .inr (.inr (.of_eq rfl)))
  | shutdownStore th | forceCloseStore th | forceClosePush th =>
    rw [act] at h
    split at h
    · obtain rfl := Option.some.inj h
      exact .inr (.inr (.of_eq rfl))
    · cases h
  | hold c =>
    obtain rfl := Option.some.inj h
    exact .inr (.inr (.of_eq rfl))

/-- The server of the loops is a `TcpServer`. -/
lemma exec_server (hrun : exec step s es = some t) :
    ∃ fs, exec TcpServer.step s.server fs = some t.server :=
  simulates_of_meets (I := fun _ => True) (fun s e t _ _ h => ⟨trivial, by
    obtain ⟨f, -, h⟩ | ⟨sockfd, -, h⟩ | ⟨fs, -, h⟩ := exists_server_steps h
    · exact ⟨[f], by rw [exec_cons, h]; rfl⟩
    · exact ⟨[.newConnection sockfd], by rw [exec_cons, h]; rfl⟩
    · exact ⟨fs, h⟩⟩) trivial (meets_true s es) hrun

/-! ## Accepted connections -/

/-- The removal of connections has nothing to do with the pool. -/
lemma exec_removes {server server' : TcpServer} {fs : List TcpServerEvent}
    (hfs : ∀ f ∈ fs, ∃ c, f = .removeConnectionInLoop c)
    (hrun : exec TcpServer.step server fs = some server') :
    server'.threadPool_ = server.threadPool_ ∧ server'.accepted = server.accepted := by
  induction fs generalizing server with
  | nil =>
    obtain rfl : server = server' := by simpa using hrun
    exact ⟨rfl, rfl⟩
  | cons f fs ih =>
    obtain ⟨u, hu, hrun⟩ := exec_cons_eq_some.mp hrun
    obtain ⟨c, rfl⟩ := hfs f List.mem_cons_self
    obtain ⟨a, -, rfl⟩ := Option.map_eq_some_iff.mp hu
    obtain ⟨hpool, haccepted⟩ := ih (fun g hg => hfs g (List.mem_cons_of_mem _ hg)) hrun
    exact ⟨hpool, haccepted⟩

/-- The event neither starts loops nor takes one out of turn. -/
def KeepsPool (e : ServerLoopsEvent) : Prop :=
  e ≠ .configure .startThreadPool ∧ e ≠ .configure .getNextLoop

/-- The connections that are accepted get the loops that `getNextLoop` returns one after the
other. -/
lemma exec_accepted (hes : ∀ e ∈ es, KeepsPool e) (hrun : exec step s es = some t) :
    ∃ new, t.server.accepted = s.server.accepted ++ new ∧
      new.map AcceptedConnection.loop_ =
        EventLoopThreadPool.getNextLoops new.length s.server.threadPool_ := by
  induction es generalizing s with
  | nil =>
    obtain rfl : s = t := by simpa using hrun
    exact ⟨[], (List.append_nil _).symm, rfl⟩
  | cons e es ih =>
    obtain ⟨u, hu, hrun⟩ := exec_cons_eq_some.mp hrun
    obtain ⟨new, haccepted, hloops⟩ := ih (fun d hd => hes d (List.mem_cons_of_mem e hd)) hrun
    obtain ⟨hstart, hnext⟩ := hes e List.mem_cons_self
    obtain ⟨f, rfl, hserver⟩ | ⟨sockfd, rfl, hserver⟩ | ⟨fs, hfs, hserver⟩ := exists_server_steps hu
    · cases f with
      | setThreadNum numThreads | start =>
        have hpool := Option.some.inj hserver
        rw [← hpool] at haccepted hloops
        refine ⟨new, haccepted, hloops.trans ?_⟩
        rw [EventLoopThreadPool.getNextLoops_eq, EventLoopThreadPool.getNextLoops_eq]
        rfl
      | startThreadPool => exact absurd rfl hstart
      | getNextLoop => exact absurd rfl hnext
      | newConnection sockfd | removeConnectionInLoop c => simp [step, act] at hu
    · obtain ⟨-, hserver⟩ := Option.ite_none_right_eq_some.mp hserver
      have hpool := Option.some.inj hserver
      rw [← hpool] at haccepted hloops
      refine ⟨_ :: new, haccepted.trans (List.append_assoc _ _ _), ?_⟩
      rw [List.map_cons, hloops, List.length_cons, EventLoopThreadPool.getNextLoops]
      rfl
    · obtain ⟨hpool, hsame⟩ := exec_removes hfs hserver
      rw [hsame] at haccepted
      rw [hpool] at hloops
      exact ⟨new, haccepted, hloops⟩

end ServerLoops

open ServerLoops

variable {name ipPort : Bytes} {loop : LoopId} {s t : ServerLoops}
  {es more : List ServerLoopsEvent}

/-- As long as the pool is not started again and nobody else takes a loop from it, the connections
that a server accepts are spread over its loops so evenly that two loops differ by at most one
connection, whatever the connections and the threads do meanwhile. -/
theorem connections_balanced
    (hrun : exec ServerLoops.step (.new loop ipPort name) es = some s)
    (hmore : ∀ e ∈ more, KeepsPool e) (hnext : exec ServerLoops.step s more = some t) :
    ∃ new, t.server.accepted = s.server.accepted ++ new ∧
      (∀ a ∈ new, a.loop_ ∈ s.server.threadPool_.handedOut) ∧
      ∀ l ∈ s.server.threadPool_.handedOut,
        new.length / s.server.threadPool_.handedOut.length ≤
            (new.map AcceptedConnection.loop_).count l ∧
          (new.map AcceptedConnection.loop_).count l ≤
            new.length / s.server.threadPool_.handedOut.length + 1 := by
  obtain ⟨fs, hserver⟩ := exec_server hrun
  have hinv : TcpServer.LoopsInv s.server :=
    invariant_of_exec (fun _ _ _ h hstep => h.step hstep) (.new loop ipPort name) hserver
  have hdistinct : s.server.threadPool_.DistinctLoops := by
    refine ⟨fun hmem => ?_, hinv.nodup⟩
    have hlt := (hinv.loops_ _ hmem).1
    rw [hinv.baseLoop_] at hlt
    exact Nat.lt_irrefl _ hlt
  obtain ⟨new, haccepted, hloops⟩ := exec_accepted hmore hnext
  refine ⟨new, haccepted, fun a ha => ?_, fun l hl => ?_⟩
  · have hmem := List.mem_map_of_mem (f := AcceptedConnection.loop_) ha
    rw [hloops] at hmem
    exact EventLoopThreadPool.mem_handedOut hdistinct hmem
  · rw [hloops]
    exact EventLoopThreadPool.count_getNextLoops hdistinct hl new.length

/-- Three connections on two loops, the first of which is closed before the last one comes. -/
theorem connections_balanced_three : ∃ s t, exec ServerLoops.step (.new 0 [49, 58, 50] [115])
    [.configure (.setThreadNum 2), .configure .start, .configure .startThreadPool] = some s ∧
      exec ServerLoops.step s [.newConnection 5, .swap 1, .runFunctor 1, .finish 1,
        .newConnection 6, .handleClose 0, .newConnection 7] = some t ∧
      (t.server.accepted.map AcceptedConnection.loop_).count 1 ≤ 3 / 2 + 1 := by
  obtain ⟨s, hrun, ⟨hnone, hpool⟩, hmore⟩ : ∃ s, exec ServerLoops.step (.new 0 [49, 58, 50] [115])
      [.configure (.setThreadNum 2), .configure .start, .configure .startThreadPool] = some s ∧
        (s.server.accepted = [] ∧ s.server.threadPool_.handedOut = [1, 2]) ∧
        (exec ServerLoops.step s [.newConnection 5, .swap 1, .runFunctor 1, .finish 1,
          .newConnection 6, .handleClose 0, .newConnection 7]).any
            (fun t => decide (t.server.accepted.length = 3)) = true :=
    exists_exec_of_any (by decide +kernel)
  obtain ⟨t, hnext, hthree⟩ := exists_exec_of_any hmore
  obtain ⟨new, haccepted, -, hspread⟩ :=
    connections_balanced hrun (by simp [KeepsPool]) hnext
  rw [hnone, List.nil_append] at haccepted
  subst haccepted
  rw [hpool, hthree] at hspread
  exact ⟨s, t, hrun, hnext, (hspread 1 List.mem_cons_self).2⟩

end SimpleMuduo
