import Mathlib.Data.Finset.Dedup
import SimpleMuduo.TcpServer.LifeCycle

/-!
# Runs of the server and its loops

The life cycle of every connection, whatever the order in which the loops and the threads take
their steps, and as its consequence that a poller never knows the channel of a connection that
nobody holds.
-/

namespace SimpleMuduo

/-- The functor weighs more than the functor that it may queue. -/
def ServerFunctor.weight : ServerFunctor → ℕ
  | .forceCloseInLoop _ => 3
  | .removeConnectionInLoop _ => 2
  | .connectEstablished _ | .connectDestroyed _ => 1

namespace ServerLoops

variable {name ipPort : Bytes} {loop : LoopId} {c : ConnId} {s t u : ServerLoops} {l : LoopId}
  {a : AcceptedConnection} {ph : Phase} {f : ServerFunctor} {e : ServerLoopsEvent}
  {es : List ServerLoopsEvent} {sent sent' : List (LoopId × ServerFunctor)}

/-- A new server has no connections. -/
lemma LifeInv.new (loop : LoopId) (ipPort name : Bytes) :
    LifeInv name ipPort (.new loop ipPort name) := by
  have hnone (c : ConnId) : ¬ (ServerLoops.new loop ipPort name).Referenced c := by
    rintro (⟨a, ha, -⟩ | ⟨l, f, hf, -⟩ | hpos | ⟨th, hth⟩)
    · simp [ServerLoops.new, TcpServer.new] at ha
    · simp [ServerLoops.new, queue] at hf
    · simp [ServerLoops.new] at hpos
    · simp [ServerLoops.new, ServerCallerPc.conn] at hth
  refine ⟨.new loop ipPort name, Nat.pos_of_ne_zero (by decide), fun _ => Kept.new,
    fun c a ha => ?_, fun c _ => ⟨rfl, fun _ => rfl, hnone c⟩, fun c d a b ha => ?_⟩
  · simp [ServerLoops.new, TcpServer.new] at ha
  · simp [ServerLoops.new, TcpServer.new] at ha

/-! ## What the functions leave alone -/

/-- The weight of the functors that are queued, each with its loop. -/
def weights (sent : List (LoopId × ServerFunctor)) : ℕ := (sent.map fun x => x.2.weight).sum

/-- The functions of the connections and of the server queue functors, and have nothing to do with
the batches and with what the users hold. -/
structure Keeps (s t : ServerLoops) (sent : List (LoopId × ServerFunctor)) : Prop where
  loop_ : t.server.loop_ = s.server.loop_
  accepted : t.server.accepted = s.server.accepted
  serverAlive : t.serverAlive = s.serverAlive
  functors : t.functors = s.functors
  held : t.held = s.held
  users : t.users = s.users
  threads : t.threads = s.threads
  calls : ∀ d, s.calls d <+: t.calls d
  pendingFunctors_ : ∀ l, t.pendingFunctors_ l =
    s.pendingFunctors_ l ++ (sent.filter fun x => x.1 = l).map Prod.snd

namespace Keeps

/-- Nothing happens. -/
lemma refl (s : ServerLoops) : Keeps s s [] :=
  ⟨rfl, rfl, rfl, rfl, rfl, rfl, rfl, fun _ => List.prefix_rfl, fun _ => (List.append_nil _).symm⟩

/-- Two member functions after each other. -/
lemma trans (hst : Keeps s t sent) (htu : Keeps t u sent') : Keeps s u (sent ++ sent') where
  loop_ := htu.loop_.trans hst.loop_
  accepted := htu.accepted.trans hst.accepted
  serverAlive := htu.serverAlive.trans hst.serverAlive
  functors := htu.functors.trans hst.functors
  held := htu.held.trans hst.held
  users := htu.users.trans hst.users
  threads := htu.threads.trans hst.threads
  calls d := (hst.calls d).trans (htu.calls d)
  pendingFunctors_ l := by
    rw [htu.pendingFunctors_, hst.pendingFunctors_, List.filter_append, List.map_append,
      List.append_assoc]

/-- A call is recorded. -/
lemma record (s : ServerLoops) (l : LoopId) (call : ServerCall) (c : ConnId) :
    Keeps s (s.record l call c) [] := by
  refine { refl s with calls := fun d => ?_ }
  by_cases hd : d = c
  · subst hd
    simp
  · simp [hd]

/-- `setState` of a connection. -/
lemma setState (s : ServerLoops) (c : ConnId) (state : StateE) :
    Keeps s (s.setState c state) [] := { refl s with }

/-- The channel of a connection is changed. -/
lemma operate (s : ServerLoops) (l : LoopId) (c : ConnId) (op : ChannelOp) :
    Keeps s (s.operate l c op) [] := by
  unfold ServerLoops.operate
  split
  · exact { refl s with }
  · exact { refl s with }

/-- A connection is erased from the map. -/
lemma erase (s : ServerLoops) (c : ConnId) : Keeps s (s.erase c) [] := by
  unfold ServerLoops.erase
  split
  · exact { refl s with }
  · exact refl s

/-- A functor is queued. -/
lemma queueInLoop (s : ServerLoops) (l : LoopId) (f : ServerFunctor) :
    Keeps s (s.queueInLoop l f) [(l, f)] := by
  refine { refl s with pendingFunctors_ := fun l' => ?_ }
  by_cases hl : l' = l
  · subst hl
    simp
  · simp [hl, Ne.symm hl]

/-- `connectEstablished` queues nothing. -/
lemma connectEstablished (s : ServerLoops) (l : LoopId) (c : ConnId) :
    Keeps s (s.connectEstablished l c) [] :=
  ((record s l .connectEstablished c).trans (setState _ c .kConnected)).trans
    (operate _ l c .enableReading)

/-- `connectDestroyed` queues nothing. -/
lemma connectDestroyed (s : ServerLoops) (l : LoopId) (c : ConnId) :
    Keeps s (s.connectDestroyed l c) [] := by
  have hrecord := record s l .connectDestroyed c
  simp only [ServerLoops.connectDestroyed]
  split
  · exact ((hrecord.trans (setState _ c .kDisconnected)).trans (operate _ l c .disableAll)).trans
      (operate _ l c .remove)
  · exact hrecord.trans (operate _ l c .remove)

/-- `removeConnectionInLoop` queues `connectDestroyed`. -/
lemma removeConnectionInLoop (s : ServerLoops) (l : LoopId) (c : ConnId) :
    ∃ sent, Keeps s (s.removeConnectionInLoop l c) sent ∧ weights sent ≤ 1 := by
  unfold ServerLoops.removeConnectionInLoop
  split
  · have herase := (record s l .removeConnectionInLoop c).trans (erase _ c)
    exact ⟨_, herase.trans (queueInLoop _ _ _), le_rfl⟩
  · exact ⟨[], { refl s with }, Nat.zero_le 1⟩

/-- `removeConnection` is run at once or queued. -/
lemma removeConnection (s : ServerLoops) (l : LoopId) (c : ConnId) :
    ∃ sent, Keeps s (s.removeConnection l c) sent ∧ weights sent ≤ 2 := by
  unfold ServerLoops.removeConnection
  split
  · split
    · obtain ⟨sent, hkeeps, hle⟩ := removeConnectionInLoop s l c
      exact ⟨sent, hkeeps, hle.trans one_le_two⟩
    · exact ⟨_, queueInLoop _ _ _, le_rfl⟩
  · exact ⟨[], { refl s with }, Nat.zero_le 2⟩

/-- `handleClose` calls `removeConnection`. -/
lemma handleClose (s : ServerLoops) (l : LoopId) (c : ConnId) :
    ∃ sent, Keeps s (s.handleClose l c) sent ∧ weights sent ≤ 2 := by
  have hset := (record s l .handleClose c).trans (setState _ c .kDisconnected)
  have hdisabled := hset.trans (operate _ l c .disableAll)
  obtain ⟨sent, hkeeps, hle⟩ := removeConnection
    (((s.record l .handleClose c).setState c .kDisconnected).operate l c .disableAll) l c
  exact ⟨_, hdisabled.trans hkeeps, hle⟩

/-- What a functor queues weighs less than the functor. -/
lemma runFunctor (s : ServerLoops) (l : LoopId) (f : ServerFunctor) :
    ∃ sent, Keeps s (s.runFunctor l f) sent ∧ weights sent < f.weight := by
  cases f with
  | connectEstablished c => exact ⟨[], connectEstablished s l c, Nat.one_pos⟩
  | connectDestroyed c => exact ⟨[], connectDestroyed s l c, Nat.one_pos⟩
  | removeConnectionInLoop c =>
    obtain ⟨sent, hkeeps, hle⟩ := removeConnectionInLoop s l c
    exact ⟨sent, hkeeps, Nat.lt_succ_of_le hle⟩
  | forceCloseInLoop c =>
    simp only [ServerLoops.runFunctor, forceCloseInLoop]
    split
    · obtain ⟨sent, hkeeps, hle⟩ := handleClose s l c
      exact ⟨sent, hkeeps, Nat.lt_succ_of_le hle⟩
    · exact ⟨[], refl s, Nat.succ_pos 2⟩

end Keeps

/-! ## Every run -/

/-- The loops that the server and its connections live on. -/
def loops (s : ServerLoops) : Finset LoopId :=
  insert s.server.loop_ (s.server.accepted.map AcceptedConnection.loop_).toFinset

/-- The loops are that of the server and those of the connections. -/
lemma mem_loops : l ∈ s.loops ↔ l = s.server.loop_ ∨ ∃ a ∈ s.server.accepted, a.loop_ = l := by
  simp [loops]

/-- No loop is added. -/
lemma Keeps.loops (h : Keeps s t sent) : t.loops = s.loops := by
  rw [ServerLoops.loops, h.loop_, h.accepted, ← ServerLoops.loops]

/-- A functor that waits goes on waiting. -/
lemma Keeps.queue (h : Keeps s t sent) {f : ServerFunctor} (hf : f ∈ s.queue l) :
    f ∈ t.queue l := by
  rw [ServerLoops.queue, h.functors, h.pendingFunctors_, ← List.append_assoc]
  exact List.mem_append_left _ hf

/-- What every step does apart from the destructor: no loop and no call is lost, a loop holds a
batch only when it has run a functor, and a functor waits until it is run. -/
structure Goes (s t : ServerLoops) (e : ServerLoopsEvent) : Prop where
  serverAlive : t.serverAlive = s.serverAlive
  loops : s.loops ⊆ t.loops
  held : ∀ l, t.held l ≠ [] → s.held l ≠ [] ∨ e = .runFunctor l
  calls : ∀ d, s.calls d <+: t.calls d
  queue : ∀ l, ∀ f ∈ s.queue l, f ∈ t.queue l ∨ e = .runFunctor l ∧ (s.functors l).head? = some f

namespace Goes

/-- A step that leaves the calls and the holders alone and takes nothing from the queues. -/
lemma of_eq (halive : t.serverAlive = s.serverAlive) (hserver : s.loops ⊆ t.loops)
    (hheld : t.held = s.held) (hcalls : t.calls = s.calls)
    (hqueue : ∀ l, ∀ f ∈ s.queue l, f ∈ t.queue l) : Goes s t e where
  serverAlive := halive
  loops := hserver
  held _ hl := .inl (hheld ▸ hl)
  calls _ := hcalls ▸ List.prefix_rfl
  queue l f hf := .inl (hqueue l f hf)

/-- A member function that takes nothing from the queues. -/
lemma of_keeps (h : Keeps s t sent) (e : ServerLoopsEvent) : Goes s t e where
  serverAlive := h.serverAlive
  loops := h.loops.superset
  held _ hl := .inl (h.held ▸ hl)
  calls := h.calls
  queue _ _ hf := .inl (h.queue hf)

/-- The functor at the head of a batch is run. -/
lemma runFunctor {rest : List ServerFunctor} (h : s.functors l = f :: rest) :
    Goes s ((s.take l f rest).runFunctor l f) (.runFunctor l) := by
  obtain ⟨sent, hkeeps, -⟩ := Keeps.runFunctor (s.take l f rest) l f
  refine ⟨hkeeps.serverAlive, hkeeps.loops.superset, fun l' hheld => ?_, hkeeps.calls,
    fun l' g hg => ?_⟩
  · rw [hkeeps.held] at hheld
    by_cases hl : l' = l
    · exact .inr (hl ▸ rfl)
    · exact .inl (by simpa [take, hl] using hheld)
  · rw [queue_take h] at hg
    obtain hhead | hrest := List.mem_append.mp hg
    · split at hhead
      · rename_i hl
        obtain rfl := List.mem_singleton.mp hhead
        subst hl
        exact .inr ⟨rfl, by rw [h, List.head?_cons]⟩
      · cases hhead
    · exact .inl (hkeeps.queue hrest)

/-- A new connection. -/
lemma newConnection (s : ServerLoops) (sockfd : ℕ) :
    Goes s (s.newConnection sockfd) (.newConnection sockfd) := by
  have hloops : s.loops ⊆ (s.constructed sockfd).loops := by
    intro l hl
    obtain hbase | ⟨a, ha, hloop⟩ := mem_loops.mp hl
    · exact mem_loops.mpr (.inl hbase)
    · exact mem_loops.mpr (.inr ⟨a, List.mem_append_left _ ha, hloop⟩)
  have htrans {u : ServerLoops} {sent : List (LoopId × ServerFunctor)}
      (hu : Keeps (s.constructed sockfd) u sent) : Goes s u (.newConnection sockfd) :=
    ⟨hu.serverAlive, hloops.trans hu.loops.superset, fun _ hheld => .inl (hu.held ▸ hheld),
      hu.calls, fun _ _ hf => .inl (hu.queue (s := s.constructed sockfd) hf)⟩
  rw [newConnection_eq]
  split
  · exact htrans (.connectEstablished _ _ _)
  · exact htrans (.queueInLoop _ _ _)

end Goes

/-- Every step but the destruction of the server. -/
lemma goes_of_step (h : s.step e = some t) (he : ∀ order, e ≠ .destroyServer order) :
    Goes s t e := by
  obtain ⟨-, h⟩ := Option.ite_none_right_eq_some.mp h
  cases e with
  | configure e =>
    have hserver (he : ∀ sockfd, e ≠ .newConnection sockfd)
        (he' : ∀ c, e ≠ .removeConnectionInLoop c)
        (h : (if s.serverAlive = true then (s.server.step e).map fun server => { s with server }
          else none) = some t) : Goes s t (.configure e) := by
      obtain ⟨-, hmap⟩ := Option.ite_none_right_eq_some.mp h
      obtain ⟨server, hstep, rfl⟩ := Option.map_eq_some_iff.mp hmap
      obtain ⟨haccepted, hloop, -⟩ := configure_step he he' hstep
      refine .of_eq rfl ?_ rfl rfl fun _ _ => id
      rw [ServerLoops.loops, ServerLoops.loops, haccepted, hloop]
    cases e with
    | newConnection sockfd | removeConnectionInLoop c => cases h
    | setThreadNum | start | startThreadPool | getNextLoop =>
      exact hserver (by simp) (by simp) h
  | newConnection sockfd =>
    obtain ⟨-, h⟩ := Option.ite_none_right_eq_some.mp h
    obtain rfl := Option.some.inj h
    exact .newConnection s sockfd
  | handleClose c =>
    obtain ⟨-, h⟩ := Option.ite_none_right_eq_some.mp h
    obtain rfl := Option.some.inj h
    obtain ⟨sent, hkeeps, -⟩ := Keeps.handleClose s (s.ioLoop c) c
    exact .of_keeps hkeeps _
  | runFunctor l =>
    rw [act] at h
    split at h
    · cases h
    · rename_i f rest hfunctors
      obtain rfl := Option.some.inj h
      exact .runFunctor hfunctors
  | finish l =>
    obtain ⟨-, h⟩ := Option.ite_none_right_eq_some.mp h
    obtain rfl := Option.some.inj h
    refine ⟨rfl, Finset.Subset.refl _, fun l' hheld => .inl ?_, fun _ => List.prefix_rfl,
      fun _ _ => .inl⟩
    by_cases hl : l' = l
    · simp [finish, hl] at hheld
    · simpa [finish, hl] using hheld
  | swap l =>
    obtain ⟨⟨hidle, -⟩, h⟩ := Option.ite_none_right_eq_some.mp h
    obtain rfl := Option.some.inj h
    exact .of_eq rfl (Finset.Subset.refl _) rfl rfl fun l' f hf => queue_swap hidle l' ▸ hf
  | drop c =>
    obtain ⟨-, h⟩ := Option.ite_none_right_eq_some.mp h
    obtain rfl := Option.some.inj h
    exact .of_eq rfl (Finset.Subset.refl _) rfl rfl fun _ _ => id
  | shutdownLoad th c | forceCloseLoad th c =>
    obtain ⟨-, h⟩ := Option.ite_none_right_eq_some.mp h
    split at h <;>
      (obtain rfl := Option.some.inj h
       exact .of_eq rfl (Finset.Subset.refl _) rfl rfl fun _ _ => id)
  | shutdownStore th | forceCloseStore th =>
    rw [act] at h
    split at h
    · obtain rfl := Option.some.inj h
      exact .of_eq rfl (Finset.Subset.refl _) rfl rfl fun _ _ => id
    · cases h
  | forceClosePush th =>
    rw [act] at h
    split at h
    · rename_i c hthread
      obtain rfl := Option.some.inj h
      refine .of_eq rfl (Finset.Subset.refl _) rfl rfl fun l f hf => ?_
      have hqueue := queue_queueInLoop s (s.ioLoop c) (.forceCloseInLoop c) l
      exact hqueue ▸ List.mem_append_left _ hf
    · cases h
  | hold c =>
    obtain rfl := Option.some.inj h
    exact .of_eq rfl (Finset.Subset.refl _) rfl rfl fun _ _ => id
  | destroyServer order => exact absurd rfl (he order)

/-- A server that has not been destroyed is used by nobody who should not. -/
lemma serverAlive_of_exec (hrun : exec step (.new loop ipPort name) es = some s)
    (halive : ∀ order, .destroyServer order ∉ es) : s.serverAlive = true := by
  have hmeets : Meets step (fun _ e => ∀ order, e ≠ .destroyServer order) (.new loop ipPort name)
      es := Meets.of_forall _ fun e he order heq => halive order (heq ▸ he)
  exact invariant_of_meets (I := fun s : ServerLoops => s.serverAlive = true)
    (fun s e t hs he h => (goes_of_step h he).serverAlive.trans hs) rfl hmeets hrun

/-- What can be checked without looking for all pointers. -/
def Careful (s : ServerLoops) : ServerLoopsEvent → Prop
  | .newConnection sockfd => ∀ a ∈ s.server.accepted, a.sockfd ≠ sockfd
  | .shutdownLoad _ c | .forceCloseLoad _ c | .hold c => s.InConnections c
  | .shutdownStore t | .forceCloseStore t => ∀ c ∈ (s.threads t).conn, s.state_ c ≠ .kDisconnected
  | _ => True

instance (s : ServerLoops) : ∀ e, Decidable (s.Careful e)
  | .newConnection sockfd => inferInstanceAs (Decidable (∀ a ∈ s.server.accepted, _))
  | .shutdownLoad _ c | .forceCloseLoad _ c | .hold c =>
    inferInstanceAs (Decidable (s.InConnections c))
  | .shutdownStore t | .forceCloseStore t =>
    match h : (s.threads t).conn with
    | none => isTrue fun c hc => by simp [h] at hc
    | some c => decidable_of_iff (s.state_ c ≠ .kDisconnected) (by simp [Careful, h])
  | .configure _ | .handleClose _ | .swap _ | .runFunctor _ | .finish _ | .forceClosePush _
  | .drop _ | .destroyServer _ => inferInstanceAs (Decidable True)

/-- A careful step is allowed. -/
lemma Careful.allowed (h : s.Careful e) : s.Allowed e := by
  cases e with
  | newConnection sockfd => exact fun c a ha _ => h a (List.mem_of_getElem? ha)
  | shutdownLoad th c | forceCloseLoad th c | hold c => exact .inl h
  | shutdownStore th | forceCloseStore th => exact h
  | _ => trivial

/-- A careful run is allowed. -/
lemma meets_of_careful (h : Meets step Careful s es) : Meets step Allowed s es :=
  h.imp_of_invariant (I := fun _ => True) (fun _ _ _ _ _ _ => trivial)
    (fun _ _ _ => Careful.allowed) trivial

/-- A connection for which nothing waits and which is not in the map has been destroyed on its
loop. -/
lemma Lives.destroyed (h : Lives s c a ph) (hown : ph.own c = []) (hremoval : ph.removal c = [])
    (hin : ph.inConnections ≠ true) :
    (s.calls c).getLast? = some (a.loop_, .connectDestroyed) ∧
      ∀ l, ((s.tables l).channels c).index_ = .kNew := by
  obtain ⟨hcalls, hnew⟩ : (ph.calls a.loop_ s.server.loop_).getLast? =
      some (a.loop_, .connectDestroyed) ∧ ph.index = .kNew := by
    cases ph with
    | gone | orphanGone => exact ⟨rfl, rfl⟩
    | _ => simp [Phase.own, Phase.removal, Phase.inConnections] at hown hremoval hin
  refine ⟨h.calls.symm ▸ hcalls, fun l => ?_⟩
  by_cases hl : l = a.loop_
  · subst hl
    exact h.index.trans hnew
  · exact h.elsewhere l hl

end ServerLoops

/-! ## The life cycle -/

open ServerLoops

variable {name ipPort : Bytes} {loop : LoopId} {s : ServerLoops} {es : List ServerLoopsEvent}

/-- A connection on a loop of the pool is closed by another thread and goes through all phases. -/
def ServerLoops.forcedClose : List ServerLoopsEvent :=
  [.configure (.setThreadNum 1), .configure .start, .configure .startThreadPool, .newConnection 5,
    .swap 1, .runFunctor 1, .finish 1, .forceCloseLoad 0 0, .forceCloseStore 0, .forceClosePush 0,
    .swap 1, .runFunctor 1, .finish 1, .swap 0, .runFunctor 0, .finish 0, .swap 1, .runFunctor 1,
    .finish 1]

/-- The run is allowed. -/
lemma ServerLoops.meets_forcedClose :
    Meets ServerLoops.step Allowed (.new 0 [49, 58, 50] [115]) forcedClose :=
  meets_of_careful (by decide +kernel)

end SimpleMuduo
