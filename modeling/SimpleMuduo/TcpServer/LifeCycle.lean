import SimpleMuduo.TcpServer.LifeSteps

/-!
# The life cycle of the connections of a server

The remaining steps: a new connection, the calls of other threads, and the destruction of the
server.  So in every run in which the destroyed server is not used the calls for a connection are
made in a fixed order, each on its loop, and a connection exists as long as its channel is known to
a poller.
-/

namespace SimpleMuduo

namespace ServerLoops

variable {name ipPort : Bytes} {c d : ConnId} {s t u : ServerLoops} {l : LoopId} {th : ThreadId}
  {a b : AcceptedConnection} {ph ph' : Phase} {e : ServerLoopsEvent}

/-! ## Steps that concern no connection -/

/-- What the phases speak of is the same, and nobody has got a new pointer. -/
lemma LifeInv.quiet (hs : LifeInv name ipPort s) (hmap : TcpServer.MapInv name ipPort t.server)
    (haccepted : t.server.accepted = s.server.accepted) (hloop : t.server.loop_ = s.server.loop_)
    (hconnections : t.server.connections_ = s.server.connections_)
    (halive : s.serverAlive = false → t.serverAlive = false) (hcalls : t.calls = s.calls)
    (hstate : t.state_ = s.state_) (htables : t.tables = s.tables)
    (hthreads : t.threads = s.threads) (hqueue : ∀ l, t.queue l = s.queue l)
    (href : ∀ c, t.Referenced c → s.Referenced c) : LifeInv name ipPort t := by
  refine ⟨hmap, haccepted ▸ hs.few, htables ▸ hs.kept, fun c a ha => ?_, fun c hc => ?_,
    fun c d a b ha hb hc hd => ?_⟩
  · rw [haccepted] at ha
    obtain ⟨ph, hlives⟩ := hs.lives c a ha
    refine ⟨ph, ⟨⟨?_, ?_, ?_, ?_, ?_, ?_⟩, fun h => halive (hlives.orphan h), ?_, fun l f hf => ?_,
      ?_, ?_, ?_, fun l hf => ?_⟩⟩
    · rw [hcalls, hloop, hlives.calls]
    · rw [hqueue, hlives.own]
    · rw [hloop, hqueue, hlives.removal]
    · rw [InConnections, haccepted, hconnections]
      exact hlives.inConnections
    · rw [htables, hlives.index]
    · rw [hstate]
      exact hlives.state_
    · rw [hloop]
      exact hlives.remote
    · rw [hqueue] at hf
      rw [hloop]
      exact hlives.home l f hf
    · rw [htables]
      exact hlives.elsewhere
    · rw [htables, hlives.fd_]
    · rw [hthreads, hcalls]
      exact hlives.callers
    · rw [hqueue] at hf
      rw [hcalls]
      exact hlives.forced l hf
  · rw [haccepted] at hc
    have hunborn := hs.unborn c hc
    exact ⟨by rw [hcalls, hunborn.calls], by rw [htables]; exact hunborn.index,
      fun h => hunborn.unreferenced (href c h)⟩
  · rw [haccepted] at ha hb
    exact hs.distinct c d a b ha hb (href c hc) (href d hd)

/-- The member functions of the server that do not concern a connection. -/
lemma configure_step {e : TcpServerEvent} {server : TcpServer}
    (he : ∀ sockfd, e ≠ .newConnection sockfd) (he' : ∀ c, e ≠ .removeConnectionInLoop c)
    (h : s.server.step e = some server) :
    server.accepted = s.server.accepted ∧ server.loop_ = s.server.loop_ ∧
      server.connections_ = s.server.connections_ := by
  cases e with
  | setThreadNum | start | startThreadPool | getNextLoop =>
    obtain rfl := Option.some.inj h
    exact ⟨rfl, rfl, rfl⟩
  | newConnection sockfd => exact absurd rfl (he sockfd)
  | removeConnectionInLoop c => exact absurd rfl (he' c)

lemma LifeInv.configure (hs : LifeInv name ipPort s) (hipPort : ipPort.length ≤ 47)
    {e : TcpServerEvent} {server : TcpServer}
    (he : ∀ sockfd, e ≠ .newConnection sockfd) (he' : ∀ c, e ≠ .removeConnectionInLoop c)
    (h : s.server.step e = some server) : LifeInv name ipPort { s with server } := by
  obtain ⟨haccepted, hloop, hconnections⟩ := configure_step he he' h
  have hfew : server.accepted.length < 2 ^ 31 - 1 := haccepted ▸ hs.few
  refine hs.quiet (TcpServer.MapInv.step (fun _ => hs.map) hipPort h hfew) haccepted hloop
    hconnections id rfl rfl rfl rfl (fun _ => rfl) fun c href => ?_
  refine href.imp_left fun hin => ?_
  rw [InConnections, haccepted, hconnections] at hin
  exact hin

lemma queue_swap (hidle : s.functors l = []) (l' : LoopId) : (s.swap l).queue l' = s.queue l' := by
  by_cases hl : l' = l
  · subst hl
    simp [queue, ServerLoops.swap, hidle]
  · simp [queue, ServerLoops.swap, hl]

/-- `doPendingFunctors` takes the pending functors. -/
lemma LifeInv.swap (hs : LifeInv name ipPort s) (hidle : s.functors l = []) :
    LifeInv name ipPort (s.swap l) := by
  have hqueue := queue_swap hidle
  refine hs.quiet hs.map rfl rfl rfl id rfl rfl rfl rfl hqueue fun c href => ?_
  refine href.imp_right (Or.imp_left ?_)
  rintro ⟨l', f, hf, hconn⟩
  rw [hqueue] at hf
  exact ⟨l', f, hf, hconn⟩

/-- The batch is destroyed with its pointers. -/
lemma LifeInv.finish (hs : LifeInv name ipPort s) (l : LoopId) :
    LifeInv name ipPort (s.finish l) := by
  refine hs.quiet hs.map rfl rfl rfl id rfl rfl rfl rfl (fun _ => rfl) fun c href => ?_
  refine href.imp_right (Or.imp_left ?_)
  rintro ⟨l', f, hf, hconn⟩
  refine ⟨l', f, ?_, hconn⟩
  obtain hqueue | hheld := List.mem_append.mp hf
  · exact List.mem_append_left _ hqueue
  · refine List.mem_append_right _ ?_
    by_cases hl : l' = l
    · subst hl
      simp [ServerLoops.finish] at hheld
    · simpa [ServerLoops.finish, hl] using hheld

/-- A user copies or gives up a pointer. -/
lemma LifeInv.users (hs : LifeInv name ipPort s) (n : ℕ) (hc : s.Referenced c) :
    LifeInv name ipPort { s with users := Function.update s.users c n } := by
  refine hs.quiet hs.map rfl rfl rfl id rfl rfl rfl rfl (fun _ => rfl) fun d href => ?_
  by_cases hd : d = c
  · exact hd ▸ hc
  · refine href.imp_right (Or.imp_right (Or.imp_left fun h => ?_))
    simpa [hd] using h

/-- `~TcpServer()` begins. -/
lemma LifeInv.dying (hs : LifeInv name ipPort s) :
    LifeInv name ipPort { s with serverAlive := false } :=
  hs.quiet hs.map rfl rfl rfl (fun _ => rfl) rfl rfl rfl rfl (fun _ => rfl) fun _ => id

/-! ## The calls of threads -/

/-- A connection that is connected or disconnecting has been established. -/
lemma Lives.calls_ne_nil (h : Lives s c a ph)
    (hstate : s.state_ c = .kConnected ∨ s.state_ c = .kDisconnecting) :
    ∀ io base, ph.calls io base ≠ [] := by
  have hstates := h.state_
  cases ph with
  | connecting | orphanConnecting =>
    obtain hstate | hstate := hstate <;> simp [Phase.states, hstate] at hstates
  | _ => simp [Phase.calls]

/-- Only a connection that has been accepted is referenced. -/
lemma LifeInv.exists_of_referenced (hs : LifeInv name ipPort s) (hc : s.Referenced c) :
    ∃ a ph, s.server.accepted[c]? = some a ∧ Lives s c a ph := by
  obtain hlt | hge := Nat.lt_or_ge c s.server.accepted.length
  · have ha := List.getElem?_eq_getElem hlt
    obtain ⟨ph, hlives⟩ := hs.lives c _ ha
    exact ⟨_, ph, ha, hlives⟩
  · exact absurd hc (hs.unborn c hge).unreferenced

lemma Midway.setThread (h : Midway name ipPort s u c a) (th : ThreadId) (pc : ServerCallerPc)
    (hpc : ∀ d, pc.conn = some d → d = c) : Midway name ipPort s (u.setThread th pc) c a :=
  { h with concerns := h.concerns.trans (.setThread u th hpc) }

/-- A thread has seen that the connection is connected or disconnecting. -/
lemma LifeInv.load (hs : LifeInv name ipPort s) (hc : s.Referenced c)
    (hstate : s.state_ c = .kConnected ∨ s.state_ c = .kDisconnecting) {pc : ServerCallerPc}
    (hpc : pc.conn = some c) : LifeInv name ipPort (s.setThread th pc) := by
  obtain ⟨a, ph, ha, hlives⟩ := hs.exists_of_referenced hc
  have hmid := (Midway.start hs ha hc).setThread th pc
    fun d hd => Option.some.inj (hd.symm.trans hpc)
  exact hmid.finish hs hc { hlives.toInPhase with } hlives.orphan (hlives.calls_ne_nil hstate)

/-- A thread has stored `kDisconnecting` in time. -/
lemma LifeInv.store (hs : LifeInv name ipPort s) (hthread : (s.threads th).conn = some c)
    (htime : s.state_ c ≠ .kDisconnected) {pc : ServerCallerPc}
    (hpc : ∀ d, pc.conn = some d → d = c) :
    LifeInv name ipPort ((s.setState c .kDisconnecting).setThread th pc) := by
  have hc : s.Referenced c := .inr (.inr (.inr ⟨th, hthread⟩))
  obtain ⟨a, ph, ha, hlives⟩ := hs.exists_of_referenced hc
  have hmid := ((Midway.start hs ha hc).setState .kDisconnecting).setThread th pc hpc
  have hcalls := hlives.callers th hthread
  rw [hlives.calls] at hcalls
  have hstates := hlives.state_
  have hne : ∀ io base, ph.calls io base ≠ [] := by
    cases ph <;> simp [Phase.calls] at hcalls ⊢
  have hnew : StateE.kDisconnecting ∈ ph.states := by
    cases ph <;> simp [Phase.states, Phase.calls, htime] at hstates hcalls ⊢
  refine hmid.finish hs hc { hlives.toInPhase with state_ := ?_ } hlives.orphan hne
  simpa using hnew

/-- A thread has queued `forceCloseInLoop`. -/
lemma LifeInv.push (hs : LifeInv name ipPort s) (hthread : (s.threads th).conn = some c) :
    LifeInv name ipPort
      ((s.queueInLoop (s.ioLoop c) (.forceCloseInLoop c)).setThread th .idle) := by
  have hc : s.Referenced c := .inr (.inr (.inr ⟨th, hthread⟩))
  obtain ⟨a, ph, ha, hlives⟩ := hs.exists_of_referenced hc
  have hstart := Midway.start hs ha hc
  have hcalls := hlives.callers th hthread
  rw [hlives.calls] at hcalls
  have hne : ∀ io base, ph.calls io base ≠ [] := by
    cases ph <;> simp [Phase.calls] at hcalls ⊢
  rw [hstart.ioLoop_eq]
  have hmid := (hstart.queueInLoop (l := a.loop_) (f := .forceCloseInLoop c) rfl rfl).setThread
    th .idle (by simp [ServerCallerPc.conn])
  have hqueue (l : LoopId) : ((s.queueInLoop a.loop_ (.forceCloseInLoop c)).setThread th
      .idle).queue l = s.queue l ++ if l = a.loop_ then [.forceCloseInLoop c] else [] :=
    queue_queueInLoop s a.loop_ _ l
  refine hmid.finish hs hc { hlives.toInPhase with own := ?_, removal := ?_ } hlives.orphan hne
  · rw [hqueue, List.filter_append, hlives.own]
    simp [isOwn]
  · have hloop : ((s.queueInLoop a.loop_ (.forceCloseInLoop c)).setThread th
        .idle).server.loop_ = s.server.loop_ := rfl
    rw [hloop, hqueue, List.filter_append, hlives.removal]
    split <;> simp [isRemoval]

/-! ## The destruction of the server -/

/-- The phase after the destruction of the server. -/
def Phase.orphaned : Phase → Phase
  | .connecting => .orphanConnecting
  | .up => .orphanUp
  | .closed => .orphanClosed
  | ph => ph

/-- The destruction of the server adds a `connectDestroyed` to what waits for the connection. -/
lemma Phase.orphaned_spec (ph : Phase) (h : ph.inConnections = true) (c : ConnId) :
    (∀ io base, ph.orphaned.calls io base = ph.calls io base) ∧
      ph.orphaned.own c = ph.own c ++ [.connectDestroyed c] ∧
      ph.orphaned.removal c = ph.removal c ∧ ph.orphaned.inConnections = false ∧
      ph.orphaned.index = ph.index ∧ ph.orphaned.states = ph.states ∧
      ph.orphaned.waiting = ph.waiting := by
  cases ph with
  | connecting | up | closed => exact ⟨fun _ _ => rfl, rfl, rfl, rfl, rfl, rfl, rfl⟩
  | _ => simp [Phase.inConnections] at h

/-- One turn of the loop in `~TcpServer()`. -/
lemma LifeInv.destroyConnection (hs : LifeInv name ipPort s) (hipPort : ipPort.length ≤ 47)
    (hdead : s.serverAlive = false) (hin : s.InConnections c) :
    LifeInv name ipPort (s.destroyConnection c) ∧
      Concerns c s (s.destroyConnection c) ∧
      (s.destroyConnection c).serverAlive = s.serverAlive ∧
      (s.destroyConnection c).fault = s.fault := by
  obtain ⟨a, ph, ha, hlives⟩ := hs.exists_of_referenced (.inl hin)
  have hc : s.Referenced c := .inl hin
  obtain ⟨hmid, hmap, hqueue, hcalls, hstate, htables, hthreads, hfault⟩ :=
    (Midway.start hs ha hc).erase hipPort
  have hphase := hlives.inConnections.mp hin
  have hloop : (s.erase c).server.loop_ = s.server.loop_ := hmid.concerns.loop_
  simp only [ServerLoops.destroyConnection, hmid.ioLoop_eq, hloop]
  split
  · rename_i hbase
    obtain ⟨hmid', hdoes, hstate'⟩ := hmid.connectDestroyed
    have hnot : ¬ ((s.erase c).connectDestroyed a.loop_ c).InConnections c := by
      rw [InConnections, hdoes.server]
      exact hmap
    have hown : (((s.erase c).connectDestroyed a.loop_ c).queue a.loop_).filter (isOwn c) =
        ph.own c := by rw [hdoes.queue, hqueue, hlives.own]
    have hremoval : (((s.erase c).connectDestroyed a.loop_ c).queue
        ((s.erase c).connectDestroyed a.loop_ c).server.loop_).filter (isRemoval c) =
          ph.removal c := by rw [hdoes.server, hloop, hdoes.queue, hqueue, hlives.removal]
    have hdone : ((s.erase c).connectDestroyed a.loop_ c).calls c =
        ph.calls a.loop_ s.server.loop_ ++ [(a.loop_, .connectDestroyed)] := by
      rw [hdoes.calls, hcalls, hlives.calls]
    have hstates := hlives.state_
    refine ⟨?_, hmid'.concerns, hmid'.alive, hdoes.fault.trans hfault⟩
    cases ph with
    | connecting => exact absurd hbase (hlives.remote rfl)
    | up =>
      have hleft : (if s.state_ c = .kConnected then .kDisconnected else s.state_ c) ∈
          [StateE.kDisconnected, .kDisconnecting] := by
        obtain h | h : s.state_ c = .kConnected ∨ s.state_ c = .kDisconnecting := by
          simpa [Phase.states] using hstates
        · simp [h]
        · simp [h]
      have hph : InPhase ((s.erase c).connectDestroyed a.loop_ c) c a .orphanGone := by
        refine ⟨hdone, hown, hremoval, iff_of_false hnot (by simp [Phase.inConnections]),
          hdoes.index, ?_⟩
        rw [hstate', hstate]
        exact hleft
      exact hmid'.finish hs hc hph (fun _ => hmid'.alive.trans hdead) (by simp [Phase.calls])
    | closed =>
      have hdisconnected : s.state_ c = .kDisconnected := by simpa [Phase.states] using hstates
      have hph : InPhase ((s.erase c).connectDestroyed a.loop_ c) c a .orphanClosedGone := by
        refine ⟨hdone, hown, hremoval, iff_of_false hnot (by simp [Phase.inConnections]),
          hdoes.index, ?_⟩
        rw [hstate', hstate, hdisconnected]
        simp [Phase.states]
      exact hmid'.finish hs hc hph (fun _ => hmid'.alive.trans hdead) (by simp [Phase.calls])
    | _ => simp [Phase.inConnections] at hphase
  · have hmid' := hmid.queueInLoop (l := a.loop_) (f := .connectDestroyed c) rfl rfl
    have hqueue' (l : LoopId) : ((s.erase c).queueInLoop a.loop_ (.connectDestroyed c)).queue l =
        s.queue l ++ if l = a.loop_ then [.connectDestroyed c] else [] := by
      rw [queue_queueInLoop, hqueue]
    obtain ⟨hcalls', hown, hremoval, hnot, hindex, hstates, hwaiting⟩ := ph.orphaned_spec hphase c
    refine ⟨?_, hmid'.concerns, hmid'.alive, hfault⟩
    suffices hnew : Lives ((s.erase c).queueInLoop a.loop_ (.connectDestroyed c)) c a
        ph.orphaned from hmid'.finish_lives hs hc hnew
    refine
      { calls := ?_, own := ?_, removal := ?_, inConnections := iff_of_false hmap (by simp [hnot])
        index := ?_, state_ := ?_, orphan := fun _ => hmid'.alive.trans hdead
        remote := ?_, home := ?_, elsewhere := hmid'.elsewhere, fd_ := hmid'.fd_
        callers := ?_, forced := ?_ }
    · rw [queueInLoop_calls, hcalls, queueInLoop_server, hloop, hcalls', hlives.calls]
    · rw [hqueue', List.filter_append, hlives.own, hown]
      simp [isOwn]
    · rw [queueInLoop_server, hloop, hqueue', List.filter_append, hlives.removal, hremoval]
      split <;> simp [isRemoval]
    · rw [queueInLoop_tables, htables, hindex, hlives.index]
    · rw [queueInLoop_state_, hstate, hstates]
      exact hlives.state_
    · rw [hwaiting, queueInLoop_server, hloop]
      exact hlives.remote
    · rw [queueInLoop_server, hloop]
      exact hmid'.home
    · rw [queueInLoop_calls, hcalls]
      intro th hth
      rw [queueInLoop_threads, hthreads] at hth
      exact hlives.callers th hth
    · intro l hf
      rw [hqueue'] at hf
      rw [queueInLoop_calls, hcalls]
      obtain hold | hnew := List.mem_append.mp hf
      · exact hlives.forced l hold
      · split at hnew <;> simp at hnew

/-- `~TcpServer()`. -/
lemma LifeInv.destroyServer (hs : LifeInv name ipPort s) (hipPort : ipPort.length ≤ 47)
    {order : List ConnId} (hnodup : order.Nodup) (hin : ∀ c ∈ order, s.InConnections c) :
    LifeInv name ipPort (s.destroyServer order) ∧ (s.destroyServer order).fault = s.fault ∧
      (s.destroyServer order).serverAlive = false := by
  have hrun : ∀ u : ServerLoops, LifeInv name ipPort u → u.serverAlive = false →
      (∀ c ∈ order, u.InConnections c) →
      LifeInv name ipPort (order.foldl ServerLoops.destroyConnection u) ∧
        (order.foldl ServerLoops.destroyConnection u).fault = u.fault ∧
        (order.foldl ServerLoops.destroyConnection u).serverAlive = false := by
    clear hin
    induction order with
    | nil => exact fun u hu hdead _ => ⟨hu, rfl, hdead⟩
    | cons c order ih =>
      intro u hu hdead hin
      obtain ⟨hhead, htail⟩ := List.nodup_cons.mp hnodup
      obtain ⟨hinv, hconcerns, halive, hfault⟩ :=
        hu.destroyConnection hipPort hdead (hin c List.mem_cons_self)
      have hrest (d : ConnId) (hd : d ∈ order) : (u.destroyConnection c).InConnections d := by
        have hne : d ≠ c := fun heq => hhead (heq ▸ hd)
        exact (hconcerns.inConnections d hne).mpr (hin d (List.mem_cons_of_mem c hd))
      obtain ⟨hlast, hsame, hstill⟩ := ih htail _ hinv (halive.trans hdead) hrest
      exact ⟨hlast, hsame.trans hfault, hstill⟩
  exact hrun { s with serverAlive := false } hs.dying rfl hin

/-! ## A new connection -/

/-- A connection is added to those that have been accepted. -/
lemma LifeInv.of_new (hs : LifeInv name ipPort s) (h : Frame s.server.accepted.length s t)
    (haccepted : t.server.accepted = s.server.accepted ++ [a])
    (halive : t.serverAlive = s.serverAlive) (hmap : TcpServer.MapInv name ipPort t.server)
    (hfew : t.server.accepted.length < 2 ^ 31 - 1) (hkept : ∀ l, Kept (t.tables l))
    (hlives : Lives t s.server.accepted.length a ph)
    (hfresh : ∀ d b, s.server.accepted[d]? = some b → s.Referenced d → b.sockfd ≠ a.sockfd) :
    LifeInv name ipPort t := by
  have hold (d : ConnId) (b : AcceptedConnection) (hb : t.server.accepted[d]? = some b) :
      s.server.accepted[d]? = some b ∧ d ≠ s.server.accepted.length ∨
        d = s.server.accepted.length ∧ b = a := by
    rw [haccepted] at hb
    obtain hlt | heq | hgt := Nat.lt_trichotomy d s.server.accepted.length
    · rw [List.getElem?_append_left hlt] at hb
      exact .inl ⟨hb, hlt.ne⟩
    · subst heq
      simp only [List.getElem?_concat_length, Option.some.injEq] at hb
      exact .inr ⟨rfl, hb.symm⟩
    · rw [List.getElem?_eq_none (List.length_append.trans_le hgt)] at hb
      cases hb
  refine ⟨hmap, hfew, hkept, fun d b hb => ?_, fun d hd => ?_, fun d e b b' hb hb' hd he heq => ?_⟩
  · obtain ⟨hb, hne⟩ | ⟨rfl, rfl⟩ := hold d b hb
    · exact (hs.lives d b hb).imp fun _ => h.lives hne halive
    · exact ⟨ph, hlives⟩
  · rw [haccepted, List.length_append, List.length_singleton] at hd
    exact h.unborn (Nat.ne_of_gt hd) (hs.unborn d (Nat.le_of_succ_le hd))
  · obtain ⟨hb, hne⟩ | ⟨rfl, rfl⟩ := hold d b hb
    · obtain ⟨hb', hne'⟩ | ⟨rfl, rfl⟩ := hold e b' hb'
      · exact hs.distinct d e b b' hb hb' (h.referenced d hne hd) (h.referenced e hne' he) heq
      · exact absurd heq (hfresh d b hb (h.referenced d hne hd))
    · obtain ⟨hb', hne'⟩ | ⟨rfl, rfl⟩ := hold e b' hb'
      · exact absurd heq.symm (hfresh e b' hb' (h.referenced e hne' he))
      · rfl

/-- The state in which the new connection has been constructed and put into the map. -/
def constructed (s : ServerLoops) (sockfd : ℕ) : ServerLoops :=
  let c := s.server.accepted.length
  let ioLoop := s.server.threadPool_.getNextLoop.1
  let table := s.tables ioLoop
  { s with
    server := s.server.newConnection sockfd
    state_ := Function.update s.state_ c .kConnecting
    tables := Function.update s.tables ioLoop
      { table with channels := Function.update table.channels c (Channel.new c sockfd) } }

variable {sockfd : ℕ}

lemma newConnection_eq (s : ServerLoops) (sockfd : ℕ) :
    s.newConnection sockfd =
      if s.server.threadPool_.getNextLoop.1 = s.server.loop_ then
        (s.constructed sockfd).connectEstablished s.server.threadPool_.getNextLoop.1
          s.server.accepted.length
      else (s.constructed sockfd).queueInLoop s.server.threadPool_.getNextLoop.1
        (.connectEstablished s.server.accepted.length) := rfl

lemma LifeInv.frame_constructed (hs : LifeInv name ipPort s) (hipPort : ipPort.length ≤ 47)
    (hfew : s.server.accepted.length + 1 < 2 ^ 31 - 1) (sockfd : ℕ) :
    Frame s.server.accepted.length s (s.constructed sockfd) := by
  have hmap := hs.map.newConnection hipPort hfew sockfd
  have hin (d : ConnId) (hd : d ≠ s.server.accepted.length) :
      (s.constructed sockfd).InConnections d ↔ s.InConnections d := by
    constructor
    · rintro ⟨b, hb, hconn⟩
      have hb' : s.server.accepted[d]? = some b := by
        obtain hlt | hge := Nat.lt_or_ge d s.server.accepted.length
        · exact (List.getElem?_append_left hlt).symm.trans hb
        · rw [constructed, TcpServer.newConnection] at hb
          have hgt : s.server.accepted.length < d := Nat.lt_of_le_of_ne hge hd.symm
          rw [List.getElem?_eq_none (List.length_append.trans_le hgt)] at hb
          cases hb
      refine ⟨b, hb', (hs.map.connections_ _ _).mpr ⟨?_, b, hb', rfl⟩⟩
      exact ((hmap.connections_ _ _).mp hconn).1
    · rintro ⟨b, hb, hconn⟩
      have hlt := (List.getElem?_eq_some_iff.mp hb).1
      have hb' : (s.constructed sockfd).server.accepted[d]? = some b :=
        (List.getElem?_append_left hlt).trans hb
      exact ⟨b, hb', (hmap.connections_ _ _).mpr
        ⟨((hs.map.connections_ _ _).mp hconn).1, b, hb', rfl⟩⟩
  refine { loop_ := rfl, calls := fun _ _ => rfl, state_ := fun d hd => Function.update_of_ne hd _ _
           channels := fun d hd l => ?_, queue := fun _ _ _ => rfl, inConnections := hin
           threads := fun _ _ _ => id, referenced := fun d hd h => h.imp_left (hin d hd).mp }
  by_cases hl : l = s.server.threadPool_.getNextLoop.1
  · subst hl
    simp [constructed, hd]
  · simp [constructed, hl]

/-- The new connection is ready for its first call. -/
lemma LifeInv.midway_constructed (hs : LifeInv name ipPort s) (hipPort : ipPort.length ≤ 47)
    (hfew : s.server.accepted.length + 1 < 2 ^ 31 - 1)
    (hok : s.Allowed (.newConnection sockfd)) :
    Midway name ipPort (s.constructed sockfd) (s.constructed sockfd) s.server.accepted.length
      ⟨s.server.threadPool_.getNextLoop.1, s.server.connName, sockfd⟩ := by
  have hunborn := hs.unborn s.server.accepted.length le_rfl
  have hframe := hs.frame_constructed hipPort hfew sockfd
  have hchannel : ((s.constructed sockfd).tables s.server.threadPool_.getNextLoop.1).channels
      s.server.accepted.length = Channel.new s.server.accepted.length sockfd := by
    simp [constructed]
  refine { alone := fun q hne hindex => ?_, accepted := List.getElem?_concat_length
           few := List.length_append.trans_lt hfew, concerns := Concerns.refl _ _, alive := rfl
           map := hs.map.newConnection hipPort hfew sockfd, kept := fun l => ?_
           home := fun l f hf hconn => ?_, elsewhere := fun l hl => ?_
           fd_ := by rw [hchannel]; rfl }
  · rw [hframe.channels q hne] at hindex ⊢
    obtain ⟨b, hb, href, hfd⟩ := hs.exists_of_index hindex
    rw [hfd]
    exact fun heq => hok q b hb href (Int.ofNat_inj.mp heq)
  · by_cases hl : l = s.server.threadPool_.getNextLoop.1
    · subst hl
      simpa [constructed] using (hs.kept _).construct (hunborn.index _) (sockfd : Fd)
    · simpa [constructed, hl] using hs.kept l
  · exact absurd (hconn ▸ Referenced.of_queue hf) hunborn.unreferenced
  · have hl' : l ≠ s.server.threadPool_.getNextLoop.1 := hl
    simpa [constructed, hl'] using hunborn.index l

/-- `newConnection`, on the base loop or on another one. -/
lemma LifeInv.newConnection (hs : LifeInv name ipPort s) (hipPort : ipPort.length ≤ 47)
    (hnumber : s.server.nextConnId_ < intMax) (hok : s.Allowed (.newConnection sockfd)) :
    LifeInv name ipPort (s.newConnection sockfd) ∧ (s.newConnection sockfd).fault = s.fault := by
  have hfew : s.server.accepted.length + 1 < 2 ^ 31 - 1 := by
    rw [hs.map.nextConnId_, intMax] at hnumber
    omega
  have hunborn := hs.unborn s.server.accepted.length le_rfl
  have hframe := hs.frame_constructed hipPort hfew sockfd
  have hmap := hs.map.newConnection hipPort hfew sockfd
  have hin : (s.constructed sockfd).InConnections s.server.accepted.length := by
    have haccepted : (s.constructed sockfd).server.accepted[s.server.accepted.length]? =
        some ⟨s.server.threadPool_.getNextLoop.1, s.server.connName, sockfd⟩ :=
      List.getElem?_concat_length
    exact ⟨_, haccepted, Function.update_self _ _ _⟩
  have hmid := hs.midway_constructed hipPort hfew hok
  have hnone (l : LoopId) (p : ServerFunctor → Bool)
      (hp : ∀ f, p f = true → f.conn = s.server.accepted.length) :
      ((s.constructed sockfd).queue l).filter p = [] := by
    refine List.filter_eq_nil_iff.mpr fun f hf hpf => hunborn.unreferenced ?_
    exact hp f hpf ▸ Referenced.of_queue hf
  have hnoOwn (l : LoopId) := hnone l (isOwn s.server.accepted.length)
    fun f hf => by obtain rfl | rfl := of_decide_eq_true hf <;> rfl
  have hnoRemoval (l : LoopId) := hnone l (isRemoval s.server.accepted.length)
    fun f hf => by rw [of_decide_eq_true hf]; rfl
  have hnew : (((s.constructed sockfd).tables s.server.threadPool_.getNextLoop.1).channels
      s.server.accepted.length).index_ = .kNew := by simp [constructed, Channel.new]
  have hfew' : (s.constructed sockfd).server.accepted.length < 2 ^ 31 - 1 :=
    List.length_append.trans_lt hfew
  rw [newConnection_eq]
  split
  · -- the base loop calls `connectEstablished` at once
    obtain ⟨hmid', hdoes, hstate⟩ := hmid.connectEstablished hnew
    have hph : InPhase ((s.constructed sockfd).connectEstablished
        s.server.threadPool_.getNextLoop.1 s.server.accepted.length) s.server.accepted.length
        ⟨s.server.threadPool_.getNextLoop.1, s.server.connName, sockfd⟩ .up := by
      refine ⟨?_, ?_, ?_, ?_, hdoes.index, by simp [hstate, Phase.states]⟩
      · rw [hdoes.calls]
        exact congrArg (· ++ _) hunborn.calls
      · rw [hdoes.queue]
        exact hnoOwn _
      · rw [hdoes.queue]
        exact hnoRemoval _
      · rw [InConnections, hdoes.server]
        exact iff_of_true hin rfl
    refine ⟨hs.of_new (hframe.trans hmid'.concerns.toFrame)
      (hmid'.concerns.accepted.trans rfl) (hmid'.alive.trans rfl) hmid'.map
      (hmid'.concerns.accepted ▸ hfew') hmid'.kept
      (hmid'.lives hph (by simp [Phase.orphan]) (by simp [Phase.calls])) hok, hdoes.fault⟩
  · rename_i hremote
    have hmid' := hmid.queueInLoop (l := s.server.threadPool_.getNextLoop.1)
      (f := .connectEstablished s.server.accepted.length) rfl rfl
    have hcalls : (s.constructed sockfd).calls s.server.accepted.length = [] := hunborn.calls
    suffices hlives : Lives ((s.constructed sockfd).queueInLoop s.server.threadPool_.getNextLoop.1
        (.connectEstablished s.server.accepted.length)) s.server.accepted.length
        ⟨s.server.threadPool_.getNextLoop.1, s.server.connName, sockfd⟩ .connecting from
      ⟨hs.of_new (hframe.trans hmid'.concerns.toFrame) rfl rfl hmid'.map hfew' hmid'.kept hlives
        hok, rfl⟩
    refine { calls := hcalls, own := ?_, removal := ?_, inConnections := iff_of_true hin rfl
             index := hnew, state_ := ?_, orphan := by simp [Phase.orphan]
             remote := fun _ => hremote
             home := hmid'.home, elsewhere := hmid'.elsewhere, fd_ := hmid'.fd_
             callers := fun th hth => ?_, forced := fun l hf => ?_ }
    · rw [queue_queueInLoop, List.filter_append, hnoOwn]
      simp [isOwn, Phase.own]
    · rw [queue_queueInLoop, List.filter_append, hnoRemoval]
      split <;> simp [isRemoval, Phase.removal]
    · simp [constructed, Phase.states]
    · exact absurd (.inr (.inr (.inr ⟨th, hth⟩))) hunborn.unreferenced
    · rw [queue_queueInLoop] at hf
      obtain hold | hpushed := List.mem_append.mp hf
      · exact absurd (Referenced.of_queue (s := s) hold) hunborn.unreferenced
      · split at hpushed <;> simp at hpushed

/-! ## All steps -/

/-- The loop of a connection handles the end of its input. -/
lemma LifeInv.handleClose (hs : LifeInv name ipPort s) (hipPort : ipPort.length ≤ 47)
    (hcan : s.CanHandle c)
    (hok : (s.handleClose (s.ioLoop c) c).fault = some .useAfterFree → s.serverAlive = true) :
    LifeInv name ipPort (s.handleClose (s.ioLoop c) c) ∧
      (s.handleClose (s.ioLoop c) c).fault = s.fault := by
  obtain ⟨-, -, hregistered⟩ := hcan
  obtain ⟨entry, hset, hdata⟩ := Option.map_eq_some_iff.mp hregistered
  obtain ⟨-, hadded, -⟩ := (hs.kept _).of_interest hset
  rw [hdata] at hadded
  have hknown : ((s.tables (s.ioLoop c)).channels c).index_ ≠ .kNew := by simp [hadded]
  obtain ⟨a, ha, href, -⟩ := hs.exists_of_index hknown
  obtain ⟨ph, hlives⟩ := hs.lives c a ha
  have hmid := Midway.start hs ha href
  rw [hmid.ioLoop_eq] at hok hadded ⊢
  have halive : s.serverAlive = true := by
    by_contra hdead
    exact hdead (hok (handleClose_of_dead (Bool.eq_false_iff.mpr hdead) _ _))
  have hindex := hlives.index
  have horphan := hlives.orphan
  rw [hadded] at hindex
  obtain rfl : ph = .up := by
    cases ph <;> simp [Phase.index, Phase.orphan, halive] at hindex horphan
    rfl
  exact hmid.handleClose hs href hipPort halive hlives.toInPhase

/-- Every step either keeps the invariant or uses the destroyed server. -/
lemma LifeInv.step (hs : LifeInv name ipPort s) (hipPort : ipPort.length ≤ 47)
    (hok : s.Allowed e) (h : s.step e = some t)
    (hfault : t.fault = some .useAfterFree → s.serverAlive = true) :
    LifeInv name ipPort t ∧ t.fault = none := by
  obtain ⟨hnone, h⟩ := Option.ite_none_right_eq_some.mp h
  cases e with
  | configure e =>
    have hserver (he : ∀ sockfd, e ≠ .newConnection sockfd)
        (he' : ∀ c, e ≠ .removeConnectionInLoop c)
        (h : (if s.serverAlive = true then (s.server.step e).map fun server => { s with server }
          else none) = some t) : LifeInv name ipPort t ∧ t.fault = none := by
      obtain ⟨-, hmap⟩ := Option.ite_none_right_eq_some.mp h
      obtain ⟨server, hstep, rfl⟩ := Option.map_eq_some_iff.mp hmap
      exact ⟨hs.configure hipPort he he' hstep, hnone⟩
    cases e with
    | newConnection sockfd => cases h
    | removeConnectionInLoop c => cases h
    | setThreadNum | start | startThreadPool | getNextLoop =>
      exact hserver (by simp) (by simp) h
  | newConnection sockfd =>
    obtain ⟨⟨-, -, hnumber⟩, rfl⟩ := by simpa [act] using h
    obtain ⟨hinv, hsame⟩ := hs.newConnection hipPort hnumber hok
    exact ⟨hinv, hsame.trans hnone⟩
  | handleClose c =>
    obtain ⟨⟨-, hcan⟩, rfl⟩ := by simpa [act] using h
    obtain ⟨hinv, hsame⟩ := hs.handleClose hipPort hcan hfault
    exact ⟨hinv, hsame.trans hnone⟩
  | swap l =>
    obtain ⟨⟨hidle, -⟩, rfl⟩ := by simpa [act] using h
    exact ⟨hs.swap hidle, hnone⟩
  | runFunctor l =>
    rw [act] at h
    split at h
    · cases h
    · rename_i f rest hfunctors
      obtain rfl := Option.some.inj h
      cases f with
      | connectEstablished c =>
        exact (hs.run_connectEstablished hfunctors).imp_right fun h => h.trans hnone
      | connectDestroyed c =>
        exact (hs.run_connectDestroyed hfunctors).imp_right fun h => h.trans hnone
      | removeConnectionInLoop c =>
        exact (hs.run_removeConnectionInLoop hipPort hfunctors hfault).imp_right
          fun h => h.trans hnone
      | forceCloseInLoop c =>
        exact (hs.run_forceCloseInLoop hipPort hfunctors hfault).imp_right fun h => h.trans hnone
  | finish l =>
    obtain ⟨-, rfl⟩ := by simpa [act] using h
    exact ⟨hs.finish l, hnone⟩
  | shutdownLoad th c =>
    obtain ⟨-, h⟩ := Option.ite_none_right_eq_some.mp h
    split at h
    · obtain rfl := Option.some.inj h
      exact ⟨hs.load hok (.inl ‹_›) rfl, hnone⟩
    · obtain rfl := Option.some.inj h
      exact ⟨hs, hnone⟩
  | shutdownStore th =>
    rw [act] at h
    split at h
    · rename_i c hthread
      obtain rfl := Option.some.inj h
      have hconn : (s.threads th).conn = some c := by rw [hthread]; rfl
      exact ⟨hs.store hconn (hok c hconn) (by simp [ServerCallerPc.conn]), hnone⟩
    · cases h
  | forceCloseLoad th c =>
    obtain ⟨-, h⟩ := Option.ite_none_right_eq_some.mp h
    split at h
    · obtain rfl := Option.some.inj h
      exact ⟨hs.load hok ‹_› rfl, hnone⟩
    · obtain rfl := Option.some.inj h
      exact ⟨hs, hnone⟩
  | forceCloseStore th =>
    rw [act] at h
    split at h
    · rename_i c hthread
      obtain rfl := Option.some.inj h
      have hconn : (s.threads th).conn = some c := by rw [hthread]; rfl
      exact ⟨hs.store hconn (hok c hconn) (by simp [ServerCallerPc.conn, eq_comm]), hnone⟩
    · cases h
  | forceClosePush th =>
    rw [act] at h
    split at h
    · rename_i c hthread
      obtain rfl := Option.some.inj h
      exact ⟨hs.push (by rw [hthread]; rfl), hnone⟩
    · cases h
  | hold c =>
    obtain rfl := Option.some.inj h
    exact ⟨hs.users _ hok, hnone⟩
  | drop c =>
    obtain ⟨hpos, rfl⟩ := by simpa [act] using h
    exact ⟨hs.users _ (.inr (.inr (.inl hpos))), hnone⟩
  | destroyServer order =>
    obtain ⟨⟨-, hnodup, hin, -⟩, rfl⟩ := by simpa [act] using h
    obtain ⟨hinv, hsame, -⟩ := hs.destroyServer hipPort hnodup hin
    exact ⟨hinv, hsame.trans hnone⟩

end ServerLoops

end SimpleMuduo
