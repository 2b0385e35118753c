import SimpleMuduo.Peers.Stream
import SimpleMuduo.TcpConnection.Drain

/-!
# Everything can be delivered

No state is a dead end for the bytes that are under way: as long as both ends are open and between
two turns of their loops, there are turns in which the sender's `outputBuffer_` is written and the
receiver reads all that is on the wire, however little its two vectors hold at a time.
-/

namespace SimpleMuduo

/-- A kernel in which `::readv` finds these bytes. -/
def Kernel.delivers (arrived : Bytes) : Kernel where
  write := .error EWOULDBLOCK
  readv := .ok arrived
  shutdown := none

namespace World

variable {w w' : World} {arrived : Bytes}

/-- The connection has got from `w` to `w'` by reading a message. -/
structure Read (w w' : World) : Prop where
  fault : w'.fault = none
  atPoll : w'.AtPoll
  history : w'.history = .messageCallback :: w.history
  settings : w'.settings = w.settings

/-- A message is read by `handleRead` when the message callback is set. -/
lemma HandleRead.read (hfault : w.fault = none) (hpoll : w.AtPoll)
    (hset : w.messageCallback_ = true) (harrived : arrived ≠ [])
    (h : HandleRead w (.delivers arrived) w') : w.Read w' := by
  cases h with
  | failed errno result => simp [Kernel.delivers] at result
  | message inputBuffer => exact ⟨by simp [hset, hfault], hpoll, rfl, rfl⟩
  | closed inputBuffer result => exact absurd (Except.ok.inj result) harrived

end World

/-- A turn of the loop in which the socket is reported readable and `::readv` finds these bytes. -/
def readableTurn (arrived : Bytes) : List Event :=
  [.poll EPOLLIN, .handleEvent, .runCall (.delivers arrived)]

namespace Peers

variable {s s' : Peers} {p q : Peer} {e : Event} {w' : World} {ev : PeerEvent}

/-! ## Steps between the ends and the wires -/

/-- The connection of `p` is in the world `w`. -/
def setConn (s : Peers) (p : Peer) (w : World) : Peers :=
  { s with conn := Function.update s.conn p w }

/-- A step of the connection that neither reads nor records anything does not reach the wires. -/
lemma step_of_silent (hs : s.KnowsFin) (alive : s.gone p = false)
    (h : (s.conn p).step e = some w') (hread : (s.conn p).readvIn e = none)
    (hhistory : w'.history = (s.conn p).history) :
    s.step (.step p e) = some (s.setConn p w') := by
  have hfault : (s.conn p).fault = none := (World.step_eq_some h).1
  have haccepts : (s.conn p).accepts w' = [] := World.accepts_eq_nil (by rw [hhistory])
  have hconsistent : s.Consistent p e w' := ⟨by simp [hread], fun _ => haccepts⟩
  have hdelivered : (s.conn p).delivered e = [] := by simp [World.delivered, hread]
  have hend : (s.conn p).readsEnd e = false := by simp [World.readsEnd, hread]
  have hsent : w'.sentFin = true → (s.wire p).finished = true := by
    intro hsent
    refine hs.sent p ?_
    have hfin : w'.HalfClosed := by simp [World.sentFin] at hsent; exact hsent.1
    have hfin : (s.conn p).HalfClosed := by rwa [World.HalfClosed, hhistory] at hfin
    simp [World.sentFin, hfin, hfault]
  have hafter : s.after p e w' = s.setConn p w' := by
    have hwire : (s.after p e w').wire = s.wire := by
      funext q
      rcases p.eq_or_eq_other q with rfl | rfl
      · rw [after_wire_self, haccepts, List.append_nil]
        cases hw : w'.sentFin with
        | true => simp [← hsent hw]
        | false => simp
      · rw [after_wire_other, hdelivered]
        rfl
    have hsaw : (s.after p e w').sawEnd = s.sawEnd := by
      simp [after, hend]
    have hall : s.after p e w' = ⟨(s.setConn p w').conn, (s.after p e w').wire, s.retrieved,
      (s.after p e w').sawEnd, s.gone⟩ := rfl
    rw [hall, hwire, hsaw]
    rfl
  simp [step, alive, h, hconsistent, hafter]

@[simp] lemma setConn_conn_self (w : World) : (s.setConn p w).conn p = w :=
  Function.update_self _ _ _

@[simp] lemma setConn_conn_other (w : World) : (s.setConn p w).conn p.other = s.conn p.other :=
  Function.update_of_ne p.other_ne _ _

@[simp] lemma setConn_setConn (w w' : World) : (s.setConn p w).setConn p w' = s.setConn p w' := by
  simp [setConn]

/-- The end `p` is open and between two turns of its loop. -/
structure Able (s : Peers) (p : Peer) : Prop where
  alive : s.gone p = false
  fault : (s.conn p).fault = none
  openInv : (s.conn p).OpenInv
  open_ : ¬ (s.conn p).Closed
  atPoll : (s.conn p).AtPoll

/-- In a turn of the loop of `p` only the callback gets in touch with the wires. -/
lemma exec_turn (hs : s.KnowsFin) (hp : s.Able p) {revents : EventMask}
    (hasked : revents &&& (s.conn p).channel_.channel.events_ = revents) (k : Kernel) :
    exec step s ([.poll revents, .handleEvent, .runCall k].map (.step p)) =
      (s.setConn p { s.conn p with
        channel_ := (s.conn p).channel_.set_revents revents
        active := false
        todo := World.callbacksFor revents }).step (.step p (.runCall k)) := by
  obtain ⟨hpolled, hhandled⟩ :=
    World.step_poll_handleEvent hp.openInv hp.open_ hp.fault hp.atPoll hasked
  have hfirst := step_of_silent hs hp.alive hpolled rfl rfl
  have hsecond := step_of_silent (hs.step hfirst) (p := p) (e := .handleEvent) hp.alive
    (by rw [setConn_conn_self]; exact hhandled) rfl (by rw [setConn_conn_self])
  rw [setConn_setConn] at hsecond
  simp only [List.map_cons, List.map_nil, exec_cons, exec_nil, hfirst, hsecond, Option.bind_some,
    Option.bind_fun_some]

/-- A turn of the loop of `p` in which its kernel takes `n` bytes puts them on the wire. -/
lemma exec_writableTurn (hs : s.KnowsFin) (hp : s.Able p) (hfin : (s.wire p).finished = false)
    {n : ℕ} (hpos : 0 < n) (hn : n ≤ (s.conn p).outputBuffer_.readableBytes) :
    ∃ s', exec step s ((writableTurn n).map (.step p)) = some s' ∧ s'.Able p ∧
      (s.conn p).Wrote (s'.conn p) n ∧ s'.conn p.other = s.conn p.other ∧ s'.gone = s.gone := by
  obtain ⟨w', hrun, hwrote⟩ :=
    World.exec_writableTurn hp.openInv hp.open_ hp.fault hp.atPoll hpos hn
  have hasked := World.asked_of_pending (hp.openInv.asks hp.open_) (by omega)
  obtain ⟨hpolled, hhandled⟩ :=
    World.step_poll_handleEvent hp.openInv hp.open_ hp.fault hp.atPoll hasked
  set v : World := { s.conn p with
    channel_ := (s.conn p).channel_.set_revents EPOLLOUT
    active := false
    todo := World.callbacksFor EPOLLOUT } with hv
  have hcalled : v.step (.runCall (.takes n)) = some w' := by
    simpa [writableTurn, hpolled, hhandled] using hrun
  have hopenInv : w'.OpenInv :=
    invariant_of_exec (fun _ _ _ hw h => hw.step (World.step_eq_some h).2) hp.openInv hrun
  have hread : v.readvIn (.runCall (.takes n)) = none := by
    simp [World.readvIn, hv, show World.callbacksFor EPOLLOUT = [.handleWrite] by decide]
  have hconsistent : (s.setConn p v).Consistent p (.runCall (.takes n)) w' := by
    refine ⟨?_, fun hfinished => absurd (hfin.symm.trans hfinished) Bool.false_ne_true⟩
    rw [setConn_conn_self, hread]
    simp
  have hlast : (s.setConn p v).step (.step p (.runCall (.takes n))) =
      some ((s.setConn p v).after p (.runCall (.takes n)) w') := by
    have halive : (s.setConn p v).gone p = false := hp.alive
    simp [step, halive, hcalled, hconsistent]
  refine ⟨_, (exec_turn hs hp hasked _).trans hlast, ?_, ?_, ?_, rfl⟩
  · refine ⟨hp.alive, ?_, ?_, ?_, ?_⟩ <;> rw [after_conn_self]
    · exact hwrote.fault
    · exact hopenInv
    · exact fun hclosed => hp.open_ (hwrote.closed hclosed)
    · exact hwrote.atPoll
  · rw [after_conn_self]
    exact hwrote
  · rw [after_conn_other, setConn_conn_other]

/-- `p` can read: it is open between two turns of its loop, and has a message callback. -/
structure CanRead (s : Peers) (p : Peer) : Prop where
  able : s.Able p
  messageCallback_ : (s.conn p).messageCallback_ = true

/-- A turn of the loop of `p` in which everything on the wire has arrived takes some of it. -/
lemma exec_readableTurn (hs : s.KnowsFin) (hp : s.CanRead p)
    (hunread : (s.wire p.other).unread ≠ []) :
    ∃ s', exec step s ((readableTurn (s.wire p.other).unread).map (.step p)) = some s' ∧
      s'.CanRead p ∧ (s'.wire p.other).unread.length < (s.wire p.other).unread.length ∧
      s'.conn p.other = s.conn p.other := by
  set arrived := (s.wire p.other).unread with harrived
  have hasked : EPOLLIN &&& (s.conn p).channel_.channel.events_ = EPOLLIN := by
    rw [BitVec.and_comm, show EPOLLIN = BitVec.twoPow 32 0 by decide, BitVec.and_twoPow,
      if_pos (hp.able.openInv.listens hp.able.open_).2]
  obtain ⟨hpolled, hhandled⟩ := World.step_poll_handleEvent hp.able.openInv hp.able.open_
    hp.able.fault hp.able.atPoll hasked
  set v : World := { s.conn p with
    channel_ := (s.conn p).channel_.set_revents EPOLLIN
    active := false
    todo := World.callbacksFor EPOLLIN } with hv
  set w' : World := (v.setTodo []).handleRead (.delivers arrived)
  have htodo : v.todo = [.handleRead] := by
    show World.callbacksFor EPOLLIN = _
    decide
  have hfault : v.fault = none := hp.able.fault
  have hcalled : v.step (.runCall (.delivers arrived)) = some w' := by
    simp [World.step, hfault, htodo, World.runCall, w']
  have hread : v.readvIn (.runCall (.delivers arrived)) = some (.ok arrived) := by
    simp [World.readvIn, htodo, Kernel.delivers]
  have hmessage : (v.setTodo []).Read w' :=
    ((v.setTodo []).handleRead_branch (.delivers arrived)).read hp.able.fault
      ⟨rfl, rfl, hp.able.atPoll.2.2⟩ hp.messageCallback_ hunread
  have hopenInv : w'.OpenInv :=
    ((hp.able.openInv.step (World.step_eq_some hpolled).2).step
      (World.step_eq_some hhandled).2).step (World.step_eq_some hcalled).2
  have haccepts : v.accepts w' = [] := by
    refine World.accepts_eq_nil ?_
    rw [hmessage.history]
    exact List.append_nil _
  have hconsistent : (s.setConn p v).Consistent p (.runCall (.delivers arrived)) w' := by
    unfold Consistent
    rw [setConn_conn_self, hread]
    refine ⟨fun answer heq => ?_, fun _ => haccepts⟩
    obtain rfl := Option.some.inj heq
    exact ⟨List.prefix_rfl, fun hnil => absurd hnil hunread⟩
  have hlast : (s.setConn p v).step (.step p (.runCall (.delivers arrived))) =
      some ((s.setConn p v).after p (.runCall (.delivers arrived)) w') := by
    have halive : (s.setConn p v).gone p = false := hp.able.alive
    simp [step, halive, hcalled, hconsistent]
  refine ⟨_, (exec_turn hs hp.able hasked _).trans hlast, ⟨⟨hp.able.alive, ?_, ?_, ?_, ?_⟩, ?_⟩,
    ?_, ?_⟩
  · rw [after_conn_self]
    exact hmessage.fault
  · rw [after_conn_self]
    exact hopenInv
  · rw [after_conn_self]
    intro hclosed
    refine hp.able.open_ ?_
    simpa [World.Closed, hmessage.history] using hclosed
  · rw [after_conn_self]
    exact hmessage.atPoll
  · rw [after_conn_self]
    exact (congrArg World.Settings.messageCallback_ hmessage.settings).trans hp.messageCallback_
  · have hdelivered : (v.delivered (.runCall (.delivers arrived))).length =
        min v.inputBuffer_.readFdCapacity arrived.length := by
      simp [World.delivered, hread]
    have hcapacity := v.inputBuffer_.readFdCapacity_pos
    have hlength : 0 < arrived.length := List.length_pos_iff.mpr hunread
    rw [after_wire_other, setConn_conn_self, List.length_drop, hdelivered]
    show arrived.length - _ < _
    omega
  · rw [after_conn_other, setConn_conn_other]

/-- An end that can read can read everything that is on the wire. -/
theorem exec_readableTurns (hs : s.KnowsFin) (hp : s.CanRead p) :
    ∃ evs s', exec step s evs = some s' ∧ (s'.wire p.other).unread = [] ∧
      s'.conn p.other = s.conn p.other := by
  have hlower (u : Peers) (hu : u.KnowsFin ∧ u.CanRead p ∧ u.conn p.other = s.conn p.other)
      (hunread : (u.wire p.other).unread.length ≠ 0) :
      ∃ evs v, (∀ ev ∈ evs, True) ∧ exec step u evs = some v ∧
        (v.KnowsFin ∧ v.CanRead p ∧ v.conn p.other = s.conn p.other) ∧
        (v.wire p.other).unread.length < (u.wire p.other).unread.length := by
    obtain ⟨hknows, hreads, hsame⟩ := hu
    obtain ⟨v, hv, hreads', hless, hother⟩ :=
      exec_readableTurn hknows hreads (mt List.length_eq_zero_iff.mpr hunread)
    have hknows' : v.KnowsFin := invariant_of_exec (fun _ _ _ hs h => hs.step h) hknows hv
    exact ⟨_, v, fun _ _ => trivial, hv, ⟨hknows', hreads', hother.trans hsame⟩, hless⟩
  obtain ⟨evs, s', -, hrun, ⟨-, -, hsame⟩, hempty⟩ := exists_exec_eq_zero hlower ⟨hs, hp, rfl⟩
  exact ⟨evs, s', hrun, List.length_eq_zero_iff.mp hempty, hsame⟩

end Peers

/-- From every reachable state in which both ends are open and between two turns of their loops,
the receiver has a message callback and the sender has not half-closed with bytes left, there are
further turns after which the receiver has everything that was passed to `sendInLoop`. -/
theorem everything_deliverable {cfg : Peer → Config} {evs : List PeerEvent} {s : Peers}
    (hrun : exec Peers.step (Peers.established cfg) evs = some s) (p : Peer)
    (halive : ∀ q, s.gone q = false ∧ (s.conn q).fault = none ∧ ¬ (s.conn q).Closed ∧
      (s.conn q).AtPoll)
    (hcallback : (cfg p.other).messageCallback = true)
    (hfin : (s.conn p).HalfClosed → (s.conn p).outputBuffer_.readable = []) :
    ∃ more s', exec Peers.step s more = some s' ∧
      s'.retrieved p.other ++ (s'.conn p.other).inputBuffer_.readable =
        passedBytes (s.conn p).history := by
  have hknows : s.KnowsFin := Peers.knowsFin_of_exec hrun
  have hopenInv : ∀ q, (s.conn q).OpenInv := fun q =>
    Peers.conn_invariant (I := fun _ w => w.OpenInv)
      (fun _ _ _ _ hw h => hw.step (World.step_eq_some h).2)
      (fun _ _ _ hw => ⟨hw.rest, hw.listens, hw.asks⟩)
      (fun q => World.OpenInv.established (cfg q)) hrun q
  have hset : (s.conn p.other).settings = (cfg p.other).established.settings :=
    Peers.conn_invariant (I := fun q w => w.settings = (cfg q).established.settings)
      (fun _ _ _ _ hw h => (World.settings_of_step (World.step_eq_some h).2).trans hw)
      (fun _ _ _ hw => hw) (fun _ => rfl) hrun p.other
  have hable (q : Peer) : s.Able q := by
    obtain ⟨hgone, hfault, hopen, hpoll⟩ := halive q
    exact ⟨hgone, hfault, hopenInv q, hopen, hpoll⟩
  -- first the sender writes what is left, in one turn
  obtain ⟨first, u, hu, hempty, hpassed, hfault, hother, hgone⟩ : ∃ first u,
      exec Peers.step s first = some u ∧ (u.conn p).outputBuffer_.readable = [] ∧
      passedBytes (u.conn p).history = passedBytes (s.conn p).history ∧
      (u.conn p).fault = none ∧ u.conn p.other = s.conn p.other ∧ u.gone = s.gone := by
    by_cases hpending : (s.conn p).outputBuffer_.readableBytes = 0
    · exact ⟨[], s, rfl, Buffer.readableBytes_eq_zero.mp hpending, rfl, (hable p).fault, rfl, rfl⟩
    · have hunfinished : (s.wire p).finished = false := by
        by_contra hfinished
        rcases hknows.finished p (by simpa using hfinished) with hgone | hhalf
        · simp [(hable p).alive] at hgone
        · exact hpending (Buffer.readableBytes_eq_zero.mpr (hfin hhalf))
      obtain ⟨u, hu, -, hwrote, hother, hgone⟩ :=
        Peers.exec_writableTurn hknows (hable p) hunfinished (Nat.pos_of_ne_zero hpending) le_rfl
      refine ⟨_, u, hu, ?_, hwrote.passed, hwrote.fault, hother, hgone⟩
      rw [hwrote.readable]
      exact List.drop_of_length_le (by simp)
  -- then the receiver reads what is on the wire
  have hreads : u.CanRead p.other := by
    refine ⟨⟨?_, ?_, ?_, ?_, ?_⟩, ?_⟩ <;> (first | rw [hgone] | rw [hother])
    · exact (hable p.other).alive
    · exact (hable p.other).fault
    · exact (hable p.other).openInv
    · exact (hable p.other).open_
    · exact (hable p.other).atPoll
    · exact (congrArg World.Settings.messageCallback_ hset).trans hcallback
  have hknows' : u.KnowsFin := invariant_of_exec (fun _ _ _ hs h => hs.step h) hknows hu
  obtain ⟨second, s', hs', hread, hsame⟩ := Peers.exec_readableTurns hknows' hreads
  rw [Peer.other_other] at hread hsame
  refine ⟨first ++ second, s', by rw [exec_append, hu, Option.bind_some, hs'], ?_⟩
  have hall : exec Peers.step (Peers.established cfg) (evs ++ (first ++ second)) = some s' := by
    rw [exec_append, hrun, Option.bind_some, exec_append, hu, Option.bind_some, hs']
  have hstream := (stream_end_to_end hall p).2 (by rw [hsame]; exact hfault)
  rw [hread, hsame, hempty, hpassed, List.append_nil, List.append_nil] at hstream
  exact hstream

/-- One of two bytes is on the wire, the other one still in the sender's `outputBuffer_`. -/
theorem everything_deliverable_partly_written :
    ∃ s more s', exec Peers.step (Peers.established fun _ => Config.single)
        [.step .client (.loopSend ⟨[104, 105], by decide⟩ ⟨.ok 1, .ok [], none⟩)] = some s ∧
      (s.wire .client).unread = [104] ∧ exec Peers.step s more = some s' ∧
      s'.retrieved .server ++ (s'.conn .server).inputBuffer_.readable =
        passedBytes (s.conn .client).history := by
  have hrun : ∃ s, exec Peers.step (Peers.established fun _ => Config.single)
      [.step .client (.loopSend ⟨[104, 105], by decide⟩ ⟨.ok 1, .ok [], none⟩)] = some s ∧
      ((s.wire .client).unread = [104] ∧ ¬ (s.conn .client).HalfClosed ∧
        (s.gone .client = false ∧ (s.conn .client).fault = none ∧ ¬ (s.conn .client).Closed ∧
          (s.conn .client).AtPoll) ∧
        s.gone .server = false ∧ (s.conn .server).fault = none ∧ ¬ (s.conn .server).Closed ∧
          (s.conn .server).AtPoll) :=
    exists_exec_of_any (by decide +kernel)
  obtain ⟨s, hrun, hwire, hopen, hclient, hserver⟩ := hrun
  have halive (q : Peer) : s.gone q = false ∧ (s.conn q).fault = none ∧ ¬ (s.conn q).Closed ∧
      (s.conn q).AtPoll := by
    cases q with
    | client => exact hclient
    | server => exact hserver
  obtain ⟨more, s', hmore, hall⟩ :=
    everything_deliverable hrun .client halive rfl fun hfin => absurd hfin hopen
  exact ⟨s, more, s', hrun, hwire, hmore, hall⟩

end SimpleMuduo
