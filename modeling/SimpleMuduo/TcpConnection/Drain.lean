import SimpleMuduo.TcpConnection.HalfClose

/-!
# Pending output is written

Bytes that wait in `outputBuffer_` are never stuck there: until the connection is closed its
channel is registered and asks for `EPOLLOUT`, so the poller may report the socket writable, and
every turn of the loop in which `::write` takes some bytes passes them on.  After turns that have
taken all of them nothing is left, the channel asks for nothing more, `writeCompleteCallback_` is
queued, and a connection in the state `kDisconnecting` has half-closed its socket.
-/

namespace SimpleMuduo

namespace PolledChannel

/-- The channel is registered and asks for `EPOLLIN`. -/
def Listens (pc : PolledChannel) : Prop :=
  pc.channel.index_ = .kAdded ∧ pc.channel.events_.getLsbD 0 = true

variable {pc : PolledChannel}

/-- A channel that goes on asking for `EPOLLIN` stays registered. -/
lemma listens_setEvents {events : EventMask} (hevents : events.getLsbD 0 = true) :
    (pc.setEvents events).Listens := by
  have hsome : events ≠ kNoneEvent := by
    rintro rfl
    simp [kNoneEvent] at hevents
  have hnone : ({ pc.channel with events_ := events } : Channel).isNoneEvent = false := by
    simpa [Channel.isNoneEvent] using hsome
  constructor
  · rw [setEvents_channel, Channel.updated, hnone]
    simp
  · rw [setEvents_channel, Channel.updated]
    exact hevents

lemma Listens.enableWriting (h : pc.Listens) : pc.enableWriting.Listens :=
  listens_setEvents (by rw [BitVec.getLsbD_or, h.2, Bool.true_or])

lemma Listens.disableWriting (h : pc.Listens) : pc.disableWriting.Listens :=
  listens_setEvents (by rw [BitVec.getLsbD_and, h.2]; decide)

lemma listens_enableReading : pc.enableReading.Listens :=
  listens_setEvents (by rw [BitVec.getLsbD_or]; simp [kReadEvent, EPOLLIN, EPOLLPRI])

/-- The poller may report a registered channel for a single event that it asks for. -/
lemma Listens.reportable (h : pc.Listens) {revents : EventMask}
    (hasked : revents &&& pc.channel.events_ = revents) : World.Reportable pc revents := by
  have hset := pc.agrees.2
  rw [if_pos h.1] at hset
  refine ⟨_, hset, ?_⟩
  rw [← hasked]
  ext i hi
  simp only [BitVec.getElem_and, BitVec.getElem_not, BitVec.getElem_or, BitVec.getElem_zero]
  cases pc.channel.events_[i] <;> simp

end PolledChannel

namespace World

variable {w w' : World} {e : Event} {k : Kernel}

/-! ## The channel of an open connection -/

lemma SendInLoop.listens {call : ℕ} {data : StdString} (hw : w.channel_.Listens)
    (h : SendInLoop w call data k w') : w'.channel_.Listens := by
  cases h with
  | fatal | whole | nothing | noData => exact hw
  | partly | buffered =>
    rw [bufferOutput_channel_]
    split_ifs
    · exact hw
    · exact hw.enableWriting

lemma HandleWrite.listens (hw : w.channel_.Listens) (h : HandleWrite w k w') :
    w'.channel_.Listens := by
  cases h with
  | notWriting | stuck | partly => exact hw
  | drain | drainShutdown => exact hw.disableWriting

/-- A step that does not close the connection keeps its channel registered for reading. -/
lemma listens_step (hw : w.channel_.Listens) (hrest : .removeChannel ∈ w.todo → w.Closed)
    (h : Step w e w') (hopen : ¬ w'.Closed) : w'.channel_.Listens := by
  have hclose (v : World) : v.handleClose.Closed := .inl (by simp [handleClose])
  have hdestroy (v : World) : v.connectDestroyed.Closed := by
    by_cases hstate : v.state_ = .kConnected
    · rw [connectDestroyed_of_connected hstate]
      exact .inr (by simp)
    · rw [connectDestroyed_of_ne hstate]
      exact .inr (by simp [removeChannel])
  cases h with
  | refused | sendLoad | sendPush | shutdownLoad | shutdownStore | shutdownPush | forceCloseLoad
  | forceCloseStore | forceClosePush | assign | loopForceClose | poll | handleEvent | swap
  | removeConnectionInLoop | removeConnectionFault => exact hw
  | @loopSend buf k v connected branch =>
    have hsent : v.channel_.Listens := branch.listens (w := w.callSend buf.data) hw
    exact hsent
  | @loopSendFault buf k _ connected branch => exact branch.listens (w := w.callSend buf.data) hw
  | loopShutdown =>
    unfold shutdownInLoop
    split_ifs <;> exact hw
  | destroyServer =>
    simp only [destroyServer]
    split_ifs <;> exact hw
  | @runCall c rest k _ todo branch =>
    cases branch with
    | handleClose => exact absurd (hclose _) hopen
    | handleError => exact hw
    | handleRead branch =>
      cases branch with
      | failed | message => exact hw
      | closed => exact absurd (hclose _) hopen
    | handleWrite branch => exact branch.listens (w := w.setTodo rest) hw
    | closeCallback =>
      simp only [closeCallback]
      split_ifs <;> exact hw
    | connectDestroyed => exact absurd (hdestroy _) hopen
    | removeChannel =>
      have hclosed : w.Closed := hrest (by rw [todo]; exact List.mem_cons_self)
      exact absurd (hclosed.imp (List.mem_cons_of_mem _) (List.mem_cons_of_mem _)) hopen
  | @runFunctor f rest k _ todo functors branch =>
    cases branch with
    | sendInLoop branch => exact branch.listens (w := w.setFunctors rest) hw
    | shutdownInLoop =>
      unfold shutdownInLoop
      split_ifs <;> exact hw
    | forceCloseInLoop =>
      unfold forceCloseInLoop at hopen ⊢
      split_ifs at hopen ⊢
      · exact absurd (hclose _) hopen
      · exact hw
    | connectDestroyed => exact absurd (hdestroy _) hopen
    | userCallback => exact hw

/-- `connectDestroyed` has begun before it goes on with the removal of the channel. -/
lemma removeChannel_mem_step (hw : .removeChannel ∈ w.todo → w.Closed) (h : Step w e w')
    (hmem : .removeChannel ∈ w'.todo) : w'.Closed := by
  by_cases hclosed : w.Closed
  · exact hclosed.step h
  · have hnot : .removeChannel ∉ w.todo := fun hmem => hclosed (hw hmem)
    cases h.lifecycleStep with
    | routine h => exact absurd ((h.mem_todo rfl).mp hmem) hnot
    | threadStore => exact absurd hmem hnot
    | loopStore open_ before after =>
      exact absurd ((before.mem_todo rfl).mp ((after.mem_todo rfl).mp hmem)) hnot
    | pollClose | forceClose => exact .inl (by simp [handleClose])
    | @connectDestroyed e v destroys before =>
      by_cases hstate : v.state_ = .kConnected
      · rw [connectDestroyed_of_connected hstate]
        exact .inr (by simp)
      · rw [connectDestroyed_of_ne hstate]
        exact .inr (by simp [removeChannel])
    | removeChannel todo => exact absurd (by rw [todo]; exact List.mem_cons_self) hnot
    | @closeCallback rest k todo =>
      have hrest : .removeChannel ∈ rest :=
        ((routine_closeCallback (w.setTodo rest)).mem_todo rfl).mp hmem
      exact absurd (by rw [todo]; exact List.mem_cons_of_mem _ hrest) hnot

/-- An open connection can be read and written. -/
structure OpenInv (w : World) : Prop where
  rest : .removeChannel ∈ w.todo → w.Closed
  listens : ¬ w.Closed → w.channel_.Listens
  asks : ¬ w.Closed → w.AsksForOutput

theorem OpenInv.step (hw : OpenInv w) (h : Step w e w') : OpenInv w' where
  rest := removeChannel_mem_step hw.rest h
  listens hopen := listens_step (hw.listens fun hclosed => hopen (hclosed.step h)) hw.rest h hopen
  asks := asksForOutput_step hw.asks h

lemma OpenInv.established (cfg : Config) : OpenInv cfg.established where
  rest := by simp [Config.established, Config.newConnection, connectEstablished]
  listens _ := PolledChannel.listens_enableReading
  asks _ := asksForOutput_established cfg

end World

/-- Until it is closed, a connection can be read and written. -/
theorem openInv_of_runs {cfg : Config} {es : List Event} {w : World} (hrun : Runs cfg es w) :
    w.OpenInv :=
  invariant_of_exec (fun _ _ _ hw h => hw.step (World.step_eq_some h).2)
    (World.OpenInv.established cfg) hrun

/-! ## Turns of the loop -/

/-- A kernel in which `::write` takes up to `n` bytes. -/
def Kernel.takes (n : ℕ) : Kernel where
  write := .ok n
  readv := .error EWOULDBLOCK
  shutdown := none

/-- A turn of the loop in which the socket is reported writable and `::write` takes up to `n`
bytes. -/
def writableTurn (n : ℕ) : List Event := [.poll EPOLLOUT, .handleEvent, .runCall (.takes n)]

namespace World

variable {w w' : World} {n : ℕ}

/-- The connection has got from `w` to `w'` by handing `n` bytes to the kernel. -/
structure Wrote (w w' : World) (n : ℕ) : Prop where
  fault : w'.fault = none
  atPoll : w'.AtPoll
  closed : w'.Closed → w.Closed
  state_ : w'.state_ = w.state_
  settings : w'.settings = w.settings
  accepted : acceptedBytes w'.history = acceptedBytes w.history ++ w.outputBuffer_.readable.take n
  passed : passedBytes w'.history = passedBytes w.history
  readable : w'.outputBuffer_.readable = w.outputBuffer_.readable.drop n
  /-- What the connection does when nothing is left. -/
  drained : n = w.outputBuffer_.readableBytes → w'.channel_.isWriting = false ∧
    (w.writeCompleteCallback_ = true → .writeCompleteCallback ∈ w'.pendingFunctors_) ∧
    (w.state_ = .kDisconnecting → w'.HalfClosed)

/-- `handleWrite` hands to the kernel what it takes. -/
lemma HandleWrite.wrote (hfault : w.fault = none) (hpoll : w.AtPoll)
    (hwriting : w.channel_.isWriting = true) (hpos : 0 < n) (hn : n ≤ w.outputBuffer_.readableBytes)
    (h : HandleWrite w (.takes n) w') : w.Wrote w' n := by
  have hresult : sysWrite (Kernel.takes n).write w.outputBuffer_.readableBytes = .ok n := by
    simp [Kernel.takes, sysWrite, Except.map, Nat.min_eq_left hn]
  have hall : w.outputBuffer_.readable.take w.outputBuffer_.readableBytes =
      w.outputBuffer_.readable := List.take_of_length_le (by simp)
  have hnone : w.outputBuffer_.readable.drop w.outputBuffer_.readableBytes = [] :=
    List.drop_of_length_le (by simp)
  have hdrained (drains : w.Drains (.takes n)) : n = w.outputBuffer_.readableBytes :=
    Except.ok.inj (hresult.symm.trans drains.2)
  have hclosed (hmem : w.drained.Closed) : w.Closed := by
    cases hset : w.writeCompleteCallback_ <;> simpa [drained, Closed, hset] using hmem
  have haccepted : acceptedBytes w.drained.history =
      acceptedBytes w.history ++ w.outputBuffer_.readable := by
    cases hset : w.writeCompleteCallback_ <;> simp [drained, hset, Effect.accepted, hall]
  have hpassed : passedBytes w.drained.history = passedBytes w.history := by
    rw [drained, passedBytes_queueIf]
    simp [Effect.passed]
  have hqueued (hset : w.writeCompleteCallback_ = true) :
      .writeCompleteCallback ∈ w.drained.pendingFunctors_ := by simp [drained, hset]
  cases h with
  | notWriting idle => exact absurd (idle.symm.trans hwriting) Bool.false_ne_true
  | stuck result writing took write =>
    obtain ⟨m, rfl⟩ := Nat.exists_eq_succ_of_ne_zero (Nat.ne_of_gt hpos)
    exact absurd (write.symm.trans hresult) (took m)
  | partly m writing pos lt write =>
    obtain rfl : m = n := Except.ok.inj (write.symm.trans hresult)
    refine ⟨hfault, hpoll, fun hmem => by simpa [Closed] using hmem, rfl, rfl, ?_, ?_, ?_, ?_⟩
    · simp [Effect.accepted]
    · simp [Effect.passed]
    · simp
    · exact fun heq => absurd heq (Nat.ne_of_lt lt)
  | drain writing drains open_ =>
    obtain rfl := hdrained drains
    refine ⟨hfault, hpoll, hclosed, rfl, rfl, ?_, hpassed, ?_, fun _ => ⟨?_, hqueued, ?_⟩⟩
    · rw [haccepted, hall]
    · simp [drained, hnone]
    · simp [drained]
    · exact fun hclosing => absurd hclosing open_
  | drainShutdown writing drains closing =>
    obtain rfl := hdrained drains
    refine ⟨hfault, hpoll, fun hmem => hclosed ?_, rfl, rfl, ?_, ?_, ?_,
      fun _ => ⟨?_, hqueued, fun _ => ?_⟩⟩
    · simpa [Closed] using hmem
    · simp [haccepted, hall, Effect.accepted]
    · simp [hpassed, Effect.passed]
    · simp [drained, hnone]
    · simp [drained]
    · exact ⟨_, List.mem_cons_self, rfl⟩

/-- Between two turns of the loop of an open connection, the poller may report an event that the
channel asks for, and the loop calls the handlers for it. -/
lemma step_poll_handleEvent (hw : w.OpenInv) (hopen : ¬ w.Closed) (hfault : w.fault = none)
    (hpoll : w.AtPoll) {revents : EventMask}
    (hasked : revents &&& w.channel_.channel.events_ = revents) :
    w.step (.poll revents) =
        some { w with channel_ := w.channel_.set_revents revents, active := true } ∧
      ({ w with channel_ := w.channel_.set_revents revents, active := true }).step .handleEvent =
        some { w with
          channel_ := w.channel_.set_revents revents
          active := false
          todo := callbacksFor revents } := by
  have hreportable := (hw.listens hopen).reportable hasked
  constructor
  · simp [step, hfault, hpoll, hreportable]
  · simp [step, hfault, hpoll.1, handleEvent, PolledChannel.set_revents]

/-- A channel for which bytes are waiting asks for `EPOLLOUT`. -/
lemma asked_of_pending (hw : w.AsksForOutput) (hpending : w.outputBuffer_.readableBytes ≠ 0) :
    EPOLLOUT &&& w.channel_.channel.events_ = EPOLLOUT := by
  have hbit : w.channel_.channel.events_.getLsbD 2 = true :=
    (PolledChannel.and_kWriteEvent_ne _).symm.trans (hw.mpr hpending)
  rw [BitVec.and_comm, show EPOLLOUT = BitVec.twoPow 32 2 by decide, BitVec.and_twoPow, if_pos hbit]

/-- When bytes are waiting in an open connection, a turn of the loop hands to the kernel what it
takes. -/
theorem exec_writableTurn (hw : w.OpenInv) (hopen : ¬ w.Closed) (hfault : w.fault = none)
    (hpoll : w.AtPoll) (hpos : 0 < n) (hn : n ≤ w.outputBuffer_.readableBytes) :
    ∃ w', exec step w (writableTurn n) = some w' ∧ w.Wrote w' n := by
  have hpending : w.outputBuffer_.readableBytes ≠ 0 := by omega
  have hwriting : w.channel_.isWriting = true := (hw.asks hopen).mpr hpending
  have hasked := asked_of_pending (hw.asks hopen) hpending
  obtain ⟨hpolled, hhandled⟩ := step_poll_handleEvent hw hopen hfault hpoll hasked
  -- the world in which `handleWrite` is called
  let v := { w with channel_ := w.channel_.set_revents EPOLLOUT, active := false, todo := [] }
  have hv : v.Wrote (v.handleWrite (.takes n)) n :=
    (v.handleWrite_branch _).wrote hfault ⟨rfl, rfl, hpoll.2.2⟩ hwriting hpos hn
  have hcallbacks : callbacksFor EPOLLOUT = [.handleWrite] := by decide
  have hcalled : ({ v with todo := [.handleWrite] } : World).step (.runCall (.takes n)) =
      some (v.handleWrite (.takes n)) := by
    simp [step, hfault, v, setTodo, runCall]
  refine ⟨v.handleWrite (.takes n), ?_, hv.fault, hv.atPoll, hv.closed, hv.state_, hv.settings,
    hv.accepted, hv.passed, hv.readable, hv.drained⟩
  rw [hcallbacks] at hhandled
  simp [writableTurn, hpolled, hhandled, hcalled, v]

/-- All that waits in `outputBuffer_` has been handed to the kernel on the way from `w` to `w'`. -/
structure Drained (w w' : World) : Prop where
  fault : w'.fault = none
  atPoll : w'.AtPoll
  closed : w'.Closed → w.Closed
  settings : w'.settings = w.settings
  accepted : acceptedBytes w'.history = acceptedBytes w.history ++ w.outputBuffer_.readable
  passed : passedBytes w'.history = passedBytes w.history
  readable : w'.outputBuffer_.readable = []
  isWriting : w'.channel_.isWriting = false
  completed : w.writeCompleteCallback_ = true → .writeCompleteCallback ∈ w'.pendingFunctors_
  halfClosed : w.state_ = .kDisconnecting → w'.HalfClosed

/-- Turns that hand everything to the kernel, whatever each of them takes. -/
theorem exec_writableTurns {ns : List ℕ} (hw : w.OpenInv) (hopen : ¬ w.Closed)
    (hfault : w.fault = none) (hpoll : w.AtPoll) (hpending : 0 < w.outputBuffer_.readableBytes)
    (hpos : ∀ n ∈ ns, 0 < n) (hsum : ns.sum = w.outputBuffer_.readableBytes) :
    ∃ w', exec step w (ns.flatMap writableTurn) = some w' ∧ w.Drained w' := by
  induction ns generalizing w with
  | nil =>
    rw [List.sum_nil] at hsum
    omega
  | cons n ns ih =>
    rw [List.sum_cons] at hsum
    obtain ⟨v, hv, hwrote⟩ := exec_writableTurn hw hopen hfault hpoll
      (hpos n List.mem_cons_self) (by omega)
    have hrest : ∀ m ∈ ns, 0 < m := fun m hm => hpos m (List.mem_cons_of_mem n hm)
    have hleft : v.outputBuffer_.readableBytes = w.outputBuffer_.readableBytes - n := by
      rw [← Buffer.readable_length, hwrote.readable, List.length_drop, Buffer.readable_length]
    rw [List.flatMap_cons, exec_append, hv, Option.bind_some]
    by_cases hlast : n = w.outputBuffer_.readableBytes
    · -- the last turn
      have hnil : ns = [] := by
        cases ns with
        | nil => rfl
        | cons m ns =>
          have hm := hrest m List.mem_cons_self
          rw [List.sum_cons] at hsum
          omega
      obtain ⟨hidle, hcompleted, hfin⟩ := hwrote.drained hlast
      have hall : w.outputBuffer_.readable.take n = w.outputBuffer_.readable :=
        List.take_of_length_le (by simp [hlast])
      have hempty : v.outputBuffer_.readable = [] := Buffer.readableBytes_eq_zero.mp (by omega)
      subst hnil
      exact ⟨v, rfl, hwrote.fault, hwrote.atPoll, hwrote.closed, hwrote.settings,
        hall ▸ hwrote.accepted, hwrote.passed, hempty, hidle, hcompleted, hfin⟩
    · have hv' : v.OpenInv := invariant_of_exec (fun _ _ _ hw h => hw.step (step_eq_some h).2) hw hv
      obtain ⟨w', hrun, hdrained⟩ := ih hv' (fun h => hopen (hwrote.closed h)) hwrote.fault
        hwrote.atPoll (by omega) hrest (by omega)
      refine ⟨w', hrun, hdrained.fault, hdrained.atPoll, hwrote.closed ∘ hdrained.closed,
        hdrained.settings.trans hwrote.settings, ?_, hdrained.passed.trans hwrote.passed,
        hdrained.readable, hdrained.isWriting, fun hset => hdrained.completed ?_,
        fun hclosing => hdrained.halfClosed (hwrote.state_.trans hclosing)⟩
      · rw [hdrained.accepted, hwrote.accepted, hwrote.readable, List.append_assoc,
          List.take_append_drop]
      · exact (congrArg Settings.writeCompleteCallback_ hwrote.settings).trans hset

end World

/-- In every reachable state of an open connection with bytes in `outputBuffer_` the channel asks
for `EPOLLOUT`.  Between two turns of the loop, the bytes are written by any turns in which the
socket is writable and `::write` takes as many bytes in all as are waiting, however it divides
them.  Then everything passed to `sendInLoop` has been accepted, the channel asks for `EPOLLOUT` no
more, `writeCompleteCallback_` is queued if it is set, and a connection in the state
`kDisconnecting` has half-closed its socket. -/
theorem pending_output_written {cfg : Config} {es : List Event} {w : World} (hrun : Runs cfg es w)
    (hopen : ¬ w.Closed) (hpending : 0 < w.outputBuffer_.readableBytes) :
    w.channel_.isWriting = true ∧
      (w.fault = none → w.AtPoll → ∀ ns : List ℕ, (∀ n ∈ ns, 0 < n) →
        ns.sum = w.outputBuffer_.readableBytes →
        ∃ w', exec World.step w (ns.flatMap writableTurn) = some w' ∧ w'.fault = none ∧
          w'.outputBuffer_.readable = [] ∧ acceptedBytes w'.history = passedBytes w.history ∧
          w'.channel_.isWriting = false ∧
          (w.writeCompleteCallback_ = true → .writeCompleteCallback ∈ w'.pendingFunctors_) ∧
          (w.state_ = .kDisconnecting → w'.HalfClosed)) := by
  have hasks : w.AsksForOutput := asksForOutput_of_runs hrun hopen
  refine ⟨hasks.mpr (Nat.ne_of_gt hpending), fun hfault hpoll ns hpos hsum => ?_⟩
  obtain ⟨w', hturns, hdrained⟩ :=
    World.exec_writableTurns (openInv_of_runs hrun) hopen hfault hpoll hpending hpos hsum
  refine ⟨w', hturns, hdrained.fault, hdrained.readable, ?_, hdrained.isWriting,
    hdrained.completed, hdrained.halfClosed⟩
  rw [hdrained.accepted]
  exact (streamInv_of_runs hrun hfault).stream

/-- Three bytes wait behind a `shutdown`, and the socket takes one of them at first. -/
theorem pending_output_written_in_two_turns :
    ∃ w w', Runs Config.single [.loopSend ⟨[104, 105, 106], by decide⟩ ⟨.ok 0, .ok [], none⟩,
        .loopShutdown (.ready [])] w ∧ w.channel_.isWriting = true ∧
      exec World.step w ([1, 2].flatMap writableTurn) = some w' ∧ w'.fault = none ∧
      w'.outputBuffer_.readable = [] ∧ acceptedBytes w'.history = passedBytes w.history ∧
      w'.channel_.isWriting = false ∧
      (w.writeCompleteCallback_ = true → .writeCompleteCallback ∈ w'.pendingFunctors_) ∧
      (w.state_ = .kDisconnecting → w'.HalfClosed) := by
  have hrun : ∃ w, exec World.step Config.single.established
      [.loopSend ⟨[104, 105, 106], by decide⟩ ⟨.ok 0, .ok [], none⟩, .loopShutdown (.ready [])] =
        some w ∧
      (w.fault = none ∧ ¬ w.Closed ∧ w.AtPoll ∧ w.outputBuffer_.readableBytes = 3) :=
    exists_exec_of_any (by decide +kernel)
  obtain ⟨w, hrun, hfault, hopen, hpoll, hpending⟩ := hrun
  have hsum : ([1, 2] : List ℕ).sum = w.outputBuffer_.readableBytes := by rw [hpending]; rfl
  obtain ⟨hasks, hwritten⟩ := pending_output_written hrun hopen (by omega)
  obtain ⟨w', hturns⟩ := hwritten hfault hpoll [1, 2] (by decide) hsum
  exact ⟨w, w', hrun, hasks, hturns⟩

end SimpleMuduo
