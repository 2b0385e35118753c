import SimpleMuduo.TcpConnection.Connected
import SimpleMuduo.TcpConnection.OutputInterest
import SimpleMuduo.TcpConnection.SendCapture

/-!
# Half-closing

`shutdown` is carried out once nothing is left to be written: by `shutdownInLoop` when the channel
does not ask for `EPOLLOUT`, and otherwise by the `handleWrite` that drains `outputBuffer_`, which
knows of it only through the state `kDisconnecting`.  As long as the socket is never half-closed
with a `send` still outstanding, nothing is written on it afterwards.  When `send`, `shutdown` and
`forceClose` are called on the loop thread only, there are no outstanding sends, the socket is
half-closed at most once, and `outputBuffer_` is empty then.
-/

namespace SimpleMuduo

/-- `socket_->shutdownWrite()`. -/
def Effect.isShutdownWrite : Effect → Bool
  | .shutdownWrite _ => true
  | _ => false

/-- `::write` on the socket. -/
def Effect.isWrite : Effect → Bool
  | .write _ _ => true
  | _ => false

namespace World

/-- The socket has been half-closed. -/
def HalfClosed (w : World) : Prop := ∃ d ∈ w.history, d.isShutdownWrite = true

instance (w : World) : Decidable w.HalfClosed := inferInstanceAs (Decidable (∃ d ∈ w.history, _))

/-- No `::write` came after the socket was half-closed. -/
def NoWriteAfterFin (w : World) : Prop :=
  NeverAfter (·.isShutdownWrite = true) (·.isWrite = true) w.history

/-- The `sendInLoop` of a `send` that saw `kConnected` has not been run yet. -/
def SendsOutstanding (w : World) : Prop := ∃ call buf len, w.Captured call buf len

/-- The `shutdownInLoop` of a `shutdown` on another thread has not been run yet. -/
def ShutdownQueued (w : World) : Prop :=
  .shutdownInLoop ∈ w.queued ∨ ∃ t, w.threads t = .shutdownPush

/-- The step half-closes the socket. -/
def HalfCloses (w : World) : Event → Prop
  | .loopShutdown _ => w.state_ = .kConnected ∧ w.channel_.isWriting = false
  | .runCall k => w.todo.head? = some .handleWrite ∧ w.channel_.isWriting = true ∧ w.Drains k ∧
      w.state_ = .kDisconnecting
  | .runFunctor _ => w.functors.head? = some .shutdownInLoop ∧ w.channel_.isWriting = false
  | _ => False

instance (w : World) (e : Event) : Decidable (w.HalfCloses e) :=
  match e with
  | .loopShutdown _ => inferInstanceAs (Decidable (_ ∧ _))
  | .runCall _ => inferInstanceAs (Decidable (_ ∧ _ ∧ _ ∧ _))
  | .runFunctor _ => inferInstanceAs (Decidable (_ ∧ _))
  | .sendLoad _ _ | .sendPush _ | .shutdownLoad _ | .shutdownStore _ | .shutdownPush _
  | .forceCloseLoad _ | .forceCloseStore _ | .forceClosePush _ | .assign _ _ _ | .loopSend _ _
  | .loopForceClose | .destroyServer | .poll _ | .handleEvent | .swap
  | .removeConnectionInLoop => inferInstanceAs (Decidable False)

/-- The history grows, and the socket is not half-closed. -/
abbrev KeepsFin (w w' : World) : Prop :=
  Extends (·.isShutdownWrite = false) w.history w'.history

/-- The steps of the system, sorted by whether they half-close the socket. -/
inductive HalfCloseStep (w : World) : Event → World → Prop
  | keeps {e w'} (h : KeepsFin w w') : HalfCloseStep w e w'
  | loopShutdown {k} (connected : w.state_ = .kConnected) (idle : w.channel_.isWriting = false) :
      HalfCloseStep w (.loopShutdown k)
        (((w.log .shutdownCalled).setState .kDisconnecting).shutdownWrite k)
  | drained {rest k} (todo : w.todo = .handleWrite :: rest)
      (writing : w.channel_.isWriting = true) (drains : w.Drains k)
      (closing : w.state_ = .kDisconnecting) :
      HalfCloseStep w (.runCall k) ((w.setTodo rest).drained.shutdownWrite k)
  | shutdownInLoop {rest k} (functors : w.functors = .shutdownInLoop :: rest)
      (idle : w.channel_.isWriting = false) :
      HalfCloseStep w (.runFunctor k) ((w.setFunctors rest).shutdownWrite k)

variable {w w' : World} {e : Event} {k : Kernel}

/-- A socket that is not half-closed now was half-closed before. -/
lemma halfClosed_of_keepsFin (h : KeepsFin w w') (hfin : w'.HalfClosed) : w.HalfClosed := by
  obtain ⟨d, hd, hshutdown⟩ := hfin
  exact ⟨d, (h.mem_iff (by simp [hshutdown])).mp hd, hshutdown⟩

lemma keepsFin_queueIf (w : World) (condition : Bool) (f : Functor) :
    KeepsFin w (w.queueIf condition f) := by
  cases condition with
  | true => exact .cons rfl
  | false => exact .refl _

lemma keepsFin_bufferOutput (w : World) (rest : Bytes) (remaining : ℕ) :
    KeepsFin w (w.bufferOutput rest remaining) := by
  refine (w.extends_bufferOutput rest remaining).mono fun d => ?_
  cases d <;> simp [Effect.isBuffering, Effect.isShutdownWrite]

lemma keepsFin_callShutdown (w : World) :
    KeepsFin w ((w.log .shutdownCalled).setState .kDisconnecting) := by
  have hcalled : KeepsFin w (w.log .shutdownCalled) := .cons rfl
  exact hcalled.trans (.cons rfl)

/-- `sendInLoop` does not half-close. -/
lemma SendInLoop.keepsFin {call : ℕ} {data : StdString} (h : SendInLoop w call data k w') :
    KeepsFin w w' := by
  have hentered : KeepsFin w (w.log (.sendInLoop call data.data)) :=
    .cons rfl
  have hwritten (result : IoResult) :
      KeepsFin w ((w.log (.sendInLoop call data.data)).log (.write data.data result)) :=
    hentered.trans (.cons rfl)
  cases h with
  | fatal errno => exact hwritten (.error errno)
  | whole => exact (hwritten (.ok data.size)).trans (keepsFin_queueIf _ _ _)
  | partly n result => exact (hwritten result).trans (keepsFin_bufferOutput _ _ _)
  | nothing => exact hwritten (.error EWOULDBLOCK)
  | noData => exact hentered
  | buffered => exact hentered.trans (keepsFin_bufferOutput _ _ _)

lemma keepsFin_drained (w : World) : KeepsFin w w.drained := by
  have hwritten : KeepsFin w
      (w.log (.write w.outputBuffer_.readable (.ok w.outputBuffer_.readableBytes))) :=
    .cons rfl
  exact hwritten.trans (keepsFin_queueIf _ _ _)

/-- Every step half-closes the socket in one of these ways, or not at all. -/
theorem OutputStep.halfCloseStep (h : OutputStep w e w') : HalfCloseStep w e w' := by
  cases h with
  | untouched h =>
    refine .keeps (h.history.mono fun d => ?_)
    cases d <;> simp [Effect.movesOutput, Effect.isShutdownWrite]
  | @loopSend buf k v connected branch =>
    have hcalled : KeepsFin w (w.callSend buf.data) := .cons rfl
    have hreturned : KeepsFin v (v.log (.sendReturned w.sendCalls)) :=
      .cons rfl
    exact .keeps ((hcalled.trans branch.keepsFin).trans hreturned)
  | @loopSendFault buf k _ connected branch =>
    have hcalled : KeepsFin w (w.callSend buf.data) := .cons rfl
    exact .keeps (hcalled.trans branch.keepsFin)
  | loopShutdown connected =>
    unfold World.shutdownInLoop
    split_ifs with hwriting
    · exact .keeps (keepsFin_callShutdown w)
    · exact .loopShutdown connected (by simpa using hwriting)
  | handleWrite todo branch =>
    cases branch with
    | notWriting => exact .keeps (.refl _)
    | stuck | partly => exact .keeps (.cons rfl)
    | drain => exact .keeps (keepsFin_drained _)
    | drainShutdown writing drains closing => exact .drained todo writing drains closing
  | sendInLoop functors branch => exact .keeps branch.keepsFin
  | shutdownInLoop functors =>
    unfold World.shutdownInLoop
    split_ifs with hwriting
    · exact .keeps (.refl _)
    · exact .shutdownInLoop functors (by simpa using hwriting)

lemma HalfCloseStep.keeps_or_halfCloses (h : HalfCloseStep w e w') :
    KeepsFin w w' ∨ w.HalfCloses e := by
  cases h with
  | keeps h => exact .inl h
  | loopShutdown connected idle => exact .inr ⟨connected, idle⟩
  | drained todo writing drains closing => exact .inr ⟨by rw [todo]; rfl, writing, drains, closing⟩
  | shutdownInLoop functors idle => exact .inr ⟨by rw [functors]; rfl, idle⟩

/-! ## Queued calls of `shutdown` -/

lemma shutdownQueued_iff_deferred : w.ShutdownQueued ↔ w.Deferred .shutdownInLoop := by
  simp only [ShutdownQueued, Deferred, ThreadPc.functor_eq_shutdownInLoop]

lemma shutdownQueued_of_functors {rest : List Functor}
    (h : w.functors = .shutdownInLoop :: rest) : w.ShutdownQueued :=
  shutdownQueued_iff_deferred.mpr (deferred_of_functors h)

lemma not_shutdownQueued_established (cfg : Config) : ¬ cfg.established.ShutdownQueued :=
  shutdownQueued_iff_deferred.not.mpr (not_deferred_established cfg)

/-- Another thread stores `kDisconnecting` before it queues `shutdownInLoop`. -/
theorem QueueStep.shutdownQueued (h : QueueStep w e w') (hqueued : w'.ShutdownQueued) :
    w.ShutdownQueued ∨ w'.state_ = .kDisconnecting ∧ ∃ t, e = .shutdownStore t := by
  rw [shutdownQueued_iff_deferred] at hqueued ⊢
  rcases h.deferred rfl hqueued with hold | ⟨t, buf, -, -, -, hnew⟩ | ⟨t, rfl, hstate, -⟩
  · exact .inl hold
  · cases hnew
  · exact .inr ⟨hstate, t, rfl⟩

/-! ## After the socket was half-closed -/

/-- What holds as long as the socket is not half-closed with a `send` outstanding. -/
structure HalfCloseInv (w : World) : Prop where
  connected : ConnectedInv w
  asks : ¬ w.Closed → w.AsksForOutput
  closing : w.ShutdownQueued → w.state_ ≠ .kConnected
  never : w.NoWriteAfterFin
  /-- Nothing can be written any more. -/
  idle : w.HalfClosed → w.channel_.isWriting = false ∧ w.state_ ≠ .kConnected ∧
    ¬ w.SendsOutstanding

namespace HalfCloseInv

/-- Nothing waits to be written on a connection in the state `kConnected` whose channel does not
ask for `EPOLLOUT`. -/
lemma readableBytes_eq_zero (hw : HalfCloseInv w) (hstate : w.state_ = .kConnected)
    (hidle : w.channel_.isWriting = false) : w.outputBuffer_.readableBytes = 0 := by
  have hopen : ¬ w.Closed := by
    rintro (hmem | hmem)
    · exact absurd (hw.connected.not_ended hstate _ hmem) (by simp [Effect.isEnd])
    · exact absurd (hw.connected.not_ended hstate _ hmem) (by simp [Effect.isEnd])
  have hasks := hw.asks hopen
  by_contra hne
  exact absurd (hasks.mpr hne) (by simp [hidle])

/-- Once the socket is half-closed, no step writes or asks for `EPOLLOUT`. -/
lemma idle_step (hw : HalfCloseInv w) (h : Step w e w') (hfin : w.HalfClosed) :
    w'.channel_.isWriting = false ∧ Extends (·.isWrite = false) w.history w'.history := by
  obtain ⟨hidle, hstate, hnone⟩ := hw.idle hfin
  cases h.outputStep with
  | untouched h =>
    refine ⟨?_, h.history.mono fun d => ?_⟩
    · rcases h.isWriting with heq | hclosed
      · exact heq.trans hidle
      · exact hclosed.1
    · cases d <;> simp [Effect.movesOutput, Effect.isWrite]
  | loopSend connected | loopSendFault connected | loopShutdown connected =>
    exact absurd connected hstate
  | @handleWrite rest k _ todo branch =>
    have hrest : (w.setTodo rest).channel_.isWriting = false := hidle
    cases branch with
    | notWriting => exact ⟨hidle, .refl _⟩
    | _ => simp_all
  | @sendInLoop call buf len rest k _ functors branch =>
    exact absurd ⟨call, buf, len, captured_of_functors functors⟩ hnone
  | shutdownInLoop functors =>
    unfold World.shutdownInLoop
    split_ifs
    · exact ⟨hidle, .refl _⟩
    · exact ⟨hidle, .cons rfl⟩

/-- After a step that half-closes, the channel does not ask for `EPOLLOUT` and `state_` is not
`kConnected`. -/
lemma halfCloses_step (hw : HalfCloseInv w) (h : HalfCloseStep w e w') (hfin : ¬ w.HalfClosed)
    (hfin' : w'.HalfClosed) :
    w'.channel_.isWriting = false ∧ w'.state_ ≠ .kConnected ∧ w'.NoWriteAfterFin := by
  have hnever {v : World} {k : Kernel} (hv : KeepsFin w v) :
      (v.shutdownWrite k).NoWriteAfterFin := by
    refine ⟨by simp [Effect.isWrite], neverAfter_of_forall_not fun d hd hshutdown => hfin ?_⟩
    exact halfClosed_of_keepsFin hv ⟨d, hd, hshutdown⟩
  cases h with
  | keeps h => exact absurd (halfClosed_of_keepsFin h hfin') hfin
  | loopShutdown connected idle =>
    exact ⟨idle, by simp, hnever (keepsFin_callShutdown w)⟩
  | drained todo writing drains closing =>
    have hstate : w.state_ ≠ .kConnected := by simp [closing]
    exact ⟨PolledChannel.isWriting_disableWriting _, hstate, hnever (keepsFin_drained _)⟩
  | shutdownInLoop functors idle =>
    have hqueued := shutdownQueued_of_functors functors
    exact ⟨idle, hw.closing hqueued, hnever (.refl _)⟩

/-- Every step that does not half-close with a `send` outstanding keeps the invariant. -/
theorem step (hw : HalfCloseInv w) (h : Step w e w')
    (hok : w.HalfCloses e → ¬ w.SendsOutstanding) : HalfCloseInv w' := by
  have hstays (hstate : w.state_ ≠ .kConnected) : w'.state_ ≠ .kConnected :=
    fun hc => hstate (h.queueStep.connected hc)
  have hfin : w'.NoWriteAfterFin ∧ (w'.HalfClosed → w'.channel_.isWriting = false ∧
      w'.state_ ≠ .kConnected ∧ ¬ w'.SendsOutstanding) := by
    by_cases hfin : w.HalfClosed
    · obtain ⟨hidle, hext⟩ := hw.idle_step h hfin
      obtain ⟨-, hstate, hnone⟩ := hw.idle hfin
      refine ⟨(hext.whenever_iff (by simp)).mpr hw.never, fun _ => ⟨hidle, hstays hstate, ?_⟩⟩
      rintro ⟨call, buf, len, hcaptured⟩
      rcases h.queueStep.captured hcaptured with hold | ⟨hconnected, -⟩
      · exact hnone ⟨call, buf, len, hold⟩
      · exact hstate hconnected
    · by_cases hfin' : w'.HalfClosed
      · have hstep := h.outputStep.halfCloseStep
        obtain ⟨hidle, hstate, hnever⟩ := hw.halfCloses_step hstep hfin hfin'
        refine ⟨hnever, fun _ => ⟨hidle, hstate, ?_⟩⟩
        have hcloses : w.HalfCloses e :=
          hstep.keeps_or_halfCloses.resolve_left fun h => hfin (halfClosed_of_keepsFin h hfin')
        rintro ⟨call, buf, len, hcaptured⟩
        rcases h.queueStep.captured hcaptured with hold | ⟨-, t, rfl, -⟩
        · exact hok hcloses ⟨call, buf, len, hold⟩
        · exact hcloses
      · refine ⟨neverAfter_of_forall_not fun d hd hshutdown => ?_, fun h' => absurd h' hfin'⟩
        exact hfin' ⟨d, hd, hshutdown⟩
  refine ⟨hw.connected.step h, asksForOutput_step hw.asks h, fun hqueued => ?_, hfin.1, hfin.2⟩
  rcases h.queueStep.shutdownQueued hqueued with hold | ⟨hclosing, -⟩
  · exact hstays (hw.closing hold)
  · simp [hclosing]

lemma established (cfg : Config) : HalfCloseInv cfg.established := by
  have hopen : ∀ d ∈ cfg.established.history, ¬ d.isShutdownWrite = true := by
    simp [cfg.established_history, Effect.isShutdownWrite]
  refine ⟨ConnectedInv.established cfg, fun _ => asksForOutput_established cfg, fun hqueued => ?_,
    neverAfter_of_forall_not hopen, ?_⟩
  · exact absurd hqueued (not_shutdownQueued_established cfg)
  · rintro ⟨d, hd, hshutdown⟩
    exact absurd hshutdown (hopen d hd)

end HalfCloseInv

/-! ## Calls on the loop thread only -/

/-- When only the loop thread calls the connection, nothing is ever outstanding. -/
structure LoopInv (w : World) : Prop where
  halfClose : HalfCloseInv w
  no_send : ¬ w.SendsOutstanding
  no_shutdown : ¬ w.ShutdownQueued
  once : w.history.countP Effect.isShutdownWrite ≤ 1
  empty : ∀ n, .shutdownWrite n ∈ w.history → n = 0

namespace LoopInv

/-- The first half-close, with nothing left in `outputBuffer_`. -/
lemma first {v : World} (hfirst : ¬ w.HalfClosed) (hv : KeepsFin w v)
    (hempty : v.outputBuffer_.readableBytes = 0) :
    (v.shutdownWrite k).history.countP Effect.isShutdownWrite ≤ 1 ∧
      ∀ n, .shutdownWrite n ∈ (v.shutdownWrite k).history → n = 0 := by
  have hnone : ∀ d ∈ v.history, ¬ d.isShutdownWrite = true :=
    fun d hd hshutdown => hfirst (halfClosed_of_keepsFin hv ⟨d, hd, hshutdown⟩)
  constructor
  · rw [shutdownWrite_history, List.countP_cons, List.countP_eq_zero.mpr hnone]
    simp [Effect.isShutdownWrite]
  · intro n hmem
    rw [shutdownWrite_history] at hmem
    rcases List.mem_cons.mp hmem with hnew | hold
    · rw [Effect.shutdownWrite.inj hnew, hempty]
    · exact absurd rfl (hnone _ hold)

/-- Every step of the loop thread keeps the invariant. -/
theorem step (hw : LoopInv w) (h : Step w e w') (hloop : e.onLoopThread = true) :
    LoopInv w' := by
  have hfin : w'.history.countP Effect.isShutdownWrite ≤ 1 ∧
      ∀ n, .shutdownWrite n ∈ w'.history → n = 0 := by
    cases h.outputStep.halfCloseStep with
    | keeps h =>
      refine ⟨(h.countP_eq (by simp)).trans_le hw.once, fun n hmem => hw.empty n ?_⟩
      exact (h.mem_iff (by simp [Effect.isShutdownWrite])).mp hmem
    | loopShutdown connected idle =>
      exact first (fun hfin => (hw.halfClose.idle hfin).2.1 connected) (keepsFin_callShutdown w)
        (hw.halfClose.readableBytes_eq_zero connected idle)
    | drained todo writing drains closing =>
      refine first (fun hfin => ?_) (keepsFin_drained _) (by simp [drained])
      simp [(hw.halfClose.idle hfin).1] at writing
    | shutdownInLoop functors idle =>
      exact absurd (shutdownQueued_of_functors functors) hw.no_shutdown
  refine ⟨hw.halfClose.step h fun _ => hw.no_send, ?_, fun hqueued => ?_, hfin.1, hfin.2⟩
  · rintro ⟨call, buf, len, hcaptured⟩
    rcases h.queueStep.captured hcaptured with hold | ⟨-, t, rfl, -⟩
    · exact hw.no_send ⟨call, buf, len, hold⟩
    · cases hloop
  · rcases h.queueStep.shutdownQueued hqueued with hold | ⟨-, t, rfl⟩
    · exact hw.no_shutdown hold
    · cases hloop

lemma established (cfg : Config) : LoopInv cfg.established := by
  refine ⟨HalfCloseInv.established cfg, ?_, not_shutdownQueued_established cfg, ?_, ?_⟩
  · rintro ⟨call, buf, len, hcaptured⟩
    exact not_captured_established cfg hcaptured
  · simp [cfg.established_history, Effect.isShutdownWrite]
  · simp [cfg.established_history]

end LoopInv

end World

/-- When `send`, `shutdown` and `forceClose` are called on the loop thread only, the channel asks
for `EPOLLOUT` exactly while bytes are waiting, until the connection is closed; the socket is
half-closed at most once, with nothing left in `outputBuffer_`; and nothing is written after
that. -/
theorem output_interest_and_half_close {cfg : Config} {es : List Event} {w : World}
    (hloop : ∀ e ∈ es, e.onLoopThread = true) (hrun : Runs cfg es w) :
    (¬ w.Closed → w.AsksForOutput) ∧ w.history.countP Effect.isShutdownWrite ≤ 1 ∧
      (∀ n, .shutdownWrite n ∈ w.history → n = 0) ∧ w.NoWriteAfterFin := by
  have hinv : World.LoopInv w := by
    refine invariant_of_meets (fun v e v' hv he hstep => ?_) (World.LoopInv.established cfg)
      (Meets.of_forall _ hloop) hrun
    exact hv.step (World.step_eq_some hstep).2 he
  exact ⟨hinv.halfClose.asks, hinv.once, hinv.empty, hinv.halfClose.never⟩

/-- The loop thread sends more than the socket takes and calls `shutdown`; the rest is written
before the socket is half-closed. -/
theorem output_interest_and_half_close_drained :
    ∃ w, Runs Config.single [.loopSend ⟨[104, 105], by decide⟩ ⟨.ok 1, .ok [], none⟩,
        .loopShutdown (.ready []), .poll EPOLLOUT, .handleEvent, .runCall (.ready [])] w ∧
      ¬ w.Closed ∧ w.HalfClosed ∧ (¬ w.Closed → w.AsksForOutput) ∧
      w.history.countP Effect.isShutdownWrite ≤ 1 ∧
      (∀ n, .shutdownWrite n ∈ w.history → n = 0) ∧ w.NoWriteAfterFin := by
  have hrun : ∃ w, exec World.step Config.single.established
      [.loopSend ⟨[104, 105], by decide⟩ ⟨.ok 1, .ok [], none⟩, .loopShutdown (.ready []),
        .poll EPOLLOUT, .handleEvent, .runCall (.ready [])] = some w ∧
      (¬ w.Closed ∧ w.HalfClosed) :=
    exists_exec_of_any (by decide +kernel)
  obtain ⟨w, hrun, hopen, hfin⟩ := hrun
  exact ⟨w, hrun, hopen, hfin, output_interest_and_half_close (by decide) hrun⟩

end SimpleMuduo
