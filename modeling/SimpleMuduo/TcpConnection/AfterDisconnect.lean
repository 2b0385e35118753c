import SimpleMuduo.TcpConnection.Connected
import SimpleMuduo.TcpConnection.OutputSteps

/-!
# Output after the disconnection

`sendInLoop` tests for `kDisconnected`, but only logs that it gives up writing, and goes on.  A
`sendInLoop` functor that is still queued when the connection is closed therefore writes on the
socket, or buffers its bytes and asks for `EPOLLOUT` again.  It is the only way in which the
connection can put out anything after it has been disconnected: the runs in which it does not
are exactly the runs in which no such functor with bytes to put out is run.
-/

namespace SimpleMuduo

/-- `::write`, `outputBuffer_.append` or `channel_->enableWriting`. -/
def Effect.putsOut : Effect → Bool
  | .write _ _ | .append _ | .enableWriting => true
  | _ => false

namespace World

/-- Nothing was put out after `state_` became `kDisconnected`. -/
def QuietAfterDisconnect (w : World) : Prop :=
  NeverAfter (· = .setState .kDisconnected) (·.putsOut = true) w.history

/-- A `sendInLoop` functor is run before the disconnection, or has no bytes while other bytes are
still in `outputBuffer_`. -/
def SendsInTime (w : World) : Event → Prop
  | .runFunctor _ => ∀ call buf len rest, w.functors = .sendInLoop call buf len :: rest →
      .setState .kDisconnected ∈ w.history →
      ((w.strings buf).take len).data = [] ∧ w.outputBuffer_.readableBytes ≠ 0
  | _ => True

/-- Nothing was put out after the disconnection, and the channel no longer asks for `EPOLLOUT`. -/
structure DisconnectInv (w : World) : Prop where
  connected : ConnectedInv w
  quiet : w.QuietAfterDisconnect
  not_writing : .setState .kDisconnected ∈ w.history → w.channel_.isWriting = false

/-- `sendInLoop` puts something out, unless it has no bytes and others are waiting. -/
lemma SendInLoop.putsOut {w w' : World} {call : ℕ} {data : StdString} {k : Kernel}
    (h : SendInLoop w call data k w') (hwriting : w.channel_.isWriting = false)
    (hdata : ¬ (data.data = [] ∧ w.outputBuffer_.readableBytes ≠ 0)) :
    ∃ es e, e ∈ es ∧ e.putsOut = true ∧ w'.history = es ++ w.history := by
  cases h with
  | fatal errno =>
    exact ⟨[.write data.data (.error errno), .sendInLoop call data.data], _, List.mem_cons_self,
      rfl, rfl⟩
  | whole =>
    cases hset : w.writeCompleteCallback_ with
    | true =>
      exact ⟨[.queueInLoop .writeCompleteCallback, .write data.data (.ok data.size),
        .sendInLoop call data.data], .write data.data (.ok data.size), by simp, rfl, by simp⟩
    | false =>
      exact ⟨[.write data.data (.ok data.size), .sendInLoop call data.data], _,
        List.mem_cons_self, rfl, by simp⟩
  | partly n result =>
    obtain ⟨es, -, hmem, hhistory⟩ := World.bufferOutput_history
      ((w.log (.sendInLoop call data.data)).log (.write data.data result))
      (data.data.drop n) (data.size - n)
    refine ⟨es ++ [.write data.data result, .sendInLoop call data.data], _,
      List.mem_append_left _ hmem, rfl, ?_⟩
    simp [hhistory]
  | nothing =>
    exact ⟨[.write data.data (.error EWOULDBLOCK), .sendInLoop call data.data], _,
      List.mem_cons_self, rfl, rfl⟩
  | noData busy empty =>
    exact absurd ⟨empty, fun hnone => busy ⟨hwriting, hnone⟩⟩ hdata
  | buffered =>
    obtain ⟨es, -, hmem, hhistory⟩ := World.bufferOutput_history
      (w.log (.sendInLoop call data.data)) data.data data.size
    refine ⟨es ++ [.sendInLoop call data.data], _, List.mem_append_left _ hmem, rfl, ?_⟩
    simp [hhistory]

namespace DisconnectInv

variable {w w' : World}

lemma not_disconnected (hw : DisconnectInv w) (hstate : w.state_ = .kConnected) :
    .setState .kDisconnected ∉ w.history := by
  intro hmem
  have hend := hw.connected.not_ended hstate _ hmem
  simp [Effect.isEnd] at hend

/-- Before the disconnection there is nothing to show. -/
lemma of_not_disconnected (hinv : ConnectedInv w)
    (hopen : .setState .kDisconnected ∉ w.history) : DisconnectInv w := by
  refine ⟨hinv, neverAfter_of_forall_not ?_, fun hmem => absurd hmem hopen⟩
  rintro e he rfl
  exact hopen he

/-- Effects that put nothing out keep the invariant. -/
lemma of_extends (hw : DisconnectInv w) (hinv : ConnectedInv w')
    (hext : Extends (·.putsOut = false) w.history w'.history)
    (hwriting : .setState .kDisconnected ∈ w'.history → w'.channel_.isWriting = false) :
    DisconnectInv w' :=
  ⟨hinv, (hext.whenever_iff (by simp)).mpr hw.quiet, hwriting⟩

/-- Every step that meets the condition keeps the invariant. -/
theorem step {e : Event} (hw : DisconnectInv w) (h : Step w e w') (hok : w.SendsInTime e) :
    DisconnectInv w' := by
  have hinv := hw.connected.step h
  cases h.outputStep with
  | untouched h =>
    refine hw.of_extends hinv (h.history.mono fun e => ?_) fun hmem => ?_
    · cases e <;> simp [Effect.movesOutput, Effect.putsOut]
    · rcases h.disconnected hmem with hold | hnew
      · rcases h.isWriting with heq | hclosed
        · exact heq.trans (hw.not_writing hold)
        · exact hclosed.1
      · exact hnew
  | loopSend connected branch =>
    refine of_not_disconnected hinv ?_
    rw [log_history, List.mem_cons, branch.frame.mem_history rfl]
    simpa using hw.not_disconnected connected
  | loopSendFault connected branch =>
    refine of_not_disconnected hinv ?_
    rw [branch.frame.mem_history rfl]
    simpa using hw.not_disconnected connected
  | loopShutdown connected =>
    refine of_not_disconnected hinv ?_
    rw [(OutputFrame.of_shutdownInLoop _ _).mem_history rfl]
    simpa using hw.not_disconnected connected
  | @handleWrite rest k _ todo branch =>
    by_cases hopen : .setState .kDisconnected ∈ w.history
    · have hidle : (w.setTodo rest).channel_.isWriting = false := hw.not_writing hopen
      cases branch with
      | notWriting => exact hw.of_extends hinv (.refl _) hw.not_writing
      | _ => simp_all
    · refine of_not_disconnected hinv ?_
      rwa [branch.frame.mem_history rfl]
  | @sendInLoop call buf len rest k _ functors branch =>
    by_cases hopen : .setState .kDisconnected ∈ w.history
    · obtain ⟨hnil, hbusy⟩ := hok call buf len rest functors hopen
      cases branch with
      | noData =>
        refine hw.of_extends hinv (.cons rfl) ?_
        exact fun _ => hw.not_writing hopen
      | buffered busy nonempty => exact absurd hnil nonempty
      | fatal _ idle | whole idle | partly _ _ idle | nothing idle => exact absurd idle.2 hbusy
    · refine of_not_disconnected hinv ?_
      rw [branch.frame.mem_history rfl]
      simpa using hopen
  | @shutdownInLoop rest k functors =>
    have hframe := OutputFrame.of_shutdownInLoop (w.setFunctors rest) k
    unfold World.shutdownInLoop at hinv ⊢
    split_ifs at hinv ⊢
    · exact hw.of_extends hinv (.refl _) hw.not_writing
    · refine hw.of_extends hinv (.cons rfl) fun hmem => ?_
      exact hw.not_writing (by simpa using hmem)

/-- A step that does not meet the condition puts something out after the disconnection. -/
theorem not_quiet {e : Event} (hw : DisconnectInv w) (h : Step w e w')
    (hnot : ¬ w.SendsInTime e) : ¬ w'.QuietAfterDisconnect := by
  cases e with
  | runFunctor k =>
    simp only [SendsInTime, not_forall] at hnot
    obtain ⟨call, buf, len, rest, hfunctors, hdisc, hdata⟩ := hnot
    cases h with
    | refused refuses => exact absurd refuses not_false
    | runFunctor todo functors branch =>
      obtain ⟨rfl, rfl⟩ := List.cons.inj (functors.symm.trans hfunctors)
      cases branch with
      | sendInLoop branch =>
        obtain ⟨es, e, hmem, hputs, hhistory⟩ := branch.putsOut (hw.not_writing hdisc) hdata
        rw [QuietAfterDisconnect, hhistory]
        exact not_neverAfter_append hdisc rfl hmem hputs
      | userCallback callback => simp [Functor.isUserCallback] at callback
  | _ => exact absurd trivial hnot

lemma established (cfg : Config) : DisconnectInv cfg.established := by
  refine of_not_disconnected (ConnectedInv.established cfg) ?_
  simp [cfg.established_history]

end DisconnectInv

end World

/-- The runs in which nothing is put out after `state_` became `kDisconnected` are the runs in
which every `sendInLoop` functor is run before the disconnection, or has no bytes while other
bytes are still in `outputBuffer_`. -/
theorem quiet_after_disconnect_iff (cfg : Config) (es : List Event) :
    Always World.step World.QuietAfterDisconnect cfg.established es ↔
      Meets World.step World.SendsInTime cfg.established es :=
  always_iff_meets
    (fun _ _ _ hw hok he => hw.step (World.step_eq_some he).2 hok)
    (fun _ hw => hw.quiet)
    (fun _ _ _ hw hnot he => hw.not_quiet (World.step_eq_some he).2 hnot)
    (World.DisconnectInv.established cfg)

instance (w : World) : Decidable w.QuietAfterDisconnect :=
  inferInstanceAs (Decidable (NeverAfter _ _ _))

/-- Thread 1 sends, the peer closes before the functor is run, and the functor writes on the
closed connection. -/
theorem not_quiet_after_disconnect :
    ¬ ∀ (cfg : Config) (es : List Event) (w : World), Runs cfg es w → w.QuietAfterDisconnect := by
  have hrun : ∃ w, exec World.step Config.single.established
      [.sendLoad 1 0, .sendPush 1, .poll EPOLLIN, .handleEvent, .runCall (.ready []),
        .runCall (.ready []), .swap, .runFunctor (.ready [])] = some w ∧
      ¬ w.QuietAfterDisconnect :=
    exists_exec_of_any (by decide +kernel)
  obtain ⟨w, hrun, hloud⟩ := hrun
  exact fun h => hloud (h _ _ w hrun)

end SimpleMuduo
