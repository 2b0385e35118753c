import SimpleMuduo.TcpConnection.Steps

/-!
# The steps that move output

Seen from the output side only a few of the steps matter: the ones that run `sendInLoop`,
`handleWrite` or `shutdownInLoop`.  Every other step leaves the output buffer and the written
bytes alone, and stops the interest in `EPOLLOUT` at most when it closes the connection.
-/

namespace SimpleMuduo

/-- The effects that the output of the connection consists of. -/
def Effect.movesOutput : Effect → Bool
  | .sendInLoop _ _ | .write _ _ | .append _ | .enableWriting | .shutdownWrite _ => true
  | .queueInLoop f => f.isUserCallback
  | _ => false

/-- A step that does not move output. -/
structure Untouched (w w' : World) : Prop where
  outputBuffer_ : w'.outputBuffer_ = w.outputBuffer_
  connected : w'.state_ = .kConnected → w.state_ = .kConnected
  history : Extends (·.movesOutput = false) w.history w'.history
  isWriting : w'.channel_.isWriting = w.channel_.isWriting ∨
    w'.channel_.isWriting = false ∧ (.handleClose ∈ w'.history ∨ .connectDestroyed ∈ w'.history)
  disconnected : .setState .kDisconnected ∈ w'.history →
    .setState .kDisconnected ∈ w.history ∨ w'.channel_.isWriting = false

namespace Untouched

variable {w w₁ w₂ : World}

/-- A step that records nothing and leaves the output side alone. -/
lemma of_same (hbuffer : w₁.outputBuffer_ = w.outputBuffer_) (hstate : w₁.state_ = w.state_)
    (hwriting : w₁.channel_.isWriting = w.channel_.isWriting) (hhistory : w₁.history = w.history) :
    Untouched w w₁ where
  outputBuffer_ := hbuffer
  connected := fun h => hstate ▸ h
  history := hhistory ▸ .refl _
  isWriting := .inl hwriting
  disconnected := fun h => .inl (hhistory ▸ h)

/-- Nothing happens. -/
lemma refl (w : World) : Untouched w w := of_same rfl rfl rfl rfl

/-- Two such steps after each other. -/
lemma trans (h₁ : Untouched w w₁) (h₂ : Untouched w₁ w₂) : Untouched w w₂ := by
  have hkept {e : Effect} (he : e ∈ w₁.history) : e ∈ w₂.history := h₂.history.suffix.subset he
  refine ⟨h₂.outputBuffer_.trans h₁.outputBuffer_, h₁.connected ∘ h₂.connected,
    h₁.history.trans h₂.history, ?_, ?_⟩
  · rcases h₂.isWriting with heq | hclosed
    · rw [heq]
      exact h₁.isWriting.imp_right fun h => ⟨h.1, h.2.imp hkept hkept⟩
    · exact .inr hclosed
  · intro hdisc
    rcases h₂.disconnected hdisc with hold | hnew
    · rcases h₁.disconnected hold with hold | hnew
      · exact .inl hold
      · rcases h₂.isWriting with heq | hclosed
        · exact .inr (heq.trans hnew)
        · exact .inr hclosed.1
    · exact .inr hnew

/-- An effect that does not move output and is not the disconnection. -/
lemma of_log (w : World) (e : Effect) (he : e.movesOutput = false)
    (hne : e ≠ .setState .kDisconnected) : Untouched w (w.log e) where
  outputBuffer_ := rfl
  connected := id
  history := .cons he
  isWriting := .inl rfl
  disconnected := fun h => .inl ((List.mem_cons.mp h).resolve_left (Ne.symm hne))

/-- A functor that is no user callback is queued. -/
lemma of_queueInLoop (w : World) (f : Functor) (hf : f.isUserCallback = false) :
    Untouched w (w.queueInLoop f) :=
  (of_log w (.queueInLoop f) hf (by simp)).trans (of_same rfl rfl rfl rfl)

/-- `state_` becomes `kDisconnecting`. -/
lemma of_kDisconnecting (w : World) : Untouched w (w.setState .kDisconnecting) where
  outputBuffer_ := rfl
  connected := fun h => by simp at h
  history := .cons rfl
  isWriting := .inl rfl
  disconnected := fun h => .inl (by simpa using h)

/-- A user callback is called, or is not set. -/
lemma of_callback (w : World) (isSet : Bool) (e : Effect) (he : e.movesOutput = false)
    (hne : e ≠ .setState .kDisconnected) : Untouched w (w.callback isSet e) :=
  (of_log w e he hne).trans (of_same rfl rfl rfl rfl)

/-- Disconnecting: `setState(kDisconnected)` and `disableAll()` after the effect that starts
`handleClose` or `connectDestroyed`. -/
lemma of_disconnect (w : World) {e : Effect} (he : e = .handleClose ∨ e = .connectDestroyed) :
    Untouched w (((w.log e).setState .kDisconnected).disableAll) where
  outputBuffer_ := rfl
  connected := fun h => by simp at h
  history := by
    have hstarted : Extends (·.movesOutput = false) w.history (w.log e).history := by
      rcases he with rfl | rfl <;> exact .cons rfl
    exact hstarted.trans (.cons rfl)
  isWriting := by
    refine .inr ⟨by simp, ?_⟩
    rcases he with rfl | rfl <;> simp
  disconnected := fun _ => .inr (by simp)

/-- The loop thread has something to go on with. -/
lemma of_continueWith (w : World) (c : Call) : Untouched w (w.continueWith c) :=
  of_same rfl rfl rfl rfl

/-- `handleClose` disables the channel and leaves the output where it is. -/
lemma of_handleClose (w : World) : Untouched w w.handleClose := by
  refine ((of_disconnect w (.inl rfl)).trans ?_).trans (of_continueWith _ .closeCallback)
  exact of_callback _ w.connectionCallback_ _ rfl (by simp)

/-- The channel is removed. -/
lemma of_removeChannel (w : World) : Untouched w w.removeChannel := by
  have hremove : Untouched w { w with channel_ := w.channel_.remove } :=
    of_same rfl rfl (PolledChannel.isWriting_remove _) rfl
  exact hremove.trans (of_log _ .connectDestroyedReturned rfl (by simp))

/-- `connectDestroyed` disables and removes the channel. -/
lemma of_connectDestroyed (w : World) : Untouched w w.connectDestroyed := by
  by_cases hstate : w.state_ = .kConnected
  · rw [World.connectDestroyed_of_connected hstate]
    refine ((of_disconnect w (.inr rfl)).trans ?_).trans (of_continueWith _ .removeChannel)
    exact of_callback _ w.connectionCallback_ _ rfl (by simp)
  · rw [World.connectDestroyed_of_ne hstate]
    exact (of_log w .connectDestroyed rfl (by simp)).trans (of_removeChannel _)

/-- `forceCloseInLoop` is `handleClose`, when it is anything. -/
lemma of_forceCloseInLoop (w : World) : Untouched w w.forceCloseInLoop := by
  unfold World.forceCloseInLoop
  split_ifs
  · exact of_handleClose w
  · exact refl w

/-- `removeConnectionInLoop` queues `connectDestroyed`. -/
lemma of_removeConnectionInLoop (w : World) : Untouched w w.removeConnectionInLoop := by
  have hremoved : Untouched w { w with inConnections := false } := of_same rfl rfl rfl rfl
  exact hremoved.trans (of_queueInLoop _ _ rfl)

/-- `closeCallback_` goes on to the server. -/
lemma of_closeCallback (w : World) : Untouched w w.closeCallback := by
  have hlog := of_log w .closeCallback rfl (by simp)
  simp only [World.closeCallback]
  split_ifs
  · exact hlog.trans (of_removeConnectionInLoop _)
  · exact hlog.trans (of_same rfl rfl rfl rfl)
  · exact hlog.trans (of_same rfl rfl rfl rfl)

/-- `~TcpServer`, as far as the connection is concerned. -/
lemma of_destroyServer (w : World) : Untouched w w.destroyServer := by
  simp only [World.destroyServer]
  split_ifs
  · exact of_same rfl rfl rfl rfl
  · have hgone : Untouched w { w with serverAlive := false, inConnections := false } :=
      of_same rfl rfl rfl rfl
    exact hgone.trans (of_queueInLoop _ _ rfl)
  · exact of_same rfl rfl rfl rfl

/-- `handleRead` concerns the input only, also when it closes the connection. -/
lemma of_handleRead {k : Kernel} (h : World.HandleRead w k w₁) : Untouched w w₁ := by
  cases h with
  | failed => exact of_same rfl rfl rfl rfl
  | message inputBuffer =>
    have hinput : Untouched w (w.setInput inputBuffer) := of_same rfl rfl rfl rfl
    exact hinput.trans (of_callback _ _ _ rfl (by simp))
  | closed inputBuffer =>
    have hinput : Untouched w (w.setInput inputBuffer) := of_same rfl rfl rfl rfl
    exact hinput.trans (of_handleClose _)

end Untouched

namespace World

/-- The steps of the system, sorted by what they do to the output. -/
inductive OutputStep (w : World) : Event → World → Prop
  | untouched {e w'} (h : Untouched w w') : OutputStep w e w'
  | loopSend {buf k w'} (connected : w.state_ = .kConnected)
      (branch : SendInLoop (w.callSend buf.data) w.sendCalls buf k w') (fault : w'.fault = none) :
      OutputStep w (.loopSend buf k) (w'.log (.sendReturned w.sendCalls))
  | loopSendFault {buf k w'} (connected : w.state_ = .kConnected)
      (branch : SendInLoop (w.callSend buf.data) w.sendCalls buf k w') (fault : w'.fault ≠ none) :
      OutputStep w (.loopSend buf k) w'
  | loopShutdown {k} (connected : w.state_ = .kConnected) :
      OutputStep w (.loopShutdown k)
        (((w.log .shutdownCalled).setState .kDisconnecting).shutdownInLoop k)
  | handleWrite {rest k w'} (todo : w.todo = .handleWrite :: rest)
      (branch : HandleWrite (w.setTodo rest) k w') : OutputStep w (.runCall k) w'
  | sendInLoop {call buf len rest k w'} (functors : w.functors = .sendInLoop call buf len :: rest)
      (branch : SendInLoop (w.setFunctors rest) call ((w.strings buf).take len) k w') :
      OutputStep w (.runFunctor k) w'
  | shutdownInLoop {rest k} (functors : w.functors = .shutdownInLoop :: rest) :
      OutputStep w (.runFunctor k) ((w.setFunctors rest).shutdownInLoop k)

/-- Every step moves output in one of these ways, or not at all. -/
theorem Step.outputStep {w w' : World} {e : Event} (h : Step w e w') : OutputStep w e w' := by
  cases h with
  | refused => exact .untouched (.refl w)
  | @sendLoad t buf =>
    have hcall := Untouched.of_log w (.sendCalled w.sendCalls (w.strings buf).data) rfl (by simp)
    refine .untouched (hcall.trans ?_)
    exact .of_same rfl rfl rfl rfl
  | @sendPush t call buf len =>
    have hpush := Untouched.of_queueInLoop w (.sendInLoop call buf len) rfl
    refine .untouched ((hpush.trans (.of_log _ (.sendReturned call) rfl (by simp))).trans ?_)
    exact .of_same rfl rfl rfl rfl
  | shutdownLoad =>
    refine .untouched ((Untouched.of_log w .shutdownCalled rfl (by simp)).trans ?_)
    exact .of_same rfl rfl rfl rfl
  | shutdownStore | forceCloseStore =>
    exact .untouched ((Untouched.of_kDisconnecting w).trans (.of_same rfl rfl rfl rfl))
  | shutdownPush =>
    have hpush := Untouched.of_queueInLoop w .shutdownInLoop rfl
    exact .untouched (hpush.trans (.of_same rfl rfl rfl rfl))
  | forceClosePush =>
    have hpush := Untouched.of_queueInLoop w .forceCloseInLoop rfl
    exact .untouched (hpush.trans (.of_same rfl rfl rfl rfl))
  | forceCloseLoad | assign | poll | handleEvent | swap | removeConnectionFault =>
    exact .untouched (.of_same rfl rfl rfl rfl)
  | loopSend connected branch fault => exact .loopSend connected branch fault
  | loopSendFault connected branch fault => exact .loopSendFault connected branch fault
  | loopShutdown connected => exact .loopShutdown connected
  | loopForceClose =>
    exact .untouched ((Untouched.of_kDisconnecting w).trans (.of_queueInLoop _ _ rfl))
  | destroyServer => exact .untouched (.of_destroyServer w)
  | @runCall c rest k _ todo branch =>
    have hrest : Untouched w (w.setTodo rest) := .of_same rfl rfl rfl rfl
    cases branch with
    | handleClose => exact .untouched (hrest.trans (.of_handleClose _))
    | handleError => exact .untouched (hrest.trans (.of_same rfl rfl rfl rfl))
    | handleRead branch => exact .untouched (hrest.trans (.of_handleRead branch))
    | handleWrite branch => exact .handleWrite todo branch
    | closeCallback => exact .untouched (hrest.trans (.of_closeCallback _))
    | connectDestroyed => exact .untouched (hrest.trans (.of_connectDestroyed _))
    | removeChannel => exact .untouched (hrest.trans (.of_removeChannel _))
  | @runFunctor f rest k _ todo functors branch =>
    have hrest : Untouched w (w.setFunctors rest) := .of_same rfl rfl rfl rfl
    cases branch with
    | sendInLoop branch => exact .sendInLoop functors branch
    | shutdownInLoop => exact .shutdownInLoop functors
    | forceCloseInLoop => exact .untouched (hrest.trans (.of_forceCloseInLoop _))
    | connectDestroyed => exact .untouched (hrest.trans (.of_connectDestroyed _))
    | userCallback => exact .untouched hrest
  | removeConnectionInLoop =>
    have hpending : Untouched w { w with removePending := w.removePending - 1 } :=
      .of_same rfl rfl rfl rfl
    exact .untouched (hpending.trans (.of_removeConnectionInLoop _))

end World

end SimpleMuduo
