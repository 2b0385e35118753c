import SimpleMuduo.TcpConnection.LifecycleSteps
import SimpleMuduo.TcpConnection.OutputSteps

/-!
# Interest in writing

Until the connection is closed, its channel asks for `EPOLLOUT` exactly while `outputBuffer_` holds
bytes.  This is so in every state of every run, whichever threads call the connection.
-/

namespace SimpleMuduo

namespace World

/-- `handleClose` or `connectDestroyed` has been called. -/
def Closed (w : World) : Prop := .handleClose ∈ w.history ∨ .connectDestroyed ∈ w.history

instance (w : World) : Decidable w.Closed := inferInstanceAs (Decidable (_ ∨ _))

/-- The channel asks for `EPOLLOUT` exactly while bytes are waiting. -/
def AsksForOutput (w : World) : Prop :=
  w.channel_.isWriting = true ↔ w.outputBuffer_.readableBytes ≠ 0

variable {w w' : World} {k : Kernel}

lemma Closed.step {e : Event} (hw : w.Closed) (h : Step w e w') : w'.Closed :=
  hw.imp (fun hmem => h.suffix.subset hmem) fun hmem => h.suffix.subset hmem

/-- Buffering something makes the channel ask for `EPOLLOUT`. -/
lemma asksForOutput_bufferOutput (w : World) {rest : Bytes} (hrest : rest ≠ []) (remaining : ℕ) :
    (w.bufferOutput rest remaining).AsksForOutput := by
  have hlen : 0 < rest.length := List.length_pos_iff.mpr hrest
  refine iff_of_true (w.isWriting_bufferOutput rest remaining) ?_
  rw [bufferOutput_outputBuffer_, Buffer.readableBytes_append]
  omega

lemma SendInLoop.asksForOutput {call : ℕ} {data : StdString} (hw : w.AsksForOutput)
    (h : SendInLoop w call data k w') : w'.AsksForOutput := by
  cases h with
  | fatal | whole | nothing | noData => exact hw
  | partly n result idle took lt =>
    refine asksForOutput_bufferOutput _ (fun hnil => ?_) _
    have hall : data.size ≤ n := List.drop_eq_nil_iff.mp hnil
    omega
  | buffered busy nonempty => exact asksForOutput_bufferOutput _ nonempty _

lemma asksForOutput_drained (w : World) : w.drained.AsksForOutput :=
  iff_of_false (by simp [drained]) (by simp [drained])

lemma HandleWrite.asksForOutput (hw : w.AsksForOutput) (h : HandleWrite w k w') :
    w'.AsksForOutput := by
  cases h with
  | notWriting | stuck => exact hw
  | partly n writing pos lt =>
    refine iff_of_true writing ?_
    rw [retrieveOutput_outputBuffer_, Buffer.readableBytes_retrieve, log_outputBuffer_]
    omega
  | drain | drainShutdown => exact asksForOutput_drained w

lemma asksForOutput_shutdownInLoop (hw : w.AsksForOutput) (k : Kernel) :
    (w.shutdownInLoop k).AsksForOutput := by
  unfold shutdownInLoop
  split_ifs <;> exact hw

/-- Every step keeps the interest in writing right until the connection is closed. -/
theorem asksForOutput_step {e : Event} (hw : ¬ w.Closed → w.AsksForOutput) (h : Step w e w') :
    ¬ w'.Closed → w'.AsksForOutput := by
  intro hopen'
  have hasks : w.AsksForOutput := hw fun hclosed => hopen' (hclosed.step h)
  have hcall (data : Bytes) : (w.callSend data).AsksForOutput := hasks
  cases h.outputStep with
  | untouched h =>
    rcases h.isWriting with heq | ⟨-, hclosed⟩
    · rw [AsksForOutput, heq, h.outputBuffer_]
      exact hasks
    · exact absurd hclosed hopen'
  | @loopSend buf k v connected branch =>
    have hsent : v.AsksForOutput := branch.asksForOutput (hcall buf.data)
    exact hsent
  | loopSendFault connected branch => exact branch.asksForOutput (hcall _)
  | loopShutdown connected =>
    have hstored : ((w.log .shutdownCalled).setState .kDisconnecting).AsksForOutput := hasks
    exact asksForOutput_shutdownInLoop hstored _
  | @handleWrite rest k _ todo branch =>
    have hrest : (w.setTodo rest).AsksForOutput := hasks
    exact branch.asksForOutput hrest
  | @sendInLoop call buf len rest k _ functors branch =>
    have hrest : (w.setFunctors rest).AsksForOutput := hasks
    exact branch.asksForOutput hrest
  | @shutdownInLoop rest k functors =>
    have hrest : (w.setFunctors rest).AsksForOutput := hasks
    exact asksForOutput_shutdownInLoop hrest k

lemma asksForOutput_established (cfg : Config) : cfg.established.AsksForOutput := by
  have hwriting : cfg.established.channel_.isWriting = false := by
    have henable : cfg.established.channel_.isWriting = cfg.newConnection.channel_.isWriting :=
      PolledChannel.isWriting_enableReading _
    rw [henable]
    simp [Config.newConnection, PolledChannel.isWriting, Channel.isWriting, kNoneEvent]
  have hempty : cfg.established.outputBuffer_.readableBytes = 0 := Nat.sub_self _
  refine iff_of_false ?_ (not_not.mpr hempty)
  simp [hwriting]

end World

/-- In every state of every run before the connection is closed, the channel asks for `EPOLLOUT`
exactly while bytes are waiting. -/
theorem asksForOutput_of_runs {cfg : Config} {es : List Event} {w : World} (hrun : Runs cfg es w)
    (hopen : ¬ w.Closed) : w.AsksForOutput := by
  have hstep : ∀ (v : World) (e : Event) (v' : World), (¬ v.Closed → v.AsksForOutput) →
      v.step e = some v' → ¬ v'.Closed → v'.AsksForOutput :=
    fun v e v' hv he => World.asksForOutput_step hv (World.step_eq_some he).2
  exact invariant_of_exec hstep (fun _ => World.asksForOutput_established cfg) hrun hopen

end SimpleMuduo
