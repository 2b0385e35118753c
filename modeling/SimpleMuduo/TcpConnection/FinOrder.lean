import SimpleMuduo.TcpConnection.HalfClose

/-!
# Data before FIN

A `send` and a later `shutdown` on another thread are queued in their order.  A `shutdown` on the
loop thread is not queued: it half-closes the socket at once when nothing waits in `outputBuffer_`,
and overtakes the `sendInLoop` functors that do.  The data of every `send` that returned before a
`shutdown` was called precedes the FIN, and nothing is written after it, in every run in which the
socket is half-closed only with no `send` outstanding and nothing left in the buffer of a closed
connection, and in which the callers leave their strings alone.
-/

namespace SimpleMuduo

/-- `send` number `call` returned before `shutdown` was called. -/
def ReturnedBeforeShutdown (past : List Effect) (call : ℕ) : Prop :=
  ∃ later earlier, past = later ++ .shutdownCalled :: earlier ∧ .sendReturned call ∈ earlier

/-- The kernel has accepted all bytes of every `send` that returned before `shutdown` was called:
they come right after the bytes that `sendInLoop` had been called with before. -/
def SendsAccepted (past : List Effect) : Prop :=
  ∀ call value, ReturnedBeforeShutdown past call → .sendCalled call value ∈ past →
    ∃ later earlier, past = later ++ .sendInLoop call value :: earlier ∧
      passedBytes earlier ++ value <+: acceptedBytes past

/-- What `sendInLoop` was called with comes right after what it had been called with before. -/
lemma passedBytes_prefix (later earlier : List Effect) (call : ℕ) (data : Bytes) :
    passedBytes earlier ++ data <+: passedBytes (later ++ .sendInLoop call data :: earlier) := by
  have hsplit : passedBytes (later ++ .sendInLoop call data :: earlier) =
      passedBytes (.sendInLoop call data :: earlier) ++ passedBytes later := collect_append later _
  rw [hsplit, passedBytes_cons]
  exact List.prefix_append _ _

namespace World

variable {w w' : World} {e : Event} {call : ℕ} {buf : StringRef} {len : ℕ}

/-- The socket is half-closed after the data, and nothing is written after that. -/
structure FinInOrder (w : World) : Prop where
  accepted : Whenever (·.isShutdownWrite = true) SendsAccepted w.history
  last : w.NoWriteAfterFin

/-- The socket is half-closed with no `send` outstanding, and a closed connection has nothing left
to write then; and a `sendInLoop` functor finds its string unchanged. -/
def HalfClosesInTurn (w : World) (e : Event) : Prop :=
  w.FindsUnchanged e ∧ (w.HalfCloses e → ¬ w.SendsOutstanding ∧
    (w.Closed → w.channel_.isWriting = false → w.outputBuffer_.readableBytes = 0))

/-- A `send` that has returned has been carried out, or its functor is queued. -/
theorem QueueStep.sendReturned (h : QueueStep w e w') (hmem : .sendReturned call ∈ w'.history) :
    .sendReturned call ∈ w.history ∨ (∃ data, .sendInLoop call data ∈ w'.history) ∨
      ∃ buf len, .sendInLoop call buf len ∈ w'.queued := by
  cases h with
  | quiet h => exact .inl ((h.mem_history rfl).mp hmem)
  | @sendPush t c buf len pc =>
    have hnew : call = c ∨ .sendReturned call ∈ w.history := by simpa using hmem
    rcases hnew with rfl | hold
    · refine .inr (.inr ⟨buf, len, ?_⟩)
      have hqueued := w.queued_queueInLoop (.sendInLoop call buf len)
      exact hqueued ▸ List.mem_append_right _ (List.mem_singleton_self _)
    · exact .inl hold
  | @loopSend buf k v _ connected after returned =>
    have hentered : .sendInLoop w.sendCalls buf.data ∈ v.history :=
      (after.mem_history rfl).mpr List.mem_cons_self
    rcases returned with rfl | rfl
    · exact .inl (by simpa using (after.mem_history rfl).mp hmem)
    · rcases List.mem_cons.mp hmem with hnew | hold
      · refine .inr (.inl ⟨buf.data, ?_⟩)
        rw [Effect.sendReturned.inj hnew]
        exact List.mem_cons_of_mem _ hentered
      · exact .inl (by simpa using (after.mem_history rfl).mp hold)
  | sendInLoop functors after => exact .inl (by simpa using (after.mem_history rfl).mp hmem)
  | sendLoad => exact .inl (by simpa [beginSend] using hmem)
  | shutdownStore | shutdownPush | assign => exact .inl (by simpa using hmem)

/-- A queued `sendInLoop` functor stays in the queue until it is run. -/
theorem QueueStep.kept (h : QueueStep w e w') (hmem : .sendInLoop call buf len ∈ w.queued) :
    .sendInLoop call buf len ∈ w'.queued ∨ ∃ data, .sendInLoop call data ∈ w'.history := by
  have hpushed (f : Functor) : .sendInLoop call buf len ∈ (w.queueInLoop f).queued := by
    rw [queued_queueInLoop]
    exact List.mem_append_left [f] hmem
  cases h with
  | quiet h => exact .inl (h.kept call buf len hmem)
  | @loopSend buf' k v _ connected after returned =>
    have hv := after.kept call buf len hmem
    exact .inl (by rcases returned with rfl | rfl <;> exact hv)
  | @sendInLoop c buf' len' rest k _ functors after =>
    rw [queued_of_functors functors] at hmem
    rcases List.mem_cons.mp hmem with hrun | hrest
    · obtain ⟨rfl, rfl, rfl⟩ := Functor.sendInLoop.inj hrun
      exact .inr ⟨_, (after.mem_history rfl).mpr List.mem_cons_self⟩
    · exact .inl (after.kept call buf len hrest)
  | sendPush | shutdownPush => exact .inl (hpushed _)
  | sendLoad | shutdownStore | assign => exact .inl hmem

/-- Every `send` that has returned is on its way or has been accepted before the FIN. -/
structure FinInv (w : World) : Prop where
  halfClose : HalfCloseInv w
  sent : SentInv w
  returned : ∀ call, .sendReturned call ∈ w.history →
    (∃ data, .sendInLoop call data ∈ w.history) ∨ ∃ buf len, .sendInLoop call buf len ∈ w.queued
  accepted : Whenever (·.isShutdownWrite = true) SendsAccepted w.history

namespace FinInv

/-- Half-closing with no `send` outstanding and nothing left to write. -/
lemma accepted_shutdownWrite (hw : FinInv w) (hnone : ¬ w.SendsOutstanding) {v : World}
    (hquiet : Quiet w v) (hkeeps : KeepsFin w v) (hstream : StreamInv v)
    (hempty : v.outputBuffer_.readableBytes = 0) (k : Kernel) :
    Whenever (·.isShutdownWrite = true) SendsAccepted (v.shutdownWrite k).history := by
  refine ⟨fun _ call value hreturned hvalue => ?_, (hkeeps.whenever_iff (by simp)).mpr hw.accepted⟩
  obtain ⟨later, earlier, hpast, hmem⟩ := hreturned
  have hreturned : .sendReturned call ∈ v.history := by
    rw [hpast]
    exact List.mem_append_right _ (List.mem_cons_of_mem _ hmem)
  rw [hquiet.mem_history rfl] at hreturned hvalue
  rcases hw.returned call hreturned with ⟨data, hdata⟩ | ⟨buf, len, hqueued⟩
  · obtain rfl := hw.sent.capture.unique call value data hvalue (hw.sent.called call data hdata)
    obtain ⟨later, earlier, heq⟩ := List.append_of_mem ((hquiet.mem_history rfl).mpr hdata)
    refine ⟨later, earlier, heq, ?_⟩
    rw [hstream.accepted_eq (Buffer.readableBytes_eq_zero.mp hempty), heq]
    exact passedBytes_prefix later earlier call value
  · exact absurd ⟨call, buf, len, .inl hqueued⟩ hnone

/-- Nothing is left to write when `shutdownInLoop` half-closes. -/
lemma readableBytes_eq_zero (hw : FinInv w) (hidle : w.channel_.isWriting = false)
    (hclosed : w.Closed → w.channel_.isWriting = false → w.outputBuffer_.readableBytes = 0) :
    w.outputBuffer_.readableBytes = 0 := by
  by_cases hopen : w.Closed
  · exact hclosed hopen hidle
  · by_contra hne
    exact absurd ((hw.halfClose.asks hopen).mpr hne) (by simp [hidle])

/-- Every step that half-closes in turn keeps the data before the FIN. -/
lemma accepted_step (hw : FinInv w) (hfault : w.fault = none) (h : HalfCloseStep w e w')
    (hok : w.HalfCloses e → ¬ w.SendsOutstanding ∧
      (w.Closed → w.channel_.isWriting = false → w.outputBuffer_.readableBytes = 0)) :
    Whenever (·.isShutdownWrite = true) SendsAccepted w'.history := by
  have hstream := hw.sent.stream hfault
  rcases h.keeps_or_halfCloses with hkeeps | hcloses
  · exact (hkeeps.whenever_iff (by simp)).mpr hw.accepted
  · obtain ⟨hnone, hclosed⟩ := hok hcloses
    cases h with
    | keeps hkeeps => exact (hkeeps.whenever_iff (by simp)).mpr hw.accepted
    | loopShutdown connected idle =>
      have hquiet := (Quiet.of_log w .shutdownCalled rfl).trans (.of_kDisconnecting _)
      have hcalled := hstream.untouched (.of_log w .shutdownCalled rfl (by simp))
      exact hw.accepted_shutdownWrite hnone hquiet (keepsFin_callShutdown w)
        (hcalled.untouched (.of_kDisconnecting _)) (hw.readableBytes_eq_zero idle hclosed) _
    | @drained rest k todo writing drains closing =>
      have hrest : StreamInv (w.setTodo rest) := ⟨hstream.stream, hstream.completed⟩
      have hquiet : Quiet w (w.setTodo rest) := .of_same rfl rfl rfl
      exact hw.accepted_shutdownWrite hnone (hquiet.trans (.of_frame (.of_drained _)))
        (keepsFin_drained _) (streamInv_drained hrest) (by simp [World.drained]) _
    | @shutdownInLoop rest k functors idle =>
      have hrest : StreamInv (w.setFunctors rest) := ⟨hstream.stream, hstream.completed⟩
      exact hw.accepted_shutdownWrite hnone (.of_setFunctors functors (by simp)) (.refl _) hrest
        (hw.readableBytes_eq_zero idle hclosed) _

/-- Every step that meets the condition keeps the invariant. -/
theorem step (hw : FinInv w) (h : Step w e w') (hfault : w.fault = none)
    (hok : w.HalfClosesInTurn e) : FinInv w' := by
  obtain ⟨hunchanged, hturn⟩ := hok
  refine ⟨hw.halfClose.step h fun hcloses => (hturn hcloses).1, hw.sent.step h hfault hunchanged,
    fun call hmem => ?_, hw.accepted_step hfault h.outputStep.halfCloseStep hturn⟩
  rcases h.queueStep.sendReturned hmem with hold | hnew
  · rcases hw.returned call hold with ⟨data, hdata⟩ | ⟨buf, len, hqueued⟩
    · exact .inl ⟨data, h.suffix.subset hdata⟩
    · exact (h.queueStep.kept hqueued).symm.imp_right fun hkept => ⟨buf, len, hkept⟩
  · exact hnew

lemma established (cfg : Config) : FinInv cfg.established := by
  refine ⟨HalfCloseInv.established cfg, SentInv.established cfg, ?_, ?_⟩
  · simp [cfg.established_history]
  · simp [cfg.established_history, Effect.isShutdownWrite]

end FinInv

end World

/-- In every run in which the socket is half-closed in turn, the kernel has accepted the data of
every `send` that returned before `shutdown` was called when the socket is half-closed, and nothing
is written after that. -/
theorem fin_in_order_of_halfClosesInTurn {cfg : Config} {es : List Event} {w : World}
    (hmeets : Meets World.step World.HalfClosesInTurn cfg.established es) (hrun : Runs cfg es w) :
    w.FinInOrder := by
  have hinv : World.FinInv w := by
    refine invariant_of_meets (fun v e v' hv hok hstep => ?_) (World.FinInv.established cfg)
      hmeets hrun
    obtain ⟨hfault, hstep⟩ := World.step_eq_some hstep
    exact hv.step hstep hfault hok
  exact ⟨hinv.accepted, hinv.halfClose.never⟩

/-- Thread 1 sends and then calls `shutdown`, and the two functors are run in this order. -/
theorem fin_in_order_of_halfClosesInTurn_thread :
    ∃ w, Runs Config.single [.sendLoad 1 0, .sendPush 1, .shutdownLoad 1, .shutdownStore 1,
        .shutdownPush 1, .swap, .runFunctor (.ready []), .runFunctor (.ready [])] w ∧
      w.HalfClosed ∧ w.FinInOrder := by
  have hrun : ∃ w, exec World.step Config.single.established
      [.sendLoad 1 0, .sendPush 1, .shutdownLoad 1, .shutdownStore 1, .shutdownPush 1, .swap,
        .runFunctor (.ready []), .runFunctor (.ready [])] = some w ∧ w.HalfClosed :=
    exists_exec_of_any (by decide +kernel)
  obtain ⟨w, hrun, hfin⟩ := hrun
  refine ⟨w, hrun, hfin, fin_in_order_of_halfClosesInTurn ?_ hrun⟩
  -- the thread's own steps and the swap neither run a functor nor half-close
  refine .cons rfl ⟨trivial, nofun⟩ (.cons rfl ⟨trivial, nofun⟩ (.cons rfl ⟨trivial, nofun⟩ ?_))
  refine .cons rfl ⟨trivial, nofun⟩ (.cons rfl ⟨trivial, nofun⟩ (.cons rfl ⟨trivial, nofun⟩ ?_))
  refine .cons rfl ⟨?_, ?_⟩ (.cons rfl ⟨?_, fun _ => ⟨?_, ?_⟩⟩ trivial)
  · intro call buf len rest hfunctors
    obtain ⟨rfl, rfl, rfl⟩ := Functor.sendInLoop.inj (List.cons.inj hfunctors).1
    decide +kernel
  · rintro ⟨hhead, -⟩
    cases hhead
  · intro call buf len rest hfunctors
    cases (List.cons.inj hfunctors).1
  · rintro ⟨call, buf, len, hmem | ⟨t, ht⟩⟩
    · cases List.mem_singleton.mp hmem
    · -- what the five steps of thread 1 left in `threads`
      have hpc : Function.update (Function.update (Function.update (Function.update
          (Function.update (fun _ => ThreadPc.idle) 1 (.send 0 0 2)) 1 .idle) 1 .shutdownStore) 1
            .shutdownPush) 1 .idle t = .send call buf len := ht
      simp only [Function.update_apply] at hpc
      split_ifs at hpc
  · intro hclosed
    exact absurd hclosed (by decide +kernel)

/-- Thread 1 sends, and the loop thread calls `shutdown` before the functor is run. -/
theorem not_fin_in_order :
    ¬ ∀ (cfg : Config) (es : List Event) (w : World), Runs cfg es w → w.FinInOrder := by
  have hrun : ∃ w, exec World.step Config.single.established
      [.sendLoad 1 0, .sendPush 1, .loopShutdown (.ready [])] = some w ∧
      w.history = [.shutdownWrite 0, .setState .kDisconnecting, .shutdownCalled, .sendReturned 0,
        .queueInLoop (.sendInLoop 0 0 2), .sendCalled 0 [104, 105], .connectionCallback true,
        .setState .kConnected] :=
    exists_exec_of_any (by decide +kernel)
  obtain ⟨w, hrun, hhistory⟩ := hrun
  intro h
  have haccepted := (h _ _ w hrun).accepted
  rw [hhistory] at haccepted
  obtain ⟨later, earlier, hpast, -⟩ := haccepted.1 rfl 0 [104, 105]
    ⟨[.setState .kDisconnecting], _, rfl, by simp⟩ (by simp)
  have hmem : Effect.sendInLoop 0 [104, 105] ∈ later ++ .sendInLoop 0 [104, 105] :: earlier := by
    simp
  rw [← hpast] at hmem
  simp at hmem

end SimpleMuduo
