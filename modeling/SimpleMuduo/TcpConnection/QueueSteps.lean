import SimpleMuduo.TcpConnection.Steps

/-!
# The steps of deferred calls

On another thread than the loop thread, `send` and `shutdown` only queue a functor that does their
work later.  Seen from these calls only the steps matter that begin or end one of them, change a
string of a caller, or run `sendInLoop`.  Every other step is quiet: it neither queues nor runs a
`sendInLoop` functor, queues no `shutdownInLoop` functor, and does not establish the connection.
-/

namespace SimpleMuduo

/-- The effects of `send`. -/
def Effect.isSend : Effect → Bool
  | .sendCalled _ _ | .sendReturned _ | .sendInLoop _ _ => true
  | _ => false

/-- The functor of `send` or `shutdown` that the thread is about to push. -/
def ThreadPc.functor : ThreadPc → Option Functor
  | .send call buf len => some (.sendInLoop call buf len)
  | .shutdownPush => some .shutdownInLoop
  | _ => none

/-- The functor was pushed by `send` or `shutdown`. -/
def Functor.isDeferred : Functor → Bool
  | .sendInLoop _ _ _ | .shutdownInLoop => true
  | _ => false

/-- A thread is about to push a `sendInLoop`. -/
lemma ThreadPc.functor_eq_sendInLoop {pc : ThreadPc} {call : ℕ} {buf : StringRef} {len : ℕ} :
    pc.functor = some (.sendInLoop call buf len) ↔ pc = .send call buf len := by
  cases pc <;> simp [functor]

/-- A thread is about to push a `shutdownInLoop`. -/
lemma ThreadPc.functor_eq_shutdownInLoop {pc : ThreadPc} :
    pc.functor = some .shutdownInLoop ↔ pc = .shutdownPush := by
  cases pc <;> simp [functor]

/-- Moving output is no call of `send`. -/
lemma Effect.isSend_of_isOutput {e : Effect} (h : e.isOutput = true) : e.isSend = false := by
  cases e <;> simp_all [Effect.isOutput, Effect.isSend]

/-- A deferred member function is no callback of the user. -/
lemma Functor.isUserCallback_of_isDeferred {f : Functor} (h : f.isDeferred = true) :
    f.isUserCallback = false := by
  cases f <;> simp_all [Functor.isDeferred, Functor.isUserCallback]

namespace World

variable {w : World} {f : Functor}

/-- The functors that have not been run yet. -/
def queued (w : World) : List Functor := w.functors ++ w.pendingFunctors_

/-- The functor is queued, or a thread is about to push it. -/
def Deferred (w : World) (f : Functor) : Prop :=
  f ∈ w.queued ∨ ∃ t, (w.threads t).functor = some f

/-- What the calls of `send` and `shutdown` use besides `state_`. -/
def callState (w : World) : List Functor × (ThreadId → ThreadPc) × (StringRef → StdString) × ℕ :=
  (w.queued, w.threads, w.strings, w.sendCalls)

/-- `queueInLoop` appends. -/
lemma queued_queueInLoop (w : World) (g : Functor) : (w.queueInLoop g).queued = w.queued ++ [g] :=
  (List.append_assoc _ _ _).symm

/-- The functor that is run next is the first of those queued. -/
lemma queued_of_functors {rest : List Functor} (h : w.functors = f :: rest) :
    w.queued = f :: (w.setFunctors rest).queued := by
  rw [queued, h]
  rfl

/-- The functor at the front of the batch is deferred. -/
lemma deferred_of_functors {rest : List Functor} (h : w.functors = f :: rest) : w.Deferred f := by
  refine .inl ?_
  rw [queued_of_functors h]
  exact List.mem_cons_self

/-- Taking a functor out of the batch defers nothing. -/
lemma deferred_setFunctors {g : Functor} {rest : List Functor} (h : w.functors = g :: rest)
    (hf : (w.setFunctors rest).Deferred f) : w.Deferred f := by
  refine hf.imp_left fun hmem => ?_
  rw [queued_of_functors h]
  exact List.mem_cons_of_mem g hmem

/-- What is deferred after a push was before, or is what was pushed. -/
lemma deferred_queueInLoop {g : Functor} (hf : (w.queueInLoop g).Deferred f) :
    w.Deferred f ∨ f = g := by
  rcases hf with hmem | hthread
  · rw [queued_queueInLoop, List.mem_append, List.mem_singleton] at hmem
    exact hmem.imp_left .inl
  · exact .inl (.inr hthread)

/-- What is deferred after a step of a thread was before, or is what the thread will push. -/
lemma deferred_setThread {t : ThreadId} {pc : ThreadPc} (hf : (w.setThread t pc).Deferred f) :
    w.Deferred f ∨ pc.functor = some f := by
  rcases hf with hmem | ⟨s, hs⟩
  · exact .inl (.inl hmem)
  · by_cases hst : s = t
    · subst hst
      rw [setThread_threads, Function.update_self] at hs
      exact .inr hs
    · rw [setThread_threads, Function.update_of_ne hst] at hs
      exact .inl (.inr ⟨s, hs⟩)

/-- On a newly established connection nothing is deferred. -/
lemma not_deferred_established (cfg : Config) : ¬ cfg.established.Deferred f := by
  rintro (hmem | ⟨t, ht⟩)
  · cases hmem
  · cases ht

end World

/-- A step that leaves the calls of `send` and `shutdown` alone. -/
structure Quiet (w w' : World) : Prop where
  deferred : ∀ f : Functor, f.isDeferred = true → w'.Deferred f → w.Deferred f
  kept : ∀ call buf len, .sendInLoop call buf len ∈ w.queued → .sendInLoop call buf len ∈ w'.queued
  strings : w'.strings = w.strings
  sendCalls : w'.sendCalls = w.sendCalls
  connected : w'.state_ = .kConnected → w.state_ = .kConnected
  history : Extends (·.isSend = false) w.history w'.history

namespace Quiet

variable {w w₁ w₂ : World}

/-- A step that leaves the queue alone as well. -/
lemma of_extends (hhistory : Extends (·.isSend = false) w.history w₁.history)
    (hcalls : w₁.callState = w.callState)
    (hstate : w₁.state_ = .kConnected → w.state_ = .kConnected) : Quiet w w₁ := by
  simp only [World.callState, Prod.mk.injEq] at hcalls
  obtain ⟨hqueued, hthreads, hstrings, hcalls⟩ := hcalls
  refine ⟨fun f _ hf => ?_, fun call buf len hmem => ?_, hstrings, hcalls, hstate, hhistory⟩
  · rw [World.Deferred, hqueued, hthreads] at hf
    exact hf
  · rw [hqueued]
    exact hmem

/-- A step that records nothing. -/
lemma of_same (hcalls : w₁.callState = w.callState) (hstate : w₁.state_ = w.state_)
    (hhistory : w₁.history = w.history) : Quiet w w₁ :=
  of_extends (hhistory ▸ .refl _) hcalls fun h => hstate ▸ h

/-- Nothing happens. -/
lemma refl (w : World) : Quiet w w := of_same rfl rfl rfl

/-- Two such steps after each other. -/
lemma trans (h₁ : Quiet w w₁) (h₂ : Quiet w₁ w₂) : Quiet w w₂ where
  deferred := fun f hf hdeferred => h₁.deferred f hf (h₂.deferred f hf hdeferred)
  kept := fun call buf len hmem => h₂.kept call buf len (h₁.kept call buf len hmem)
  strings := h₂.strings.trans h₁.strings
  sendCalls := h₂.sendCalls.trans h₁.sendCalls
  connected := h₁.connected ∘ h₂.connected
  history := h₁.history.trans h₂.history

/-- Work on the output side is quiet. -/
lemma of_frame (h : OutputFrame w w₁) : Quiet w w₁ := by
  have hqueued (f : Functor) (hf : f.isUserCallback = false) : f ∈ w₁.queued ↔ f ∈ w.queued := by
    rw [World.queued, World.queued, List.mem_append, List.mem_append, h.functors,
      h.mem_pendingFunctors hf]
  refine ⟨fun f hf hdeferred => ?_,
    fun call buf len => (hqueued (.sendInLoop call buf len) rfl).mpr,
    h.strings, h.sendCalls, fun hc => h.state_ ▸ hc,
    h.history.mono fun _ => Effect.isSend_of_isOutput⟩
  rw [World.Deferred, hqueued f (Functor.isUserCallback_of_isDeferred hf), h.threads] at hdeferred
  exact hdeferred

/-- Something is recorded that is no call of `send`. -/
lemma of_log (w : World) (e : Effect) (he : e.isSend = false) : Quiet w (w.log e) :=
  of_extends (.cons he) rfl id

/-- `state_` becomes `kDisconnecting`. -/
lemma of_kDisconnecting (w : World) : Quiet w (w.setState .kDisconnecting) :=
  of_extends (.cons rfl) rfl (by simp)

/-- A functor that is not deferred is queued. -/
lemma of_queueInLoop (w : World) (g : Functor) (hg : g.isDeferred = false) :
    Quiet w (w.queueInLoop g) := by
  refine ⟨fun f hf hdeferred => ?_, fun call buf len hmem => ?_, rfl, rfl, id, .cons rfl⟩
  · refine (World.deferred_queueInLoop hdeferred).resolve_right ?_
    rintro rfl
    simp [hg] at hf
  · rw [World.queued_queueInLoop]
    exact List.mem_append_left [g] hmem

/-- A thread that will not push anything goes on. -/
lemma of_setThread (w : World) (t : ThreadId) {pc : ThreadPc} (hpc : pc.functor = none) :
    Quiet w (w.setThread t pc) := by
  refine ⟨fun f hf hdeferred => ?_, fun _ _ _ hmem => hmem, rfl, rfl, id, .refl _⟩
  refine (World.deferred_setThread hdeferred).resolve_right ?_
  simp [hpc]

/-- The calls of `send` in the record stay the same. -/
lemma mem_history (h : Quiet w w₁) {e : Effect} (he : e.isSend = true) :
    e ∈ w₁.history ↔ e ∈ w.history :=
  h.history.mem_iff (by simp [he])

/-- Running a functor other than `sendInLoop` takes it out of the queue. -/
lemma of_setFunctors {f : Functor} {rest : List Functor} (hfunctors : w.functors = f :: rest)
    (hf : ∀ call buf len, f ≠ .sendInLoop call buf len) : Quiet w (w.setFunctors rest) := by
  refine ⟨fun g _ => World.deferred_setFunctors hfunctors, fun call buf len hmem => ?_, rfl,
    rfl, id,
    .refl _⟩
  rw [World.queued_of_functors hfunctors] at hmem
  exact (List.mem_cons.mp hmem).resolve_left (hf call buf len).symm

/-- A user callback is called, or is not set. -/
lemma of_callback (w : World) (isSet : Bool) (e : Effect) (he : e.isSend = false) :
    Quiet w (w.callback isSet e) :=
  (of_log w e he).trans (of_same rfl rfl rfl)

/-- Disconnecting, after the effect that starts `handleClose` or `connectDestroyed`. -/
lemma of_disconnect (w : World) (e : Effect) (he : e.isSend = false) :
    Quiet w (((w.log e).setState .kDisconnected).disableAll) := by
  have hstored : Quiet (w.log e) (((w.log e).setState .kDisconnected).disableAll) :=
    of_extends (.cons rfl) rfl (by simp)
  exact (of_log w e he).trans hstored

/-- The loop thread has something to go on with. -/
lemma of_continueWith (w : World) (c : Call) : Quiet w (w.continueWith c) :=
  of_same rfl rfl rfl

/-- `handleClose` sends nothing. -/
lemma of_handleClose (w : World) : Quiet w w.handleClose := by
  refine ((of_disconnect w .handleClose rfl).trans ?_).trans (of_continueWith _ .closeCallback)
  exact of_callback _ w.connectionCallback_ (.connectionCallback false) rfl

/-- `forceCloseInLoop` is `handleClose`, when it is anything. -/
lemma of_forceCloseInLoop (w : World) : Quiet w w.forceCloseInLoop := by
  unfold World.forceCloseInLoop
  split_ifs
  · exact of_handleClose w
  · exact refl w

/-- The channel is removed. -/
lemma of_removeChannel (w : World) : Quiet w w.removeChannel :=
  of_extends (.cons rfl) rfl id

/-- `connectDestroyed` sends nothing. -/
lemma of_connectDestroyed (w : World) : Quiet w w.connectDestroyed := by
  by_cases hstate : w.state_ = .kConnected
  · rw [World.connectDestroyed_of_connected hstate]
    refine ((of_disconnect w .connectDestroyed rfl).trans ?_).trans
      (of_continueWith _ .removeChannel)
    exact of_callback _ w.connectionCallback_ (.connectionCallback false) rfl
  · rw [World.connectDestroyed_of_ne hstate]
    exact (of_log w .connectDestroyed rfl).trans (of_removeChannel _)

/-- `removeConnectionInLoop` queues `connectDestroyed`. -/
lemma of_removeConnectionInLoop (w : World) : Quiet w w.removeConnectionInLoop := by
  have hremoved : Quiet w { w with inConnections := false } :=
    of_same rfl rfl rfl
  exact hremoved.trans (of_queueInLoop _ _ rfl)

/-- `closeCallback_` goes on to the server. -/
lemma of_closeCallback (w : World) : Quiet w w.closeCallback := by
  have hlog := of_log w .closeCallback rfl
  simp only [World.closeCallback]
  split_ifs
  · exact hlog.trans (of_removeConnectionInLoop _)
  · exact hlog.trans (of_same rfl rfl rfl)
  · exact hlog.trans (of_same rfl rfl rfl)

/-- `~TcpServer`, as far as the connection is concerned. -/
lemma of_destroyServer (w : World) : Quiet w w.destroyServer := by
  have hgone : Quiet w { w with serverAlive := false, inConnections := false } :=
    of_same rfl rfl rfl
  simp only [World.destroyServer]
  split_ifs
  · exact of_same rfl rfl rfl
  · exact hgone.trans (of_queueInLoop _ _ rfl)
  · exact of_same rfl rfl rfl

/-- `handleRead` sends nothing. -/
lemma of_handleRead {k : Kernel} (h : World.HandleRead w k w₁) : Quiet w w₁ := by
  cases h with
  | failed => exact of_same rfl rfl rfl
  | message inputBuffer =>
    have hinput : Quiet w (w.setInput inputBuffer) := of_same rfl rfl rfl
    exact hinput.trans (of_callback _ w.messageCallback_ .messageCallback rfl)
  | closed inputBuffer =>
    have hinput : Quiet w (w.setInput inputBuffer) := of_same rfl rfl rfl
    exact hinput.trans (of_handleClose _)

end Quiet

namespace World

/-- The steps of the system, sorted by what they do to the calls of `send` and `shutdown`. -/
inductive QueueStep (w : World) : Event → World → Prop
  | quiet {e w'} (h : Quiet w w') : QueueStep w e w'
  | sendLoad {t buf} (pc : w.threads t = .idle) (connected : w.state_ = .kConnected) :
      QueueStep w (.sendLoad t buf) (w.beginSend t buf)
  | sendPush {t call buf len} (pc : w.threads t = .send call buf len) :
      QueueStep w (.sendPush t)
        (((w.queueInLoop (.sendInLoop call buf len)).log (.sendReturned call)).setThread t .idle)
  | shutdownStore {t} :
      QueueStep w (.shutdownStore t) ((w.setState .kDisconnecting).setThread t .shutdownPush)
  | shutdownPush {t} (pc : w.threads t = .shutdownPush) :
      QueueStep w (.shutdownPush t) ((w.queueInLoop .shutdownInLoop).setThread t .idle)
  | assign {t buf contents} (size : contents.size = (w.strings buf).size) :
      QueueStep w (.assign t buf contents)
        { w with strings := Function.update w.strings buf contents }
  | loopSend {buf k v w'} (connected : w.state_ = .kConnected)
      (after : Quiet ((w.callSend buf.data).log (.sendInLoop w.sendCalls buf.data)) v)
      (returned : w' = v ∨ w' = v.log (.sendReturned w.sendCalls)) :
      QueueStep w (.loopSend buf k) w'
  | sendInLoop {call buf len rest k w'} (functors : w.functors = .sendInLoop call buf len :: rest)
      (after : Quiet ((w.setFunctors rest).log
        (.sendInLoop call ((w.strings buf).take len).data)) w') :
      QueueStep w (.runFunctor k) w'

/-- Every step belongs to a call of `send` or `shutdown` in one of these ways, or is quiet. -/
theorem Step.queueStep {w w' : World} {e : Event} (h : Step w e w') : QueueStep w e w' := by
  cases h with
  | refused => exact .quiet (.refl w)
  | sendLoad pc connected => exact .sendLoad pc connected
  | sendPush pc => exact .sendPush pc
  | shutdownLoad => exact .quiet ((Quiet.of_log w _ rfl).trans (.of_setThread _ _ rfl))
  | shutdownStore => exact .shutdownStore
  | shutdownPush pc => exact .shutdownPush pc
  | forceCloseLoad => exact .quiet (.of_setThread w _ rfl)
  | forceCloseStore =>
    exact .quiet ((Quiet.of_kDisconnecting w).trans (.of_setThread _ _ rfl))
  | forceClosePush =>
    exact .quiet ((Quiet.of_queueInLoop w _ rfl).trans (.of_setThread _ _ rfl))
  | assign pc size => exact .assign size
  | loopSend connected branch => exact .loopSend connected (.of_frame branch.frame) (.inr rfl)
  | loopSendFault connected branch => exact .loopSend connected (.of_frame branch.frame) (.inl rfl)
  | loopShutdown =>
    have hcalled := (Quiet.of_log w .shutdownCalled rfl).trans (.of_kDisconnecting _)
    exact .quiet (hcalled.trans (.of_frame (.of_shutdownInLoop _ _)))
  | loopForceClose =>
    exact .quiet ((Quiet.of_kDisconnecting w).trans (.of_queueInLoop _ _ rfl))
  | destroyServer => exact .quiet (.of_destroyServer w)
  | poll | handleEvent | removeConnectionFault => exact .quiet (.of_same rfl rfl rfl)
  | swap atPoll =>
    refine .quiet (.of_same ?_ rfl rfl)
    simp [callState, queued, atPoll.2.2]
  | @runCall c rest k _ todo branch =>
    have hrest : Quiet w (w.setTodo rest) := .of_same rfl rfl rfl
    cases branch with
    | handleClose => exact .quiet (hrest.trans (.of_handleClose _))
    | handleError => exact .quiet (hrest.trans (.of_same rfl rfl rfl))
    | handleRead branch => exact .quiet (hrest.trans (.of_handleRead branch))
    | handleWrite branch => exact .quiet (hrest.trans (.of_frame branch.frame))
    | closeCallback => exact .quiet (hrest.trans (.of_closeCallback _))
    | connectDestroyed => exact .quiet (hrest.trans (.of_connectDestroyed _))
    | removeChannel => exact .quiet (hrest.trans (.of_removeChannel _))
  | runFunctor todo functors branch =>
    cases branch with
    | sendInLoop branch => exact .sendInLoop functors (.of_frame branch.frame)
    | shutdownInLoop =>
      have hrest := Quiet.of_setFunctors functors (by simp)
      exact .quiet (hrest.trans (.of_frame (.of_shutdownInLoop _ _)))
    | forceCloseInLoop =>
      have hrest := Quiet.of_setFunctors functors (by simp)
      exact .quiet (hrest.trans (.of_forceCloseInLoop _))
    | connectDestroyed =>
      have hrest := Quiet.of_setFunctors functors (by simp)
      exact .quiet (hrest.trans (.of_connectDestroyed _))
    | userCallback callback =>
      refine .quiet (.of_setFunctors functors ?_)
      rintro call buf len rfl
      simp [Functor.isUserCallback] at callback
  | removeConnectionInLoop =>
    have hpending : Quiet w { w with removePending := w.removePending - 1 } :=
      .of_same rfl rfl rfl
    exact .quiet (hpending.trans (.of_removeConnectionInLoop _))

/-- A call is deferred by a `send` that finds the connection established, or by a `shutdown` that
has stored `kDisconnecting`. -/
theorem QueueStep.deferred {w w' : World} {e : Event} {f : Functor} (h : QueueStep w e w')
    (hf : f.isDeferred = true) (hdeferred : w'.Deferred f) :
    w.Deferred f ∨
      (∃ t buf, e = .sendLoad t buf ∧ w.state_ = .kConnected ∧ w' = w.beginSend t buf ∧
        f = .sendInLoop w.sendCalls buf (w.strings buf).size) ∨
      ∃ t, e = .shutdownStore t ∧ w'.state_ = .kDisconnecting ∧ f = .shutdownInLoop := by
  cases h with
  | quiet h => exact .inl (h.deferred f hf hdeferred)
  | @sendLoad t buf pc connected =>
    rcases deferred_setThread hdeferred with hold | hnew
    · exact .inl hold
    · exact .inr (.inl ⟨t, buf, rfl, connected, rfl, (Option.some.inj hnew).symm⟩)
  | @sendPush t call buf len pc =>
    rcases deferred_setThread hdeferred with hpushed | hidle
    · have hqueued : (w.queueInLoop (.sendInLoop call buf len)).Deferred f := hpushed
      refine .inl ((deferred_queueInLoop hqueued).elim id ?_)
      rintro rfl
      exact .inr ⟨t, by rw [pc]; rfl⟩
    · cases hidle
  | @shutdownStore t =>
    rcases deferred_setThread hdeferred with hold | hnew
    · exact .inl hold
    · exact .inr (.inr ⟨t, rfl, rfl, (Option.some.inj hnew).symm⟩)
  | @shutdownPush t pc =>
    rcases deferred_setThread hdeferred with hpushed | hidle
    · refine .inl ((deferred_queueInLoop hpushed).elim id ?_)
      rintro rfl
      exact .inr ⟨t, by rw [pc]; rfl⟩
    · cases hidle
  | assign => exact .inl hdeferred
  | @loopSend _ k v _ connected after returned =>
    have hsent : v.Deferred f := by rcases returned with rfl | rfl <;> exact hdeferred
    have hcalled := after.deferred f hf hsent
    exact .inl hcalled
  | sendInLoop functors after =>
    have hrest := after.deferred f hf hdeferred
    exact .inl (deferred_setFunctors functors hrest)

/-- No step establishes the connection. -/
lemma QueueStep.connected {w w' : World} {e : Event} (h : QueueStep w e w')
    (hstate : w'.state_ = .kConnected) : w.state_ = .kConnected := by
  cases h with
  | quiet h => exact h.connected hstate
  | loopSend connected => exact connected
  | sendInLoop functors after => exact after.connected hstate
  | shutdownStore => cases hstate
  | sendLoad | sendPush | shutdownPush | assign => exact hstate

end World

end SimpleMuduo
