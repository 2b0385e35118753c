import SimpleMuduo.TcpConnection.Steps

/-!
# The steps of the life cycle

Seen from the life cycle only the steps matter that set `state_` or run `handleClose`,
`connectDestroyed`, the last line of either, or `closeCallback_`.  Every other step is routine: it
leaves `state_` alone and has none of their effects.
-/

namespace SimpleMuduo

/-- The effects that the life cycle of the connection consists of. -/
def Effect.isLifecycle : Effect → Bool
  | .setState _ | .connectionCallback _ | .closeCallback | .handleClose | .connectDestroyed
  | .connectDestroyedReturned => true
  | _ => false

/-- The rest of `handleClose` or of `connectDestroyed`. -/
def Call.isRest : Call → Bool
  | .closeCallback | .removeChannel => true
  | _ => false

/-- Moving output is no part of the life cycle. -/
lemma Effect.isLifecycle_of_isOutput {e : Effect} (h : e.isOutput = true) :
    e.isLifecycle = false := by
  cases e <;> simp_all [Effect.isOutput, Effect.isLifecycle]

/-- A step that is not part of the life cycle. -/
structure Routine (w w' : World) : Prop where
  state_ : w'.state_ = w.state_
  todo : ∀ c : Call, c.isRest = true → w'.todo.count c = w.todo.count c
  history : Extends (·.isLifecycle = false) w.history w'.history

namespace Routine

variable {w w₁ w₂ : World}

/-- A step that leaves the state, the rest of `handleClose` and the record alone. -/
lemma of_same (hstate : w₁.state_ = w.state_)
    (htodo : ∀ c : Call, c.isRest = true → w₁.todo.count c = w.todo.count c)
    (hhistory : w₁.history = w.history) : Routine w w₁ :=
  ⟨hstate, htodo, hhistory ▸ .refl _⟩

/-- Nothing happens. -/
lemma refl (w : World) : Routine w w := of_same rfl (fun _ _ => rfl) rfl

/-- Two such steps after each other. -/
lemma trans (h₁ : Routine w w₁) (h₂ : Routine w₁ w₂) : Routine w w₂ where
  state_ := h₂.state_.trans h₁.state_
  todo := fun c hc => (h₂.todo c hc).trans (h₁.todo c hc)
  history := h₁.history.trans h₂.history

/-- A step that only moves output. -/
lemma of_frame (h : OutputFrame w w₁) : Routine w w₁ where
  state_ := h.state_
  todo := fun c _ => by rw [h.todo]
  history := h.history.mono fun _ => Effect.isLifecycle_of_isOutput

/-- Something else is recorded. -/
lemma of_log (w : World) (e : Effect) (he : e.isLifecycle = false) : Routine w (w.log e) :=
  ⟨rfl, fun _ _ => rfl, .cons he⟩

/-- `sendInLoop` does not change the state. -/
lemma of_sendInLoop {call : ℕ} {data : StdString} {k : Kernel}
    (h : World.SendInLoop w call data k w₁) : Routine w w₁ :=
  (of_log w (.sendInLoop call data.data) rfl).trans (of_frame h.frame)

/-- `send` is called. -/
lemma of_callSend (w : World) (data : Bytes) : Routine w (w.callSend data) :=
  (of_log w (.sendCalled w.sendCalls data) rfl).trans (of_same rfl (fun _ _ => rfl) rfl)

/-- A functor is queued. -/
lemma of_queueInLoop (w : World) (f : Functor) : Routine w (w.queueInLoop f) :=
  (of_log w (.queueInLoop f) rfl).trans (of_same rfl (fun _ _ => rfl) rfl)

/-- Dropping a call that is no rest of another one from `todo` is routine. -/
lemma of_setTodo {c : Call} {rest : List Call} (htodo : w.todo = c :: rest)
    (hc : c.isRest = false) : Routine w (w.setTodo rest) := by
  refine of_same rfl (fun d hd => ?_) rfl
  have hne : c ≠ d := by
    rintro rfl
    simp [hc] at hd
  rw [htodo, List.count_cons_of_ne hne]
  rfl

/-- The functors that are to be run change. -/
lemma of_setFunctors (w : World) (rest : List Functor) : Routine w (w.setFunctors rest) :=
  of_same rfl (fun _ _ => rfl) rfl

/-- Input is read. -/
lemma of_setInput (w : World) (inputBuffer : Buffer) : Routine w (w.setInput inputBuffer) :=
  of_same rfl (fun _ _ => rfl) rfl

/-- Another thread goes on. -/
lemma of_setThread (w : World) (t : ThreadId) (pc : ThreadPc) : Routine w (w.setThread t pc) :=
  of_same rfl (fun _ _ => rfl) rfl

/-- An effect of the life cycle has happened as often as before. -/
lemma count_eq (h : Routine w w₁) {e : Effect} (he : e.isLifecycle = true) :
    w₁.history.count e = w.history.count e :=
  h.history.count_eq (by simp [he])

/-- The record of the life cycle stays the same. -/
lemma mem_history (h : Routine w w₁) {e : Effect} (he : e.isLifecycle = true) :
    e ∈ w₁.history ↔ e ∈ w.history :=
  h.history.mem_iff (by simp [he])

/-- The rest of `handleClose` stays to be done. -/
lemma mem_todo (h : Routine w w₁) {c : Call} (hc : c.isRest = true) :
    c ∈ w₁.todo ↔ c ∈ w.todo := by
  rw [← List.count_pos_iff, ← List.count_pos_iff, h.todo c hc]

end Routine

namespace World

/-- The step runs `handleClose` for an event of the poller: through the close callback of the
channel, or because `readv` returned 0. -/
def ClosesFromPoll (w : World) : Event → Prop
  | .runCall k => w.todo.head? = some .handleClose ∨
      w.todo.head? = some .handleRead ∧ k.readv = .ok []
  | _ => False

instance (w : World) (e : Event) : Decidable (w.ClosesFromPoll e) := by
  cases e <;> dsimp only [ClosesFromPoll] <;> infer_instance

/-- The step runs `connectDestroyed`. -/
def Destroys (w : World) : Event → Prop
  | .runCall _ => w.todo.head? = some .connectDestroyed
  | .runFunctor _ => w.functors.head? = some .connectDestroyed
  | _ => False

instance (w : World) (e : Event) : Decidable (w.Destroys e) := by
  cases e <;> dsimp only [Destroys] <;> infer_instance

/-- The step stores `kDisconnecting` after a load of `state_` that may be out of date. -/
def StoresFromThread : Event → Prop
  | .shutdownStore _ | .forceCloseStore _ => True
  | _ => False

/-- A connection that is still open has not been disconnected. -/
lemma ne_disconnected_of_open {w : World}
    (h : w.state_ = .kConnected ∨ w.state_ = .kDisconnecting) : w.state_ ≠ .kDisconnected := by
  rcases h with h | h <;> simp [h]

/-- The steps of the system, sorted by what they do to the life cycle. -/
inductive LifecycleStep (w : World) : Event → World → Prop
  | routine {e w'} (h : Routine w w') : LifecycleStep w e w'
  | threadStore {e t pc} (stores : StoresFromThread e) :
      LifecycleStep w e ((w.setState .kDisconnecting).setThread t pc)
  | loopStore {e v w'} (open_ : w.state_ = .kConnected ∨ w.state_ = .kDisconnecting)
      (before : Routine w v) (after : Routine (v.setState .kDisconnecting) w') :
      LifecycleStep w e w'
  | pollClose {e v} (closes : w.ClosesFromPoll e) (before : Routine w v) :
      LifecycleStep w e v.handleClose
  | forceClose {e v} (open_ : w.state_ = .kConnected ∨ w.state_ = .kDisconnecting)
      (before : Routine w v) : LifecycleStep w e v.handleClose
  | connectDestroyed {e v} (destroys : w.Destroys e) (before : Routine w v) :
      LifecycleStep w e v.connectDestroyed
  | removeChannel {rest k} (todo : w.todo = .removeChannel :: rest) :
      LifecycleStep w (.runCall k) (w.setTodo rest).removeChannel
  | closeCallback {rest k} (todo : w.todo = .closeCallback :: rest) :
      LifecycleStep w (.runCall k) (w.setTodo rest).closeCallback

/-- `~TcpServer`, as far as the connection is concerned. -/
lemma routine_destroyServer (w : World) : Routine w w.destroyServer := by
  have hgone : Routine w { w with serverAlive := false, inConnections := false } :=
    .of_same rfl (fun _ _ => rfl) rfl
  simp only [destroyServer]
  split_ifs
  · refine .of_same rfl (fun c hc => ?_) rfl
    have hne : Call.connectDestroyed ≠ c := by
      rintro rfl
      simp [Call.isRest] at hc
    simp [List.count_cons_of_ne hne]
  · exact hgone.trans (.of_queueInLoop _ _)
  · exact .of_same rfl (fun _ _ => rfl) rfl

/-- `handleEvent` only makes a list of what to call. -/
lemma routine_handleEvent {w : World} (htodo : w.todo = []) : Routine w w.handleEvent := by
  refine .of_same rfl (fun c hc => ?_) rfl
  have hnone : c ∉ callbacksFor w.channel_.channel.revents_ := by
    intro hmem
    simp only [callbacksFor] at hmem
    split_ifs at hmem <;> simp at hmem <;> rcases hmem with rfl | rfl | rfl | rfl <;>
      simp [Call.isRest] at hc
  rw [htodo]
  exact List.count_eq_zero_of_not_mem hnone

/-- All that `closeCallback` adds to its own call is routine. -/
lemma routine_closeCallback (w : World) : Routine (w.log .closeCallback) w.closeCallback := by
  simp only [closeCallback]
  split_ifs
  · have hremoved : Routine (w.log .closeCallback)
        { w.log .closeCallback with inConnections := false } := .of_same rfl (fun _ _ => rfl) rfl
    exact hremoved.trans (.of_queueInLoop _ _)
  · exact .of_same rfl (fun _ _ => rfl) rfl
  · exact .of_same rfl (fun _ _ => rfl) rfl

/-- Every step belongs to the life cycle in one of these ways, or not at all. -/
theorem Step.lifecycleStep {w w' : World} {e : Event} (h : Step w e w') :
    LifecycleStep w e w' := by
  cases h with
  | refused => exact .routine (.refl w)
  | sendLoad => exact .routine ((Routine.of_callSend w _).trans (.of_setThread _ _ _))
  | sendPush =>
    exact .routine (((Routine.of_queueInLoop w _).trans (.of_log _ _ rfl)).trans
      (.of_setThread _ _ _))
  | shutdownLoad => exact .routine ((Routine.of_log w _ rfl).trans (.of_setThread _ _ _))
  | shutdownStore | forceCloseStore => exact .threadStore trivial
  | shutdownPush | forceClosePush =>
    exact .routine ((Routine.of_queueInLoop w _).trans (.of_setThread _ _ _))
  | forceCloseLoad => exact .routine (.of_setThread w _ _)
  | assign | poll | swap | removeConnectionFault =>
    exact .routine (.of_same rfl (fun _ _ => rfl) rfl)
  | loopSend connected branch =>
    exact .routine (((Routine.of_callSend w _).trans (.of_sendInLoop branch)).trans
      (.of_log _ _ rfl))
  | loopSendFault connected branch =>
    exact .routine ((Routine.of_callSend w _).trans (.of_sendInLoop branch))
  | loopShutdown connected =>
    exact .loopStore (.inl connected) (.of_log w .shutdownCalled rfl)
      (.of_frame (.of_shutdownInLoop _ _))
  | loopForceClose open_ => exact .loopStore open_ (.refl w) (.of_queueInLoop _ _)
  | destroyServer => exact .routine (routine_destroyServer w)
  | handleEvent todo => exact .routine (routine_handleEvent todo)
  | @runCall c rest k _ todo branch =>
    have hpop (hc : c.isRest = false) : Routine w (w.setTodo rest) := .of_setTodo todo hc
    cases branch with
    | handleClose => exact .pollClose (.inl (by rw [todo]; rfl)) (hpop rfl)
    | handleError => exact .routine ((hpop rfl).trans (.of_same rfl (fun _ _ => rfl) rfl))
    | handleRead branch =>
      cases branch with
      | failed => exact .routine ((hpop rfl).trans (.of_same rfl (fun _ _ => rfl) rfl))
      | message inputBuffer =>
        refine .routine (((hpop rfl).trans (.of_setInput _ inputBuffer)).trans ?_)
        exact ⟨rfl, fun _ _ => rfl, .cons rfl⟩
      | closed inputBuffer result =>
        refine .pollClose (.inr ⟨by rw [todo]; rfl, result⟩) ?_
        exact (hpop rfl).trans (.of_setInput _ inputBuffer)
    | handleWrite branch => exact .routine ((hpop rfl).trans (.of_frame branch.frame))
    | closeCallback => exact .closeCallback todo
    | connectDestroyed =>
      have hhead : w.todo.head? = some .connectDestroyed := by rw [todo]; rfl
      exact .connectDestroyed hhead (hpop rfl)
    | removeChannel => exact .removeChannel todo
  | @runFunctor f rest k _ todo functors branch =>
    have hpop : Routine w (w.setFunctors rest) := .of_setFunctors w rest
    cases branch with
    | sendInLoop branch => exact .routine (hpop.trans (.of_sendInLoop branch))
    | shutdownInLoop => exact .routine (hpop.trans (.of_frame (.of_shutdownInLoop _ _)))
    | forceCloseInLoop =>
      unfold forceCloseInLoop
      split_ifs with hopen
      · exact .forceClose hopen hpop
      · exact .routine hpop
    | connectDestroyed =>
      have hhead : w.functors.head? = some .connectDestroyed := by rw [functors]; rfl
      exact .connectDestroyed hhead hpop
    | userCallback => exact .routine hpop
  | removeConnectionInLoop =>
    have hremoved : Routine w
        { w with removePending := w.removePending - 1, inConnections := false } :=
      .of_same rfl (fun _ _ => rfl) rfl
    exact .routine (hremoved.trans (.of_queueInLoop _ _))

/-- The history only grows. -/
theorem Step.suffix {w w' : World} {e : Event} (h : Step w e w') : w.history <:+ w'.history := by
  have hclose (v : World) : v.history <:+ v.handleClose.history :=
    ⟨[.connectionCallback false, .setState .kDisconnected, .handleClose], rfl⟩
  cases h.lifecycleStep with
  | routine h => exact h.history.suffix
  | threadStore => exact List.suffix_cons _ _
  | loopStore open_ before after =>
    exact (before.history.suffix.trans (List.suffix_cons _ _)).trans after.history.suffix
  | pollClose closes before | forceClose open_ before =>
    exact before.history.suffix.trans (hclose _)
  | @connectDestroyed e v destroys before =>
    refine before.history.suffix.trans ?_
    by_cases hstate : v.state_ = .kConnected
    · rw [connectDestroyed_of_connected hstate]
      exact ⟨[.connectionCallback false, .setState .kDisconnected, .connectDestroyed], rfl⟩
    · rw [connectDestroyed_of_ne hstate]
      exact ⟨[.connectDestroyedReturned, .connectDestroyed], rfl⟩
  | removeChannel => exact List.suffix_cons _ _
  | @closeCallback rest k todo =>
    have hlogged : w.history <:+ ((w.setTodo rest).log .closeCallback).history :=
      List.suffix_cons _ _
    exact hlogged.trans (routine_closeCallback (w.setTodo rest)).history.suffix

end World

end SimpleMuduo
