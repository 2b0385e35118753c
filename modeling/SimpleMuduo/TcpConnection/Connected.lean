import SimpleMuduo.TcpConnection.LifecycleSteps

/-!
# The state `kConnected` is left for good

Nothing sets `state_` to `kConnected` after `connectEstablished`.  So while the connection is in
that state, it has never been in another one, it has not been closed, and nobody has begun to
destroy it.  The invariant below is preserved by every step without any condition.
-/

namespace SimpleMuduo

/-- The effects that come with the end of the state `kConnected` or after it. -/
def Effect.isEnd : Effect → Bool
  | .setState s => s ≠ .kConnected
  | .handleClose | .connectDestroyed | .connectDestroyedReturned => true
  | _ => false

lemma Effect.isEnd_of_not_isLifecycle {e : Effect} (h : e.isLifecycle = false) :
    e.isEnd = false := by
  cases e <;> simp_all [Effect.isLifecycle, Effect.isEnd]

/-- A connection in the state `kConnected` has always been in it. -/
structure ConnectedInv (w : World) : Prop where
  ne_connecting : w.state_ ≠ .kConnecting
  not_ended : w.state_ = .kConnected → ∀ e ∈ w.history, e.isEnd = false
  not_removing : w.state_ = .kConnected → .removeChannel ∉ w.todo

namespace ConnectedInv

variable {w w' : World}

/-- In the other states there is nothing to show. -/
lemma of_ne (h : w.state_ ≠ .kConnecting) (h' : w.state_ ≠ .kConnected) : ConnectedInv w :=
  ⟨h, fun hc => absurd hc h', fun hc => absurd hc h'⟩

lemma of_disconnecting (h : w.state_ = .kDisconnecting) : ConnectedInv w :=
  of_ne (by simp [h]) (by simp [h])

lemma routine (hw : ConnectedInv w) (h : Routine w w') : ConnectedInv w' := by
  obtain ⟨es, hes, hhistory⟩ := h.history
  refine ⟨h.state_ ▸ hw.ne_connecting, fun hc e he => ?_, fun hc hmem => ?_⟩
  · rw [hhistory, List.mem_append] at he
    rcases he with hnew | hold
    · exact Effect.isEnd_of_not_isLifecycle (hes e hnew)
    · exact hw.not_ended (h.state_ ▸ hc) e hold
  · exact hw.not_removing (h.state_ ▸ hc) ((h.mem_todo rfl).mp hmem)

lemma handleClose (w : World) : ConnectedInv w.handleClose :=
  of_ne (by simp [World.handleClose]) (by simp [World.handleClose])

lemma connectDestroyed (hw : w.state_ ≠ .kConnecting) : ConnectedInv w.connectDestroyed := by
  by_cases hstate : w.state_ = .kConnected
  · rw [World.connectDestroyed_of_connected hstate]
    exact of_ne (by simp) (by simp)
  · rw [World.connectDestroyed_of_ne hstate]
    exact of_ne hw hstate

/-- Every step keeps the invariant. -/
theorem step {e : Event} (hw : ConnectedInv w) (h : World.Step w e w') : ConnectedInv w' := by
  cases h.lifecycleStep with
  | routine h => exact hw.routine h
  | threadStore => exact of_disconnecting rfl
  | loopStore open_ before after => exact of_disconnecting after.state_
  | pollClose => exact handleClose _
  | forceClose => exact handleClose _
  | connectDestroyed destroys before => exact connectDestroyed (hw.routine before).ne_connecting
  | removeChannel todo =>
    have hstate : w.state_ ≠ .kConnected := by
      intro hc
      refine hw.not_removing hc ?_
      rw [todo]
      exact List.mem_cons_self
    exact of_ne hw.ne_connecting hstate
  | @closeCallback rest k todo =>
    have hlogged : ConnectedInv ((w.setTodo rest).log .closeCallback) := by
      refine ⟨hw.ne_connecting, fun hc e he => ?_, fun hc hmem => hw.not_removing hc ?_⟩
      · rcases List.mem_cons.mp he with rfl | hold
        · rfl
        · exact hw.not_ended hc e hold
      · rw [todo]
        exact List.mem_cons_of_mem _ hmem
    exact hlogged.routine (World.routine_closeCallback _)

/-- A newly established connection satisfies the invariant. -/
lemma established (cfg : Config) : ConnectedInv cfg.established := by
  have htodo : cfg.established.todo = [] := rfl
  have hstate : cfg.established.state_ = .kConnected := rfl
  refine ⟨by simp [hstate], fun _ e he => ?_, fun _ => by simp [htodo]⟩
  rw [cfg.established_history] at he
  rcases List.mem_pair.mp he with rfl | rfl <;> rfl

end ConnectedInv

end SimpleMuduo
