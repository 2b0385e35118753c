import SimpleMuduo.TcpConnection.LifecycleSteps

/-!
# Closing once

`shutdown` and `forceClose` load `state_`, test it and store `kDisconnecting` without a compare
and swap, and `handleClose` does not look at `state_` at all.  A close that falls between the
load and the store of another thread is undone by the store, after which the connection is closed
again; and the poller may report a close of a connection that is already closed.  The runs in
which the disconnection is irreversible and `handleClose` runs at most once are exactly the runs
in which neither happens.
-/

namespace SimpleMuduo

namespace World

/-- Once `state_` was `kDisconnected` it is, and `handleClose` has run at most once. -/
def ClosedOnce (w : World) : Prop :=
  (.setState .kDisconnected ∈ w.history → w.state_ = .kDisconnected) ∧
    w.history.count .handleClose ≤ 1

/-- A store of `kDisconnecting` by another thread does not find `kDisconnected`, and the poller
brings about a close only of a connection that has not been closed. -/
def ClosesInTurn (w : World) (e : Event) : Prop :=
  (StoresFromThread e → w.state_ ≠ .kDisconnected) ∧
    (w.ClosesFromPoll e → .handleClose ∉ w.history)

/-- The disconnection can be read off `state_`, and comes with the first `handleClose`. -/
structure CloseInv (w : World) : Prop where
  disconnected : .setState .kDisconnected ∈ w.history ↔ w.state_ = .kDisconnected
  closed : .handleClose ∈ w.history → w.state_ = .kDisconnected
  once : w.history.count .handleClose ≤ 1

namespace CloseInv

variable {w w' : World}

lemma closedOnce (hw : CloseInv w) : w.ClosedOnce := ⟨hw.disconnected.mp, hw.once⟩

lemma routine (hw : CloseInv w) (h : Routine w w') : CloseInv w' where
  disconnected := by rw [h.mem_history rfl, h.state_, hw.disconnected]
  closed := by
    rw [h.mem_history rfl, h.state_]
    exact hw.closed
  once := by
    rw [h.count_eq rfl]
    exact hw.once

/-- An effect that is neither a disconnection nor a close changes nothing. -/
lemma log (hw : CloseInv w) (e : Effect) (he : e ≠ .setState .kDisconnected)
    (he' : e ≠ .handleClose) : CloseInv (w.log e) where
  disconnected := by
    rw [log_history, List.mem_cons, log_state_, ← hw.disconnected]
    exact ⟨fun h => h.resolve_left he.symm, .inr⟩
  closed := fun h => hw.closed ((List.mem_cons.mp h).resolve_left he'.symm)
  once := by
    rw [log_history, List.count_cons_of_ne he']
    exact hw.once

/-- A store of `kDisconnecting` that does not find `kDisconnected` keeps the invariant. -/
lemma store (hw : CloseInv w) (hstate : w.state_ ≠ .kDisconnected) :
    CloseInv (w.setState .kDisconnecting) where
  disconnected := by
    have hnot : .setState .kDisconnected ∉ w.history := fun h => hstate (hw.disconnected.mp h)
    simp [hnot]
  closed := by
    intro h
    have hmem : .handleClose ∈ w.history := by simpa using h
    exact absurd (hw.closed hmem) hstate
  once := by simpa using hw.once

/-- The first `handleClose` keeps the invariant. -/
lemma handleClose (hfirst : .handleClose ∉ w.history) : CloseInv w.handleClose where
  disconnected := by simp [World.handleClose]
  closed := fun _ => by simp [World.handleClose]
  once := by simp [World.handleClose, List.count_eq_zero_of_not_mem hfirst]

lemma removeChannel (hw : CloseInv w) : CloseInv w.removeChannel := by
  have hremoved : CloseInv { w with channel_ := w.channel_.remove } :=
    ⟨hw.disconnected, hw.closed, hw.once⟩
  exact hremoved.log .connectDestroyedReturned (by simp) (by simp)

lemma connectDestroyed (hw : CloseInv w) : CloseInv w.connectDestroyed := by
  by_cases hstate : w.state_ = .kConnected
  · rw [connectDestroyed_of_connected hstate]
    exact ⟨by simp, fun _ => by simp, by simpa using hw.once⟩
  · rw [connectDestroyed_of_ne hstate]
    exact (hw.log .connectDestroyed (by simp) (by simp)).removeChannel

/-- Every step that meets the condition keeps the invariant. -/
theorem step {e : Event} (hw : CloseInv w) (h : Step w e w') (hok : w.ClosesInTurn e) :
    CloseInv w' := by
  obtain ⟨hstores, hcloses⟩ := hok
  cases h.lifecycleStep with
  | routine h => exact hw.routine h
  | threadStore stores => exact (hw.store (hstores stores)).routine (.of_setThread _ _ _)
  | loopStore open_ before after =>
    have hstate := ne_disconnected_of_open open_
    rw [← before.state_] at hstate
    exact ((hw.routine before).store hstate).routine after
  | pollClose closes before =>
    exact handleClose ((before.mem_history rfl).not.mpr (hcloses closes))
  | forceClose open_ before =>
    refine handleClose ((before.mem_history rfl).not.mpr fun hmem => ?_)
    exact ne_disconnected_of_open open_ (hw.closed hmem)
  | connectDestroyed destroys before => exact (hw.routine before).connectDestroyed
  | @removeChannel rest k todo =>
    have hrest : CloseInv (w.setTodo rest) := ⟨hw.disconnected, hw.closed, hw.once⟩
    exact hrest.removeChannel
  | @closeCallback rest k todo =>
    have hrest : CloseInv (w.setTodo rest) := ⟨hw.disconnected, hw.closed, hw.once⟩
    exact (hrest.log .closeCallback (by simp) (by simp)).routine (routine_closeCallback _)

/-- A store that finds `kDisconnected` undoes the disconnection. -/
lemma not_closedOnce_of_store {e : Event} (hw : CloseInv w) (h : Step w e w')
    (hstores : StoresFromThread e) (hstate : w.state_ = .kDisconnected) : ¬ w'.ClosedOnce := by
  have hdisc : .setState .kDisconnected ∈ w.history := hw.disconnected.mpr hstate
  rintro ⟨hirreversible, -⟩
  cases e with
  | shutdownStore t | forceCloseStore t =>
    cases h with
    | refused refuses => exact absurd refuses not_false
    | _ => simp [hdisc] at hirreversible
  | _ => exact hstores

/-- A close of a closed connection is a second one. -/
lemma not_closedOnce_of_close {e : Event} (h : Step w e w') (hcloses : w.ClosesFromPoll e)
    (hclosed : .handleClose ∈ w.history) : ¬ w'.ClosedOnce := by
  have hfirst : 0 < w.history.count .handleClose := List.count_pos_iff.mpr hclosed
  have hagain (v : World) (hv : v.history = w.history) : ¬ v.handleClose.ClosedOnce := by
    rintro ⟨-, honce⟩
    simp [World.handleClose, hv] at honce
    omega
  cases e with
  | runCall k =>
    cases h with
    | refused refuses => exact absurd refuses not_false
    | @runCall c rest k _ todo branch =>
      simp only [ClosesFromPoll, todo, List.head?_cons, Option.some.injEq] at hcloses
      rcases hcloses with rfl | ⟨rfl, hreadv⟩
      · cases branch with
        | handleClose => exact hagain _ rfl
      · cases branch with
        | handleRead branch =>
          cases branch with
          | failed errno result => simp [hreadv] at result
          | message inputBuffer result => simp [hreadv] at result
          | closed inputBuffer => exact hagain _ rfl
  | _ => exact absurd hcloses not_false

lemma established (cfg : Config) : CloseInv cfg.established := by
  have hstate : cfg.established.state_ = .kConnected := rfl
  refine ⟨?_, ?_, ?_⟩ <;> simp [cfg.established_history, hstate]

end CloseInv

end World

/-- The runs in which `state_` stays `kDisconnected` and `handleClose` runs at most once are the
runs in which no store of another thread finds `kDisconnected`, and the poller brings about no
close of a closed connection. -/
theorem closed_once_iff (cfg : Config) (es : List Event) :
    Always World.step World.ClosedOnce cfg.established es ↔
      Meets World.step World.ClosesInTurn cfg.established es := by
  refine always_iff_meets (fun w e w' hw hok he => ?_) (fun w hw => hw.closedOnce)
    (fun w e w' hw hnot he => ?_) (World.CloseInv.established cfg)
  · exact hw.step (World.step_eq_some he).2 hok
  · have hstep := (World.step_eq_some he).2
    by_cases hstores : World.StoresFromThread e ∧ w.state_ = .kDisconnected
    · exact hw.not_closedOnce_of_store hstep hstores.1 hstores.2
    · have hcloses : w.ClosesFromPoll e ∧ .handleClose ∈ w.history := by
        by_contra hcon
        exact hnot ⟨fun h h' => hstores ⟨h, h'⟩, fun h h' => hcon ⟨h, h'⟩⟩
      exact World.CloseInv.not_closedOnce_of_close hstep hcloses.1 hcloses.2

instance (w : World) : Decidable w.ClosedOnce := inferInstanceAs (Decidable (_ ∧ _))

/-- The peer closes between the load and the store of `forceClose` on thread 1, and the connection
is closed again. -/
theorem not_closed_once :
    ¬ ∀ (cfg : Config) (es : List Event) (w : World), Runs cfg es w → w.ClosedOnce := by
  have hrun : ∃ w, exec World.step Config.single.established
      [.forceCloseLoad 1, .poll EPOLLIN, .handleEvent, .runCall (.ready []), .runCall (.ready []),
        .forceCloseStore 1, .forceClosePush 1, .swap, .runFunctor (.ready []),
        .runFunctor (.ready [])] = some w ∧
      ¬ w.ClosedOnce :=
    exists_exec_of_any (by decide +kernel)
  obtain ⟨w, hrun, htwice⟩ := hrun
  exact fun h => htwice (h _ _ w hrun)

end SimpleMuduo
