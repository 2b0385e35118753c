import SimpleMuduo.TcpConnection.LifecycleSteps

/-!
# Up and down notifications

On the loop thread the user hears of a connection through `connectionCallback_`: once when it is
up, and once, from `handleClose` or from `connectDestroyed`, when it is down; the server hears of
its end through `closeCallback_`.  Two gaps break this.  `connectDestroyed` says nothing when it
finds `kDisconnecting`, which a pending `shutdown` or `forceClose` leaves behind; and `handleClose`
speaks again when the poller reports a close of a connection that is already down.  In every run
without these two steps the notifications are as they should be.
-/

namespace SimpleMuduo

namespace World

/-- The user has been told once that the connection is up, and once that it is down before
`connectDestroyed` has returned; the server has been told at most once. -/
def Notified (w : World) : Prop :=
  w.history.count (.connectionCallback true) = 1 ∧
    (.connectDestroyedReturned ∈ w.history →
      w.history.count (.connectionCallback false) = 1) ∧
    w.history.count .closeCallback ≤ 1

instance (w : World) : Decidable w.Notified := inferInstanceAs (Decidable (_ ∧ _ ∧ _))

/-- `connectDestroyed` does not find `kDisconnecting`, and the poller brings about no close of a
connection that is down. -/
def NotifiesInTurn (w : World) (e : Event) : Prop :=
  (w.Destroys e → w.state_ ≠ .kDisconnecting) ∧
    (w.ClosesFromPoll e → w.state_ ≠ .kDisconnected)

instance (w : World) (e : Event) : Decidable (w.NotifiesInTurn e) :=
  inferInstanceAs (Decidable (_ ∧ _))

/-- The number of down notifications that the state calls for. -/
def downCount (w : World) : ℕ := if w.state_ = .kDisconnected then 1 else 0

/-- The notifications of the user and of the server go with the state. -/
structure NotifyInv (w : World) : Prop where
  ne_connecting : w.state_ ≠ .kConnecting
  up : w.history.count (.connectionCallback true) = 1
  down : w.history.count (.connectionCallback false) = w.downCount
  /-- A close that is still to be reported to the server counts as reported. -/
  closing : w.history.count .closeCallback + w.todo.count .closeCallback ≤ w.downCount
  removing : .removeChannel ∈ w.todo → w.state_ = .kDisconnected
  destroyed : .connectDestroyedReturned ∈ w.history → w.state_ = .kDisconnected

namespace NotifyInv

variable {w w' : World}

lemma notified (hw : NotifyInv w) : w.Notified := by
  have hle : w.downCount ≤ 1 := by
    unfold downCount
    split_ifs <;> omega
  refine ⟨hw.up, fun hreturned => ?_, ?_⟩
  · rw [hw.down, downCount, if_pos (hw.destroyed hreturned)]
  · have hclosing := hw.closing
    omega

lemma routine (hw : NotifyInv w) (h : Routine w w') : NotifyInv w' where
  ne_connecting := by
    rw [h.state_]
    exact hw.ne_connecting
  up := by
    rw [h.count_eq rfl]
    exact hw.up
  down := by
    rw [h.count_eq rfl, downCount, h.state_]
    exact hw.down
  closing := by
    rw [h.count_eq rfl, h.todo _ rfl, downCount, h.state_]
    exact hw.closing
  removing := by
    rw [h.mem_todo rfl, h.state_]
    exact hw.removing
  destroyed := by
    rw [h.mem_history rfl, h.state_]
    exact hw.destroyed

/-- Nothing has been said about the end of a connection that is not down. -/
lemma not_down (hw : NotifyInv w) (hstate : w.state_ ≠ .kDisconnected) :
    w.history.count (.connectionCallback false) = 0 ∧ w.history.count .closeCallback = 0 ∧
      w.todo.count .closeCallback = 0 := by
  have hdown := hw.down
  have hclosing := hw.closing
  rw [downCount, if_neg hstate] at hdown hclosing
  omega

/-- A store of `kDisconnecting` on a connection that is not down keeps the invariant. -/
lemma store (hw : NotifyInv w) (hstate : w.state_ ≠ .kDisconnected) :
    NotifyInv (w.setState .kDisconnecting) := by
  obtain ⟨hdown, hreported, hpending⟩ := hw.not_down hstate
  refine ⟨by simp, by simpa using hw.up, by simp [hdown, downCount], ?_, fun h => ?_, fun h => ?_⟩
  · simp [hreported, hpending]
  · exact absurd (hw.removing h) hstate
  · exact absurd (hw.destroyed (by simpa using h)) hstate

/-- `handleClose` of a connection that is not down keeps the invariant. -/
lemma handleClose (hw : NotifyInv w) (hstate : w.state_ ≠ .kDisconnected) :
    NotifyInv w.handleClose := by
  obtain ⟨hdown, hreported, hpending⟩ := hw.not_down hstate
  have hstate' : w.handleClose.state_ = .kDisconnected := rfl
  have hhistory : w.handleClose.history =
      .connectionCallback false :: .setState .kDisconnected :: .handleClose :: w.history := rfl
  have htodo : w.handleClose.todo = .closeCallback :: w.todo := rfl
  refine ⟨by simp [hstate'], ?_, ?_, ?_, fun _ => hstate', fun _ => hstate'⟩
  · simpa [hhistory] using hw.up
  · simp [hhistory, hdown, downCount, hstate']
  · simp [hhistory, htodo, hreported, hpending, downCount, hstate']

/-- An effect that notifies nobody keeps the invariant; `connectDestroyed` may only return when the
connection is down. -/
lemma log (hw : NotifyInv w) (e : Effect) (he : ∀ up, e ≠ .connectionCallback up)
    (he' : e ≠ .closeCallback)
    (hreturned : e = .connectDestroyedReturned → w.state_ = .kDisconnected) :
    NotifyInv (w.log e) where
  ne_connecting := hw.ne_connecting
  up := by
    rw [log_history, List.count_cons_of_ne (he true)]
    exact hw.up
  down := by
    rw [log_history, List.count_cons_of_ne (he false)]
    exact hw.down
  closing := by
    rw [log_history, List.count_cons_of_ne he']
    exact hw.closing
  removing := hw.removing
  destroyed := fun h => by
    rcases List.mem_cons.mp h with heq | hold
    · exact hreturned heq.symm
    · exact hw.destroyed hold

lemma removeChannel (hw : NotifyInv w) (hstate : w.state_ = .kDisconnected) :
    NotifyInv w.removeChannel := by
  have hremoved : NotifyInv { w with channel_ := w.channel_.remove } :=
    ⟨hw.ne_connecting, hw.up, hw.down, hw.closing, hw.removing, hw.destroyed⟩
  exact hremoved.log .connectDestroyedReturned (by simp) (by simp) fun _ => hstate

/-- `connectDestroyed` keeps the invariant if it does not find `kDisconnecting`. -/
lemma connectDestroyed (hw : NotifyInv w) (hstate : w.state_ ≠ .kDisconnecting) :
    NotifyInv w.connectDestroyed := by
  by_cases hconnected : w.state_ = .kConnected
  · obtain ⟨hdown, hreported, hpending⟩ := hw.not_down (by simp [hconnected])
    rw [connectDestroyed_of_connected hconnected]
    refine ⟨by simp, ?_, ?_, ?_, fun _ => rfl, fun _ => rfl⟩
    · simpa using hw.up
    · simp [hdown, downCount]
    · simp [hreported, hpending]
  · have hdown : w.state_ = .kDisconnected := by
      have hne := hw.ne_connecting
      cases hcases : w.state_ <;> simp_all
    rw [connectDestroyed_of_ne hconnected]
    exact (hw.log .connectDestroyed (by simp) (by simp) (by simp)).removeChannel hdown

/-- `closeCallback_` reports the close that was to be reported. -/
lemma closeCallback {rest : List Call} (hw : NotifyInv w)
    (htodo : w.todo = .closeCallback :: rest) :
    NotifyInv (w.setTodo rest).closeCallback := by
  have hlogged : NotifyInv ((w.setTodo rest).log .closeCallback) := by
    refine ⟨hw.ne_connecting, ?_, ?_, ?_, fun h => hw.removing ?_, fun h => hw.destroyed ?_⟩
    · simpa using hw.up
    · rw [log_history, List.count_cons_of_ne (by simp)]
      exact hw.down
    · have hclosing := hw.closing
      rw [htodo, List.count_cons_self] at hclosing
      have hsame : ((w.setTodo rest).log .closeCallback).downCount = w.downCount := rfl
      rw [hsame, log_history, List.count_cons_self]
      simp only [setTodo_history, log_todo, setTodo_todo]
      omega
    · rw [htodo]
      exact List.mem_cons_of_mem _ h
    · simpa using h
  exact hlogged.routine (routine_closeCallback _)

/-- Every step on the loop thread that meets the condition keeps the invariant. -/
theorem step {e : Event} (hw : NotifyInv w) (h : Step w e w') (hloop : e.onLoopThread = true)
    (hok : w.NotifiesInTurn e) : NotifyInv w' := by
  obtain ⟨hdestroys, hcloses⟩ := hok
  cases h.lifecycleStep with
  | routine h => exact hw.routine h
  | threadStore stores =>
    cases e with
    | shutdownStore t | forceCloseStore t => simp [Event.onLoopThread] at hloop
    | _ => exact absurd stores not_false
  | loopStore open_ before after =>
    have hstate := ne_disconnected_of_open open_
    rw [← before.state_] at hstate
    exact ((hw.routine before).store hstate).routine after
  | pollClose closes before =>
    exact (hw.routine before).handleClose (before.state_ ▸ hcloses closes)
  | forceClose open_ before =>
    exact (hw.routine before).handleClose (before.state_ ▸ ne_disconnected_of_open open_)
  | connectDestroyed destroys before =>
    exact (hw.routine before).connectDestroyed (before.state_ ▸ hdestroys destroys)
  | @removeChannel rest k todo =>
    have hstate : w.state_ = .kDisconnected := by
      refine hw.removing ?_
      rw [todo]
      exact List.mem_cons_self
    have hrest : NotifyInv (w.setTodo rest) := by
      refine ⟨hw.ne_connecting, hw.up, hw.down, ?_, fun _ => hstate, hw.destroyed⟩
      have hclosing := hw.closing
      rw [todo, List.count_cons_of_ne (by simp)] at hclosing
      exact hclosing
    exact hrest.removeChannel hstate
  | closeCallback todo => exact hw.closeCallback todo

lemma established (cfg : Config) : NotifyInv cfg.established := by
  have htodo : cfg.established.todo = [] := rfl
  have hstate : cfg.established.state_ = .kConnected := rfl
  refine ⟨?_, ?_, ?_, ?_, ?_, ?_⟩ <;> simp [cfg.established_history, htodo, hstate, downCount]

end NotifyInv

end World

/-- In every run on the loop thread in which `connectDestroyed` never finds `kDisconnecting` and the
poller brings about no close of a connection that is down, the user is told once that the
connection is up and, before `connectDestroyed` returns, once that it is down; the server is told
at most once. -/
theorem notified_of_notifiesInTurn {cfg : Config} {es : List Event} {w : World}
    (hloop : ∀ e ∈ es, e.onLoopThread = true)
    (hmeets : Meets World.step World.NotifiesInTurn cfg.established es) (hrun : Runs cfg es w) :
    w.Notified := by
  have hstep : ∀ (v : World) (e : Event) (v' : World), World.NotifyInv v →
      (e.onLoopThread = true ∧ v.NotifiesInTurn e) → v.step e = some v' → World.NotifyInv v' :=
    fun v e v' hv hok he => hv.step (World.step_eq_some he).2 hok.1 hok.2
  have hinv : World.NotifyInv w := invariant_of_meets hstep (World.NotifyInv.established cfg)
    ((Meets.of_forall _ hloop).and hmeets) hrun
  exact hinv.notified

/-- The peer closes, and the connection is removed. -/
theorem notified_of_notifiesInTurn_peer_close :
    ∃ w, Runs .single [.poll EPOLLIN, .handleEvent, .runCall (.ready []), .runCall (.ready []),
        .swap, .runFunctor (.ready [])] w ∧
      .connectDestroyedReturned ∈ w.history ∧ w.Notified := by
  obtain ⟨w, hrun, hreturned⟩ : ∃ w, exec World.step Config.single.established
      [.poll EPOLLIN, .handleEvent, .runCall (.ready []), .runCall (.ready []), .swap,
        .runFunctor (.ready [])] = some w ∧ .connectDestroyedReturned ∈ w.history :=
    exists_exec_of_any (by decide +kernel)
  exact ⟨w, hrun, hreturned, notified_of_notifiesInTurn (by decide) (by decide +kernel) hrun⟩

/-- The user forces the connection closed and destroys the server before the loop gets to it:
`connectDestroyed` returns, and nobody has been told that the connection is down. -/
theorem not_notified_of_forceClose :
    ¬ ∀ (cfg : Config) (es : List Event) (w : World), cfg.singleLoop = true →
      (∀ e ∈ es, e.onLoopThread = true) → Runs cfg es w → w.Notified := by
  have hrun : ∃ w, exec World.step Config.single.established
      [.loopForceClose, .destroyServer, .runCall (.ready [])] = some w ∧ ¬ w.Notified :=
    exists_exec_of_any (by decide +kernel)
  obtain ⟨w, hrun, hsilent⟩ := hrun
  exact fun h => hsilent (h _ _ w rfl (by decide) hrun)

end SimpleMuduo
