import SimpleMuduo.Connector.Retry

/-!
# The last command of a connector

`start()` acts at once and `stop()` through the queue, so between `stop()` and its `stopInLoop` the
flag `connect_` is already off while the connector is still connecting.  When the connection
completes in this window, `handleWrite` closes the socket and leaves the connector in the state
`kConnected`, in which no later `start()` is possible; and a `start()` in this window, or a second
one in a row, fails the assertion of `startInLoop`.  In all other runs on the loop's thread the last
command wins.
-/

namespace SimpleMuduo

namespace Connector

variable {υ : Type*} {c c' : Connector υ} {newConnectionCallback_ : Fd → υ → υ}

/-! ## Runs on the loop's thread -/

/-- What happens on the loop's thread, with `start()` and `stop()` as the only commands. -/
def OnLoopThread : ConnectorEvent → Prop
  | .restart _ | .storeStart _ | .storeStop _ | .push _ => False
  | _ => True

instance (e : ConnectorEvent) : Decidable (OnLoopThread e) :=
  match e with
  | .restart _ | .storeStart _ | .storeStop _ | .push _ => inferInstanceAs (Decidable False)
  | .start _ | .stop | .handleEvent _ _ | .callback _ | .swap | .functor _ | .openOther _
  | .closeOther _ => inferInstanceAs (Decidable True)

/-- The last command that was called. -/
def lastCommand (c : Connector υ) : Option ConnectorEffect :=
  c.history.find? fun e => e = .start ∨ e = .stop

/-- The assertion of `startInLoop` has not failed; and with no functor pending, after `stop()` as
the last command and with no socket handed over, the connector is disconnected, and no socket is
open or registered. -/
def LastCommandWins (c : Connector υ) : Prop :=
  c.fault ≠ some .startNotDisconnected ∧
    (c.fault = none → c.queued = [] → c.lastCommand = some .stop →
      (∀ file, .newConnection file ∉ c.history) →
        c.state_ = .kDisconnected ∧ c.Unregistered ∧
          ∀ fd n, c.descriptors fd ≠ some (.socket n))

/-- `start()` is called in the state `kDisconnected`, and no connection completes while `connect_`
is off. -/
def CommandsInTurn (c : Connector υ) : ConnectorEvent → Prop
  | .start _ => c.state_ = .kDisconnected
  | .callback result =>
    c.callbacks.head? = some .handleWrite → c.state_ = .kConnecting →
      ¬ result.fails .handleWrite → c.connect_ = true
  | _ => True

instance (c : Connector υ) (e : ConnectorEvent) : Decidable (c.CommandsInTurn e) :=
  match e with
  | .start _ => inferInstanceAs (Decidable (_ = _))
  | .callback _ => inferInstanceAs (Decidable (_ → _ → ¬ _ → _))
  | .stop | .restart _ | .storeStart _ | .storeStop _ | .push _ | .handleEvent _ _ | .swap
  | .functor _ | .openOther _ | .closeOther _ => inferInstanceAs (Decidable True)

/-! ## The assertion of `startInLoop` -/

/-- In the state `kDisconnected` the assertion of `startInLoop` does not fail, and neither does it
in the retries, by induction on the attempts. -/
lemma startInLoop_ne_startNotDisconnected {attempts : List ConnectAttempt}
    (hstate : c.state_ = .kDisconnected) :
    startInLoop attempts c ≠ .error (.fault .startNotDisconnected) := by
  induction attempts generalizing c with
  | nil =>
    intro h
    rw [startInLoop, beforeConnect, if_pos hstate] at h
    split_ifs at h <;> cases h
  | cons attempt rest ih =>
    intro h
    rw [startInLoop, beforeConnect, if_pos hstate] at h
    split_ifs at h
    · cases branch_of_connect h with
      | retry created free errno next =>
        simp only [retry] at next
        split_ifs at next
        exact ih rfl next
    · cases h

lemma retry_ne_startNotDisconnected {attempts : List ConnectAttempt} {sockfd : Fd} :
    c.retry (startInLoop attempts) sockfd ≠ .error (.fault .startNotDisconnected) := by
  intro h
  simp only [retry] at h
  split_ifs at h
  exact startInLoop_ne_startNotDisconnected rfl h

/-- What follows `removeAndResetChannel` decides which assertion fails. -/
lemma removeAndResetChannel_bind_ne {g : Fd × Connector υ → Except ConnectorHalt (Connector υ)}
    (hg : ∀ p, g p ≠ .error (.fault .startNotDisconnected)) :
    c.removeAndResetChannel.bind g ≠ .error (.fault .startNotDisconnected) := by
  unfold removeAndResetChannel
  split
  · intro h
    cases h
  · exact hg _

lemma stopInLoop_ne_startNotDisconnected {attempts : List ConnectAttempt} :
    c.stopInLoop attempts ≠ .error (.fault .startNotDisconnected) := by
  unfold stopInLoop
  split
  · apply removeAndResetChannel_bind_ne
    rintro ⟨sockfd, d⟩
    exact retry_ne_startNotDisconnected
  · intro h
    cases h

lemma call_ne_startNotDisconnected {result : CompletionResult} {f : ConnectorCallback} :
    c.call newConnectionCallback_ result f ≠ .error (.fault .startNotDisconnected) := by
  cases f with
  | handleError =>
    rw [call, handleError]
    split
    · apply removeAndResetChannel_bind_ne
      rintro ⟨sockfd, d⟩
      exact retry_ne_startNotDisconnected
    · intro h
      cases h
  | handleWrite =>
    rw [call, handleWrite]
    split
    · apply removeAndResetChannel_bind_ne
      rintro ⟨sockfd, d⟩
      simp only
      split
      · exact retry_ne_startNotDisconnected
      split
      · exact retry_ne_startNotDisconnected
      split
      · intro h
        cases h
      · intro h
        cases h
    split
    · intro h
      cases h
    · intro h
      cases h

/-! ## The invariant -/

/-- What holds in the runs in which the commands come in turn, also when a `stopInLoop` has just
been taken from the queue. -/
structure CommandFacts (c : Connector υ) : Prop where
  safe : c.fault ≠ some .startNotDisconnected
  /-- A connection that was established was handed over. -/
  connected : c.fault = none → c.state_ = .kConnected → ∃ file, .newConnection file ∈ c.history
  /-- After `stop()` the flag is off. -/
  stopped : c.fault = none → c.lastCommand = some .stop → c.connect_ = false
  /-- No `startInLoop` is queued. -/
  notQueued : .startInLoop ∉ c.queued

/-- What holds between the steps in these runs. -/
structure CommandInv (c : Connector υ) : Prop extends CommandFacts c where
  inv : ConnectorInv c
  /-- A connection attempt that was stopped is going to be given up. -/
  stopping : c.fault = none → c.state_ = .kConnecting → c.connect_ = false →
    .stopInLoop ∈ c.queued

lemma CommandInv.new (user : υ) : CommandInv (new user) := by
  refine ⟨⟨?_, ?_, ?_, ?_⟩, .new user, ?_⟩
  · intro h
    cases h
  · intro _ h
    cases h
  · intro _ h
    cases h
  · intro h
    cases h
  · intro _ h
    cases h

/-- With the invariant the last command wins: a socket that was created, and is neither owned by the
channel nor handed over, is closed. -/
lemma CommandInv.lastCommandWins (hc : CommandInv c) : c.LastCommandWins := by
  refine ⟨hc.safe, ?_⟩
  intro hnone hqueued hlast hhanded
  have hnotConnecting : c.state_ ≠ .kConnecting := by
    intro hstate
    have hstop := hc.stopping hnone hstate (hc.stopped hnone hlast)
    rw [hqueued] at hstop
    cases hstop
  have hnotConnected : c.state_ ≠ .kConnected := by
    intro hstate
    obtain ⟨file, hfile⟩ := hc.connected hnone hstate
    exact hhanded file hfile
  have hun := hc.inv.unregistered hnotConnecting
  refine ⟨?_, hun, ?_⟩
  · cases hstate : c.state_ with
    | kDisconnected => rfl
    | kConnecting => exact absurd hstate hnotConnecting
    | kConnected => exact absurd hstate hnotConnected
  · intro fd n hsocket
    obtain ⟨hcreated, hopen⟩ := hc.inv.accounts.opened fd n hsocket
    have hlinear := hc.inv.accounts.linear n
    have hzero : c.handOvers n = 0 := List.count_eq_zero.mpr (hhanded _)
    rw [places, hun.owned, hopen, hzero, if_pos hcreated] at hlinear
    cases hlinear

/-- Member functions that are not commands do not change which command was the last. -/
lemma Frame.lastCommand (h : Frame c c') : c'.lastCommand = c.lastCommand := by
  obtain ⟨es, hes, hhistory⟩ := h.history
  have hnone : es.find? (fun e => decide (e = .start ∨ e = .stop)) = none := by
    rw [List.find?_eq_none]
    intro e he
    simpa [IsCommand] using hes e he
  rw [Connector.lastCommand, Connector.lastCommand, hhistory, List.find?_append, hnone]
  rfl

/-- A member function that is not a command, and after which a connection is stopped or established
only if it was before. -/
lemma CommandFacts.frame (hc : CommandFacts c) (hinv : ConnectorInv c') (hframe : Frame c c')
    (hstopping : c.connect_ = false → c'.state_ ≠ .kConnecting)
    (hconnected : c'.state_ = .kConnected → c.state_ = .kConnected ∨
      ∃ file, .newConnection file ∈ c'.history) : CommandInv c' := by
  have hfault := hframe.fault
  refine ⟨⟨?_, ?_, ?_, ?_⟩, hinv, ?_⟩
  · rw [hfault]
    exact hc.safe
  · intro hnone hstate
    rcases hconnected hstate with hold | hnew
    · obtain ⟨file, hfile⟩ := hc.connected (hfault ▸ hnone) hold
      exact ⟨file, hframe.history.suffix.subset hfile⟩
    · exact hnew
  · intro hnone hlast
    rw [hframe.connect_]
    exact hc.stopped (hfault ▸ hnone) (hframe.lastCommand ▸ hlast)
  · obtain ⟨resets, hresets⟩ := hframe.queued
    rw [hresets, List.mem_append, not_or]
    refine ⟨hc.notQueued, ?_⟩
    intro h
    obtain ⟨own, -, hown⟩ := List.mem_map.mp h
    cases hown
  · intro _ hstate hconnect
    exact absurd hstate (hstopping (hframe.connect_.symm.trans hconnect))

/-- The process ends otherwise than by the assertion of `startInLoop`. -/
lemma CommandFacts.fault {f : ConnectorFault} (hc : CommandFacts c) (hinv : ConnectorInv c)
    (hf : f ≠ .startNotDisconnected) : CommandInv { c with fault := some f } := by
  refine ⟨⟨?_, ?_, ?_, hc.notQueued⟩, hinv.frame rfl rfl rfl rfl rfl (.refl _), ?_⟩
  · intro h
    exact hf (Option.some.inj h)
  · intro h
    cases h
  · intro h
    cases h
  · intro h
    cases h

/-! ## The steps -/

/-- A call of `start()` in the state `kDisconnected`. -/
lemma CommandInv.start {attempts : List ConnectAttempt} (hc : CommandInv c)
    (hinv : ConnectorInv c') (hstate : c.state_ = .kDisconnected)
    (h : c.outcome (c.start attempts) = some c') : CommandInv c' := by
  rcases outcome_cases h with hreturns | ⟨f, hfault, rfl⟩
  · have hstarted := started_startInLoop hreturns
    have hlast : c'.lastCommand = some .start := hstarted.frame.lastCommand
    have hconnect : c'.connect_ = true := hstarted.frame.connect_
    refine ⟨⟨?_, ?_, ?_, ?_⟩, hinv, ?_⟩
    · rw [hstarted.frame.fault]
      exact hc.safe
    · intro _ hconnected
      exact absurd hconnected hstarted.notConnected
    · intro _ hstop
      rw [hlast] at hstop
      cases hstop
    · obtain ⟨resets, hresets⟩ := hstarted.frame.queued
      rw [hresets, List.mem_append, not_or]
      refine ⟨hc.notQueued, ?_⟩
      intro h
      obtain ⟨own, -, hown⟩ := List.mem_map.mp h
      cases hown
    · intro _ _ hoff
      rw [hconnect] at hoff
      cases hoff
  · apply hc.fault hc.inv
    rintro rfl
    exact startInLoop_ne_startNotDisconnected
      (c := { c with connect_ := true, history := .start :: c.history }) hstate hfault

/-- A callback of the channel, in which no connection completes while `connect_` is off. -/
lemma CommandInv.callback {result : CompletionResult} {f : ConnectorCallback} (hc : CommandInv c)
    (hinv : ConnectorInv c')
    (hok : f = .handleWrite → c.state_ = .kConnecting → ¬ result.fails .handleWrite →
      c.connect_ = true)
    (h : c.outcome (c.call newConnectionCallback_ result f) = some c') : CommandInv c' := by
  rcases outcome_cases h with hreturns | ⟨e, hfault, rfl⟩
  · cases f with
    | handleError =>
      obtain ⟨hframe, hconnected, hstopping⟩ := handleError_cases hreturns
      exact hc.frame hinv hframe hstopping (fun h => .inl (hconnected h))
    | handleWrite =>
      obtain ⟨hframe, hstopping, hconnected⟩ := handleWrite_cases hreturns
      apply hc.frame hinv hframe hstopping
      intro h
      obtain ⟨hstate, hfails, hhanded⟩ := hconnected h
      exact .inr (hhanded (hok rfl hstate hfails))
  · apply hc.fault hc.inv
    rintro rfl
    exact call_ne_startNotDisconnected hfault

/-- A functor is taken from the queue. -/
lemma CommandInv.pop {f : ConnectorFunctor} {rest : List ConnectorFunctor} (hc : CommandInv c)
    (hfunctors : c.functors = f :: rest) : CommandFacts { c with functors := rest } := by
  refine ⟨hc.safe, hc.connected, hc.stopped, ?_⟩
  intro h
  apply hc.notQueued
  rw [queued, hfunctors]
  exact List.mem_cons_of_mem f h

/-- The next functor is called. -/
lemma CommandInv.functor {f : ConnectorFunctor} {rest : List ConnectorFunctor}
    {attempts : List ConnectAttempt} (hc : CommandInv c) (hinv : ConnectorInv c')
    (hfunctors : c.functors = f :: rest)
    (h : ({ c with functors := rest }).outcome (({ c with functors := rest }).run attempts f) =
      some c') : CommandInv c' := by
  have hfacts := hc.pop hfunctors
  cases f with
  | startInLoop =>
    refine absurd ?_ hc.notQueued
    rw [queued, hfunctors]
    exact List.mem_cons_self
  | stopInLoop =>
    rcases outcome_cases h with hreturns | ⟨e, hfault, rfl⟩
    · obtain ⟨hframe, hconnected, hstopping⟩ := stopInLoop_cases hreturns
      exact hfacts.frame hinv hframe hstopping (fun h => .inl (hconnected h))
    · apply hfacts.fault (hc.inv.pop hfunctors rfl)
      rintro rfl
      exact stopInLoop_ne_startNotDisconnected hfault
  | resetChannel own =>
    obtain rfl := Option.some.inj h
    refine ⟨⟨hc.safe, ?_, hfacts.stopped, hfacts.notQueued⟩, hinv, ?_⟩
    · intro hnone hstate
      obtain ⟨file, hfile⟩ := hc.connected hnone hstate
      exact ⟨file, List.mem_cons_of_mem _ hfile⟩
    · intro hnone hstate hconnect
      have hstop := hc.stopping hnone hstate hconnect
      rw [queued, hfunctors, List.cons_append, List.mem_cons] at hstop
      rcases hstop with hstop | hstop
      · cases hstop
      · exact hstop

/-- Every step on the loop's thread in which the commands come in turn keeps the invariant. -/
lemma CommandInv.step {e : ConnectorEvent} (hc : CommandInv c) (hloop : OnLoopThread e)
    (hok : c.CommandsInTurn e) (h : c.step newConnectionCallback_ e = some c') :
    CommandInv c' := by
  have hinv := hc.inv.step h
  unfold Connector.step at h
  split at h
  case h_2 => cases h
  cases e with
  | start attempts =>
    simp only [stepRunning, Option.ite_none_right_eq_some] at h
    exact hc.start hinv hok h.2
  | stop =>
    simp only [stepRunning, Option.ite_none_right_eq_some, Option.some.injEq] at h
    obtain ⟨-, rfl⟩ := h
    refine ⟨⟨hc.safe, ?_, ?_, ?_⟩, hinv, ?_⟩
    · intro hnone hstate
      obtain ⟨file, hfile⟩ := hc.connected hnone hstate
      exact ⟨file, List.mem_cons_of_mem _ hfile⟩
    · intro _ _
      rfl
    · intro h
      have h' : .startInLoop ∈ c.functors ++ (c.pendingFunctors_ ++ [.stopInLoop]) := h
      rw [← List.append_assoc, List.mem_append] at h'
      rcases h' with h' | h'
      · exact hc.notQueued h'
      · simp at h'
    · intro _ _ _
      exact List.mem_append_right _ (List.mem_append_right _ (List.mem_singleton.mpr rfl))
  | restart _ | storeStart _ | storeStop _ | push _ => exact absurd hloop id
  | handleEvent err out =>
    simp only [stepRunning, Option.ite_none_right_eq_some, Option.some.injEq] at h
    obtain ⟨-, rfl⟩ := h
    exact ⟨⟨hc.safe, hc.connected, hc.stopped, hc.notQueued⟩, hinv, hc.stopping⟩
  | callback result =>
    simp only [stepRunning] at h
    split at h
    · cases h
    rename_i f rest hcallbacks
    have hpop : CommandInv { c with callbacks := rest } :=
      ⟨⟨hc.safe, hc.connected, hc.stopped, hc.notQueued⟩,
        hc.inv.frame rfl rfl rfl rfl rfl (.refl _), hc.stopping⟩
    apply hpop.callback hinv ?_ h
    rintro rfl
    exact hok (by rw [hcallbacks]; rfl)
  | swap =>
    simp only [stepRunning, Option.ite_none_right_eq_some, Option.some.injEq] at h
    obtain ⟨⟨-, hempty⟩, rfl⟩ := h
    have hqueued : ({ c with functors := c.pendingFunctors_, pendingFunctors_ := [] } :
        Connector υ).queued = c.queued := by
      simp [queued, hempty]
    refine ⟨⟨hc.safe, hc.connected, hc.stopped, ?_⟩, hinv, ?_⟩
    · rw [hqueued]
      exact hc.notQueued
    · rw [hqueued]
      exact hc.stopping
  | functor attempts =>
    simp only [stepRunning] at h
    split at h
    · cases h
    rename_i f rest hfunctors
    exact hc.functor hinv hfunctors h
  | openOther fd | closeOther fd =>
    simp only [stepRunning, Option.ite_none_right_eq_some, Option.some.injEq] at h
    obtain ⟨-, rfl⟩ := h
    exact ⟨⟨hc.safe, hc.connected, hc.stopped, hc.notQueued⟩, hinv, hc.stopping⟩

/-- In every run on the loop's thread in which `start()` is called in the state `kDisconnected` only
and no connection completes while `connect_` is off, the assertion of `startInLoop` never fails and
the last command wins. -/
theorem last_command_wins {user : υ} {es : List ConnectorEvent}
    (hloop : ∀ e ∈ es, OnLoopThread e)
    (hmeets : Meets (step newConnectionCallback_) CommandsInTurn (new user) es)
    (hrun : exec (step newConnectionCallback_) (new user) es = some c) : c.LastCommandWins := by
  have hboth := hmeets.and (Meets.of_forall (new user) hloop)
  have hinv : CommandInv c :=
    invariant_of_meets (fun _ _ _ hc hok h => hc.step hok.2 hok.1 h) (.new user) hboth hrun
  exact hinv.lastCommandWins

/-- A connection attempt that is stopped before it completes. -/
theorem last_command_wins_stopped :
    ∃ c : Connector Unit, exec (step fun _ _ => ()) (new ())
      [.start [⟨3, EINPROGRESS⟩], .stop, .swap, .functor [], .swap, .functor []] = some c ∧
      c.LastCommandWins := by
  have hrun : ∃ c : Connector Unit, exec (step fun _ _ => ()) (new ())
      [.start [⟨3, EINPROGRESS⟩], .stop, .swap, .functor [], .swap, .functor []] = some c ∧
        True := exists_exec_of_any (by decide +kernel)
  obtain ⟨c, hrun, -⟩ := hrun
  exact ⟨c, hrun, last_command_wins (by decide) (by decide +kernel) hrun⟩

/-- The connection completes between `stop()` and its `stopInLoop`: the socket is closed, but the
connector stays in the state `kConnected`. -/
theorem not_lastCommandWins_completed :
    ¬ ∀ (es : List ConnectorEvent) (c : Connector Unit), (∀ e ∈ es, OnLoopThread e) →
      exec (step fun _ _ => ()) (new ()) es = some c → c.LastCommandWins := by
  intro h
  have hrun : ∃ c : Connector Unit, exec (step fun _ _ => ()) (new ())
      [.start [⟨3, EINPROGRESS⟩], .stop, .handleEvent false true, .callback ⟨0, false, []⟩, .swap,
        .functor [], .functor []] = some c ∧
      c.fault = none ∧ c.queued = [] ∧ c.state_ = .kConnected ∧
        c.history = [.resetChannel 0 (some 0), .close (some (.socket 0)), .stop, .start] :=
    exists_exec_of_any (by decide +kernel)
  obtain ⟨c, hrun, hnone, hqueued, hstate, hhistory⟩ := hrun
  have hlast : c.lastCommand = some .stop := by
    rw [lastCommand, hhistory]
    rfl
  have hhanded : ∀ file, .newConnection file ∉ c.history := by
    intro file
    rw [hhistory]
    simp
  have hwins := (h _ c (by decide) hrun).2 hnone hqueued hlast hhanded
  rw [hstate] at hwins
  cases hwins.1

end Connector

end SimpleMuduo
