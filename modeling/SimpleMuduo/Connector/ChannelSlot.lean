import SimpleMuduo.Connector.Retry

/-!
# The channel slot of a connector that is started once

`removeAndResetChannel` leaves the removed channel in `channel_` until its `resetChannel` has run,
and `retry` starts the next attempt at once.  So the assertion `!channel_` of `connecting` fails as
soon as the retry of a failed completion gets that far, and in the runs of a connector that is
started once it fails in no other way.  A queued reset always destroys the channel it was queued
for.
-/

namespace SimpleMuduo

namespace Connector

variable {υ : Type*} {c c' : Connector υ} {newConnectionCallback_ : Fd → υ → υ}

/-! ## Runs with one call of `start` -/

/-- `start` is called once, and neither `stop` nor `restart`. -/
def StartedOnce (c : Connector υ) : ConnectorEvent → Prop
  | .start _ | .storeStart _ => .start ∉ c.history
  | .stop | .storeStop _ | .restart _ => False
  | _ => True

instance (c : Connector υ) (e : ConnectorEvent) : Decidable (c.StartedOnce e) := by
  cases e <;> dsimp only [StartedOnce] <;> infer_instance

/-- One step of a run with one call of `start`. -/
def stepOnce (newConnectionCallback_ : Fd → υ → υ) (c : Connector υ) (e : ConnectorEvent) :
    Option (Connector υ) :=
  if c.StartedOnce e then c.step newConnectionCallback_ e else none

/-- The assertion of `connecting` has not failed, and every reset has destroyed the channel it was
queued for. -/
def SlotSafe (c : Connector υ) : Prop :=
  c.fault ≠ some .channelInUse ∧
    ∀ own destroyed, .resetChannel own destroyed ∈ c.history → destroyed = some own

/-- The retry of a failed completion does not get as far as `connecting`. -/
def NoConnectingRetry (c : Connector υ) : ConnectorEvent → Prop
  | .callback result =>
    ∀ f ∈ c.callbacks.head?, c.state_ = .kConnecting → result.fails f →
      reachesConnecting result.attempts = false
  | _ => True

instance (c : Connector υ) (e : ConnectorEvent) : Decidable (c.NoConnectingRetry e) := by
  cases e <;> dsimp only [NoConnectingRetry] <;> infer_instance

/-- How far the one call of `start` has got. -/
inductive StartPhase (c : Connector υ) : Prop
  /-- It has not begun. -/
  | before (hchannel : c.channel_ = none) (hcallbacks : c.callbacks = [])
      (hstart : .start ∉ c.history) (hcallers : ∀ t, c.callers t = .idle) (hqueued : c.queued = [])
  /-- Another thread has stored `connect_ = true`. -/
  | storing (t : ThreadId) (hchannel : c.channel_ = none) (hcallbacks : c.callbacks = [])
      (hstart : .start ∈ c.history) (hconnect : c.connect_ = true) (ht : c.callers t = .starting)
      (hcallers : ∀ u, u ≠ t → c.callers u = .idle) (hqueued : c.queued = [])
  /-- `startInLoop` is queued. -/
  | queued (hchannel : c.channel_ = none) (hcallbacks : c.callbacks = [])
      (hstart : .start ∈ c.history) (hconnect : c.connect_ = true)
      (hcallers : ∀ t, c.callers t = .idle) (hqueued : c.queued = [.startInLoop])
  /-- `startInLoop` has been called. -/
  | called (hstart : .start ∈ c.history) (hconnect : c.connect_ = true)
      (hcallers : ∀ t, c.callers t = .idle)
      (hqueued : ∀ f ∈ c.queued, ∃ own, f = .resetChannel own)

/-- What holds in the runs with one call of `start` in which no retry gets as far as
`connecting`. -/
structure OnceInv (c : Connector υ) : Prop where
  inv : ConnectorInv c
  safe : c.fault ≠ some .channelInUse
  phase : StartPhase c

lemma OnceInv.new (user : υ) : OnceInv (new user) := by
  refine ⟨.new user, ?_, .before rfl rfl ?_ (fun _ => rfl) rfl⟩
  · intro h
    cases h
  · intro h
    cases h

lemma OnceInv.slotSafe (hc : OnceInv c) : c.SlotSafe := ⟨hc.safe, hc.inv.accounts.resetOwn⟩

/-! ## The callbacks -/

/-- While the connector is connecting, a failed completion is retried with the channel still in
`channel_`, and a successful one returns. -/
lemma call_of_connecting (newConnectionCallback_ : Fd → υ → υ) (hc : ConnectorInv c)
    (hstate : c.state_ = .kConnecting) (result : CompletionResult) (f : ConnectorCallback) :
    ∃ (sockfd : Fd) (d : Connector υ), d.channel_ ≠ none ∧ d.connect_ = c.connect_ ∧
      (result.fails f → c.call newConnectionCallback_ result f =
        d.retry (startInLoop result.attempts) sockfd) ∧
      (¬ result.fails f → ∃ c', c.call newConnectionCallback_ result f = .ok c') := by
  obtain ⟨channel, n, hchannel, -, -⟩ := hc.connecting hstate
  have hremove : c.removeAndResetChannel =
      .ok (channel.fd, (c.removeChannel channel).queueInLoop (.resetChannel channel.id)) := by
    simp only [removeAndResetChannel, hchannel]
  refine ⟨channel.fd, (c.removeChannel channel).queueInLoop (.resetChannel channel.id), ?_, rfl,
    ?_, ?_⟩
  · intro h
    cases h
  · intro hfails
    cases f with
    | handleError => simp only [call, handleError, if_pos hstate, hremove, Except.bind]
    | handleWrite =>
      simp only [call, handleWrite, if_pos hstate, hremove, Except.bind]
      rcases hfails with herr | hself
      · rw [if_pos herr]
      · rw [if_pos hself, ite_self]
  · intro hfails
    cases f with
    | handleError => exact absurd trivial hfails
    | handleWrite =>
      simp only [CompletionResult.fails, not_or] at hfails
      simp only [call, handleWrite, if_pos hstate, hremove, Except.bind, if_neg hfails.1,
        if_neg hfails.2]
      split
      · exact ⟨_, rfl⟩
      · exact ⟨_, rfl⟩

/-- A callback fails the assertion of `connecting` only in the retry of a failed completion. -/
lemma of_call_channelInUse (hc : ConnectorInv c) {result : CompletionResult}
    {f : ConnectorCallback}
    (h : c.call newConnectionCallback_ result f = .error (.fault .channelInUse)) :
    c.state_ = .kConnecting ∧ result.fails f ∧ reachesConnecting result.attempts = true := by
  by_cases hstate : c.state_ = .kConnecting
  · obtain ⟨sockfd, d, -, -, hfailed, hreturns⟩ :=
      call_of_connecting newConnectionCallback_ hc hstate result f
    by_cases hfails : result.fails f
    · rw [hfailed hfails, retry] at h
      refine ⟨hstate, hfails, ?_⟩
      split_ifs at h
      exact (of_startInLoop_channelInUse h).2
    · obtain ⟨c', hok⟩ := hreturns hfails
      rw [hok] at h
      cases h
  · cases f with
    | handleError =>
      rw [call, handleError, if_neg hstate] at h
      cases h
    | handleWrite =>
      rw [call, handleWrite, if_neg hstate] at h
      split_ifs at h
      cases h

/-- The retry of a failed completion that gets as far as `connecting` fails its assertion. -/
lemma call_channelInUse (newConnectionCallback_ : Fd → υ → υ) (hc : ConnectorInv c)
    (hconnect : c.connect_ = true) {result : CompletionResult} {f : ConnectorCallback}
    (hstate : c.state_ = .kConnecting) (hfails : result.fails f)
    (hreaches : reachesConnecting result.attempts = true) :
    c.call newConnectionCallback_ result f = .error (.fault .channelInUse) ∨
      c.call newConnectionCallback_ result f = .error .impossible := by
  obtain ⟨sockfd, d, hchannel, hsame, hfailed, -⟩ :=
    call_of_connecting newConnectionCallback_ hc hstate result f
  rw [hfailed hfails, retry]
  have hconnect' : ((d.close sockfd).setState .kDisconnected).connect_ = true :=
    hsame.trans hconnect
  rw [if_pos hconnect']
  exact startInLoop_channelInUse rfl hconnect' hchannel hreaches

/-! ## The steps -/

/-- After the start the member functions queue resets only. -/
lemma StartPhase.frame (hframe : Frame c c') (hstart : .start ∈ c.history)
    (hconnect : c.connect_ = true) (hcallers : ∀ t, c.callers t = .idle)
    (hqueued : ∀ f ∈ c.queued, ∃ own, f = .resetChannel own) : StartPhase c' := by
  obtain ⟨resets, hresets⟩ := hframe.queued
  refine .called (hframe.history.suffix.subset hstart) (hframe.connect_.trans hconnect) ?_ ?_
  · intro t
    rw [hframe.callers]
    exact hcallers t
  · intro f hf
    rw [hresets, List.mem_append] at hf
    rcases hf with hf | hf
    · exact hqueued f hf
    · obtain ⟨own, -, rfl⟩ := List.mem_map.mp hf
      exact ⟨own, rfl⟩

/-- The phase does not look at the fault and at the descriptors. -/
lemma StartPhase.congr (hc : StartPhase c) (hchannel : c'.channel_ = c.channel_)
    (hcallbacks : c'.callbacks = c.callbacks) (hhistory : c'.history = c.history)
    (hconnect : c'.connect_ = c.connect_) (hcallers : c'.callers = c.callers)
    (hqueued : c'.queued = c.queued) : StartPhase c' := by
  cases hc with
  | before h₁ h₂ h₃ h₄ h₅ =>
    exact .before (hchannel ▸ h₁) (hcallbacks ▸ h₂) (hhistory ▸ h₃) (hcallers ▸ h₄) (hqueued ▸ h₅)
  | storing t h₁ h₂ h₃ h₄ h₅ h₆ h₇ =>
    exact .storing t (hchannel ▸ h₁) (hcallbacks ▸ h₂) (hhistory ▸ h₃) (hconnect ▸ h₄)
      (hcallers ▸ h₅) (hcallers ▸ h₆) (hqueued ▸ h₇)
  | queued h₁ h₂ h₃ h₄ h₅ h₆ =>
    exact .queued (hchannel ▸ h₁) (hcallbacks ▸ h₂) (hhistory ▸ h₃) (hconnect ▸ h₄)
      (hcallers ▸ h₅) (hqueued ▸ h₆)
  | called h₁ h₂ h₃ h₄ =>
    exact .called (hhistory ▸ h₁) (hconnect ▸ h₂) (hcallers ▸ h₃) (hqueued ▸ h₄)

/-- The first call of `startInLoop` finds no channel, so it gets past the assertion of
`connecting`. -/
lemma StartPhase.startInLoop {attempts : List ConnectAttempt} (hc : StartPhase c)
    (d : Connector υ) (hsafe : d.fault ≠ some .channelInUse) (hchannel : d.channel_ = none)
    (hstart : .start ∈ d.history) (hconnect : d.connect_ = true)
    (hcallers : ∀ t, d.callers t = .idle)
    (hqueued : ∀ f ∈ d.queued, ∃ own, f = .resetChannel own)
    (h : c.outcome (Connector.startInLoop attempts d) = some c') :
    c'.fault ≠ some .channelInUse ∧ StartPhase c' := by
  rcases outcome_cases h with hreturns | ⟨f, hfault, rfl⟩
  · have hframe := (started_startInLoop hreturns).frame
    refine ⟨?_, .frame hframe hstart hconnect hcallers hqueued⟩
    rw [hframe.fault]
    exact hsafe
  · refine ⟨?_, hc.congr rfl rfl rfl rfl rfl rfl⟩
    intro hinuse
    obtain rfl := Option.some.inj hinuse
    exact (of_startInLoop_channelInUse hfault).1 hchannel

/-- The other thread queues `startInLoop`. -/
lemma OnceInv.push {t : ThreadId} (hc : OnceInv c)
    (h : c.stepRunning newConnectionCallback_ (.push t) = some c') :
    c'.fault ≠ some .channelInUse ∧ StartPhase c' := by
  simp only [Connector.stepRunning] at h
  cases hc.phase with
  | storing u hchannel hcallbacks hstart hconnect hu hcallers hqueued =>
    have htu : t = u := by
      by_contra hne
      simp only [hcallers t hne] at h
      cases h
    subst htu
    simp only [hu] at h
    obtain rfl := Option.some.inj h
    refine ⟨hc.safe, .queued hchannel hcallbacks hstart hconnect ?_ ?_⟩
    · intro u
      by_cases hu : u = t
      · subst hu
        exact Function.update_self _ _ _
      · exact (Function.update_of_ne hu _ _).trans (hcallers u hu)
    · have hempty := List.append_eq_nil_iff.mp hqueued
      change c.functors ++ (c.pendingFunctors_ ++ [_]) = _
      rw [hempty.1, hempty.2]
      rfl
  | before _ _ _ hcallers | queued _ _ _ _ hcallers | called _ _ hcallers =>
    simp only [hcallers t] at h
    cases h

/-- A callback of the channel, whose retry does not get as far as `connecting`. -/
lemma OnceInv.callback {result : CompletionResult} (hc : OnceInv c)
    (hok : c.NoConnectingRetry (.callback result))
    (h : c.stepRunning newConnectionCallback_ (.callback result) = some c') :
    c'.fault ≠ some .channelInUse ∧ StartPhase c' := by
  simp only [Connector.stepRunning] at h
  split at h
  · cases h
  rename_i f rest hcallbacks
  cases hc.phase with
  | called hstart hconnect hcallers hqueued =>
    have hpop : ConnectorInv { c with callbacks := rest } :=
      hc.inv.frame rfl rfl rfl rfl rfl (.refl _)
    rcases outcome_cases h with hreturns | ⟨e, hfault, rfl⟩
    · have hframe : Frame { c with callbacks := rest } c' := by
        cases f with
        | handleError => exact (handleError_cases hreturns).1
        | handleWrite => exact (handleWrite_cases hreturns).1
      refine ⟨?_, .frame hframe hstart hconnect hcallers hqueued⟩
      rw [hframe.fault]
      exact hc.safe
    · refine ⟨?_, .called hstart hconnect hcallers hqueued⟩
      intro hinuse
      obtain rfl := Option.some.inj hinuse
      obtain ⟨hstate, hfails, hreaches⟩ := of_call_channelInUse hpop hfault
      have hnot := hok f (by rw [hcallbacks]; rfl) hstate hfails
      rw [hreaches] at hnot
      cases hnot
  | before _ hnil | storing _ _ hnil | queued _ hnil =>
    rw [hcallbacks] at hnil
    cases hnil

/-- A functor: `startInLoop`, once, or a reset. -/
lemma OnceInv.functor {attempts : List ConnectAttempt} (hc : OnceInv c)
    (h : c.stepRunning newConnectionCallback_ (.functor attempts) = some c') :
    c'.fault ≠ some .channelInUse ∧ StartPhase c' := by
  simp only [Connector.stepRunning] at h
  split at h
  · cases h
  rename_i f rest hfunctors
  cases hc.phase with
  | queued hchannel hcallbacks hstart hconnect hcallers hqueued =>
    rw [Connector.queued, hfunctors, List.cons_append, List.cons.injEq] at hqueued
    obtain ⟨rfl, hrest⟩ := hqueued
    have hqueued' : ∀ g ∈ ({ c with functors := rest } : Connector υ).queued,
        ∃ own, g = .resetChannel own := by
      intro g hg
      have hg' : g ∈ rest ++ c.pendingFunctors_ := hg
      rw [hrest] at hg'
      cases hg'
    have hcalled : StartPhase { c with functors := rest } :=
      .called hstart hconnect hcallers hqueued'
    exact hcalled.startInLoop { c with functors := rest } hc.safe hchannel hstart hconnect hcallers
      hqueued' h
  | called hstart hconnect hcallers hqueued =>
    have hhead : f ∈ c.queued := by
      rw [Connector.queued, hfunctors]
      exact List.mem_cons_self
    have hqueued' : ∀ g ∈ ({ c with functors := rest } : Connector υ).queued,
        ∃ own, g = .resetChannel own := by
      intro g hg
      apply hqueued g
      rw [Connector.queued, hfunctors]
      exact List.mem_cons_of_mem f hg
    obtain ⟨own, rfl⟩ := hqueued f hhead
    obtain rfl := Option.some.inj h
    exact ⟨hc.safe, .frame (Frame.resetChannel _ own) hstart hconnect hcallers hqueued'⟩
  | before _ _ _ _ hqueued | storing _ _ _ _ _ _ _ hqueued =>
    rw [Connector.queued, hfunctors] at hqueued
    cases hqueued

/-- The phase after a step of the started connector. -/
lemma OnceInv.stepRunning {e : ConnectorEvent} (hc : OnceInv c) (hevent : c.StartedOnce e)
    (hok : c.NoConnectingRetry e)
    (h : c.stepRunning newConnectionCallback_ e = some c') :
    c'.fault ≠ some .channelInUse ∧ StartPhase c' := by
  cases e with
  | start attempts =>
    simp only [Connector.stepRunning, Option.ite_none_right_eq_some] at h
    cases hc.phase with
    | before hchannel hcallbacks hstart hcallers hqueued =>
      refine hc.phase.startInLoop { c with connect_ := true, history := .start :: c.history }
        hc.safe hchannel List.mem_cons_self rfl hcallers ?_ h.2
      intro f hf
      have hf' : f ∈ c.queued := hf
      rw [hqueued] at hf'
      cases hf'
    | storing t _ _ hstart => exact absurd hstart hevent
    | queued _ _ hstart => exact absurd hstart hevent
    | called hstart => exact absurd hstart hevent
  | stop | storeStop t | restart attempts => exact absurd hevent id
  | storeStart t =>
    simp only [Connector.stepRunning, Option.ite_none_right_eq_some, Option.some.injEq] at h
    obtain ⟨-, rfl⟩ := h
    cases hc.phase with
    | before hchannel hcallbacks hstart hcallers hqueued =>
      refine ⟨hc.safe, .storing t hchannel hcallbacks List.mem_cons_self rfl ?_ ?_ hqueued⟩
      · exact Function.update_self _ _ _
      · intro u hu
        exact (Function.update_of_ne hu _ _).trans (hcallers u)
    | storing u _ _ hstart => exact absurd hstart hevent
    | queued _ _ hstart => exact absurd hstart hevent
    | called hstart => exact absurd hstart hevent
  | push t => exact hc.push h
  | handleEvent err out =>
    simp only [Connector.stepRunning, Option.ite_none_right_eq_some, Option.some.injEq] at h
    obtain ⟨⟨-, -, hany⟩, rfl⟩ := h
    cases hc.phase with
    | called hstart hconnect hcallers hqueued =>
      exact ⟨hc.safe, .called hstart hconnect hcallers hqueued⟩
    | before hchannel | storing _ hchannel | queued hchannel =>
      rw [hchannel] at hany
      cases hany
  | callback result => exact hc.callback hok h
  | swap =>
    simp only [Connector.stepRunning, Option.ite_none_right_eq_some, Option.some.injEq] at h
    obtain ⟨⟨-, hempty⟩, rfl⟩ := h
    refine ⟨hc.safe, hc.phase.congr rfl rfl rfl rfl rfl ?_⟩
    simp [Connector.queued, hempty]
  | functor attempts => exact hc.functor h
  | openOther fd | closeOther fd =>
    simp only [Connector.stepRunning, Option.ite_none_right_eq_some, Option.some.injEq] at h
    obtain ⟨-, rfl⟩ := h
    exact ⟨hc.safe, hc.phase.congr rfl rfl rfl rfl rfl rfl⟩

/-- A step of a run with one call of `start` is a step of the connector that goes on. -/
lemma stepOnce_eq_some {e : ConnectorEvent} (h : c.stepOnce newConnectionCallback_ e = some c') :
    c.StartedOnce e ∧ c.step newConnectionCallback_ e = some c' ∧
      c.stepRunning newConnectionCallback_ e = some c' := by
  simp only [stepOnce, Option.ite_none_right_eq_some] at h
  obtain ⟨hevent, hstep⟩ := h
  refine ⟨hevent, hstep, ?_⟩
  unfold step at hstep
  split at hstep
  · exact hstep
  · cases hstep

lemma OnceInv.step {e : ConnectorEvent} (hc : OnceInv c) (hok : c.NoConnectingRetry e)
    (h : c.stepOnce newConnectionCallback_ e = some c') : OnceInv c' := by
  obtain ⟨hevent, hstep, hrunning⟩ := stepOnce_eq_some h
  obtain ⟨hsafe, hphase⟩ := hc.stepRunning hevent hok hrunning
  exact ⟨hc.inv.step hstep, hsafe, hphase⟩

/-- A retry that gets as far as `connecting` fails its assertion. -/
lemma OnceInv.not_slotSafe {e : ConnectorEvent} (hc : OnceInv c) (hok : ¬ c.NoConnectingRetry e)
    (h : c.stepOnce newConnectionCallback_ e = some c') : ¬ c'.SlotSafe := by
  obtain ⟨-, -, hrunning⟩ := stepOnce_eq_some h
  cases e with
  | callback result =>
    simp only [NoConnectingRetry, not_forall] at hok
    obtain ⟨f, hhead, hstate, hfails, hreaches⟩ := hok
    simp only [Connector.stepRunning] at hrunning
    split at hrunning
    · cases hrunning
    rename_i g rest hcallbacks
    rw [hcallbacks] at hhead
    obtain rfl := Option.some.inj hhead
    cases hc.phase with
    | called hstart hconnect hcallers hqueued =>
      have hpop : ConnectorInv { c with callbacks := rest } :=
        hc.inv.frame rfl rfl rfl rfl rfl (.refl _)
      have hinuse := call_channelInUse newConnectionCallback_ hpop
        hconnect hstate hfails (by simpa using hreaches)
      rcases hinuse with hfault | himpossible
      · rw [hfault] at hrunning
        obtain rfl := Option.some.inj hrunning
        exact fun hsafe => hsafe.1 rfl
      · rw [himpossible] at hrunning
        cases hrunning
    | before _ hnil | storing _ _ hnil | queued _ hnil =>
      rw [hcallbacks] at hnil
      cases hnil
  | _ => exact absurd trivial hok

/-- In a run of a connector that is started once, the assertion of `connecting` never fails and
every queued reset destroys the channel it was queued for, if and only if the retry of a failed
completion never gets as far as `connecting`. -/
theorem slotSafe_iff (newConnectionCallback_ : Fd → υ → υ) (user : υ) (es : List ConnectorEvent) :
    Always (stepOnce newConnectionCallback_) SlotSafe (new user) es ↔
      Meets (stepOnce newConnectionCallback_) NoConnectingRetry (new user) es := by
  apply always_iff_meets (I := OnceInv)
  · intro c e c' hc hok h
    exact hc.step hok h
  · intro c hc
    exact hc.slotSafe
  · intro c e c' hc hok h
    exact hc.not_slotSafe hok h
  · exact .new user

/-- The connection is refused, and the retry of `handleWrite` is in progress at once: the channel of
the first attempt is still in `channel_`. -/
theorem not_slotSafe_refused :
    ¬ ∀ (es : List ConnectorEvent) (c : Connector Unit),
      exec (stepOnce fun _ _ => ()) (new ()) es = some c → c.SlotSafe := by
  intro h
  have hrun : ∃ c, exec (stepOnce fun _ _ => ()) (new ())
      [.start [⟨3, EINPROGRESS⟩], .handleEvent false true,
        .callback ⟨ECONNREFUSED, false, [⟨3, EINPROGRESS⟩]⟩] = some c ∧
      c.fault = some .channelInUse := exists_exec_of_any (by decide +kernel)
  obtain ⟨c, hrun, hfault⟩ := hrun
  exact (h _ c hrun).1 hfault

end Connector

end SimpleMuduo
