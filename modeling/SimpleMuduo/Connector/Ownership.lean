import SimpleMuduo.Connector.Invariant

/-!
# Every socket of a connector has one owner

The member functions of the connector keep the accounts of `Invariant.lean`: a socket that `connect`
has created is closed, handed over, or in the registered channel when they return, whatever `errno`
the attempts end with and however many of them are retried.  So in every run, with `start` and
`stop` from any thread, the socket has exactly one of these three places between the steps.
-/

namespace SimpleMuduo

/-- A sequence of two computations that returns normally. -/
lemma bind_eq_ok {ε α β : Type*} {x : Except ε α} {f : α → Except ε β} {b : β} :
    x.bind f = .ok b ↔ ∃ a, x = .ok a ∧ f a = .ok b := by
  cases x <;> simp [Except.bind]

namespace Connector

variable {υ : Type*} {c c' : Connector υ}

/-- A function that keeps the invariant, when it returns. -/
def KeepsInv (f : Connector υ → Except ConnectorHalt (Connector υ)) : Prop :=
  ∀ c c', ConnectorInv c → f c = .ok c' → ConnectorInv c'

/-! ## The member functions -/

/-- `retry` closes the socket it is called with. -/
lemma Holding.retry {again : Connector υ → Except ConnectorHalt (Connector υ)} {sockfd : Fd} {n : ℕ}
    (hc : Holding sockfd n c) (hagain : KeepsInv again) (hok : c.retry again sockfd = .ok c') :
    ConnectorInv c' := by
  obtain ⟨haccounts, hun⟩ := hc.close
  have hclosed : ConnectorInv ((c.close sockfd).setState .kDisconnected) := by
    apply (haccounts.setState hun .kDisconnected).inv hun
    intro hstate
    cases hstate
  simp only [Connector.retry] at hok
  split at hok
  · exact hagain _ _ hclosed hok
  · obtain rfl := Except.ok.inj hok
    exact hclosed

/-- A new socket goes to the channel, or it is closed. -/
lemma ConnectorInv.connect {again : Connector υ → Except ConnectorHalt (Connector υ)}
    {attempt : ConnectAttempt} (hc : ConnectorInv c) (hstate : c.state_ = .kDisconnected)
    (hagain : KeepsInv again) (hok : Connector.connect again attempt c = .ok c') :
    ConnectorInv c' := by
  have hun : c.Unregistered := hc.unregistered (by simp [hstate])
  have hholding : Holding attempt.sockfd c.sockets (c.openSocket attempt.sockfd) :=
    hc.accounts.openSocket hun
  cases branch_of_connect hok with
  | connecting created free errno empty =>
    have hstored : Holding attempt.sockfd c.sockets
        ((c.openSocket attempt.sockfd).setState .kConnecting) :=
      ⟨hholding.accounts.setState hholding.unregistered .kConnecting, hholding.here,
        hholding.unregistered⟩
    exact hstored.newChannel rfl empty
  | retry created free errno next => exact hholding.retry hagain next
  | close =>
    obtain ⟨haccounts, hun'⟩ := hholding.close
    apply haccounts.inv hun'
    change c.state_ ≠ _
    simp [hstate]

/-- `startInLoop` keeps the invariant, by induction on the attempts that the kernel answers to. -/
lemma keepsInv_startInLoop (attempts : List ConnectAttempt) :
    KeepsInv (startInLoop (υ := υ) attempts) := by
  induction attempts with
  | nil =>
    intro c c' _ hok
    simp only [startInLoop, beforeConnect] at hok
    split_ifs at hok
  | cons attempt rest ih =>
    intro c c' hc hok
    simp only [startInLoop, beforeConnect] at hok
    split_ifs at hok with hstate hconnect
    exact hc.connect hstate ih hok

lemma keepsInv_stopInLoop (attempts : List ConnectAttempt) :
    KeepsInv (stopInLoop (υ := υ) attempts) := by
  intro c c' hc hok
  unfold stopInLoop at hok
  split at hok
  · rename_i hstate
    obtain ⟨⟨sockfd, d⟩, hremove, hrest⟩ := bind_eq_ok.mp hok
    obtain ⟨n, hholding⟩ := hc.removeAndResetChannel hstate hremove
    exact hholding.retry (keepsInv_startInLoop attempts) hrest
  · obtain rfl := Except.ok.inj hok
    exact hc

lemma keepsInv_handleError (result : CompletionResult) :
    KeepsInv (handleError (υ := υ) result) := by
  intro c c' hc hok
  unfold handleError at hok
  split at hok
  · rename_i hstate
    obtain ⟨⟨sockfd, d⟩, hremove, hrest⟩ := bind_eq_ok.mp hok
    obtain ⟨n, hholding⟩ := hc.removeAndResetChannel (s := c.state_) hstate hremove
    exact hholding.retry (keepsInv_startInLoop result.attempts) hrest
  · obtain rfl := Except.ok.inj hok
    exact hc

lemma keepsInv_handleWrite (newConnectionCallback_ : Fd → υ → υ) (result : CompletionResult) :
    KeepsInv (handleWrite newConnectionCallback_ result) := by
  intro c c' hc hok
  unfold handleWrite at hok
  split at hok
  · rename_i hstate
    obtain ⟨⟨sockfd, d⟩, hremove, hrest⟩ := bind_eq_ok.mp hok
    obtain ⟨n, hholding⟩ := hc.removeAndResetChannel (s := c.state_) hstate hremove
    simp only at hrest
    split at hrest
    · exact hholding.retry (keepsInv_startInLoop result.attempts) hrest
    split at hrest
    · exact hholding.retry (keepsInv_startInLoop result.attempts) hrest
    have hstored : Holding sockfd n (d.setState .kConnected) :=
      ⟨hholding.accounts.setState hholding.unregistered .kConnected, hholding.here,
        hholding.unregistered⟩
    split at hrest
    · obtain rfl := Except.ok.inj hrest
      apply (hstored.callNewConnection newConnectionCallback_).inv hstored.unregistered
      intro hconnecting
      cases hconnecting
    · obtain rfl := Except.ok.inj hrest
      apply hstored.close.1.inv hstored.unregistered
      intro hconnecting
      cases hconnecting
  · split at hok
    · obtain rfl := Except.ok.inj hok
      exact hc
    · cases hok

/-! ## The steps -/

/-- A step that leaves the channel, its state, the descriptors and the resets alone. -/
lemma ConnectorInv.frame (hc : ConnectorInv c) (hstate : c'.state_ = c.state_)
    (hchannel : c'.channel_ = c.channel_) (hsockets : c'.sockets = c.sockets)
    (hdescriptors : c'.descriptors = c.descriptors)
    (hresets : c'.queuedResets = c.queuedResets)
    (hhistory : Extends (fun e => e = .start ∨ e = .stop) c.history c'.history) :
    ConnectorInv c' := by
  refine ⟨hc.accounts.frame ?_ hsockets hdescriptors ?_ hhistory, ?_, ?_⟩
  · simp only [owned, hchannel, hstate, hdescriptors]
  · rw [hresets, hc.accounts.resets, removedChannel, removedChannel, hchannel]
  · intro hconnecting
    rw [hchannel, hdescriptors]
    exact hc.connecting (hstate ▸ hconnecting)
  · intro channel h hreg
    rw [hstate]
    exact hc.registered channel (hchannel ▸ h) hreg

/-- When a member function ends the process, nothing else has changed. -/
lemma ConnectorInv.outcome {f : Connector υ → Except ConnectorHalt (Connector υ)}
    (hf : KeepsInv f) {d : Connector υ} (hc : ConnectorInv c) (hd : ConnectorInv d)
    (h : c.outcome (f d) = some c') : ConnectorInv c' := by
  unfold Connector.outcome at h
  split at h
  · rename_i d' hok
    obtain rfl := Option.some.inj h
    exact hf _ _ hd hok
  · obtain rfl := Option.some.inj h
    exact hc.frame rfl rfl rfl rfl rfl (.refl _)
  · cases h

/-- Somebody else opens or closes a descriptor that does not stand for the socket of the channel. -/
lemma ConnectorInv.setDescriptor {fd : Fd} {file : Option OpenFile} (hc : ConnectorInv c)
    (hfile : ∀ n, file ≠ some (.socket n))
    (hfd : ∀ n, c.descriptors fd = some (.socket n) → c.handOvers n ≠ 0) :
    ConnectorInv (c.setDescriptor fd file) := by
  have hold : ∀ fd' n, (c.setDescriptor fd file).descriptors fd' = some (.socket n) →
      c.descriptors fd' = some (.socket n) := by
    intro fd' n h
    by_cases heq : fd' = fd
    · subst heq
      exact absurd ((Function.update_self _ _ _).symm.trans h) (hfile n)
    · exact (Function.update_of_ne heq _ _).symm.trans h
  have hkept : ∀ n, c.owned = some (.socket n) → ∀ fd', c.descriptors fd' = some (.socket n) →
      (c.setDescriptor fd file).descriptors fd' = some (.socket n) := by
    intro n howned fd' h
    -- the socket that the channel owns has not been handed over
    have hlinear := hc.accounts.linear n
    have hcreated := (hc.accounts.opened fd' n h).1
    rw [places, howned, if_pos hcreated, atFile, if_pos rfl] at hlinear
    have hne : fd' ≠ fd := by
      rintro rfl
      exact hfd n h (by omega)
    exact (Function.update_of_ne hne _ _).trans h
  have hregistered : c.state_ = .kConnecting → ∃ channel n, c.channel_ = some channel ∧
      channel.registered = true ∧ c.owned = some (.socket n) ∧
        (c.setDescriptor fd file).descriptors channel.fd = some (.socket n) := by
    intro hstate
    obtain ⟨channel, n, hchannel, hreg, hhere⟩ := hc.connecting hstate
    have howned : c.owned = some (.socket n) :=
      (owned_of_registered hchannel hreg hstate).trans hhere
    exact ⟨channel, n, hchannel, hreg, howned, hkept n howned channel.fd hhere⟩
  have howned : (c.setDescriptor fd file).owned = c.owned := by
    by_cases hstate : c.state_ = .kConnecting
    · obtain ⟨channel, n, hchannel, hreg, howned, hhere⟩ := hregistered hstate
      rw [howned]
      exact (owned_of_registered (c := c.setDescriptor fd file) hchannel hreg hstate).trans hhere
    · have hun := hc.unregistered hstate
      have hun' : (c.setDescriptor fd file).Unregistered := hun
      rw [hun.owned, hun'.owned]
  refine ⟨⟨?_, ?_, ?_, hc.accounts.closes, hc.accounts.handsOver, hc.accounts.resets,
    hc.accounts.resetOwn⟩, ?_, hc.registered⟩
  · intro m
    rw [places, howned]
    exact hc.accounts.linear m
  · intro fd' m h
    exact hc.accounts.opened fd' m (hold fd' m h)
  · intro fd' fd'' m h h'
    exact hc.accounts.injective fd' fd'' m (hold fd' m h) (hold fd'' m h')
  · intro hstate
    obtain ⟨channel, n, hchannel, hreg, -, hhere⟩ := hregistered hstate
    exact ⟨channel, n, hchannel, hreg, hhere⟩

/-- The functors that are not resets may come and go. -/
lemma ConnectorInv.queueInLoop {f : ConnectorFunctor} (hc : ConnectorInv c)
    (hf : resetOf f = none) : ConnectorInv (c.queueInLoop f) := by
  refine hc.frame rfl rfl rfl rfl ?_ (.refl _)
  rw [queuedResets_queueInLoop, hf, Option.toList_none, List.append_nil]

lemma ConnectorInv.command {e : ConnectorEffect} (hc : ConnectorInv c) (b : Bool)
    (he : e = .start ∨ e = .stop) :
    ConnectorInv { c with connect_ := b, history := e :: c.history } :=
  hc.frame rfl rfl rfl rfl rfl (.cons he)

/-- A functor that is not a reset is taken from the queue. -/
lemma ConnectorInv.pop {f : ConnectorFunctor} {rest : List ConnectorFunctor} (hc : ConnectorInv c)
    (hfunctors : c.functors = f :: rest) (hf : resetOf f = none) :
    ConnectorInv { c with functors := rest } := by
  refine hc.frame rfl rfl rfl rfl ?_ (.refl _)
  simp [queuedResets, queued, hfunctors, hf]

/-- The next functor is called. -/
lemma ConnectorInv.functor {f : ConnectorFunctor} {rest : List ConnectorFunctor}
    {attempts : List ConnectAttempt} (hc : ConnectorInv c) (hfunctors : c.functors = f :: rest)
    (h : ({ c with functors := rest }).outcome (({ c with functors := rest }).run attempts f) =
      some c') : ConnectorInv c' := by
  cases f with
  | startInLoop =>
    have hpop := hc.pop hfunctors rfl
    exact hpop.outcome (keepsInv_startInLoop attempts) hpop h
  | stopInLoop =>
    have hpop := hc.pop hfunctors rfl
    exact hpop.outcome (keepsInv_stopInLoop attempts) hpop h
  | resetChannel own =>
    obtain rfl := Option.some.inj h
    exact hc.resetChannel hfunctors

/-- Every step keeps the invariant. -/
theorem ConnectorInv.step {newConnectionCallback_ : Fd → υ → υ} {e : ConnectorEvent}
    (hc : ConnectorInv c) (h : c.step newConnectionCallback_ e = some c') : ConnectorInv c' := by
  unfold Connector.step at h
  split at h
  case h_2 => cases h
  cases e with
  | start attempts =>
    simp only [stepRunning, Option.ite_none_right_eq_some] at h
    exact hc.outcome (keepsInv_startInLoop attempts) (hc.command true (.inl rfl)) h.2
  | stop =>
    simp only [stepRunning, Option.ite_none_right_eq_some, Option.some.injEq] at h
    obtain ⟨-, rfl⟩ := h
    exact (hc.command false (.inr rfl)).queueInLoop rfl
  | restart attempts =>
    simp only [stepRunning, Option.ite_none_right_eq_some] at h
    obtain ⟨⟨-, hstate⟩, h⟩ := h
    have hun := hc.unregistered (by simp [hstate])
    have hdisconnected : ConnectorInv (c.setState .kDisconnected) := by
      apply (hc.accounts.setState hun .kDisconnected).inv hun
      intro hconnecting
      cases hconnecting
    have hready : ConnectorInv { c.setState .kDisconnected with connect_ := true } :=
      hdisconnected.frame rfl rfl rfl rfl rfl (.refl _)
    exact hc.outcome (keepsInv_startInLoop attempts) hready h
  | storeStart t =>
    simp only [stepRunning, Option.ite_none_right_eq_some, Option.some.injEq] at h
    obtain ⟨-, rfl⟩ := h
    exact (hc.command true (.inl rfl)).frame rfl rfl rfl rfl rfl (.refl _)
  | storeStop t =>
    simp only [stepRunning, Option.ite_none_right_eq_some, Option.some.injEq] at h
    obtain ⟨-, rfl⟩ := h
    exact (hc.command false (.inr rfl)).frame rfl rfl rfl rfl rfl (.refl _)
  | push t =>
    simp only [stepRunning] at h
    split at h
    · cases h
    · obtain rfl := Option.some.inj h
      exact (hc.queueInLoop (f := .startInLoop) rfl).frame rfl rfl rfl rfl rfl (.refl _)
    · obtain rfl := Option.some.inj h
      exact (hc.queueInLoop (f := .stopInLoop) rfl).frame rfl rfl rfl rfl rfl (.refl _)
  | handleEvent err out =>
    simp only [stepRunning, Option.ite_none_right_eq_some, Option.some.injEq] at h
    obtain ⟨-, rfl⟩ := h
    exact hc.frame rfl rfl rfl rfl rfl (.refl _)
  | callback result =>
    simp only [stepRunning] at h
    split at h
    · cases h
    · rename_i f rest hcallbacks
      have hpop : ConnectorInv { c with callbacks := rest } :=
        hc.frame rfl rfl rfl rfl rfl (.refl _)
      cases f with
      | handleError => exact hpop.outcome (keepsInv_handleError result) hpop h
      | handleWrite =>
        exact hpop.outcome (keepsInv_handleWrite newConnectionCallback_ result) hpop h
  | swap =>
    simp only [stepRunning, Option.ite_none_right_eq_some, Option.some.injEq] at h
    obtain ⟨⟨-, hempty⟩, rfl⟩ := h
    refine hc.frame rfl rfl rfl rfl ?_ (.refl _)
    simp [queuedResets, queued, hempty]
  | functor attempts =>
    simp only [stepRunning] at h
    split at h
    · cases h
    · rename_i f rest hfunctors
      exact hc.functor hfunctors h
  | openOther fd =>
    simp only [stepRunning, Option.ite_none_right_eq_some, Option.some.injEq] at h
    obtain ⟨hfree, rfl⟩ := h
    apply hc.setDescriptor
    · intro n hfile
      cases hfile
    · intro n hsocket
      rw [hfree] at hsocket
      cases hsocket
  | closeOther fd =>
    simp only [stepRunning, Option.ite_none_right_eq_some, Option.some.injEq] at h
    obtain ⟨hclosable, rfl⟩ := h
    apply hc.setDescriptor
    · intro n hfile
      cases hfile
    · intro n hsocket
      rcases hclosable with hother | ⟨-, hhanded⟩
      · rw [hother] at hsocket
        cases hsocket
      · rw [hsocket] at hhanded
        exact (List.count_pos_iff.mpr hhanded).ne'

end Connector

end SimpleMuduo
