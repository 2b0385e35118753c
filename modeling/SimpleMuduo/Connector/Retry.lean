import SimpleMuduo.Connector.Ownership

/-!
# What the member functions leave alone, and what a retry runs into

Apart from the commands, the member functions of the connector do not touch `connect_` and queue
nothing but resets.  `startInLoop` connects, so it is called with `connect_` set and does not end in
the state `kConnected`.  Where `channel_` still holds a channel, it fails the assertion of
`connecting` exactly when the kernel lets one of its attempts get as far as `connecting`.
-/

namespace SimpleMuduo

namespace Connector

variable {υ : Type*} {c c' c'' : Connector υ}

/-! ## The frame of the member functions -/

/-- A command was recorded. -/
def IsCommand (e : ConnectorEffect) : Prop := e = .start ∨ e = .stop

/-- What a member function other than a command leaves alone. -/
structure Frame (c c' : Connector υ) : Prop where
  connect_ : c'.connect_ = c.connect_
  functors : c'.functors = c.functors
  callbacks : c'.callbacks = c.callbacks
  callers : c'.callers = c.callers
  fault : c'.fault = c.fault
  pending : ∃ resets : List ℕ,
    c'.pendingFunctors_ = c.pendingFunctors_ ++ resets.map ConnectorFunctor.resetChannel
  history : Extends (fun e => ¬ IsCommand e) c.history c'.history

namespace Frame

/-- Nothing happens. -/
lemma refl (c : Connector υ) : Frame c c :=
  ⟨rfl, rfl, rfl, rfl, rfl, ⟨[], by simp⟩, .refl _⟩

/-- Two member functions after each other. -/
lemma trans (h : Frame c c') (h' : Frame c' c'') : Frame c c'' := by
  obtain ⟨resets, hresets⟩ := h.pending
  obtain ⟨resets', hresets'⟩ := h'.pending
  refine ⟨h'.connect_.trans h.connect_, h'.functors.trans h.functors,
    h'.callbacks.trans h.callbacks, h'.callers.trans h.callers, h'.fault.trans h.fault,
    ⟨resets ++ resets', ?_⟩, h.history.trans h'.history⟩
  rw [hresets', hresets, List.map_append, List.append_assoc]

/-- `setState` stores `state_`. -/
lemma setState (c : Connector υ) (s : ConnectorState) : Frame c (c.setState s) :=
  ⟨rfl, rfl, rfl, rfl, rfl, ⟨[], by simp [Connector.setState]⟩, .refl _⟩

/-- A socket is closed. -/
lemma close (c : Connector υ) (sockfd : Fd) : Frame c (c.close sockfd) :=
  ⟨rfl, rfl, rfl, rfl, rfl, ⟨[], by simp [Connector.close]⟩, .cons (by simp [IsCommand])⟩

/-- A socket is opened. -/
lemma openSocket (c : Connector υ) (sockfd : Fd) : Frame c (c.openSocket sockfd) :=
  ⟨rfl, rfl, rfl, rfl, rfl, ⟨[], by simp [Connector.openSocket]⟩, .refl _⟩

/-- `newConnectionCallback_` belongs to the user. -/
lemma callNewConnection (newConnectionCallback_ : Fd → υ → υ) (c : Connector υ) (sockfd : Fd) :
    Frame c (c.callNewConnection newConnectionCallback_ sockfd) :=
  ⟨rfl, rfl, rfl, rfl, rfl, ⟨[], by simp [Connector.callNewConnection]⟩,
    .cons (by simp [IsCommand])⟩

/-- `resetChannel` destroys the channel. -/
lemma resetChannel (c : Connector υ) (own : ℕ) : Frame c (c.resetChannel own) :=
  ⟨rfl, rfl, rfl, rfl, rfl, ⟨[], by simp [Connector.resetChannel]⟩, .cons (by simp [IsCommand])⟩

/-- `removeAndResetChannel` queues a `resetChannel`. -/
lemma removeAndResetChannel {sockfd : Fd} (hok : c.removeAndResetChannel = .ok (sockfd, c')) :
    Frame c c' := by
  unfold Connector.removeAndResetChannel at hok
  split at hok
  · cases hok
  · rename_i channel _
    obtain ⟨-, rfl⟩ := Prod.mk.inj (Except.ok.inj hok)
    exact ⟨rfl, rfl, rfl, rfl, rfl, ⟨[channel.id], rfl⟩, .refl _⟩

/-- The functors that are waiting after a member function. -/
lemma queued (h : Frame c c') :
    ∃ resets : List ℕ, c'.queued = c.queued ++ resets.map ConnectorFunctor.resetChannel := by
  obtain ⟨resets, hresets⟩ := h.pending
  refine ⟨resets, ?_⟩
  rw [Connector.queued, h.functors, hresets, ← List.append_assoc, Connector.queued]

end Frame

/-! ## `startInLoop` and its retries -/

/-- The result of a member function, or the fault that ended it. -/
lemma outcome_cases {r : Except ConnectorHalt (Connector υ)} (h : c.outcome r = some c') :
    r = .ok c' ∨ ∃ f, r = .error (.fault f) ∧ c' = { c with fault := some f } := by
  unfold outcome at h
  split at h
  · obtain rfl := Option.some.inj h
    exact .inl rfl
  · rename_i f
    obtain rfl := Option.some.inj h
    exact .inr ⟨f, rfl, rfl⟩
  · cases h

/-- What `startInLoop` does when it returns. -/
structure Started (c c' : Connector υ) : Prop where
  frame : Frame c c'
  connect_ : c.connect_ = true
  notConnected : c'.state_ ≠ .kConnected

/-- `connect`, when what it calls to try again does what `startInLoop` does. -/
lemma started_connect {again : Connector υ → Except ConnectorHalt (Connector υ)}
    {attempt : ConnectAttempt} (hagain : ∀ c c', again c = .ok c' → Started c c')
    (hstate : c.state_ = .kDisconnected) (hconnect : c.connect_ = true)
    (hok : connect again attempt c = .ok c') : Started c c' := by
  have hopen := Frame.openSocket c attempt.sockfd
  cases branch_of_connect hok with
  | connecting =>
    refine ⟨?_, hconnect, ?_⟩
    · exact ⟨rfl, rfl, rfl, rfl, rfl, hopen.pending, hopen.history⟩
    · intro h
      cases h
  | retry created free errno next =>
    have hclosed : Frame c (((c.openSocket attempt.sockfd).close attempt.sockfd).setState
        .kDisconnected) := hopen.trans ((Frame.close _ _).trans (Frame.setState _ _))
    simp only [retry] at next
    split_ifs at next
    · have hstarted := hagain _ _ next
      exact ⟨hclosed.trans hstarted.frame, hconnect, hstarted.notConnected⟩
    · obtain rfl := Except.ok.inj next
      refine ⟨hclosed, hconnect, ?_⟩
      intro h
      cases h
  | close =>
    refine ⟨hopen.trans (Frame.close _ _), hconnect, ?_⟩
    change c.state_ ≠ _
    simp [hstate]

/-- By induction on the attempts. -/
lemma started_startInLoop {attempts : List ConnectAttempt}
    (hok : startInLoop attempts c = .ok c') : Started c c' := by
  induction attempts generalizing c c' with
  | nil =>
    simp only [startInLoop, beforeConnect] at hok
    split_ifs at hok
  | cons attempt rest ih =>
    simp only [startInLoop, beforeConnect] at hok
    split_ifs at hok with hstate hconnect
    exact started_connect (fun _ _ h => ih h) hstate hconnect hok

/-- `retry` either leaves it at the closed socket, or it calls `startInLoop`. -/
lemma retry_cases {attempts : List ConnectAttempt} {sockfd : Fd}
    (hok : c.retry (startInLoop attempts) sockfd = .ok c') :
    Frame c c' ∧ c'.state_ ≠ .kConnected ∧ (c.connect_ = false → c'.state_ = .kDisconnected) := by
  have hclosed : Frame c ((c.close sockfd).setState .kDisconnected) :=
    (Frame.close _ _).trans (Frame.setState _ _)
  simp only [retry] at hok
  split_ifs at hok with hconnect
  · have hstarted := started_startInLoop hok
    refine ⟨hclosed.trans hstarted.frame, hstarted.notConnected, ?_⟩
    intro hnot
    exact absurd (hconnect.symm.trans hnot) (by simp)
  · obtain rfl := Except.ok.inj hok
    refine ⟨hclosed, ?_, fun _ => rfl⟩
    intro h
    cases h

/-! ## The functions that give up a socket -/

/-- `stopInLoop` does not connect. -/
lemma stopInLoop_cases {attempts : List ConnectAttempt} (hok : c.stopInLoop attempts = .ok c') :
    Frame c c' ∧ (c'.state_ = .kConnected → c.state_ = .kConnected) ∧
      (c.connect_ = false → c'.state_ ≠ .kConnecting) := by
  unfold stopInLoop at hok
  split_ifs at hok with hstate
  · obtain ⟨⟨sockfd, d⟩, hremove, hrest⟩ := bind_eq_ok.mp hok
    have hframe : Frame c d := (Frame.setState _ _).trans (Frame.removeAndResetChannel hremove)
    obtain ⟨hretry, hstate', hoff⟩ := retry_cases hrest
    refine ⟨hframe.trans hretry, ?_, ?_⟩
    · intro h
      exact absurd h hstate'
    · intro h
      simp [hoff (hframe.connect_.trans h)]
  · obtain rfl := Except.ok.inj hok
    exact ⟨.refl _, id, fun _ => hstate⟩

/-- `handleError` does not connect. -/
lemma handleError_cases {result : CompletionResult} (hok : c.handleError result = .ok c') :
    Frame c c' ∧ (c'.state_ = .kConnected → c.state_ = .kConnected) ∧
      (c.connect_ = false → c'.state_ ≠ .kConnecting) := by
  unfold handleError at hok
  split_ifs at hok with hstate
  · obtain ⟨⟨sockfd, d⟩, hremove, hrest⟩ := bind_eq_ok.mp hok
    have hframe : Frame c d := Frame.removeAndResetChannel hremove
    obtain ⟨hretry, hstate', hoff⟩ := retry_cases hrest
    refine ⟨hframe.trans hretry, ?_, ?_⟩
    · intro h
      exact absurd h hstate'
    · intro h
      simp [hoff (hframe.connect_.trans h)]
  · obtain rfl := Except.ok.inj hok
    exact ⟨.refl _, id, fun _ => hstate⟩

/-- The completion that is handled is a failure. -/
def CompletionResult.fails (result : CompletionResult) : ConnectorCallback → Prop
  | .handleError => True
  | .handleWrite => result.err ≠ 0 ∨ result.selfConnect = true

instance (result : CompletionResult) (f : ConnectorCallback) : Decidable (result.fails f) := by
  cases f <;> dsimp only [CompletionResult.fails] <;> infer_instance

/-- `handleWrite` connects only a connector that was connecting, and whose socket works. -/
lemma handleWrite_cases {newConnectionCallback_ : Fd → υ → υ} {result : CompletionResult}
    (hok : c.handleWrite newConnectionCallback_ result = .ok c') :
    Frame c c' ∧ (c.connect_ = false → c'.state_ ≠ .kConnecting) ∧
      (c'.state_ = .kConnected → c.state_ = .kConnecting ∧ ¬ result.fails .handleWrite ∧
        (c.connect_ = true → ∃ file, .newConnection file ∈ c'.history)) := by
  unfold handleWrite at hok
  by_cases hstate : c.state_ = .kConnecting
  · rw [if_pos hstate] at hok
    obtain ⟨⟨sockfd, d⟩, hremove, hrest⟩ := bind_eq_ok.mp hok
    have hframe : Frame c d := Frame.removeAndResetChannel hremove
    have hfailed : d.retry (startInLoop result.attempts) sockfd = .ok c' →
        Frame c c' ∧ (c.connect_ = false → c'.state_ ≠ .kConnecting) ∧
          c'.state_ ≠ .kConnected := by
      intro hretry
      obtain ⟨hretried, hstate', hoff⟩ := retry_cases hretry
      refine ⟨hframe.trans hretried, ?_, hstate'⟩
      intro h
      simp [hoff (hframe.connect_.trans h)]
    simp only at hrest
    split_ifs at hrest with herr hself hconnect
    · obtain ⟨hall, hoff, hstate'⟩ := hfailed hrest
      exact ⟨hall, hoff, fun h => absurd h hstate'⟩
    · obtain ⟨hall, hoff, hstate'⟩ := hfailed hrest
      exact ⟨hall, hoff, fun h => absurd h hstate'⟩
    · obtain rfl := Except.ok.inj hrest
      refine ⟨hframe.trans ((Frame.setState _ _).trans (Frame.callNewConnection _ _ _)), ?_, ?_⟩
      · intro _ h
        cases h
      · intro _
        refine ⟨hstate, ?_, ?_⟩
        · rintro (h | h)
          · exact herr h
          · exact hself h
        · intro _
          exact ⟨_, List.mem_cons_self⟩
    · obtain rfl := Except.ok.inj hrest
      refine ⟨hframe.trans ((Frame.setState _ _).trans (Frame.close _ _)), ?_, ?_⟩
      · intro _ h
        cases h
      · intro _
        refine ⟨hstate, ?_, ?_⟩
        · rintro (h | h)
          · exact herr h
          · exact hself h
        · intro h
          exact absurd (hframe.connect_.trans h) hconnect
  · rw [if_neg hstate] at hok
    split_ifs at hok with hdisconnected
    obtain rfl := Except.ok.inj hok
    refine ⟨.refl _, fun _ => hstate, ?_⟩
    intro h
    exact absurd (h.symm.trans hdisconnected) (by simp)

/-! ## The channel in the way -/

/-- The kernel lets one of the attempts of `startInLoop` get as far as `connecting`. -/
def reachesConnecting : List ConnectAttempt → Bool
  | [] => false
  | attempt :: rest =>
    decide (0 ≤ attempt.sockfd) &&
      match connectCase attempt.savedErrno with
      | .connecting => true
      | .retry => reachesConnecting rest
      | .close => false

/-- `startInLoop` fails the assertion of `connecting` only when a channel is in the way and one of
its attempts gets that far. -/
lemma of_startInLoop_channelInUse {attempts : List ConnectAttempt}
    (h : startInLoop attempts c = .error (.fault .channelInUse)) :
    c.channel_ ≠ none ∧ reachesConnecting attempts = true := by
  induction attempts generalizing c with
  | nil =>
    simp only [startInLoop, beforeConnect] at h
    split_ifs at h <;> cases h
  | cons attempt rest ih =>
    simp only [startInLoop, beforeConnect] at h
    split_ifs at h
    · cases branch_of_connect h with
      | channelInUse created free errno full =>
        refine ⟨full, ?_⟩
        simp [reachesConnecting, errno, created]
      | retry created free errno next =>
        simp only [retry] at next
        split_ifs at next
        obtain ⟨hchannel, hreaches⟩ := ih next
        refine ⟨hchannel, ?_⟩
        simp [reachesConnecting, errno, created, hreaches]
    · cases h
    · cases h

/-- With a channel in the way, attempts that get as far as `connecting` fail its assertion. -/
lemma startInLoop_channelInUse {attempts : List ConnectAttempt} (hstate : c.state_ = .kDisconnected)
    (hconnect : c.connect_ = true) (hchannel : c.channel_ ≠ none)
    (hreaches : reachesConnecting attempts = true) :
    startInLoop attempts c = .error (.fault .channelInUse) ∨
      startInLoop attempts c = .error .impossible := by
  induction attempts generalizing c with
  | nil => cases hreaches
  | cons attempt rest ih =>
    simp only [reachesConnecting, Bool.and_eq_true, decide_eq_true_eq] at hreaches
    obtain ⟨hpos, hrest⟩ := hreaches
    rw [startInLoop, beforeConnect, if_pos hstate, if_pos hconnect]
    generalize hresult : connect (startInLoop rest) attempt c = result
    cases branch_of_connect hresult with
    | noSocket failed => exact absurd hpos (Int.not_le.mpr failed)
    | inUse => exact .inr rfl
    | connecting created free errno empty => exact absurd empty hchannel
    | channelInUse => exact .inl rfl
    | retry created free errno next =>
      rw [errno] at hrest
      have hconnect' : (((c.openSocket attempt.sockfd).close attempt.sockfd).setState
          .kDisconnected).connect_ = true := hconnect
      rw [← next, retry, if_pos hconnect']
      exact ih rfl hconnect' hchannel hrest
    | close created free errno =>
      rw [errno] at hrest
      cases hrest

end Connector

end SimpleMuduo
