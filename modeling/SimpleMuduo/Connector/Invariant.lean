import SimpleMuduo.Connector.Branches
import SimpleMuduo.Foundation.EventHistory
import SimpleMuduo.Foundation.TransitionSystem

/-!
# Who has the sockets of a connector

Every socket that `connect` has created is in exactly one place: in the registered channel while the
connector is connecting, among the closed ones, or with the owner of `newConnectionCallback_`.
While a member function runs, the socket it works on is in its local variable `sockfd` instead.
`places` counts the places a socket is in, and the invariant says that the count is one; a
`close`, say, moves one socket from the local variable to the history and leaves the others alone.

That the registered channel is never destroyed by a `resetChannel` is part of the same invariant: a
reset is queued exactly when the channel in `channel_` has been removed from the poller.
-/

namespace SimpleMuduo

namespace Connector

variable {υ : Type*} {c c' : Connector υ}

/-! ## The accounts -/

/-- The channel that a functor was queued to destroy. -/
def resetOf : ConnectorFunctor → Option ℕ
  | .resetChannel own => some own
  | _ => none

/-- The functors of the connector that have not been called. -/
def queued (c : Connector υ) : List ConnectorFunctor := c.functors ++ c.pendingFunctors_

/-- The channels for which a `resetChannel` is queued. -/
def queuedResets (c : Connector υ) : List ℕ := c.queued.filterMap resetOf

/-- The channel in `channel_`, if it has been removed from the poller. -/
def removedChannel (c : Connector υ) : List ℕ :=
  match c.channel_ with
  | some channel => if channel.registered then [] else [channel.id]
  | none => []

/-- The socket that the registered channel owns while the connector is connecting. -/
def owned (c : Connector υ) : Option OpenFile :=
  match c.channel_ with
  | some channel =>
    if channel.registered ∧ c.state_ = .kConnecting then c.descriptors channel.fd else none
  | none => none

/-- How often the `n`-th socket has been closed. -/
def closings (c : Connector υ) (n : ℕ) : ℕ := c.history.count (.close (some (.socket n)))

/-- How often the `n`-th socket has been passed to `newConnectionCallback_`. -/
def handOvers (c : Connector υ) (n : ℕ) : ℕ := c.history.count (.newConnection (some (.socket n)))

/-- One if the file is the `n`-th socket. -/
def atFile (n : ℕ) (file : Option OpenFile) : ℕ := if file = some (.socket n) then 1 else 0

@[simp] lemma atFile_none (n : ℕ) : atFile n none = 0 := rfl

/-- In how many places the `n`-th socket is, while the running function holds `held`. -/
def places (c : Connector υ) (held : Option OpenFile) (n : ℕ) : ℕ :=
  atFile n c.owned + atFile n held + c.closings n + c.handOvers n

/-- No channel is registered. -/
def Unregistered (c : Connector υ) : Prop :=
  ∀ channel, c.channel_ = some channel → channel.registered = false

/-- What holds all the time, also while a member function holds a socket. -/
structure Accounts (held : Option OpenFile) (c : Connector υ) : Prop where
  /-- Every socket that was created is in one place. -/
  linear : ∀ n, c.places held n = if n < c.sockets then 1 else 0
  /-- A descriptor stands for a socket that was created and is not closed. -/
  opened : ∀ fd n, c.descriptors fd = some (.socket n) → n < c.sockets ∧ c.closings n = 0
  /-- Two descriptors do not stand for the same socket. -/
  injective : ∀ fd fd' n, c.descriptors fd = some (.socket n) →
    c.descriptors fd' = some (.socket n) → fd = fd'
  /-- Only sockets of the connector are closed. -/
  closes : ∀ file, .close file ∈ c.history → ∃ n, file = some (.socket n)
  /-- Only sockets of the connector are handed over. -/
  handsOver : ∀ file, .newConnection file ∈ c.history → ∃ n, file = some (.socket n)
  /-- A reset is queued exactly for the channel that was removed. -/
  resets : c.queuedResets = c.removedChannel
  /-- Every reset has destroyed the channel it was queued for. -/
  resetOwn : ∀ own destroyed, .resetChannel own destroyed ∈ c.history → destroyed = some own

/-- What holds between the steps. -/
structure ConnectorInv (c : Connector υ) : Prop where
  accounts : Accounts none c
  connecting : c.state_ = .kConnecting → ∃ channel n, c.channel_ = some channel ∧
    channel.registered = true ∧ c.descriptors channel.fd = some (.socket n)
  registered : ∀ channel, c.channel_ = some channel → channel.registered = true →
    c.state_ = .kConnecting

/-- What holds while a member function has the `n`-th socket in its variable `sockfd`. -/
structure Holding (sockfd : Fd) (n : ℕ) (c : Connector υ) : Prop where
  accounts : Accounts (some (.socket n)) c
  here : c.descriptors sockfd = some (.socket n)
  unregistered : c.Unregistered

lemma ConnectorInv.new (user : υ) : ConnectorInv (new user) := by
  refine ⟨⟨?_, ?_, ?_, ?_, ?_, rfl, ?_⟩, ?_, ?_⟩
  · intro n
    rfl
  · intro fd n h
    cases h
  · intro fd fd' n h
    cases h
  · intro file h
    cases h
  · intro file h
    cases h
  · intro own destroyed h
    cases h
  · intro h
    cases h
  · intro channel h
    cases h

/-- Without a registered channel no socket is owned. -/
lemma Unregistered.owned (h : c.Unregistered) : c.owned = none := by
  unfold Connector.owned
  split
  · rename_i channel hchannel
    simp [h channel hchannel]
  · rfl

/-- The registered channel owns what its descriptor stands for. -/
lemma owned_of_registered {channel : ConnectorChannel} (hchannel : c.channel_ = some channel)
    (hreg : channel.registered = true) (hstate : c.state_ = .kConnecting) :
    c.owned = c.descriptors channel.fd := by
  simp only [owned, hchannel, hreg, hstate, and_self, if_true]

lemma ConnectorInv.unregistered (hc : ConnectorInv c) (h : c.state_ ≠ .kConnecting) :
    c.Unregistered := by
  intro channel hchannel
  by_contra hreg
  exact h (hc.registered channel hchannel (by simpa using hreg))

/-- A state without a registered channel in which the connector is not connecting. -/
lemma Accounts.inv (hc : Accounts none c) (hun : c.Unregistered) (h : c.state_ ≠ .kConnecting) :
    ConnectorInv c := by
  refine ⟨hc, ?_, ?_⟩
  · intro hconnecting
    exact absurd hconnecting h
  · intro channel hchannel hreg
    rw [hun channel hchannel] at hreg
    cases hreg

/-! ## What the operations do to the accounts -/

/-- A step that leaves the channel, the descriptors and the resets alone and records commands
only. -/
lemma Accounts.frame {held : Option OpenFile} (hc : Accounts held c) (howned : c'.owned = c.owned)
    (hsockets : c'.sockets = c.sockets) (hdescriptors : c'.descriptors = c.descriptors)
    (hresets : c'.queuedResets = c'.removedChannel)
    (hhistory : Extends (fun e => e = .start ∨ e = .stop) c.history c'.history) :
    Accounts held c' := by
  have hclosings : ∀ n, c'.closings n = c.closings n := by
    intro n
    exact hhistory.count_eq (by simp)
  have hhandOvers : ∀ n, c'.handOvers n = c.handOvers n := by
    intro n
    exact hhistory.count_eq (by simp)
  refine ⟨?_, ?_, ?_, ?_, ?_, hresets, ?_⟩
  · intro n
    rw [places, howned, hclosings, hhandOvers, hsockets]
    exact hc.linear n
  · intro fd n h
    rw [hdescriptors] at h
    rw [hsockets, hclosings]
    exact hc.opened fd n h
  · intro fd fd' n h h'
    rw [hdescriptors] at h h'
    exact hc.injective fd fd' n h h'
  · intro file h
    exact hc.closes file ((hhistory.mem_iff (by simp)).mp h)
  · intro file h
    exact hc.handsOver file ((hhistory.mem_iff (by simp)).mp h)
  · intro own destroyed h
    exact hc.resetOwn own destroyed ((hhistory.mem_iff (by simp)).mp h)

/-- Without a registered channel the state may change. -/
lemma Accounts.setState {held : Option OpenFile} (hc : Accounts held c) (hun : c.Unregistered)
    (s : ConnectorState) : Accounts held (c.setState s) := by
  have hun' : (c.setState s).Unregistered := hun
  apply hc.frame
  · rw [hun.owned, hun'.owned]
  · rfl
  · rfl
  · exact hc.resets
  · exact .refl _

/-- A new socket is in the local variable of `connect`. -/
lemma Accounts.openSocket {sockfd : Fd} (hc : Accounts none c) (hun : c.Unregistered) :
    Holding sockfd c.sockets (c.openSocket sockfd) := by
  have hun' : (c.openSocket sockfd).Unregistered := hun
  have hnew : (c.openSocket sockfd).descriptors sockfd = some (.socket c.sockets) :=
    Function.update_self _ _ _
  have hold : ∀ fd, fd ≠ sockfd → (c.openSocket sockfd).descriptors fd = c.descriptors fd := by
    intro fd hfd
    exact Function.update_of_ne hfd _ _
  have hlinear : ∀ n, c.closings n + c.handOvers n = if n < c.sockets then 1 else 0 := by
    intro n
    have h := hc.linear n
    rw [places, hun.owned] at h
    simpa using h
  refine ⟨⟨?_, ?_, ?_, hc.closes, hc.handsOver, hc.resets, hc.resetOwn⟩, hnew, hun'⟩
  · intro n
    have h := hlinear n
    rw [places, hun'.owned]
    change 0 + atFile n _ + c.closings n + c.handOvers n = if n < c.sockets + 1 then 1 else 0
    simp only [atFile, Option.some.injEq, OpenFile.socket.injEq]
    split_ifs at h ⊢ <;> omega
  · intro fd n h
    change n < c.sockets + 1 ∧ c.closings n = 0
    by_cases hfd : fd = sockfd
    · subst hfd
      rw [hnew, Option.some.injEq, OpenFile.socket.injEq] at h
      subst h
      have hnone := hlinear c.sockets
      rw [if_neg (Nat.lt_irrefl _)] at hnone
      omega
    · rw [hold fd hfd] at h
      have := hc.opened fd n h
      omega
  · intro fd fd' n h h'
    -- a socket that was there before is not the new one
    have hne : ∀ fd n, c.descriptors fd = some (.socket n) → n ≠ c.sockets := by
      intro fd n h
      exact (hc.opened fd n h).1.ne
    by_cases hfd : fd = sockfd <;> by_cases hfd' : fd' = sockfd
    · rw [hfd, hfd']
    · rw [hfd, hnew, Option.some.injEq, OpenFile.socket.injEq] at h
      rw [hold fd' hfd'] at h'
      exact absurd h.symm (hne fd' n h')
    · rw [hfd', hnew, Option.some.injEq, OpenFile.socket.injEq] at h'
      rw [hold fd hfd] at h
      exact absurd h'.symm (hne fd n h)
    · rw [hold fd hfd] at h
      rw [hold fd' hfd'] at h'
      exact hc.injective fd fd' n h h'

/-- The socket goes from the local variable to the channel. -/
lemma Holding.newChannel {sockfd : Fd} {n : ℕ} (hc : Holding sockfd n c)
    (hstate : c.state_ = .kConnecting) (hnone : c.channel_ = none) :
    ConnectorInv (c.newChannel sockfd) := by
  have howned : (c.newChannel sockfd).owned = some (.socket n) :=
    (owned_of_registered (c := c.newChannel sockfd) rfl rfl hstate).trans hc.here
  refine ⟨⟨?_, hc.accounts.opened, hc.accounts.injective, hc.accounts.closes,
    hc.accounts.handsOver, ?_, hc.accounts.resetOwn⟩, ?_, ?_⟩
  · intro m
    have h := hc.accounts.linear m
    rw [places, hc.unregistered.owned] at h
    rw [places, howned]
    change _ + atFile m none + c.closings m + c.handOvers m = if m < c.sockets then 1 else 0
    rw [← h, atFile_none]
    omega
  · have h := hc.accounts.resets
    rw [removedChannel, hnone] at h
    exact h
  · intro _
    exact ⟨_, n, rfl, rfl, hc.here⟩
  · intro channel _ _
    exact hstate

/-- The socket goes from the local variable to the closed ones. -/
lemma Holding.close {sockfd : Fd} {n : ℕ} (hc : Holding sockfd n c) :
    Accounts none (c.close sockfd) ∧ (c.close sockfd).Unregistered := by
  have hun : (c.close sockfd).Unregistered := hc.unregistered
  have hself : (c.close sockfd).descriptors sockfd = none := Function.update_self _ _ _
  have hgone : ∀ fd m, (c.close sockfd).descriptors fd = some (.socket m) →
      c.descriptors fd = some (.socket m) ∧ m ≠ n := by
    intro fd m h
    by_cases hfd : fd = sockfd
    · rw [hfd, hself] at h
      cases h
    · have hold : c.descriptors fd = some (.socket m) := by
        rw [← h]
        exact (Function.update_of_ne hfd _ _).symm
      refine ⟨hold, ?_⟩
      rintro rfl
      exact hfd (hc.accounts.injective fd sockfd m hold hc.here)
  have hclosings : ∀ m, (c.close sockfd).closings m =
      c.closings m + atFile m (some (.socket n)) := by
    intro m
    simp only [closings, Connector.close, hc.here, List.count_cons, atFile, beq_iff_eq,
      ConnectorEffect.close.injEq]
  have hhandOvers : ∀ m, (c.close sockfd).handOvers m = c.handOvers m := by
    intro m
    simp [handOvers, Connector.close]
  refine ⟨⟨?_, ?_, ?_, ?_, ?_, hc.accounts.resets, ?_⟩, hun⟩
  · intro m
    have h := hc.accounts.linear m
    rw [places, hc.unregistered.owned] at h
    rw [places, hun.owned, hclosings, hhandOvers]
    change _ = if m < c.sockets then 1 else 0
    rw [← h, atFile_none]
    omega
  · intro fd m h
    obtain ⟨hold, hne⟩ := hgone fd m h
    have hopen := hc.accounts.opened fd m hold
    rw [hclosings]
    refine ⟨hopen.1, ?_⟩
    simpa [atFile, Ne.symm hne] using hopen.2
  · intro fd fd' m h h'
    exact hc.accounts.injective fd fd' m (hgone fd m h).1 (hgone fd' m h').1
  · intro file h
    simp only [Connector.close, hc.here, List.mem_cons, ConnectorEffect.close.injEq] at h
    rcases h with rfl | h
    · exact ⟨n, rfl⟩
    · exact hc.accounts.closes file h
  · intro file h
    simp only [Connector.close, List.mem_cons, reduceCtorEq, false_or] at h
    exact hc.accounts.handsOver file h
  · intro own destroyed h
    simp only [Connector.close, List.mem_cons, reduceCtorEq, false_or] at h
    exact hc.accounts.resetOwn own destroyed h

/-- The socket goes from the local variable to the owner of the callback. -/
lemma Holding.callNewConnection {sockfd : Fd} {n : ℕ} (hc : Holding sockfd n c)
    (newConnectionCallback_ : Fd → υ → υ) :
    Accounts none (c.callNewConnection newConnectionCallback_ sockfd) := by
  have hun : (c.callNewConnection newConnectionCallback_ sockfd).Unregistered := hc.unregistered
  have hclosings : ∀ m, (c.callNewConnection newConnectionCallback_ sockfd).closings m =
      c.closings m := by
    intro m
    simp [closings, Connector.callNewConnection]
  have hhandOvers : ∀ m, (c.callNewConnection newConnectionCallback_ sockfd).handOvers m =
      c.handOvers m + atFile m (some (.socket n)) := by
    intro m
    simp only [handOvers, Connector.callNewConnection, hc.here, List.count_cons, atFile,
      beq_iff_eq, ConnectorEffect.newConnection.injEq]
  refine ⟨?_, ?_, hc.accounts.injective, ?_, ?_, hc.accounts.resets, ?_⟩
  · intro m
    have h := hc.accounts.linear m
    rw [places, hc.unregistered.owned] at h
    rw [places, hun.owned, hclosings, hhandOvers]
    change _ = if m < c.sockets then 1 else 0
    rw [← h, atFile_none]
    omega
  · intro fd m h
    rw [hclosings]
    exact hc.accounts.opened fd m h
  · intro file h
    simp only [Connector.callNewConnection, List.mem_cons, reduceCtorEq, false_or] at h
    exact hc.accounts.closes file h
  · intro file h
    simp only [Connector.callNewConnection, hc.here, List.mem_cons,
      ConnectorEffect.newConnection.injEq] at h
    rcases h with rfl | h
    · exact ⟨n, rfl⟩
    · exact hc.accounts.handsOver file h
  · intro own destroyed h
    simp only [Connector.callNewConnection, List.mem_cons, reduceCtorEq, false_or] at h
    exact hc.accounts.resetOwn own destroyed h

/-- A functor that is queued. -/
lemma queuedResets_queueInLoop (c : Connector υ) (f : ConnectorFunctor) :
    (c.queueInLoop f).queuedResets = c.queuedResets ++ (resetOf f).toList := by
  cases f <;> simp [queuedResets, queued, queueInLoop, resetOf]

/-- The socket goes from the channel to the local variable, whatever the state is by then. -/
lemma ConnectorInv.removeAndResetChannel {sockfd : Fd} {s : ConnectorState}
    (hc : ConnectorInv c) (hstate : c.state_ = .kConnecting)
    (hok : (c.setState s).removeAndResetChannel = .ok (sockfd, c')) :
    ∃ n, Holding sockfd n c' := by
  obtain ⟨channel, n, hchannel, hreg, hhere⟩ := hc.connecting hstate
  have hchannel' : (c.setState s).channel_ = some channel := hchannel
  simp only [Connector.removeAndResetChannel, hchannel', Except.ok.injEq, Prod.mk.injEq] at hok
  obtain ⟨rfl, rfl⟩ := hok
  have hun : (((c.setState s).removeChannel channel).queueInLoop
      (.resetChannel channel.id)).Unregistered := by
    intro ch h
    obtain rfl := Option.some.inj h
    rfl
  have howned : c.owned = some (.socket n) :=
    (owned_of_registered hchannel hreg hstate).trans hhere
  refine ⟨n, ⟨?_, hc.accounts.opened, hc.accounts.injective, hc.accounts.closes,
    hc.accounts.handsOver, ?_, hc.accounts.resetOwn⟩, hhere, hun⟩
  · intro m
    have h := hc.accounts.linear m
    rw [places, howned] at h
    rw [places, hun.owned]
    change _ + c.closings m + c.handOvers m = if m < c.sockets then 1 else 0
    rw [← h, atFile_none]
    omega
  · have h := hc.accounts.resets
    simp only [removedChannel, hchannel, hreg, if_true] at h
    rw [queuedResets_queueInLoop]
    change c.queuedResets ++ _ = [channel.id]
    rw [h]
    rfl

/-- A reset finds the removed channel that it was queued for. -/
lemma ConnectorInv.resetChannel {own : ℕ} {rest : List ConnectorFunctor} (hc : ConnectorInv c)
    (hfunctors : c.functors = .resetChannel own :: rest) :
    ConnectorInv (({ c with functors := rest }).resetChannel own) := by
  have hresets := hc.accounts.resets
  simp only [queuedResets, queued, hfunctors, List.cons_append, List.filterMap_cons,
    resetOf] at hresets
  unfold removedChannel at hresets
  split at hresets
  · rename_i channel hchannel
    split at hresets
    · cases hresets
    rename_i hreg
    obtain ⟨hid, hrest⟩ := List.cons.inj hresets
    have hstate : c.state_ ≠ .kConnecting := by
      intro hconnecting
      obtain ⟨channel', n, hchannel', hreg', -⟩ := hc.connecting hconnecting
      obtain rfl := Option.some.inj (hchannel.symm.trans hchannel')
      exact hreg hreg'
    have hun : (({ c with functors := rest }).resetChannel own).Unregistered := by
      intro ch h
      cases h
    refine Accounts.inv ⟨?_, ?_, hc.accounts.injective, ?_, ?_, hrest, ?_⟩ hun hstate
    · intro m
      have h := hc.accounts.linear m
      rw [places, (hc.unregistered hstate).owned] at h
      have hclosings : (({ c with functors := rest }).resetChannel own).closings m =
          c.closings m := by simp [closings, Connector.resetChannel]
      have hhandOvers : (({ c with functors := rest }).resetChannel own).handOvers m =
          c.handOvers m := by simp [handOvers, Connector.resetChannel]
      rw [places, hun.owned, hclosings, hhandOvers]
      exact h
    · intro fd m h
      have hopen := hc.accounts.opened fd m h
      simpa [closings, Connector.resetChannel] using hopen
    · intro file h
      simp only [Connector.resetChannel, List.mem_cons, reduceCtorEq, false_or] at h
      exact hc.accounts.closes file h
    · intro file h
      simp only [Connector.resetChannel, List.mem_cons, reduceCtorEq, false_or] at h
      exact hc.accounts.handsOver file h
    · intro own' destroyed h
      simp only [Connector.resetChannel, hchannel, Option.map_some, List.mem_cons,
        ConnectorEffect.resetChannel.injEq] at h
      rcases h with ⟨rfl, rfl⟩ | h
      · rw [hid]
      · exact hc.accounts.resetOwn own' destroyed h
  · cases hresets

end Connector

end SimpleMuduo
