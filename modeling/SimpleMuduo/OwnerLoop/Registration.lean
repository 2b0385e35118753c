import SimpleMuduo.OwnerLoop.Obligations

/-!
# Registrations and the life of the channels

Each member function keeps `RegistrationInv`, some under a condition: a `UdpSocket` never removes
its channel, a `TcpClient` that is destroyed does not stop its connector, a connection whose client
has been destroyed may be open when the last pointer to it is gone, and `handleWrite` registers a
channel again that has been removed before.  In the runs in which none of this happens no
registration outlives its channel.
-/

namespace SimpleMuduo

namespace OwnerLoop

variable {s s' : OwnerLoop} {c k a v : ℕ} {c? k? : Option ℕ}

/-- Connections have got their numbers from `nextObject`. -/
lemma Shape.connection_lt (hs : s.Shape) {conn : ConnectionObject}
    (hconn : s.connections c = some conn) : c < s.nextObject := by
  refine hs.lt_of_not_unborn fun hunborn => ?_
  rw [hunborn.2.2.2.2.1] at hconn
  cases hconn

/-- Clients have got their numbers from `nextObject`. -/
lemma Shape.client_lt (hs : s.Shape) {client : ClientObject} (hclient : s.clients k = some client) :
    k < s.nextObject := by
  refine hs.lt_of_not_unborn fun hunborn => ?_
  rw [hunborn.2.2.2.1] at hclient
  cases hclient

/-- `createNonblockingOrDie` does not concern the clients. -/
lemma createNonblocking_clients {fd : Fd} (hok : s.createNonblocking fd = .ok s') :
    s'.clients = s.clients := by
  unfold createNonblocking openFd at hok
  split_ifs at hok
  obtain rfl := Except.ok.inj hok
  rfl

/-- The connector rests, and the client has no connection. -/
def Ready (s : OwnerLoop) (k : ℕ) : Prop :=
  ∀ client, s.clients k = some client → s.Resting k ∧ client.connection_ = none

namespace RegistrationInv

/-! ## TcpConnection -/

/-- The record of a new connection, which nobody has to remove yet. -/
lemma bornConnection (h : s.RegistrationInv c? k?) (conn : ConnectionObject)
    (hstate : conn.state_ ≠ .kConnected) :
    RegistrationInv c? k?
      { s.setConnection s.nextObject conn with nextObject := s.nextObject + 1 } := by
  obtain ⟨-, -, -, -, hnone, hchannel⟩ := h.shape.unborn s.nextObject le_rfl
  have hold {d : ℕ} {conn₁ : ConnectionObject} (hd : s.connections d = some conn₁) :
      Function.update s.connections s.nextObject (some conn) d = some conn₁ :=
    (Function.update_of_ne (h.shape.connection_lt hd).ne _ _).trans hd
  refine ⟨(Calm.bornConnection (W := fun _ => True) s conn).shape h.shape, h.dead, ?_, ?_, ?_, ?_⟩
  · intro j client hj hne
    obtain ⟨hrest, hconnection⟩ := h.connectors j client hj hne
    refine ⟨hrest, fun d hd => ?_⟩
    obtain ⟨hconnected, conn₁, hd₁, hcallback⟩ := hconnection d hd
    exact ⟨hconnected, conn₁, hold hd₁, hcallback⟩
  · intro d conn₁ hd hne hopen
    change Function.update s.connections s.nextObject (some conn) d = some conn₁ at hd
    by_cases hdn : d = s.nextObject
    · subst hdn
      obtain rfl := eq_of_update_self hd
      exact absurd (idle_of_none (hchannel (.connection s.nextObject) rfl))
        (hopen.resolve_right hstate)
    · rw [Function.update_of_ne hdn] at hd
      exact h.kept d conn₁ hd hne hopen
  · intro d hd
    obtain ⟨hlt, hnot⟩ := h.destroyed d hd
    refine ⟨hlt.trans (Nat.lt_succ_self _), fun conn₁ hconn₁ => hnot conn₁ ?_⟩
    exact (Function.update_of_ne hlt.ne _ _).symm.trans hconn₁
  · exact fun j hj => (h.named j hj).trans (Nat.lt_succ_self _)

/-- A new connection is not connected, and its channel is not registered. -/
lemma createConnection (h : s.RegistrationInv c? k?) (sockfd : Fd)
    (closeCallback_ : CloseCallback) :
    (s.createConnection sockfd closeCallback_).RegistrationInv c? k? := by
  obtain ⟨-, -, -, -, -, hchannel⟩ := h.shape.unborn s.nextObject le_rfl
  refine (h.bornConnection ⟨.kConnecting, sockfd, closeCallback_⟩ (by simp)).attach ?_ ?_
    (fun k hk => (by cases hk)) sockfd
  · exact hchannel (.connection s.nextObject) rfl
  · intro n hn
    obtain rfl := Option.mem_some_iff.mp hn
    exact Nat.lt_succ_self _

/-- Somebody has the connection when it is established. -/
lemma connectEstablished (h : s.RegistrationInv none k?) (hok : s.connectEstablished c = .ok s')
    (hkept : ∀ conn, s.connections c = some conn → s.Kept c { conn with state_ := .kConnected })
    (hnot : .connectDestroyed c ∉ s.frames) : s'.RegistrationInv none k? := by
  obtain ⟨conn, hconn, hok⟩ := useConnection_ok hok
  obtain ⟨t, hrun, hok⟩ := bind_eq_ok.mp hok
  obtain rfl := Except.ok.inj hok
  have hheld : s.RegistrationInv (some c) k? := h.holdConnection c
  have hran := (hheld.setConnection hconn { conn with state_ := .kConnected }
    (fun _ _ => id) fun _ => hnot).run hrun rfl
  obtain ⟨p, o, channel, poller, -, -, -, rfl⟩ := run_cases hrun
  refine (hran.settle fun conn₁ hconn₁ _ => ?_).callUser _
  obtain rfl := eq_of_update_self hconn₁
  exact (hkept conn hconn).mono id rfl rfl

/-- The connection in hand is removed, or there is a member function that is going to do it. -/
lemma connectDestroyed (h : s.RegistrationInv (some c) k?) (hok : s.connectDestroyed c = .ok s') :
    s'.RegistrationInv none k? := by
  obtain ⟨conn, hconn, hok⟩ := useConnection_ok hok
  split at hok
  · obtain ⟨t, hrun, hok⟩ := bind_eq_ok.mp hok
    obtain rfl := Except.ok.inj hok
    have hran := (h.setConnection hconn { conn with state_ := .kDisconnected }
      (fun _ _ => id) (by simp)).run hrun rfl
    obtain ⟨p, o, channel, poller, -, -, -, rfl⟩ := run_cases hrun
    have hpushed := hran.push (f := .connectDestroyed c) fun d hd => by
      obtain rfl := OwnerFrame.connectDestroyed.inj hd
      refine ⟨h.shape.connection_lt hconn, fun conn₁ hconn₁ => ?_⟩
      obtain rfl := eq_of_update_self hconn₁
      simp
    refine (hpushed.settle fun _ _ _ => ?_).callUser _
    exact .inl (mem_closing_push.mpr (.inl (List.mem_singleton_self c)))
  · rename_i hstate
    have hran := h.run hok rfl
    have hidle := idle_remove hok
    obtain ⟨p, o, channel, poller, -, -, -, rfl⟩ := run_cases hok
    refine hran.settle fun conn₁ hconn₁ hopen => ?_
    obtain rfl := Option.some.inj (hconn.symm.trans hconn₁)
    exact absurd hidle (hopen.resolve_right hstate)

/-- The connection in hand is closed, and `handleClose` is going to call `closeCallback_`. -/
lemma handleClose (h : s.RegistrationInv (some c) k?) (hok : s.handleClose c = .ok s') :
    s'.RegistrationInv none k? := by
  obtain ⟨conn, hconn, hok⟩ := useConnection_ok hok
  obtain ⟨t, hrun, hok⟩ := bind_eq_ok.mp hok
  obtain rfl := Except.ok.inj hok
  have hran := (h.setConnection hconn { conn with state_ := .kDisconnected }
    (fun _ _ => id) (by simp)).run hrun rfl
  have hpushed := hran.push (f := .handleClose c) fun d hd => (by cases hd)
  refine (hpushed.settle fun _ _ _ => ?_).callUser _
  exact .inl (mem_closing_push.mpr (.inl (List.mem_singleton_self c)))

/-- `kDisconnecting` is as good as `kConnected`. -/
lemma disconnecting (h : s.RegistrationInv none k?) {conn : ConnectionObject}
    (hconn : s.connections c = some conn) :
    (s.setConnection c { conn with state_ := .kDisconnecting }).RegistrationInv none k? := by
  have hset := (h.holdConnection c).setConnection hconn
    { conn with state_ := .kDisconnecting } (fun _ _ => id) (by simp)
  refine hset.settle fun conn₁ hconn₁ hopen => ?_
  obtain rfl := eq_of_update_self hconn₁
  have hkept := h.kept c conn hconn (by simp) (.inl (hopen.resolve_right (by simp)))
  unfold Kept at hkept ⊢
  refine hkept.imp_right fun howner => ?_
  cases hcallback : conn.closeCallback_ with
  | server v =>
    rw [hcallback] at howner
    exact howner
  | client j =>
    rw [hcallback] at howner
    exact ⟨rfl, howner.2⟩
  | detached => rfl

/-- `shutdown` changes the state of a connection, which stays with its owner. -/
lemma shutdown (h : s.RegistrationInv none k?) (hok : s.shutdown c = .ok s') :
    s'.RegistrationInv none k? := by
  obtain ⟨conn, hconn, hok⟩ := useConnection_ok hok
  obtain rfl := Except.ok.inj hok
  split
  · exact h.disconnecting hconn
  · exact h

/-- `forceClose` queues a functor that keeps the connection. -/
lemma forceClose (h : s.RegistrationInv none k?) (hok : s.forceClose c = .ok s') :
    s'.RegistrationInv none k? := by
  obtain ⟨conn, hconn, hok⟩ := useConnection_ok hok
  obtain rfl := Except.ok.inj hok
  split
  · exact (h.disconnecting hconn).queueInLoop fun k hk => (by cases hk)
  · exact h

/-- `forceCloseInLoop` is `handleClose`, when it is anything. -/
lemma forceCloseInLoop (h : s.RegistrationInv none k?) (hok : s.forceCloseInLoop c = .ok s') :
    s'.RegistrationInv none k? := by
  obtain ⟨conn, hconn, hok⟩ := useConnection_ok hok
  split at hok
  · exact (h.holdConnection c).handleClose hok
  · obtain rfl := Except.ok.inj hok
    exact h

/-- A queued user callback keeps its connection. -/
lemma queueCallback (h : s.RegistrationInv c? k?) (c : ℕ) (queued : Bool) :
    (s.queueCallback c queued).RegistrationInv c? k? := by
  unfold OwnerLoop.queueCallback
  split
  · exact h.queueInLoop fun k hk => (by cases hk)
  · exact h

/-- A member function of the channel of a connection that somebody is going to remove. -/
lemma runConnection (h : s.RegistrationInv none k?) {op : ChannelOp}
    (hok : s.run (.connection c) op = .ok s')
    (hopen : ∀ conn, s.connections c = some conn →
      ¬ s.Idle (.connection c) ∨ conn.state_ = .kConnected) : s'.RegistrationInv none k? := by
  have hran := (h.holdConnection c).run hok rfl
  obtain ⟨p, o, channel, poller, -, -, -, rfl⟩ := run_cases hok
  refine hran.settle fun conn hconn _ => ?_
  exact (h.kept c conn hconn (by simp) (hopen conn hconn)).mono id rfl rfl

/-- `send` may enable writing on a channel that is registered. -/
lemma send (h : s.RegistrationInv none k?) {leftOver queued : Bool}
    (hok : s.send c leftOver queued = .ok s') : s'.RegistrationInv none k? := by
  obtain ⟨conn, hconn, hok⟩ := useConnection_ok hok
  have hqueued := h.queueCallback c queued
  split at hok
  · rename_i hstate
    simp only at hok
    split at hok
    · refine hqueued.runConnection hok fun conn₁ hconn₁ => .inr ?_
      have hsame : (s.queueCallback c queued).connections = s.connections := by
        unfold OwnerLoop.queueCallback
        split <;> rfl
      rw [hsame] at hconn₁
      obtain rfl := Option.some.inj (hconn.symm.trans hconn₁)
      exact hstate
    · obtain rfl := Except.ok.inj hok
      exact hqueued
  · obtain rfl := Except.ok.inj hok
    exact h

/-- `handleWrite` may register a channel that has been removed. -/
lemma handleWrite (h : s.RegistrationInv none k?) {drained queued : Bool}
    (hok : s.handleWrite c drained queued = .ok s')
    (hopen : drained → (s.channel? (.connection c)).any Channel.isWriting →
      ¬ s.Idle (.connection c)) : s'.RegistrationInv none k? := by
  unfold OwnerLoop.handleWrite at hok
  split at hok
  · rename_i hwriting
    obtain ⟨t, hrun, hok⟩ := bind_eq_ok.mp hok
    obtain rfl := Except.ok.inj hok
    refine (h.runConnection hrun fun conn _ => .inl ?_).queueCallback c queued
    exact hopen hwriting.1 hwriting.2
  · obtain rfl := Except.ok.inj hok
    exact h

/-! ## Connector -/

/-- A disconnected connector rests, and its client has no connection. -/
lemma ready_of_disconnected (h : s.RegistrationInv c? none) (hstate : ∀ client,
    s.clients k = some client → client.connector_.state_ = .kDisconnected) : s.Ready k := by
  intro client hclient
  obtain ⟨hchannel, hconnection⟩ := h.connectors k client hclient (by simp)
  have hdisconnected := hstate client hclient
  rw [hdisconnected, if_neg (by simp)] at hchannel
  refine ⟨hchannel, Option.eq_none_iff_forall_ne_some.mpr fun c hc => ?_⟩
  rw [(hconnection c hc).1] at hdisconnected
  cases hdisconnected

/-- The client in hand is put back with a connector that is not connecting. -/
lemma putClient (h : s.RegistrationInv c? (some k)) {client : ClientObject}
    (hclient : s.clients k = some client) (hready : s.Ready k) (client' : ClientObject)
    (hstate : client'.connector_.state_ ≠ .kConnecting) (hnone : client'.connection_ = none) :
    (s.setClient k client').RegistrationInv c? none := by
  have hset := h.setClient hclient client' fun c hc => by
    rw [(hready client hclient).2] at hc
    cases hc
  refine hset.settleClient fun client₁ hclient₁ => ?_
  obtain rfl := eq_of_update_self hclient₁
  refine ⟨?_, fun c hc => ?_⟩
  · rw [if_neg hstate]
    exact (hready client hclient).1
  · rw [hnone] at hc
    cases hc

/-- `connecting` makes a channel that the connector will remove. -/
lemma connecting (h : s.RegistrationInv none none) {sockfd : Fd}
    (hok : s.connecting k sockfd = .ok s')
    (hready : s.Ready k) : s'.RegistrationInv none none := by
  obtain ⟨client, hclient, hok⟩ := useClient_ok hok
  obtain ⟨hrest, hnone⟩ := hready client hclient
  split at hok
  · rename_i hfree
    have hresets : s.resets k = 0 := (hrest.resolve_right fun hr => hr.2.1 hfree).1
    have hset := (h.holdClient k).setClient hclient
      { client with connector_ := { client.connector_ with state_ := .kConnecting } } fun c hc => by
        rw [hnone] at hc
        cases hc
    have hattached := hset.attach (w := .connector k) hfree
      (fun n hn => by
        obtain rfl := Option.mem_some_iff.mp hn
        exact h.shape.client_lt hclient)
      (fun j hj => congrArg some (ChannelOwner.connector.inj hj)) sockfd
    have hran := hattached.run hok rfl
    obtain ⟨p, o, channel, poller, -, -, -, rfl⟩ := run_cases hok
    refine hran.settleClient fun client₁ hclient₁ => ?_
    obtain rfl := eq_of_update_self hclient₁
    refine ⟨?_, fun c hc => ?_⟩
    · rw [if_pos rfl]
      exact hresets
    · change client.connection_ = some c at hc
      rw [hnone] at hc
      cases hc
  · cases hok

section Retry

variable {f : OwnerLoop → Except OwnerHalt OwnerLoop}
  (hf : ∀ {s s' : OwnerLoop}, s.RegistrationInv none none → f s = .ok s' →
    s'.RegistrationInv none none)

include hf

/-- `retry` closes the socket and may try again at once. -/
lemma retry (h : s.RegistrationInv none (some k)) {sockfd : Fd} (hok : s.retry f k sockfd = .ok s')
    (hready : s.Ready k) : s'.RegistrationInv none none := by
  obtain ⟨client, hclient, hok⟩ := useClient_ok hok
  have hput : ((s.close sockfd).setState k client .kDisconnected).RegistrationInv none none :=
    (h.close sockfd).putClient hclient hready _ (by simp) (hready client hclient).2
  simp only at hok
  split at hok
  · exact hf hput hok
  · obtain rfl := Except.ok.inj hok
    exact hput

/-- The three outcomes of `connect`. -/
lemma connect (h : s.RegistrationInv none none) {attempt : ConnectAttempt}
    (hok : s.connect f k attempt = .ok s') (hstate : ∀ client,
      s.clients k = some client → client.connector_.state_ = .kDisconnected) :
    s'.RegistrationInv none none := by
  obtain ⟨t, hcreate, hok⟩ := bind_eq_ok.mp hok
  have hopened := h.createNonblocking hcreate
  have hready : t.Ready k := by
    refine hopened.ready_of_disconnected ?_
    rw [createNonblocking_clients hcreate]
    exact hstate
  split at hok
  · exact hopened.connecting hok hready
  · exact (hopened.holdClient k).retry hf hok hready
  · obtain rfl := Except.ok.inj hok
    exact hopened.close _

end Retry

/-- By induction on the attempts. -/
lemma startInLoop (h : s.RegistrationInv none none) {attempts : List ConnectAttempt}
    (hok : startInLoop k attempts s = .ok s') : s'.RegistrationInv none none := by
  induction attempts generalizing s s' with
  | nil =>
    obtain ⟨client, -, hok⟩ := useClient_ok hok
    split at hok
    · split at hok <;> cases hok
    · cases hok
  | cons attempt rest ih =>
    obtain ⟨client, hclient, hok⟩ := useClient_ok hok
    split at hok
    · rename_i hstate
      split at hok
      · refine connect (fun hs hrest => ih hs hrest) h hok fun client₁ hclient₁ => ?_
        obtain rfl := Option.some.inj (hclient.symm.trans hclient₁)
        exact hstate
      · cases hok
    · cases hok

/-- `restart` begins a sequence of attempts. -/
lemma restart (h : s.RegistrationInv none (some k)) {attempts : List ConnectAttempt}
    (hok : s.restart k attempts = .ok s') (hready : s.Ready k) : s'.RegistrationInv none none := by
  obtain ⟨client, hclient, hok⟩ := useClient_ok hok
  exact (h.putClient hclient hready { client with connector_ := ⟨true, .kDisconnected⟩ } (by simp)
    (hready client hclient).2).startInLoop hok

/-- The channel of the connector in hand is removed, and is going to be destroyed. -/
lemma removeAndResetChannel (h : s.RegistrationInv none (some k)) {sockfd : Fd}
    (hok : s.removeAndResetChannel k = .ok (sockfd, s')) (hresets : s.resets k = 0)
    (hlt : k < s.nextObject) :
    s'.RegistrationInv none (some k) ∧ s'.Resting k ∧ s'.clients = s.clients := by
  obtain ⟨t, u, hdisable, hremove, rfl⟩ := removeAndResetChannel_ok hok
  have hran := (h.run hdisable rfl).run hremove rfl
  have hidle := idle_remove hremove
  obtain ⟨p, o, channel, poller, -, -, -, rfl⟩ := run_cases hdisable
  obtain ⟨q, o', channel', poller', hq, -, -, rfl⟩ := run_cases hremove
  refine ⟨hran.queueInLoop fun j hj => ?_, .inr ⟨?_, ?_, hidle⟩, rfl⟩
  · obtain rfl := OwnerFunctor.resetChannel.inj hj
    exact ⟨rfl, hlt⟩
  · rw [resets_queueInLoop, if_pos rfl]
    exact congrArg (· + 1) hresets
  · intro hnone
    exact absurd (hq.symm.trans hnone) (by simp)

/-- A connector that is connecting gives up its channel. -/
lemma ready_of_removed (h : s.RegistrationInv none none) {client : ClientObject} {sockfd : Fd}
    (hclient : s.clients k = some client) (hstate : client.connector_.state_ = .kConnecting)
    (hok : s.removeAndResetChannel k = .ok (sockfd, s')) :
    s'.RegistrationInv none (some k) ∧ s'.Ready k := by
  obtain ⟨hchannel, hconnection⟩ := h.connectors k client hclient (by simp)
  rw [if_pos hstate] at hchannel
  obtain ⟨hremoved, hrest, hclients⟩ := (h.holdClient k).removeAndResetChannel hok hchannel
    (h.shape.client_lt hclient)
  refine ⟨hremoved, fun client₁ hclient₁ => ⟨hrest, ?_⟩⟩
  rw [hclients] at hclient₁
  obtain rfl := Option.some.inj (hclient.symm.trans hclient₁)
  refine Option.eq_none_iff_forall_ne_some.mpr fun c hc => ?_
  rw [(hconnection c hc).1] at hstate
  cases hstate

/-- `stopInLoop` removes the channel, when there is one. -/
lemma stopInLoop (h : s.RegistrationInv none none) {attempts : List ConnectAttempt}
    (hok : s.stopInLoop k attempts = .ok s') : s'.RegistrationInv none none := by
  obtain ⟨client, hclient, hok⟩ := useClient_ok hok
  split at hok
  · rename_i hstate
    obtain ⟨hchannel, hconnection⟩ := h.connectors k client hclient (by simp)
    rw [if_pos hstate] at hchannel
    obtain ⟨⟨sockfd, t⟩, hremove, hok⟩ := bind_eq_ok.mp hok
    have hset := (h.holdClient k).setClient hclient
      { client with connector_ := { client.connector_ with state_ := .kDisconnected } }
      fun c hc _ => .inl hc
    obtain ⟨hremoved, hrest, hclients⟩ := hset.removeAndResetChannel hremove hchannel
      (h.shape.client_lt hclient)
    refine hremoved.retry (fun hs hrest => hs.startInLoop hrest) hok fun client₁ hclient₁ =>
      ⟨hrest, ?_⟩
    rw [hclients] at hclient₁
    obtain rfl := eq_of_update_self hclient₁
    refine Option.eq_none_iff_forall_ne_some.mpr fun c hc => ?_
    rw [(hconnection c hc).1] at hstate
    cases hstate
  · obtain rfl := Except.ok.inj hok
    exact h

/-- The functor that destroys the channel has been taken, and nobody has another one. -/
lemma resetChannel (h : s.RegistrationInv none (some k)) (hok : s.resetChannel k = .ok s')
    (hidle : s.Idle (.connector k)) (hresets : s.resets k = 0)
    (hclients : ∀ client, s.clients k = some client → client.connector_.state_ ≠ .kConnecting ∧
      ∀ c, client.connection_ = some c → client.connector_.state_ = .kConnected ∧
        ∃ conn, s.connections c = some conn ∧ conn.closeCallback_ = .client k) :
    s'.RegistrationInv none none := by
  obtain ⟨client, -, hok⟩ := useClient_ok hok
  obtain rfl := Except.ok.inj hok
  refine (h.detach hidle fun j hj => congrArg some (ChannelOwner.connector.inj hj)).settleClient ?_
  intro client₁ hclient₁
  rw [detach_clients] at hclient₁
  obtain ⟨hstate, hconnection⟩ := hclients client₁ hclient₁
  refine ⟨?_, by rw [detach_connections]; exact hconnection⟩
  rw [if_neg hstate]
  refine .inl ⟨?_, ?_⟩
  · rw [resets, detach_waiting]
    exact hresets
  · rw [detach_channel, Function.update_self]

/-- A client gets a connection and is its owner. -/
lemma newClientConnection (h : s.RegistrationInv none none) {client : ClientObject}
    (hclient : s.clients k = some client) (hstate : client.connector_.state_ = .kConnected)
    (hnone : client.connection_ = none) (hok : s.newClientConnection k client = .ok s') :
    s'.RegistrationInv none none := by
  have hcreated := h.createConnection 1 (.client k)
  have hset := (hcreated.holdClient k).setClient hclient
    { client with connection_ := some s.nextObject } fun c hc => by
      rw [hnone] at hc
      cases hc
  have hnew : (s.createConnection 1 (.client k)).connections s.nextObject =
      some ⟨.kConnecting, 1, .client k⟩ := Function.update_self ..
  refine RegistrationInv.connectEstablished (hset.settleClient fun client₁ hclient₁ => ?_) hok ?_ ?_
  · obtain rfl := eq_of_update_self hclient₁
    refine ⟨(hcreated.connectors k client hclient (by simp)).channel, fun c hc => ?_⟩
    obtain rfl := Option.some.inj hc
    exact ⟨hstate, _, hnew, rfl⟩
  · intro conn hconn
    obtain rfl := Option.some.inj (hnew.symm.trans hconn)
    exact .inr ⟨rfl, _, Function.update_self .., rfl⟩
  · exact fun hmem => absurd (h.destroyed _ hmem).1 (lt_irrefl _)

/-- The connector hands its socket to a new connection of the client, or closes it. -/
lemma connected (h : s.RegistrationInv none (some k)) {sockfd : Fd}
    (hok : s.connected k sockfd = .ok s') (hready : s.Ready k) : s'.RegistrationInv none none := by
  obtain ⟨client, hclient, hok⟩ := useClient_ok hok
  have hput := h.putClient hclient hready
    { client with connector_ := { client.connector_ with state_ := .kConnected } } (by simp)
    (hready client hclient).2
  simp only at hok
  split at hok
  · exact hput.newClientConnection (Function.update_self ..) rfl (hready client hclient).2 hok
  · obtain rfl := Except.ok.inj hok
    exact hput.close sockfd

/-- `handleWrite` of a connector removes its channel before anything else. -/
lemma connectorHandleWrite (h : s.RegistrationInv none none) {result : Connector.CompletionResult}
    (hok : s.connectorHandleWrite k result = .ok s') : s'.RegistrationInv none none := by
  obtain ⟨client, hclient, hok⟩ := useClient_ok hok
  split at hok
  · rename_i hstate
    obtain ⟨⟨sockfd, t⟩, hremove, hok⟩ := bind_eq_ok.mp hok
    obtain ⟨hremoved, hready⟩ := h.ready_of_removed hclient hstate hremove
    simp only at hok
    split at hok
    · exact hremoved.retry (fun hs hrest => hs.startInLoop hrest) hok hready
    · exact hremoved.connected hok hready
  · split at hok
    · obtain rfl := Except.ok.inj hok
      exact h
    · cases hok

/-- `handleError` of a connector removes its channel and tries again. -/
lemma connectorHandleError (h : s.RegistrationInv none none) {attempts : List ConnectAttempt}
    (hok : s.connectorHandleError k attempts = .ok s') : s'.RegistrationInv none none := by
  obtain ⟨client, hclient, hok⟩ := useClient_ok hok
  split at hok
  · rename_i hstate
    obtain ⟨⟨sockfd, t⟩, hremove, hok⟩ := bind_eq_ok.mp hok
    obtain ⟨hremoved, hready⟩ := h.ready_of_removed hclient hstate hremove
    exact hremoved.retry (fun hs hrest => hs.startInLoop hrest) hok hready
  · obtain rfl := Except.ok.inj hok
    exact h

/-! ## TcpClient -/

/-- Only the flags of the client change. -/
lemma setFlags (h : s.RegistrationInv none none) {client : ClientObject}
    (hclient : s.clients k = some client) (client' : ClientObject)
    (hstate : client'.connector_.state_ = client.connector_.state_)
    (hconnection : client'.connection_ = client.connection_) :
    (s.setClient k client').RegistrationInv none none := by
  have hset := (h.holdClient k).setClient hclient client' fun c hc _ =>
    .inl (hconnection.trans hc)
  refine hset.settleClient fun client₁ hclient₁ => ?_
  obtain rfl := eq_of_update_self hclient₁
  obtain ⟨hchannel, hlink⟩ := h.connectors k client hclient (by simp)
  rw [← hstate] at hchannel hlink
  rw [← hconnection] at hlink
  exact ⟨hchannel, hlink⟩

/-- `TcpClient::connect` starts the connector. -/
lemma connectClient (h : s.RegistrationInv none none) {attempts : List ConnectAttempt}
    (hok : s.connectClient k attempts = .ok s') : s'.RegistrationInv none none := by
  obtain ⟨client, hclient, hok⟩ := useClient_ok hok
  exact (h.setFlags hclient { client with
    connect_ := true
    connector_ := { client.connector_ with connect_ := true } } rfl rfl).startInLoop hok

/-- `TcpClient::disconnect` shuts the connection down, when there is one. -/
lemma disconnect (h : s.RegistrationInv none none) (hok : s.disconnect k = .ok s') :
    s'.RegistrationInv none none := by
  obtain ⟨client, hclient, hok⟩ := useClient_ok hok
  have hset := h.setFlags hclient { client with connect_ := false } rfl rfl
  simp only at hok
  split at hok
  · obtain rfl := Except.ok.inj hok
    exact hset
  · exact hset.shutdown hok

/-- `TcpClient::stop` queues `stopInLoop`. -/
lemma stop (h : s.RegistrationInv none none) (hok : s.stop k = .ok s') :
    s'.RegistrationInv none none := by
  obtain ⟨client, hclient, hok⟩ := useClient_ok hok
  obtain rfl := Except.ok.inj hok
  exact (h.setFlags hclient { client with
    connect_ := false
    connector_ := { client.connector_ with connect_ := false } } rfl rfl).queueInLoop
      fun j hj => (by cases hj)

/-- The client gives up the connection in hand, which is going to be removed. -/
lemma removeClientConnection (h : s.RegistrationInv (some c) none) {attempts : List ConnectAttempt}
    (hok : s.removeClientConnection k c attempts = .ok s') : s'.RegistrationInv none none := by
  obtain ⟨client, hclient, hok⟩ := useClient_ok hok
  split at hok
  · rename_i hconnection
    obtain ⟨hchannel, hlink⟩ := h.connectors k client hclient (by simp)
    have hconnected := (hlink c hconnection).1
    have hclosing : c ∈ (s.queueInLoop (.connectDestroyed c)).closing :=
      mem_closing_queueInLoop.mpr (.inl rfl)
    have hqueued : (s.queueInLoop (.connectDestroyed c)).RegistrationInv none none :=
      (h.queueInLoop fun j hj => (by cases hj)).settle fun _ _ _ => .inl hclosing
    have hset := (hqueued.holdClient k).setClient hclient { client with connection_ := none }
      fun d hd _ => by
        obtain rfl := Option.some.inj (hconnection.symm.trans hd)
        exact .inr hclosing
    have hready : ((s.queueInLoop (.connectDestroyed c)).setClient k
        { client with connection_ := none }).Ready k := by
      intro client₁ hclient₁
      obtain rfl := eq_of_update_self hclient₁
      have hrest := (hqueued.connectors k client hclient (by simp)).channel
      rw [hconnected, if_neg (by simp)] at hrest
      exact ⟨hrest, rfl⟩
    simp only at hok
    split at hok
    · exact hset.restart hok hready
    · obtain rfl := Except.ok.inj hok
      refine hset.settleClient fun client₁ hclient₁ => ?_
      obtain ⟨hrest, hnone⟩ := hready client₁ hclient₁
      obtain rfl := eq_of_update_self hclient₁
      refine ⟨?_, fun d hd => (by cases hd)⟩
      rw [if_neg (by simp [hconnected])]
      exact hrest
  · cases hok

/-- The destructor of the client leaves its connection to itself. -/
lemma releaseConnection (h : s.RegistrationInv none none) {client : ClientObject}
    (hclient : s.clients k = some client) (hok : s.releaseConnection client = .ok s') :
    s'.RegistrationInv none (some k) ∧ s'.clients = s.clients ∧ s'.channel_ = s.channel_ ∧
      s'.objects = s.objects ∧ ∀ c conn, client.connection_ = some c →
        s'.connections c = some conn → conn.closeCallback_ = .detached := by
  have hlink := (h.connectors k client hclient (by simp)).connection
  unfold OwnerLoop.releaseConnection at hok
  split at hok
  · rename_i hnone
    obtain rfl := Except.ok.inj hok
    refine ⟨h.holdClient k, rfl, rfl, rfl, fun c conn hc => ?_⟩
    rw [hnone] at hc
    cases hc
  · rename_i c hconnection
    obtain ⟨conn, hconn, hok⟩ := useConnection_ok hok
    obtain ⟨-, conn₁, hconn₁, hcallback⟩ := hlink c hconnection
    obtain rfl := Option.some.inj (hconn.symm.trans hconn₁)
    have hset := ((h.holdClient k).holdConnection c).setConnection hconn
      { conn with closeCallback_ := .detached } (fun j hj heq => by
        rw [hcallback] at heq
        exact absurd (congrArg some (CloseCallback.client.inj heq)) hj)
      fun hstate hmem => (h.destroyed c hmem).2 conn hconn hstate
    have hdetached := hset.settle fun conn₁ hconn₁ hopen => by
      obtain rfl := eq_of_update_self hconn₁
      have hkept := h.kept c conn hconn (by simp) hopen
      unfold Kept at hkept ⊢
      refine hkept.imp_right fun howner => ?_
      rw [hcallback] at howner
      exact howner.1
    have hat {conn₁ : ConnectionObject} {d : ℕ} (hd : client.connection_ = some d)
        (hconn₁ : Function.update s.connections c
          (some { conn with closeCallback_ := .detached }) d = some conn₁) :
        conn₁.closeCallback_ = .detached := by
      obtain rfl := Option.some.inj (hconnection.symm.trans hd)
      obtain rfl := eq_of_update_self hconn₁
      rfl
    simp only at hok
    split at hok
    · have hforced := hdetached.forceClose hok
      obtain ⟨conn', hconn', hok⟩ := useConnection_ok hok
      obtain rfl := eq_of_update_self hconn'
      obtain rfl := Except.ok.inj hok
      refine ⟨hforced, ?_⟩
      split
      · refine ⟨rfl, rfl, rfl, fun d conn₁ hd hconn₁ => ?_⟩
        obtain rfl := Option.some.inj (hconnection.symm.trans hd)
        obtain rfl := eq_of_update_self hconn₁
        rfl
      · exact ⟨rfl, rfl, rfl, fun d conn₁ hd hconn₁ => hat hd hconn₁⟩
    · obtain rfl := Except.ok.inj hok
      exact ⟨hdetached, rfl, rfl, rfl, fun d conn₁ hd hconn₁ => hat hd hconn₁⟩

/-- The destructor of a client that is not connecting. -/
lemma destroyClient (h : s.RegistrationInv none none) (hok : s.destroyClient k = .ok s')
    (hstate : ∀ client, s.clients k = some client → client.connector_.state_ ≠ .kConnecting) :
    s'.RegistrationInv none none := by
  have hshape := (Calm.destroyClient (W := fun _ => True) hok).shape
  obtain ⟨client, hclient, hok⟩ := useClient_ok hok
  obtain ⟨t, hrelease, hok⟩ := bind_eq_ok.mp hok
  obtain rfl := Except.ok.inj hok
  obtain ⟨hreleased, hclients, hchannel, hobjects, hdetached⟩ :=
    h.releaseConnection hclient hrelease
  have hrest := (h.connectors k client hclient (by simp)).channel
  rw [if_neg (hstate client hclient)] at hrest
  have hidle : t.Idle (.connector k) := by
    rw [Idle, hobjects, hchannel]
    exact hrest.idle
  have hgone := hreleased.detach hidle fun j hj => congrArg some (ChannelOwner.connector.inj hj)
  refine hgone.removeClient (by rw [detach_clients]) (hshape h.shape) ?_
  intro c conn hc hcallback client₁ hclient₁ hconnection
  rw [detach_clients, hclients] at hclient₁
  obtain rfl := Option.some.inj (hclient.symm.trans hclient₁)
  rw [detach_connections] at hc
  rw [hdetached c conn hconnection hc] at hcallback
  cases hcallback

/-! ## Acceptor and TcpServer -/

/-- The channel of a new acceptor is not registered. -/
lemma createAcceptor (h : s.RegistrationInv c? k?) {fd : Fd} {server : Option ℕ}
    (hok : s.createAcceptor fd server = .ok s') : s'.RegistrationInv c? k? := by
  obtain ⟨t, hcreate, hok⟩ := bind_eq_ok.mp hok
  obtain rfl := Except.ok.inj hok
  have ht := h.createNonblocking hcreate
  obtain ⟨-, -, -, -, -, hchannel⟩ := ht.shape.unborn t.nextObject le_rfl
  refine RegistrationInv.attach (ht.congr
    (Calm.bornAcceptor (W := fun _ => True) t ⟨fd, server⟩).shape rfl rfl rfl rfl rfl rfl rfl
    (Nat.le_succ _)) ?_ ?_ (fun j hj => (by cases hj)) fd
  · exact hchannel (.acceptor t.nextObject) rfl
  · intro n hn
    obtain rfl := Option.mem_some_iff.mp hn
    exact Nat.lt_succ_self _

/-- `listen` registers the channel of an acceptor that exists. -/
lemma listen (h : s.RegistrationInv c? k?) (hok : s.listen a = .ok s') :
    s'.RegistrationInv c? k? := by
  obtain ⟨acceptor, -, hok⟩ := useAcceptor_ok hok
  exact h.run hok trivial

/-- The acceptor removes its channel itself. -/
lemma destroyAcceptor (h : s.RegistrationInv c? k?) (hok : s.destroyAcceptor a = .ok s') :
    s'.RegistrationInv c? k? := by
  have hshape := (Calm.destroyAcceptor (W := fun _ => True) hok trivial).shape
  obtain ⟨acceptor, -, hok⟩ := useAcceptor_ok hok
  obtain ⟨t, hdisable, hok⟩ := bind_eq_ok.mp hok
  obtain ⟨u, hremove, hok⟩ := bind_eq_ok.mp hok
  obtain rfl := Except.ok.inj hok
  have hremoved := (h.run hdisable trivial).run hremove trivial
  have hgone := (hremoved.detach (idle_remove hremove) fun j hj => (by cases hj)).close
    acceptor.acceptSocket_
  exact hgone.congr (fun _ => hshape h.shape) rfl rfl rfl rfl rfl rfl rfl le_rfl

/-- The record of a server changes, and none of its connections is given up. -/
lemma setServer (h : s.RegistrationInv c? k?) {server : ServerObject}
    (hserver : s.servers v = some server) (server' : ServerObject)
    (hconnections : ∀ c ∈ server.connections_, c? ≠ some c →
      c ∈ server'.connections_ ∨ c ∈ s.closing) :
    (s.setServer v server').RegistrationInv c? k? := by
  refine h.of_records (Calm.setServer (W := fun _ => True) hserver server').shape rfl rfl rfl rfl
    (fun _ _ => rfl) ?_ (fun _ => .inl) (fun _ => .inl) le_rfl
  intro c conn hne hkept
  refine hkept.imp id (fun u server₁ hu hmem => ?_) fun j client _ hj hconn =>
    .inr ⟨client, hj, hconn⟩
  by_cases huv : u = v
  · subst huv
    obtain rfl := Option.some.inj (hserver.symm.trans hu)
    refine (hconnections c hmem hne).symm.imp id fun hmem => ?_
    exact ⟨server', Function.update_self .., hmem⟩
  · exact .inr ⟨server₁, (Function.update_of_ne huv _ _).trans hu, hmem⟩

/-- A new server has a new acceptor and no connections. -/
lemma createServer (h : s.RegistrationInv c? k?) {fd : Fd} (hok : s.createServer fd = .ok s') :
    s'.RegistrationInv c? k? := by
  have hshape := (Calm.createServer (W := fun _ => True) hok).shape
  obtain ⟨t, hcreate, hok⟩ := bind_eq_ok.mp hok
  obtain rfl := Except.ok.inj hok
  have ht := h.createAcceptor hcreate
  obtain ⟨-, -, hnone, -⟩ := ht.shape.unborn t.nextObject le_rfl
  refine ht.of_records (fun _ => hshape h.shape) rfl rfl rfl rfl (fun _ _ => rfl) ?_
    (fun _ => .inl) (fun _ => .inl) (Nat.le_succ _)
  intro c conn _ hkept
  refine hkept.imp id (fun v server hv hmem => .inr ⟨server, ?_, hmem⟩)
    fun j client _ hj hconn => .inr ⟨client, hj, hconn⟩
  refine (Function.update_of_ne ?_ _ _).trans hv
  rintro rfl
  rw [hnone] at hv
  cases hv

/-- `TcpServer::start` queues `listen`. -/
lemma startServer (h : s.RegistrationInv c? k?) (hok : s.startServer v = .ok s') :
    s'.RegistrationInv c? k? := by
  obtain ⟨server, hserver, hok⟩ := useServer_ok hok
  have hset := h.setServer hserver { server with started_ := server.started_ + 1 }
    fun c hc _ => .inl hc
  simp only at hok
  split at hok
  · exact hset.listen hok
  · obtain rfl := Except.ok.inj hok
    exact hset

/-- A server gets a connection and is its owner. -/
lemma newServerConnection (h : s.RegistrationInv none k?) {sockfd : Fd}
    (hok : s.newServerConnection v sockfd = .ok s') : s'.RegistrationInv none k? := by
  obtain ⟨server, hserver, hok⟩ := useServer_ok hok
  have hset := (h.createConnection sockfd (.server v)).setServer hserver
    { server with connections_ := server.connections_ ++ [s.nextObject] }
    fun c hc _ => .inl (List.mem_append_left _ hc)
  refine hset.connectEstablished hok ?_ fun hmem => absurd (h.destroyed _ hmem).1 (lt_irrefl _)
  intro conn hconn
  have hnew : (s.createConnection sockfd (.server v)).connections s.nextObject =
      some ⟨.kConnecting, sockfd, .server v⟩ := Function.update_self ..
  obtain rfl := Option.some.inj (hnew.symm.trans hconn)
  exact .inr ⟨_, Function.update_self .., List.mem_append_right _ (List.mem_singleton_self _)⟩

/-- `handleRead` of an acceptor makes a connection of its server, or nothing. -/
lemma acceptorHandleRead (h : s.RegistrationInv none k?) {accepted : Option Fd}
    (hok : s.acceptorHandleRead a accepted = .ok s') : s'.RegistrationInv none k? := by
  obtain ⟨acceptor, -, hok⟩ := useAcceptor_ok hok
  split at hok
  · obtain rfl := Except.ok.inj hok
    exact h
  · obtain ⟨t, hopen, hok⟩ := bind_eq_ok.mp hok
    split at hok
    · obtain rfl := Except.ok.inj hok
      exact (h.openFd hopen).callUser none
    · exact (h.openFd hopen).newServerConnection hok

/-- The server gives up the connection in hand, which is going to be removed. -/
lemma removeServerConnection (h : s.RegistrationInv (some c) k?)
    (hok : s.removeServerConnection v c = .ok s') : s'.RegistrationInv none k? := by
  obtain ⟨server, hserver, hok⟩ := useServer_ok hok
  obtain rfl := Except.ok.inj hok
  have hclosing : c ∈ (s.queueInLoop (.connectDestroyed c)).closing :=
    mem_closing_queueInLoop.mpr (.inl rfl)
  have hqueued : (s.queueInLoop (.connectDestroyed c)).RegistrationInv none k? :=
    (h.queueInLoop fun j hj => (by cases hj)).settle fun _ _ _ => .inl hclosing
  refine hqueued.setServer hserver { server with connections_ := server.connections_.erase c } ?_
  intro d hd _
  by_cases hdc : d = c
  · exact .inr (hdc ▸ hclosing)
  · exact .inl ((List.mem_erase_of_ne hdc).mpr hd)

/-- The destructor of the server takes all its connections. -/
lemma destroyServer {order : List ℕ} (h : s.RegistrationInv c? k?)
    (hok : s.destroyServer v order = .ok s') : s'.RegistrationInv c? k? := by
  have hshape := (Calm.destroyServer (W := fun _ => True) hok fun _ _ =>
    ⟨trivial, fun _ _ => trivial⟩).shape
  obtain ⟨server, hserver, horder, rfl⟩ := destroyServer_ok hok
  refine h.of_records hshape rfl rfl rfl rfl (fun _ _ => rfl) ?_ ?_ (fun _ => .inl) le_rfl
  · intro c conn _ hkept
    refine hkept.imp (fun hmem => mem_closing_push.mpr (.inr hmem)) (fun u server₁ hu hmem => ?_)
      fun j client _ hj hconn => .inr ⟨client, hj, hconn⟩
    by_cases huv : u = v
    · subst huv
      obtain rfl := Option.some.inj (hserver.symm.trans hu)
      exact .inl (mem_closing_push.mpr (.inl (horder.mem_iff.mpr hmem)))
    · exact .inr ⟨server₁, (Function.update_of_ne huv _ _).trans hu, hmem⟩
  · intro c hc
    rcases List.mem_cons.mp hc with heq | hc
    · cases heq
    · exact .inl hc

/-! ## UdpSocket -/

/-- A datagram socket that has not been started yet. -/
lemma startUdp (h : s.RegistrationInv c? k?) {u : ℕ} {fd : Fd} (hok : s.startUdp u fd = .ok s')
    (hnone : s.channel_ (.udpSocket u) = none) : s'.RegistrationInv c? k? := by
  unfold OwnerLoop.startUdp at hok
  split at hok
  · rename_i hudp
    obtain ⟨t, hsocket, hok⟩ := bind_eq_ok.mp hok
    have hopened : t.RegistrationInv c? k? ∧ t.channel_ = s.channel_ ∧
        t.nextObject = s.nextObject := by
      split at hsocket
      · obtain rfl := Except.ok.inj hsocket
        exact ⟨h, rfl, rfl⟩
      · refine ⟨h.openFd hsocket, ?_⟩
        unfold OwnerLoop.openFd at hsocket
        split_ifs at hsocket
        obtain rfl := Except.ok.inj hsocket
        exact ⟨rfl, rfl⟩
    obtain ⟨ht, hchannel, hnext⟩ := hopened
    have hfree : t.channel_ (.udpSocket u) = none := by rw [hchannel, hnone]
    have hsame : t.detach (.udpSocket u) = t := by rw [OwnerLoop.detach, hfree]
    rw [hsame] at hok
    refine (ht.attach hfree (fun n hn => ?_) (fun j hj => (by cases hj)) fd).run hok trivial
    obtain rfl := Option.mem_some_iff.mp hn
    rw [hnext]
    refine h.shape.lt_of_not_unborn fun hunborn => ?_
    rw [hunborn.1] at hudp
    cases hudp
  · cases hok

/-- The destructor of a datagram socket that has not been started does not return. -/
lemma destroyUdp_ne_ok {u : ℕ} (hnone : s.channel_ (.udpSocket u) = none) :
    s.destroyUdp u ≠ .ok s' := by
  intro hok
  unfold OwnerLoop.destroyUdp channel? at hok
  rw [hnone] at hok
  split at hok <;> cases hok

end RegistrationInv

end OwnerLoop

end SimpleMuduo
