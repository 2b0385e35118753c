import SimpleMuduo.OwnerLoop.Ownership

/-!
# The member functions one by one

Every member function is calm.  `connectDestroyed` and the destructors of `Acceptor` and `TcpServer`
remove or condemn the channels that they are about, and a connector removes its own channel; all
others remove nothing.
-/

namespace SimpleMuduo

namespace OwnerLoop

variable {s s' : OwnerLoop} {W : ChannelOwner → Prop} {c k a v : ℕ}

/-! ## Objects that are used exist -/

/-- Only an existing connection can be used. -/
lemma useConnection_ok {f : ConnectionObject → Except OwnerHalt OwnerLoop}
    (hok : s.useConnection c f = .ok s') :
    ∃ conn, s.connections c = some conn ∧ f conn = .ok s' := by
  unfold useConnection at hok
  split at hok
  · cases hok
  · rename_i conn hconn
    exact ⟨conn, hconn, hok⟩

/-- Only an existing client can be used. -/
lemma useClient_ok {f : ClientObject → Except OwnerHalt OwnerLoop}
    (hok : s.useClient k f = .ok s') : ∃ client, s.clients k = some client ∧ f client = .ok s' := by
  unfold useClient at hok
  split at hok
  · cases hok
  · rename_i client hclient
    exact ⟨client, hclient, hok⟩

/-- The channel of a connector is disabled and removed before the functor is queued. -/
lemma removeAndResetChannel_ok {sockfd : Fd} (hok : s.removeAndResetChannel k = .ok (sockfd, s')) :
    ∃ t u, s.run (.connector k) .disableAll = .ok t ∧ t.run (.connector k) .remove = .ok u ∧
      s' = u.queueInLoop (.resetChannel k) := by
  unfold removeAndResetChannel at hok
  split at hok
  · cases hok
  · obtain ⟨t, hdisable, hok⟩ := bind_eq_ok.mp hok
    obtain ⟨u, hremove, hok⟩ := bind_eq_ok.mp hok
    obtain ⟨-, rfl⟩ := Prod.mk.inj (Except.ok.inj hok)
    exact ⟨t, u, hdisable, hremove, rfl⟩

/-- Only an existing acceptor can be used. -/
lemma useAcceptor_ok {f : AcceptorObject → Except OwnerHalt OwnerLoop}
    (hok : s.useAcceptor a f = .ok s') :
    ∃ acceptor, s.acceptors a = some acceptor ∧ f acceptor = .ok s' := by
  unfold useAcceptor at hok
  split at hok
  · cases hok
  · rename_i acceptor hacceptor
    exact ⟨acceptor, hacceptor, hok⟩

/-- Only an existing server can be used. -/
lemma useServer_ok {f : ServerObject → Except OwnerHalt OwnerLoop}
    (hok : s.useServer v f = .ok s') : ∃ server, s.servers v = some server ∧ f server = .ok s' := by
  unfold useServer at hok
  split at hok
  · cases hok
  · rename_i server hserver
    exact ⟨server, hserver, hok⟩

/-- What `~TcpServer` leaves to its loop when it has been given a possible order. -/
lemma destroyServer_ok {order : List ℕ} (hok : s.destroyServer v order = .ok s') :
    ∃ server, s.servers v = some server ∧ order.Perm server.connections_ ∧
      s' = { s with servers := Function.update s.servers v none }.push
        (.destroyServer server.acceptor_ order) := by
  obtain ⟨server, hserver, hok⟩ := useServer_ok hok
  split at hok
  · rename_i horder
    exact ⟨server, hserver, horder, (Except.ok.inj hok).symm⟩
  · cases hok

/-- Only a channel that has not been destroyed can be used. -/
lemma useChannel_ok {p : ChannelPtr} {f : ChannelObject → Except OwnerHalt OwnerLoop}
    (hok : s.useChannel p f = .ok s') :
    ∃ o, s.objects p = some o ∧ o.live = true ∧ f o = .ok s' := by
  unfold useChannel at hok
  split at hok
  · cases hok
  · rename_i o ho
    split at hok
    · rename_i hlive
      exact ⟨o, ho, hlive, hok⟩
    · cases hok

namespace Calm

/-! ## TcpConnection -/

/-- The record of a new connection. -/
lemma bornConnection (s : OwnerLoop) (conn : ConnectionObject) :
    Calm W s { s.setConnection s.nextObject conn with nextObject := s.nextObject + 1 } := by
  refine of_records rfl rfl rfl rfl ?_ (Nat.le_succ _) rfl rfl rfl rfl
  rintro n - ⟨hudp, hacceptor, hserver, hclient, hconnection, hnone⟩ hn
  refine ⟨hudp, hacceptor, hserver, hclient, ?_, hnone⟩
  exact (Function.update_of_ne (Nat.ne_of_gt hn) _ _).trans hconnection

/-- A new connection removes nothing. -/
lemma createConnection (s : OwnerLoop) (sockfd : Fd) (closeCallback_ : CloseCallback) :
    Calm W s (s.createConnection sockfd closeCallback_) := by
  intro hs
  obtain ⟨-, -, -, -, -, hchannel⟩ := hs.unborn s.nextObject le_rfl
  refine ((bornConnection s _).trans (attach ?_ ?_ sockfd)) hs
  · exact hchannel (.connection s.nextObject) rfl
  · intro n hn
    obtain rfl := Option.mem_some_iff.mp hn
    exact Nat.lt_succ_self _

/-- `connectEstablished` registers the channel and removes nothing. -/
lemma connectEstablished (hok : s.connectEstablished c = .ok s') : Calm W s s' := by
  obtain ⟨conn, hconn, hok⟩ := useConnection_ok hok
  obtain ⟨t, hrun, hok⟩ := bind_eq_ok.mp hok
  obtain rfl := Except.ok.inj hok
  exact ((setConnection hconn _).trans (run hrun (by simp))).trans (callUser t _)

/-- `connectDestroyed` removes the channel of its own connection. -/
lemma connectDestroyed (hok : s.connectDestroyed c = .ok s') (hW : W (.connection c)) :
    Calm W s s' := by
  obtain ⟨conn, hconn, hok⟩ := useConnection_ok hok
  split at hok
  · obtain ⟨t, hrun, hok⟩ := bind_eq_ok.mp hok
    obtain rfl := Except.ok.inj hok
    have hpush : Calm W t (t.push (.connectDestroyed c)) := by
      refine push t rfl fun v hv => ?_
      obtain rfl := List.mem_singleton.mp hv
      exact hW
    exact (((setConnection hconn _).trans (run hrun (by simp))).trans hpush).trans (callUser _ _)
  · exact run hok fun _ => hW

/-- `handleClose` disables the channel, which stays in the poller's map. -/
lemma handleClose (hok : s.handleClose c = .ok s') : Calm W s s' := by
  obtain ⟨conn, hconn, hok⟩ := useConnection_ok hok
  obtain ⟨t, hrun, hok⟩ := bind_eq_ok.mp hok
  obtain rfl := Except.ok.inj hok
  have hpush : Calm W t (t.push (.handleClose c)) :=
    push t rfl fun _ hv => absurd hv List.not_mem_nil
  exact (((setConnection hconn _).trans (run hrun (by simp))).trans hpush).trans (callUser _ _)

/-- `shutdown` removes nothing. -/
lemma shutdown (hok : s.shutdown c = .ok s') : Calm W s s' := by
  obtain ⟨conn, hconn, hok⟩ := useConnection_ok hok
  obtain rfl := Except.ok.inj hok
  split
  · exact setConnection hconn _
  · exact refl s

/-- `forceClose` only queues a functor. -/
lemma forceClose (hok : s.forceClose c = .ok s') : Calm W s s' := by
  obtain ⟨conn, hconn, hok⟩ := useConnection_ok hok
  obtain rfl := Except.ok.inj hok
  split
  · exact (setConnection hconn _).trans (queueInLoop _ _)
  · exact refl s

/-- `forceCloseInLoop` is `handleClose`, when it is anything. -/
lemma forceCloseInLoop (hok : s.forceCloseInLoop c = .ok s') : Calm W s s' := by
  obtain ⟨conn, hconn, hok⟩ := useConnection_ok hok
  split at hok
  · exact handleClose hok
  · obtain rfl := Except.ok.inj hok
    exact refl s

/-- A queued user callback removes nothing. -/
lemma queueCallback (s : OwnerLoop) (c : ℕ) (queued : Bool) :
    Calm W s (s.queueCallback c queued) := by
  unfold OwnerLoop.queueCallback
  split
  · exact queueInLoop s _
  · exact refl s

/-- `send` may enable writing, and removes nothing. -/
lemma send {leftOver queued : Bool} (hok : s.send c leftOver queued = .ok s') : Calm W s s' := by
  obtain ⟨conn, hconn, hok⟩ := useConnection_ok hok
  have hqueued : Calm W s (s.queueCallback c queued) := queueCallback s c queued
  split at hok
  · simp only at hok
    split at hok
    · exact hqueued.trans (run hok (by simp))
    · obtain rfl := Except.ok.inj hok
      exact hqueued
  · obtain rfl := Except.ok.inj hok
    exact refl s

/-- `handleWrite` may disable writing, and removes nothing. -/
lemma handleWrite {drained queued : Bool} (hok : s.handleWrite c drained queued = .ok s') :
    Calm W s s' := by
  unfold OwnerLoop.handleWrite at hok
  split at hok
  · obtain ⟨t, hrun, hok⟩ := bind_eq_ok.mp hok
    obtain rfl := Except.ok.inj hok
    exact (run hrun (by simp)).trans (queueCallback t c queued)
  · obtain rfl := Except.ok.inj hok
    exact refl s

/-- A connection is destroyed with its channel, which is not removed by that. -/
lemma destroyConnection (s : OwnerLoop) (c : ℕ) (conn : ConnectionObject) :
    Calm W s (s.destroyConnection c conn) := by
  refine ((detach s (.connection c)).trans (close _ conn.socket_)).trans
    (of_records rfl rfl rfl rfl ?_ le_rfl rfl rfl rfl rfl)
  rintro n - ⟨hudp, hacceptor, hserver, hclient, hconnection, hchannel⟩ -
  refine ⟨hudp, hacceptor, hserver, hclient, ?_, hchannel⟩
  change Function.update (s.detach (.connection c)).connections c none n = none
  rw [Function.update_apply]
  split
  · rfl
  · exact hconnection

/-! ## Connector and TcpClient -/

/-- `connecting` makes a new channel. -/
lemma connecting {sockfd : Fd} (hok : s.connecting k sockfd = .ok s') : Calm W s s' := by
  intro hs
  obtain ⟨client, hclient, hok⟩ := useClient_ok hok
  split at hok
  · rename_i hfree
    have hborn : ∀ n ∈ (ChannelOwner.connector k).number, n < s.nextObject := by
      intro n hn
      obtain rfl := Option.mem_some_iff.mp hn
      refine hs.lt_of_not_unborn fun hunborn => ?_
      rw [hunborn.2.2.2.1] at hclient
      cases hclient
    have hattach := attach (s := s.setState k client .kConnecting) (W := W) hfree hborn sockfd
    exact ((setClient hclient _).trans (hattach.trans (run hok (by simp)))) hs
  · cases hok

section Retry

variable {f : OwnerLoop → Except OwnerHalt OwnerLoop}
  (hf : ∀ {s s' : OwnerLoop}, f s = .ok s' → Calm W s s')

include hf

/-- `retry` closes the socket and may try again at once. -/
lemma retry {sockfd : Fd} (hok : s.retry f k sockfd = .ok s') : Calm W s s' := by
  obtain ⟨client, hclient, hok⟩ := useClient_ok hok
  have hclosed : Calm W s ((s.close sockfd).setState k client .kDisconnected) :=
    (close s sockfd).trans (setClient (s := s.close sockfd) hclient _)
  simp only at hok
  split at hok
  · exact hclosed.trans (hf hok)
  · obtain rfl := Except.ok.inj hok
    exact hclosed

/-- The three outcomes of `connect`. -/
lemma connect {attempt : ConnectAttempt} (hok : s.connect f k attempt = .ok s') : Calm W s s' := by
  obtain ⟨t, hcreate, hok⟩ := bind_eq_ok.mp hok
  have hopened : Calm W s t := createNonblocking hcreate
  split at hok
  · exact hopened.trans (connecting hok)
  · exact hopened.trans (retry hf hok)
  · obtain rfl := Except.ok.inj hok
    exact hopened.trans (close t _)

/-- `startInLoop` up to its call of `connect`. -/
lemma beforeConnect (hok : s.beforeConnect f k = .ok s') : Calm W s s' := by
  obtain ⟨client, hclient, hok⟩ := useClient_ok hok
  split at hok
  · split at hok
    · exact hf hok
    · cases hok
  · cases hok

end Retry

/-- By induction on the attempts. -/
lemma startInLoop {attempts : List ConnectAttempt} (hok : startInLoop k attempts s = .ok s') :
    Calm W s s' := by
  induction attempts generalizing s s' with
  | nil => exact beforeConnect (fun h => by cases h) hok
  | cons attempt rest ih => exact beforeConnect (fun h => connect (fun h => ih h) h) hok

/-- `restart` begins a sequence of attempts. -/
lemma restart {attempts : List ConnectAttempt} (hok : s.restart k attempts = .ok s') :
    Calm W s s' := by
  obtain ⟨client, hclient, hok⟩ := useClient_ok hok
  exact (setClient hclient _).trans (startInLoop hok)

/-- `removeAndResetChannel` removes the channel of its own connector. -/
lemma removeAndResetChannel {sockfd : Fd} (hok : s.removeAndResetChannel k = .ok (sockfd, s'))
    (hW : W (.connector k)) : Calm W s s' := by
  obtain ⟨t, u, hdisable, hremove, rfl⟩ := removeAndResetChannel_ok hok
  exact ((run hdisable (by simp)).trans (run hremove fun _ => hW)).trans (queueInLoop u _)

/-- `resetChannel` destroys a channel that has been removed before. -/
lemma resetChannel (hok : s.resetChannel k = .ok s') : Calm W s s' := by
  obtain ⟨client, -, hok⟩ := useClient_ok hok
  obtain rfl := Except.ok.inj hok
  exact detach s _

/-- `stopInLoop` removes the channel of its own connector, when it has one. -/
lemma stopInLoop {attempts : List ConnectAttempt} (hok : s.stopInLoop k attempts = .ok s')
    (hW : W (.connector k)) : Calm W s s' := by
  obtain ⟨client, hclient, hok⟩ := useClient_ok hok
  split at hok
  · obtain ⟨⟨sockfd, t⟩, hremove, hok⟩ := bind_eq_ok.mp hok
    exact ((setClient hclient _).trans (removeAndResetChannel hremove hW)).trans
      (retry (fun h => startInLoop h) hok)
  · obtain rfl := Except.ok.inj hok
    exact refl s

/-- A client makes the connection of its socket. -/
lemma newClientConnection {client client' : ClientObject} (hclient : s.clients k = some client')
    (hok : s.newClientConnection k client = .ok s') : Calm W s s' := by
  have hclient' : (s.createConnection 1 (.client k)).clients k = some client' := hclient
  exact ((createConnection s 1 (.client k)).trans (setClient hclient' _)).trans
    (connectEstablished hok)

/-- The connector hands its socket over, or closes it. -/
lemma connected {sockfd : Fd} (hok : s.connected k sockfd = .ok s') : Calm W s s' := by
  obtain ⟨client, hclient, hok⟩ := useClient_ok hok
  simp only at hok
  split at hok
  · exact (setClient hclient _).trans (newClientConnection (Function.update_self ..) hok)
  · obtain rfl := Except.ok.inj hok
    exact (setClient hclient _).trans (close _ sockfd)

/-- `handleWrite` of a connector removes its own channel. -/
lemma connectorHandleWrite {result : Connector.CompletionResult}
    (hok : s.connectorHandleWrite k result = .ok s') (hW : W (.connector k)) : Calm W s s' := by
  obtain ⟨client, -, hok⟩ := useClient_ok hok
  split at hok
  · obtain ⟨⟨sockfd, t⟩, hremove, hok⟩ := bind_eq_ok.mp hok
    have hremoved : Calm W s t := removeAndResetChannel hremove hW
    simp only at hok
    split at hok
    · exact hremoved.trans (retry (fun h => startInLoop h) hok)
    · exact hremoved.trans (connected hok)
  · split at hok
    · obtain rfl := Except.ok.inj hok
      exact refl s
    · cases hok

/-- `handleError` of a connector removes its own channel. -/
lemma connectorHandleError {attempts : List ConnectAttempt}
    (hok : s.connectorHandleError k attempts = .ok s') (hW : W (.connector k)) : Calm W s s' := by
  obtain ⟨client, -, hok⟩ := useClient_ok hok
  split at hok
  · obtain ⟨⟨sockfd, t⟩, hremove, hok⟩ := bind_eq_ok.mp hok
    exact (removeAndResetChannel hremove hW).trans (retry (fun h => startInLoop h) hok)
  · obtain rfl := Except.ok.inj hok
    exact refl s

/-- `TcpClient::connect` starts the connector. -/
lemma connectClient {attempts : List ConnectAttempt} (hok : s.connectClient k attempts = .ok s') :
    Calm W s s' := by
  obtain ⟨client, hclient, hok⟩ := useClient_ok hok
  exact (setClient hclient _).trans (startInLoop hok)

/-- `TcpClient::disconnect` removes nothing. -/
lemma disconnect (hok : s.disconnect k = .ok s') : Calm W s s' := by
  obtain ⟨client, hclient, hok⟩ := useClient_ok hok
  simp only at hok
  split at hok
  · obtain rfl := Except.ok.inj hok
    exact setClient hclient _
  · exact (setClient hclient _).trans (shutdown hok)

/-- `TcpClient::stop` queues `stopInLoop`. -/
lemma stop (hok : s.stop k = .ok s') : Calm W s s' := by
  obtain ⟨client, hclient, hok⟩ := useClient_ok hok
  obtain rfl := Except.ok.inj hok
  exact (setClient hclient _).trans (queueInLoop _ _)

/-- `TcpClient::removeConnection` queues `connectDestroyed` and may restart the connector. -/
lemma removeClientConnection {attempts : List ConnectAttempt}
    (hok : s.removeClientConnection k c attempts = .ok s') : Calm W s s' := by
  obtain ⟨client, hclient, hok⟩ := useClient_ok hok
  split at hok
  · have hreset : Calm W s ((s.setClient k { client with connection_ := none }).queueInLoop
        (.connectDestroyed c)) := (setClient hclient _).trans (queueInLoop _ _)
    simp only at hok
    split at hok
    · exact hreset.trans (restart hok)
    · obtain rfl := Except.ok.inj hok
      exact hreset
  · cases hok

/-- `~TcpClient` gives up its connection. -/
lemma releaseConnection {client : ClientObject} (hok : s.releaseConnection client = .ok s') :
    Calm W s s' := by
  unfold OwnerLoop.releaseConnection at hok
  split at hok
  · obtain rfl := Except.ok.inj hok
    exact refl s
  · obtain ⟨conn, hconn, hok⟩ := useConnection_ok hok
    simp only at hok
    split at hok
    · exact (setConnection hconn _).trans (forceClose hok)
    · obtain rfl := Except.ok.inj hok
      exact setConnection hconn _

/-- `~TcpClient` removes nothing at once. -/
lemma destroyClient (hok : s.destroyClient k = .ok s') : Calm W s s' := by
  obtain ⟨client, hclient, hok⟩ := useClient_ok hok
  obtain ⟨t, hrelease, hok⟩ := bind_eq_ok.mp hok
  obtain rfl := Except.ok.inj hok
  refine ((releaseConnection hrelease).trans (detach t (.connector k))).trans
    (of_records rfl rfl rfl rfl ?_ le_rfl rfl rfl rfl rfl)
  rintro n - ⟨hudp, hacceptor, hserver, hnone, hrest⟩ -
  refine ⟨hudp, hacceptor, hserver, ?_, hrest⟩
  simp only [Function.update_apply]
  split
  · rfl
  · exact (congrFun (detach_clients ..) n).symm.trans hnone

/-! ## Acceptor and TcpServer -/

/-- The record of a new acceptor. -/
lemma bornAcceptor (s : OwnerLoop) (acceptor : AcceptorObject) :
    Calm W s { s with
      acceptors := Function.update s.acceptors s.nextObject (some acceptor)
      nextObject := s.nextObject + 1 } := by
  refine of_records rfl rfl rfl rfl ?_ (Nat.le_succ _) rfl rfl rfl rfl
  rintro n - ⟨hudp, hacceptor, hrest⟩ hn
  exact ⟨hudp, (Function.update_of_ne (Nat.ne_of_gt hn) _ _).trans hacceptor, hrest⟩

/-- A new acceptor has a channel that is not registered. -/
lemma createAcceptor {fd : Fd} {server : Option ℕ} (hok : s.createAcceptor fd server = .ok s') :
    Calm W s s' := by
  obtain ⟨t, hcreate, hok⟩ := bind_eq_ok.mp hok
  obtain rfl := Except.ok.inj hok
  refine (createNonblocking hcreate).trans fun ht => ?_
  obtain ⟨-, -, -, -, -, hchannel⟩ := ht.unborn t.nextObject le_rfl
  refine ((bornAcceptor t _).trans (attach ?_ ?_ fd)) ht
  · exact hchannel (.acceptor t.nextObject) rfl
  · intro n hn
    obtain rfl := Option.mem_some_iff.mp hn
    exact Nat.lt_succ_self _

/-- `listen` registers the channel of the acceptor. -/
lemma listen (hok : s.listen a = .ok s') : Calm W s s' := by
  obtain ⟨acceptor, -, hok⟩ := useAcceptor_ok hok
  exact run hok (by simp)

/-- `~Acceptor` removes the channel of its own acceptor. -/
lemma destroyAcceptor (hok : s.destroyAcceptor a = .ok s') (hW : W (.acceptor a)) :
    Calm W s s' := by
  obtain ⟨acceptor, -, hok⟩ := useAcceptor_ok hok
  obtain ⟨t, hdisable, hok⟩ := bind_eq_ok.mp hok
  obtain ⟨u, hremove, hok⟩ := bind_eq_ok.mp hok
  obtain rfl := Except.ok.inj hok
  have hremoved : Calm W s u := (run hdisable (by simp)).trans (run hremove fun _ => hW)
  refine (hremoved.trans ((detach u (.acceptor a)).trans (close _ acceptor.acceptSocket_))).trans
    (of_records rfl rfl rfl rfl ?_ le_rfl rfl rfl rfl rfl)
  rintro n - ⟨hudp, hacceptor, hrest⟩ -
  refine ⟨hudp, ?_, hrest⟩
  simp only [Function.update_apply]
  split
  · rfl
  · exact hacceptor

/-- A new server has a new acceptor. -/
lemma createServer {fd : Fd} (hok : s.createServer fd = .ok s') : Calm W s s' := by
  obtain ⟨t, hcreate, hok⟩ := bind_eq_ok.mp hok
  obtain rfl := Except.ok.inj hok
  refine (createAcceptor hcreate).trans (of_records rfl rfl rfl rfl ?_ (Nat.le_succ _) rfl rfl rfl
    rfl)
  rintro n - ⟨hudp, hacceptor, hserver, hrest⟩ hn
  exact ⟨hudp, hacceptor, (Function.update_of_ne (Nat.ne_of_gt hn) _ _).trans hserver, hrest⟩

/-- `TcpServer::start` queues `listen`. -/
lemma startServer (hok : s.startServer v = .ok s') : Calm W s s' := by
  obtain ⟨server, hserver, hok⟩ := useServer_ok hok
  simp only at hok
  split at hok
  · exact (setServer hserver _).trans (listen hok)
  · obtain rfl := Except.ok.inj hok
    exact setServer hserver _

/-- A server makes the connection of an accepted socket. -/
lemma newServerConnection {sockfd : Fd} (hok : s.newServerConnection v sockfd = .ok s') :
    Calm W s s' := by
  obtain ⟨server, hserver, hok⟩ := useServer_ok hok
  have hserver' : (s.createConnection sockfd (.server v)).servers v = some server := hserver
  exact ((createConnection s sockfd (.server v)).trans (setServer hserver' _)).trans
    (connectEstablished hok)

/-- `handleRead` of an acceptor makes a connection, or nothing. -/
lemma acceptorHandleRead {accepted : Option Fd} (hok : s.acceptorHandleRead a accepted = .ok s') :
    Calm W s s' := by
  obtain ⟨acceptor, -, hok⟩ := useAcceptor_ok hok
  split at hok
  · obtain rfl := Except.ok.inj hok
    exact refl s
  · obtain ⟨t, hopen, hok⟩ := bind_eq_ok.mp hok
    split at hok
    · obtain rfl := Except.ok.inj hok
      exact (openFd hopen).trans (callUser t none)
    · exact (openFd hopen).trans (newServerConnection hok)

/-- `TcpServer::removeConnection` queues `connectDestroyed`. -/
lemma removeServerConnection (hok : s.removeServerConnection v c = .ok s') : Calm W s s' := by
  obtain ⟨server, hserver, hok⟩ := useServer_ok hok
  obtain rfl := Except.ok.inj hok
  exact (setServer hserver _).trans (queueInLoop _ _)

/-- `~TcpServer` up to its loop condemns the acceptor and the connections, in whatever order they
are gone through. -/
lemma destroyServer {order : List ℕ} (hok : s.destroyServer v order = .ok s')
    (hW : ∀ server, s.servers v = some server → W (.acceptor server.acceptor_) ∧
      ∀ c ∈ server.connections_, W (.connection c)) : Calm W s s' := by
  obtain ⟨server, hserver, horder, rfl⟩ := destroyServer_ok hok
  obtain ⟨hacceptor, hconnections⟩ := hW server hserver
  have hgone : Calm W s { s with servers := Function.update s.servers v none } := by
    refine of_records rfl rfl rfl rfl ?_ le_rfl rfl rfl rfl rfl
    rintro n - ⟨hudp, hnone, hserver, hrest⟩ -
    refine ⟨hudp, hnone, ?_, hrest⟩
    simp only [Function.update_apply]
    split
    · rfl
    · exact hserver
  refine hgone.trans (push _ rfl fun w hw => ?_)
  rcases List.mem_cons.mp hw with rfl | hw
  · exact hacceptor
  · obtain ⟨c, hc, rfl⟩ := List.mem_map.mp hw
    exact hconnections c (horder.mem_iff.mp hc)

/-! ## UdpSocket -/

/-- A new UDP channel is registered at once. -/
lemma startUdp {u : ℕ} {fd : Fd} (hok : s.startUdp u fd = .ok s') : Calm W s s' := by
  intro hs
  unfold OwnerLoop.startUdp at hok
  split at hok
  · rename_i hudp
    obtain ⟨t, hsocket, hok⟩ := bind_eq_ok.mp hok
    have hopened : Calm W s t ∧ t.udpSockets = s.udpSockets := by
      split at hsocket
      · obtain rfl := Except.ok.inj hsocket
        exact ⟨refl s, rfl⟩
      · refine ⟨openFd hsocket, ?_⟩
        unfold OwnerLoop.openFd at hsocket
        split at hsocket
        · cases hsocket
        · obtain rfl := Except.ok.inj hsocket
          rfl
    obtain ⟨hcalm, hsame⟩ := hopened
    have hdetached : Calm W s (t.detach (.udpSocket u)) := hcalm.trans (detach t _)
    have hudp' : (t.detach (.udpSocket u)).udpSockets u = true := by
      have hkept : (t.detach (.udpSocket u)).udpSockets = t.udpSockets := by
        unfold OwnerLoop.detach
        split <;> rfl
      rw [hkept, hsame]
      exact hudp
    refine (hdetached.trans ((attach ?_ ?_ fd).trans (run hok (by simp)))) hs
    · unfold OwnerLoop.detach
      split
      · assumption
      · exact Function.update_self ..
    · intro n hn
      obtain rfl := Option.mem_some_iff.mp hn
      refine (hdetached hs).shape.lt_of_not_unborn fun hunborn => ?_
      rw [hunborn.1] at hudp'
      cases hudp'
  · cases hok

/-- A UDP channel is destroyed after it has been removed. -/
lemma destroyUdp {u : ℕ} (hok : s.destroyUdp u = .ok s') : Calm W s s' := by
  unfold OwnerLoop.destroyUdp at hok
  split at hok
  · split at hok
    · cases hok
    · rename_i channel _
      obtain rfl := Except.ok.inj hok
      have hclosed : Calm W s (if 0 < channel.fd_ then s.close channel.fd_ else s) := by
        split
        · exact close s _
        · exact refl s
      refine (hclosed.trans (detach _ (.udpSocket u))).trans
        (of_records rfl rfl rfl rfl ?_ le_rfl rfl rfl rfl rfl)
      rintro n - ⟨hudp, hrest⟩ -
      refine ⟨?_, hrest⟩
      simp only [Function.update_apply]
      split
      · rfl
      · exact hudp
  · cases hok

end Calm

/-! ## The calls of user code and of the loop -/

/-- The owners whose channels are removed when user code calls this. -/
def condemns (s : OwnerLoop) : UserCall → List ChannelOwner
  | .destroyAcceptor a => [.acceptor a]
  | .destroyServer v _ => (s.servers v).elim [] fun server =>
      .acceptor server.acceptor_ :: server.connections_.map .connection
  | _ => []

/-- User code calls only connections that it can reach. -/
lemma callConnection_ok {r : Except OwnerHalt OwnerLoop} (hok : s.callConnection c r = .ok s') :
    s.Reaches c ∧ r = .ok s' := by
  unfold callConnection at hok
  split at hok
  · rename_i hreaches
    exact ⟨hreaches, hok⟩
  · cases hok

/-- User code calls only acceptors that exist. -/
lemma callAcceptor_ok {r : Except OwnerHalt OwnerLoop} (hok : s.callAcceptor a r = .ok s') :
    r = .ok s' := by
  obtain ⟨acceptor, -, hok⟩ := useAcceptor_ok hok
  split at hok
  · exact hok
  · cases hok

namespace Calm

/-- Everything that user code calls. -/
theorem callApi {u : UserCall} (hok : s.callApi u = .ok s') : Calm (· ∈ s.condemns u) s s' := by
  cases u with
  | createUdp =>
    obtain rfl := Except.ok.inj hok
    refine of_records rfl rfl rfl rfl ?_ (Nat.le_succ _) rfl rfl rfl rfl
    rintro n - ⟨hudp, hrest⟩ hn
    exact ⟨(Function.update_of_ne (Nat.ne_of_gt hn) _ _).trans hudp, hrest⟩
  | startUdp u fd => exact startUdp hok
  | destroyUdp u => exact destroyUdp hok
  | createAcceptor fd => exact createAcceptor hok
  | listen a => exact listen (callAcceptor_ok hok)
  | destroyAcceptor a => exact destroyAcceptor (callAcceptor_ok hok) List.mem_cons_self
  | createServer fd => exact createServer hok
  | startServer v => exact startServer hok
  | destroyServer v order =>
    refine destroyServer hok fun server hserver => ?_
    simp only [condemns, hserver, Option.elim_some]
    refine ⟨List.mem_cons_self, fun c hc => List.mem_cons_of_mem _ ?_⟩
    exact List.mem_map.mpr ⟨c, hc, rfl⟩
  | createClient =>
    obtain rfl := Except.ok.inj hok
    refine of_records rfl rfl rfl rfl ?_ (Nat.le_succ _) rfl rfl rfl rfl
    rintro n - ⟨hudp, hacceptor, hserver, hclient, hrest⟩ hn
    refine ⟨hudp, hacceptor, hserver, ?_, hrest⟩
    exact (Function.update_of_ne (Nat.ne_of_gt hn) _ _).trans hclient
  | enableRetry k =>
    obtain ⟨client, hclient, hok⟩ := useClient_ok hok
    obtain rfl := Except.ok.inj hok
    exact setClient hclient _
  | connect k attempts => exact connectClient hok
  | disconnect k => exact disconnect hok
  | stop k => exact stop hok
  | destroyClient k => exact destroyClient hok
  | shutdown c => exact shutdown (callConnection_ok hok).2
  | forceClose c => exact forceClose (callConnection_ok hok).2
  | send c leftOver queued => exact send (callConnection_ok hok).2
  | hold c =>
    obtain rfl := Except.ok.inj (callConnection_ok hok).2
    exact of_records rfl rfl rfl rfl (fun _ _ hn _ => hn) le_rfl rfl rfl rfl rfl
  | drop c =>
    change (if c ∈ s.userRefs then _ else _) = _ at hok
    split at hok
    · obtain rfl := Except.ok.inj hok
      exact of_records rfl rfl rfl rfl (fun _ _ hn _ => hn) le_rfl rfl rfl rfl rfl
    · cases hok
  | queueInLoop =>
    obtain rfl := Except.ok.inj hok
    exact queueInLoop s _

/-- `handleRead` of a connection, which may close it. -/
lemma handleRead {read : ReadOutcome} (hok : s.handleRead c read = .ok s') : Calm W s s' := by
  cases read with
  | data =>
    obtain ⟨conn, -, hok⟩ := useConnection_ok hok
    obtain rfl := Except.ok.inj hok
    exact callUser s _
  | endOfFile => exact handleClose hok
  | error => cases hok

/-- The callbacks of a channel; only those of a connector remove it. -/
theorem callCallback {answers : CallbackAnswers} {w : ChannelOwner} {callback : ChannelCallback}
    (hok : s.callCallback answers w callback = .ok s') : Calm (· = w) s s' := by
  unfold OwnerLoop.callCallback at hok
  split at hok
  · obtain rfl := Except.ok.inj hok
    exact callUser s none
  · exact acceptorHandleRead hok
  · exact connectorHandleError hok rfl
  · exact connectorHandleWrite hok rfl
  · exact handleClose hok
  · cases hok
  · exact handleRead hok
  · exact handleWrite hok
  · obtain rfl := Except.ok.inj hok
    exact refl s

/-- `closeCallback_` of a connection, of the server or of the client. -/
lemma callClose {attempts : List ConnectAttempt} (hok : s.callClose c attempts = .ok s') :
    Calm W s s' := by
  obtain ⟨conn, -, hok⟩ := useConnection_ok hok
  split at hok
  · exact removeServerConnection hok
  · exact removeClientConnection hok
  · obtain rfl := Except.ok.inj hok
    exact queueInLoop s _

/-- A member function goes on; `handleEvent` is the one that may leave a channel to be handled. -/
theorem resumeFrame {attempts : List ConnectAttempt} {f : OwnerFrame}
    (hok : s.resumeFrame attempts f = .ok s') (hf : ∀ p, f ≠ .handleEvent p) :
    Calm (· ∈ f.condemned) s s' := by
  unfold OwnerLoop.resumeFrame at hok
  split at hok
  · cases hok
  · rename_i p
    exact absurd rfl (hf p)
  · obtain rfl := Except.ok.inj hok
    exact refl s
  · cases hok
  · exact callClose hok
  · obtain ⟨conn, -, hok⟩ := useConnection_ok hok
    exact run hok fun _ => List.mem_singleton_self _
  · exact destroyAcceptor hok List.mem_cons_self
  · rename_i a c rest
    refine (push s rfl fun w hw => ?_).trans (connectDestroyed hok ?_)
    · rcases List.mem_cons.mp hw with rfl | hw
      · exact List.mem_cons_self
      · exact List.mem_cons_of_mem _ (List.mem_cons_of_mem _ hw)
    · exact List.mem_cons_of_mem _ List.mem_cons_self

/-- The functors. -/
theorem callFunctor {attempts : List ConnectAttempt} {f : OwnerFunctor}
    (hok : s.callFunctor attempts f = .ok s') : Calm (fun _ => True) s s' := by
  cases f with
  | user =>
    obtain rfl := Except.ok.inj hok
    exact callUser s none
  | callback c =>
    obtain ⟨conn, -, hok⟩ := useConnection_ok hok
    obtain rfl := Except.ok.inj hok
    exact callUser s _
  | connectDestroyed c => exact connectDestroyed hok trivial
  | forceCloseInLoop c => exact forceCloseInLoop hok
  | stopInLoop k => exact stopInLoop hok trivial
  | resetChannel k => exact resetChannel hok

end Calm

end OwnerLoop

end SimpleMuduo
