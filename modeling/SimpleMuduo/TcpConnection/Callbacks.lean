import SimpleMuduo.TcpConnection.Steps

/-!
# The callbacks of the user

`TcpServer` and `TcpClient` start with empty callbacks and copy into every connection what the user
has set by then.  The connection tests `writeCompleteCallback_` before it queues it; it calls
`connectionCallback_` and `messageCallback_` without a test, and the default callbacks that
`Callbacks.h` declares are installed nowhere.  `emptyFunction_never_called_iff` says in which runs
this goes well.
-/

namespace SimpleMuduo

/-! ## The owners of connections -/

/-- The class of the object that has created the connection. -/
inductive Owner
  | tcpServer
  | tcpClient
  deriving DecidableEq, Repr

/-- The callback members of a `TcpServer` or a `TcpClient`: whether they hold a function. -/
structure UserCallbacks where
  connectionCallback_ : Bool
  messageCallback_ : Bool
  writeCompleteCallback_ : Bool
  deriving DecidableEq, Repr

namespace UserCallbacks

/-- The members after the constructor, `TcpServer::TcpServer` or `TcpClient::TcpClient`. -/
def constructed : UserCallbacks := ⟨false, false, false⟩

/-- `setConnectionCallback(const ConnectionCallback& cb)`. -/
def setConnectionCallback (user : UserCallbacks) (cb : Bool) : UserCallbacks :=
  { user with connectionCallback_ := cb }

end UserCallbacks

/-- The lines of `newConnection`, of the server or of the client, that copy the callbacks. -/
def Config.setCallbacks (cfg : Config) (user : UserCallbacks) : Config :=
  { cfg with
    connectionCallback := user.connectionCallback_
    messageCallback := user.messageCallback_
    writeCompleteCallback := user.writeCompleteCallback_ }

/-- A connection together with the class of its owner.  In the connection of a client,
`inConnections` says that `connection_` holds it, and `serverAlive` that the object to which
`closeCallback_` is bound exists; both functions to which it is bound queue `connectDestroyed`. -/
structure OwnedConnection where
  owner : Owner
  connection : World
  /-- The `TcpClient` has not been destroyed. -/
  clientAlive : Bool
  /-- The functor that replaces `closeCallback_` is in the queue of the loop. -/
  closeCallbackQueued : Bool

/-- The steps of a connection and of its owner. -/
inductive OwnerEvent
  /-- A step of the connection, which includes `~TcpServer()`. -/
  | connection (e : Event)
  /-- `~TcpClient()`; `unique` is what `connection_.unique()` says.  On another thread, the load,
  the store and the push of `forceClose` are steps of that thread. -/
  | destroyClient (onLoopThread unique : Bool)
  /-- The loop runs the functor that calls `setCloseCallback`. -/
  | setCloseCallback

namespace OwnedConnection

/-- The connection after `connectEstablished`, for an owner with these callbacks. -/
def established (owner : Owner) (user : UserCallbacks) (cfg : Config) : OwnedConnection where
  owner := owner
  connection :=
    match owner with
    | .tcpServer => (cfg.setCallbacks user).established
    | .tcpClient => { cfg.setCallbacks user with singleLoop := true }.established
  clientAlive := true
  closeCallbackQueued := false

/-- `~TcpClient()`, as far as the connection is concerned. -/
def destroyClient (c : OwnedConnection) (onLoopThread unique : Bool) : OwnedConnection :=
  let c := { c with clientAlive := false }
  if c.connection.inConnections then
    if onLoopThread then
      -- `runInLoop` replaces `closeCallback_` at once
      { c with connection := if unique then c.connection.loopForceClose else c.connection }
    else
      { c with
        connection := { c.connection with serverAlive := false }
        closeCallbackQueued := true }
  else c

/-- Only a server is destroyed by `~TcpServer()`. -/
def permits (c : OwnedConnection) : Event → Bool
  | .destroyServer => c.owner = .tcpServer
  | _ => true

/-- One step of the system. -/
def step (c : OwnedConnection) : OwnerEvent → Option OwnedConnection
  | .connection e =>
    if c.permits e then (c.connection.step e).map fun w => { c with connection := w } else none
  | .destroyClient onLoopThread unique =>
    if c.owner = .tcpClient ∧ c.clientAlive ∧ c.connection.fault = none then
      some (c.destroyClient onLoopThread unique)
    else none
  | .setCloseCallback =>
    if c.closeCallbackQueued ∧ c.connection.fault = none then
      some { c with
        connection := { c.connection with serverAlive := true }
        closeCallbackQueued := false }
    else none

end OwnedConnection

/-! ## Which steps call an empty function -/

namespace World

/-- The callbacks that have been copied into the connection. -/
def callbacks (w : World) : UserCallbacks :=
  ⟨w.connectionCallback_, w.messageCallback_, w.writeCompleteCallback_⟩

/-- The step is a `handleRead` that has read bytes. -/
def DeliversMessage (w : World) : Event → Prop
  | .runCall k => w.todo.head? = some .handleRead ∧ ∃ bytes, k.readv = .ok bytes ∧ bytes ≠ []
  | _ => False

/-- No empty `std::function` has been called. -/
def NoEmptyCall (w : World) : Prop := w.fault ≠ some .badFunctionCall

section Callbacks

variable {w w' : World} {k : Kernel}

/-- The callbacks of a connection are never replaced. -/
theorem callbacks_of_step {e : Event} (h : Step w e w') : w'.callbacks = w.callbacks :=
  congrArg (fun s : Settings =>
    UserCallbacks.mk s.connectionCallback_ s.messageCallback_ s.writeCompleteCallback_)
    (settings_of_step h)

lemma noEmptyCall_shutdownInLoop (hfault : w.fault = none) (k : Kernel) :
    (w.shutdownInLoop k).NoEmptyCall := by
  unfold shutdownInLoop NoEmptyCall
  split_ifs with hwriting
  · simp [hfault]
  · by_cases hshutdown : k.shutdown = none <;> simp [hshutdown, hfault]

lemma SendInLoop.noEmptyCall {call : ℕ} {data : StdString} (h : SendInLoop w call data k w')
    (hfault : w.fault = none) : w'.NoEmptyCall := by
  cases h <;> simp [NoEmptyCall, hfault]

lemma HandleWrite.noEmptyCall (h : HandleWrite w k w') (hfault : w.fault = none) :
    w'.NoEmptyCall := by
  cases h with
  | notWriting | stuck | partly => simp [NoEmptyCall, hfault]
  | drain => simp [NoEmptyCall, drained, hfault]
  | drainShutdown =>
    by_cases hshutdown : k.shutdown = none <;> simp [NoEmptyCall, drained, hshutdown, hfault]

lemma noEmptyCall_handleClose (hfault : w.fault = none) (hset : w.connectionCallback_ = true) :
    w.handleClose.NoEmptyCall := by
  have hkept : w.handleClose.fault = if w.connectionCallback_ then w.fault
      else some .badFunctionCall := rfl
  simp [NoEmptyCall, hkept, hset, hfault]

lemma noEmptyCall_connectDestroyed (hfault : w.fault = none)
    (hset : w.connectionCallback_ = true) : w.connectDestroyed.NoEmptyCall := by
  by_cases hstate : w.state_ = .kConnected
  · rw [connectDestroyed_of_connected hstate]
    simp [NoEmptyCall, hset, hfault]
  · rw [connectDestroyed_of_ne hstate]
    simp [NoEmptyCall, removeChannel, hfault]

/-- When the connection callback is set, a step calls an empty function exactly when it delivers
a message and the message callback is not set. -/
theorem noEmptyCall_after_step_iff {e : Event} (h : Step w e w') (hfault : w.fault = none)
    (hset : w.connectionCallback_ = true) :
    w'.NoEmptyCall ↔ (w.messageCallback_ = true ∨ ¬ w.DeliversMessage e) := by
  cases h with
  | refused refuses =>
    refine iff_of_true (by simp [NoEmptyCall, hfault]) (.inr fun hdelivers => ?_)
    cases e <;> first | exact refuses | exact hdelivers
  | sendLoad | sendPush | shutdownLoad | shutdownStore | shutdownPush | forceCloseLoad
  | forceCloseStore | forceClosePush | assign | loopForceClose | poll | handleEvent | swap
  | removeConnectionInLoop =>
    exact iff_of_true
      (by simp [NoEmptyCall, hfault, beginSend, handleEvent, removeConnectionInLoop])
      (.inr not_false)
  | removeConnectionFault => exact iff_of_true (by simp [NoEmptyCall]) (.inr not_false)
  | loopSend connected branch =>
    exact iff_of_true (branch.noEmptyCall hfault) (.inr not_false)
  | loopSendFault connected branch =>
    exact iff_of_true (branch.noEmptyCall hfault) (.inr not_false)
  | loopShutdown =>
    have hstored : ((w.log .shutdownCalled).setState .kDisconnecting).fault = none := hfault
    exact iff_of_true (noEmptyCall_shutdownInLoop hstored _) (.inr not_false)
  | destroyServer =>
    refine iff_of_true ?_ (.inr not_false)
    simp only [destroyServer]
    split_ifs <;> simp [NoEmptyCall, hfault]
  | @runCall c rest k _ todo branch =>
    have hdelivers : w.DeliversMessage (.runCall k) ↔
        c = .handleRead ∧ ∃ bytes, k.readv = .ok bytes ∧ bytes ≠ [] := by
      simp [DeliversMessage, todo]
    rw [hdelivers]
    cases branch with
    | handleClose => exact iff_of_true (noEmptyCall_handleClose hfault hset) (.inr (by simp))
    | handleError => exact iff_of_true (by simp [NoEmptyCall]) (.inr (by simp))
    | handleRead branch =>
      cases branch with
      | failed errno result => exact iff_of_true (by simp [NoEmptyCall]) (.inr (by simp [result]))
      | message inputBuffer result =>
        cases hmessage : w.messageCallback_ with
        | true => exact iff_of_true (by simp [NoEmptyCall, hmessage, hfault]) (.inl rfl)
        | false => exact iff_of_false (by simp [NoEmptyCall, hmessage]) (by simp [result])
      | closed inputBuffer result =>
        exact iff_of_true (noEmptyCall_handleClose hfault hset) (.inr (by simp [result]))
    | handleWrite branch => exact iff_of_true (branch.noEmptyCall hfault) (.inr (by simp))
    | closeCallback =>
      refine iff_of_true ?_ (.inr (by simp))
      simp only [closeCallback]
      split_ifs <;> simp [NoEmptyCall, removeConnectionInLoop, hfault]
    | connectDestroyed =>
      exact iff_of_true (noEmptyCall_connectDestroyed hfault hset) (.inr (by simp))
    | removeChannel =>
      exact iff_of_true (by simp [NoEmptyCall, removeChannel, hfault]) (.inr (by simp))
  | @runFunctor f rest k _ todo functors branch =>
    refine iff_of_true ?_ (.inr not_false)
    cases branch with
    | sendInLoop branch => exact branch.noEmptyCall hfault
    | shutdownInLoop =>
      have hkept : (w.setFunctors rest).fault = none := hfault
      exact noEmptyCall_shutdownInLoop hkept k
    | forceCloseInLoop =>
      unfold forceCloseInLoop
      split_ifs
      · exact noEmptyCall_handleClose hfault hset
      · simp [NoEmptyCall, hfault]
    | connectDestroyed => exact noEmptyCall_connectDestroyed hfault hset
    | userCallback => simp [NoEmptyCall, hfault]

end Callbacks

end World

/-! ## Every run of a connection and its owner -/

namespace OwnedConnection

/-- No empty `std::function` has been called. -/
def NoEmptyCall (c : OwnedConnection) : Prop := c.connection.NoEmptyCall

/-- The step is a `handleRead` that has read bytes. -/
def DeliversMessage (c : OwnedConnection) : OwnerEvent → Prop
  | .connection e => c.connection.DeliversMessage e
  | _ => False

/-- Nothing empty has been called yet, and the callbacks are those of the user. -/
structure Ready (user : UserCallbacks) (c : OwnedConnection) : Prop where
  callbacks : c.connection.callbacks = user
  noEmptyCall : c.NoEmptyCall

variable {user : UserCallbacks} {c c' : OwnedConnection}

/-- The destruction of the client changes neither the callbacks nor calls one. -/
lemma Ready.destroyClient (h : Ready user c) (onLoopThread unique : Bool) :
    Ready user (c.destroyClient onLoopThread unique) := by
  have hforce : c.connection.loopForceClose.callbacks = c.connection.callbacks ∧
      c.connection.loopForceClose.fault = c.connection.fault := by
    unfold World.loopForceClose
    split_ifs <;> exact ⟨rfl, rfl⟩
  simp only [OwnedConnection.destroyClient]
  split_ifs
  · exact ⟨hforce.1.trans h.callbacks, fun hempty => h.noEmptyCall (hforce.2.symm.trans hempty)⟩
  all_goals exact ⟨h.callbacks, h.noEmptyCall⟩

/-- A step from a state in which nothing empty has been called. -/
lemma noEmptyCall_iff_of_step {e : OwnerEvent} (h : Ready user c)
    (hset : user.connectionCallback_ = true) (hstep : c.step e = some c') :
    c'.connection.callbacks = user ∧
      (c'.NoEmptyCall ↔ (user.messageCallback_ = true ∨ ¬ c.DeliversMessage e)) := by
  have hmessage : c.connection.messageCallback_ = user.messageCallback_ :=
    congrArg UserCallbacks.messageCallback_ h.callbacks
  have hconnection : c.connection.connectionCallback_ = true := by
    rw [← hset]
    exact congrArg UserCallbacks.connectionCallback_ h.callbacks
  cases e with
  | connection e =>
    simp only [step, Option.ite_none_right_eq_some, Option.map_eq_some_iff] at hstep
    obtain ⟨-, w, hw, rfl⟩ := hstep
    obtain ⟨hfault, hbranch⟩ := World.step_eq_some hw
    refine ⟨(World.callbacks_of_step hbranch).trans h.callbacks, ?_⟩
    rw [← hmessage]
    exact World.noEmptyCall_after_step_iff hbranch hfault hconnection
  | destroyClient onLoopThread unique =>
    simp only [step, Option.ite_none_right_eq_some, Option.some.injEq] at hstep
    obtain ⟨-, rfl⟩ := hstep
    have hready := h.destroyClient onLoopThread unique
    exact ⟨hready.callbacks, iff_of_true hready.noEmptyCall (.inr not_false)⟩
  | setCloseCallback =>
    simp only [step, Option.ite_none_right_eq_some, Option.some.injEq] at hstep
    obtain ⟨-, rfl⟩ := hstep
    exact ⟨h.callbacks, iff_of_true h.noEmptyCall (.inr not_false)⟩

lemma established_callbacks (owner : Owner) (user : UserCallbacks) (cfg : Config) :
    (established owner user cfg).connection.callbacks = user := by
  cases owner <;> rfl

/-- `connectEstablished` calls the connection callback. -/
lemma noEmptyCall_established (owner : Owner) (user : UserCallbacks) (cfg : Config) :
    (established owner user cfg).NoEmptyCall ↔ user.connectionCallback_ = true := by
  have hfault : (established owner user cfg).connection.fault =
      if user.connectionCallback_ then none else some .badFunctionCall := by
    cases owner <;> rfl
  rw [NoEmptyCall, World.NoEmptyCall, hfault]
  cases user.connectionCallback_ <;> simp

end OwnedConnection

/-- For every owner, every choice of callbacks and every run of the connection: no empty function is
called if and only if the connection callback is set, and the message callback is set or no step
reads bytes. -/
theorem emptyFunction_never_called_iff (owner : Owner) (user : UserCallbacks) (cfg : Config)
    (es : List OwnerEvent) :
    Always OwnedConnection.step OwnedConnection.NoEmptyCall
        (OwnedConnection.established owner user cfg) es ↔
      user.connectionCallback_ = true ∧
        Meets OwnedConnection.step
          (fun c e => user.messageCallback_ = true ∨ ¬ c.DeliversMessage e)
          (OwnedConnection.established owner user cfg) es := by
  by_cases hset : user.connectionCallback_ = true
  · have hready : OwnedConnection.Ready user (OwnedConnection.established owner user cfg) :=
      ⟨OwnedConnection.established_callbacks owner user cfg,
        (OwnedConnection.noEmptyCall_established owner user cfg).mpr hset⟩
    refine (always_iff_meets (fun c e c' hI hok hstep => ?_) (fun c hI => hI.noEmptyCall)
      (fun c e c' hI hnot hstep => ?_) hready).trans (and_iff_right hset).symm
    · obtain ⟨hcallbacks, hiff⟩ := OwnedConnection.noEmptyCall_iff_of_step hI hset hstep
      exact ⟨hcallbacks, hiff.mpr hok⟩
    · exact fun hempty =>
        hnot ((OwnedConnection.noEmptyCall_iff_of_step hI hset hstep).2.mp hempty)
  · refine iff_of_false (fun halways => hset ?_) fun h => hset h.1
    refine (OwnedConnection.noEmptyCall_established owner user cfg).mp ?_
    cases es with
    | nil => exact halways
    | cons => exact halways.1

/-- A server whose user has set only the connection callback is sent one byte. -/
theorem emptyFunction_called_on_message :
    ¬ ∀ (owner : Owner) (user : UserCallbacks) (cfg : Config) (es : List OwnerEvent),
      Always OwnedConnection.step OwnedConnection.NoEmptyCall
        (OwnedConnection.established owner user cfg) es := by
  intro h
  let user := UserCallbacks.constructed.setConnectionCallback true
  let start := OwnedConnection.established .tcpServer user Config.single
  have hrun : ∃ c, exec OwnedConnection.step start
      [.connection (.poll EPOLLIN), .connection .handleEvent,
        .connection (.runCall (Kernel.ready [1]))] = some c ∧
      c.connection.fault = some .badFunctionCall :=
    exists_exec_of_any (by decide +kernel)
  obtain ⟨c, hrun, hempty⟩ := hrun
  exact (h .tcpServer user Config.single _).of_exec hrun hempty

end SimpleMuduo
