import SimpleMuduo.TcpConnection.Callbacks

/-!
# Errors that end the process

`LOG_ERROR` calls `abort()`, and the handlers use it for what a peer can bring about.  So an error
of one connection ends the process with all its other connections; the `faultError` branch of
`sendInLoop`, which means to survive `EPIPE` and `ECONNRESET`, is never reached.  A `::write` that
fails with `EPIPE` also raises `SIGPIPE`.  Nothing in the library ignores this signal, but the
program that uses the library may: `ignoresSigpipe` says whether it does.

`fault_after_step_iff` says for every step when it returns normally, as far as the connection is
concerned, and `errors_confined_iff` which runs go on serving.
-/

namespace SimpleMuduo

/-- The functor is a deferred `sendInLoop`. -/
def Functor.isSendInLoop : Functor → Bool
  | .sendInLoop _ _ _ => true
  | _ => false

namespace World

/-- `sendInLoop` calls `::write`, which fails with an error other than `EWOULDBLOCK`. -/
def WriteFails (w : World) (k : Kernel) : Prop :=
  w.Idle ∧ ∃ errno, k.write = .error errno ∧ errno ≠ EWOULDBLOCK

/-- `shutdownInLoop` calls `::shutdown`, which fails. -/
def ShutdownFails (w : World) (k : Kernel) : Prop :=
  w.channel_.isWriting = false ∧ k.shutdown ≠ none

/-- The step reports an error of the connection through `LOG_ERROR`: a failing direct `::write`, a
failing `readv`, an `EPOLLERR`, or a failing `::shutdown`. -/
def Aborts (w : World) : Event → Prop
  | .loopSend _ k => w.state_ = .kConnected ∧ w.WriteFails k
  | .loopShutdown k => w.state_ = .kConnected ∧ w.ShutdownFails k
  | .runCall k => match w.todo.head? with
    | some .handleError => True
    | some .handleRead => ∃ errno, k.readv = .error errno
    | some .handleWrite =>
      w.channel_.isWriting = true ∧ w.Drains k ∧ w.state_ = .kDisconnecting ∧ k.shutdown ≠ none
    | _ => False
  | .runFunctor k => match w.functors.head? with
    | some (.sendInLoop _ _ _) => w.WriteFails k
    | some .shutdownInLoop => w.ShutdownFails k
    | _ => False
  | _ => False

/-- The step calls `::write` on a socket whose peer is gone. -/
def RaisesSigpipe (w : World) : Event → Prop
  | .loopSend _ k => w.state_ = .kConnected ∧ w.Idle ∧ k.write = .error EPIPE
  | .runCall k =>
    w.todo.head? = some .handleWrite ∧ w.channel_.isWriting = true ∧ k.write = .error EPIPE
  | .runFunctor k =>
    w.functors.head?.any Functor.isSendInLoop = true ∧ w.Idle ∧ k.write = .error EPIPE
  | _ => False

instance (w : World) (e : Event) : Decidable (w.RaisesSigpipe e) :=
  match e with
  | .loopSend _ k =>
    inferInstanceAs (Decidable (w.state_ = .kConnected ∧ w.Idle ∧ k.write = .error EPIPE))
  | .runCall k =>
    inferInstanceAs (Decidable (w.todo.head? = some .handleWrite ∧ w.channel_.isWriting = true ∧
      k.write = .error EPIPE))
  | .runFunctor k =>
    inferInstanceAs (Decidable (w.functors.head?.any Functor.isSendInLoop = true ∧ w.Idle ∧
      k.write = .error EPIPE))
  | .sendLoad _ _ | .sendPush _ | .shutdownLoad _ | .shutdownStore _ | .shutdownPush _
  | .forceCloseLoad _ | .forceCloseStore _ | .forceClosePush _ | .assign _ _ _ | .loopShutdown _
  | .loopForceClose | .destroyServer | .poll _ | .handleEvent | .swap | .removeConnectionInLoop =>
    isFalse not_false

/-- The step calls `TcpServer::removeConnection` or `removeConnectionInLoop` of a server that has
been destroyed. -/
def UsesDestroyedServer (w : World) : Event → Prop
  | .runCall _ => w.todo.head? = some .closeCallback ∧ w.serverAlive ≠ true
  | .removeConnectionInLoop => w.serverAlive ≠ true
  | _ => False

/-- The step does nothing from which it would not return to the event loop. -/
structure ReturnsNormally (ignoresSigpipe : Bool) (w : World) (e : Event) : Prop where
  /-- No error is reported through `LOG_ERROR`. -/
  reports : ¬ w.Aborts e
  /-- No `SIGPIPE` ends the process. -/
  sigpipe : ignoresSigpipe = true ∨ ¬ w.RaisesSigpipe e
  /-- No message is delivered to a callback that is not set. -/
  message : w.messageCallback_ = true ∨ ¬ w.DeliversMessage e
  /-- No destroyed server is used. -/
  server : ¬ w.UsesDestroyedServer e

section Abort

variable {w w' : World} {k : Kernel}

/-- `sendInLoop` aborts exactly when `::write` fails. -/
lemma SendInLoop.abort_iff {call : ℕ} {data : StdString} (h : SendInLoop w call data k w')
    (hfault : w.fault = none) : w'.fault = some .abort ↔ w.WriteFails k := by
  cases h with
  | fatal errno idle result hard => exact iff_of_true rfl ⟨idle, errno, result, hard⟩
  | whole idle result =>
    refine iff_of_false (by simp [hfault]) ?_
    rintro ⟨-, errno, hwrite, -⟩
    simp [sysWrite, hwrite, Except.map] at result
  | partly n result idle took lt write =>
    refine iff_of_false (by simp [hfault]) ?_
    rintro ⟨-, errno, hwrite, hard⟩
    have hresult : result = .error errno := by
      rw [← write, hwrite]
      rfl
    rcases took with hok | ⟨herror, -⟩
    · simp [hresult] at hok
    · rw [hresult] at herror
      exact hard (Except.error.inj herror)
  | nothing idle empty result =>
    refine iff_of_false (by simp [hfault]) ?_
    rintro ⟨-, errno, hwrite, hard⟩
    exact hard (Except.error.inj (hwrite.symm.trans result))
  | noData busy => exact iff_of_false (by simp [hfault]) fun hfails => busy hfails.1
  | buffered busy => exact iff_of_false (by simp [hfault]) fun hfails => busy hfails.1

/-- `shutdownInLoop` aborts exactly when `::shutdown` fails. -/
lemma shutdownInLoop_abort_iff (hfault : w.fault = none) :
    (w.shutdownInLoop k).fault = some .abort ↔ w.ShutdownFails k := by
  unfold shutdownInLoop ShutdownFails
  by_cases hwriting : w.channel_.isWriting = true
  · simp [hwriting, hfault]
  · by_cases hshutdown : k.shutdown = none
    · simp [hwriting, hshutdown, hfault]
    · simp [hwriting, hshutdown]

/-- `handleWrite` aborts exactly when it drains the buffer and the half-close it brings about
fails. -/
lemma HandleWrite.abort_iff (h : HandleWrite w k w') (hfault : w.fault = none) :
    w'.fault = some .abort ↔
      w.channel_.isWriting = true ∧ w.Drains k ∧ w.state_ = .kDisconnecting ∧
        k.shutdown ≠ none := by
  cases h with
  | notWriting idle => exact iff_of_false (by simp [hfault]) (by simp [idle])
  | stuck result writing took write =>
    refine iff_of_false (by simp [hfault]) fun ⟨_, ⟨hpos, hall⟩, _⟩ => ?_
    obtain ⟨n, hn⟩ := Nat.exists_eq_succ_of_ne_zero (Nat.ne_of_gt hpos)
    rw [write, hn] at hall
    exact took n hall
  | partly n writing pos lt write =>
    refine iff_of_false (by simp [hfault]) fun ⟨_, ⟨_, hall⟩, _⟩ => ?_
    exact Nat.ne_of_lt lt (Except.ok.inj (write.symm.trans hall))
  | drain writing drains open_ =>
    refine iff_of_false (by simp [drained, hfault]) fun ⟨_, _, hclosing, _⟩ => ?_
    exact open_ hclosing
  | drainShutdown writing drains closing =>
    by_cases hshutdown : k.shutdown = none
    · exact iff_of_false (by simp [drained, hshutdown, hfault]) (by simp [hshutdown])
    · exact iff_of_true (by simp [hshutdown]) ⟨writing, drains, closing, hshutdown⟩

/-- A user callback that is not set raises another fault. -/
lemma callback_not_abort (hfault : w.fault = none) (isSet : Bool) :
    (if isSet then w.fault else some .badFunctionCall) ≠ some .abort := by
  cases isSet <;> simp [hfault]

/-- A step from a state without a fault reaches `abort()` exactly when it reports an error of the
connection. -/
theorem abort_after_step_iff {e : Event} (h : Step w e w') (hfault : w.fault = none) :
    w'.fault = some .abort ↔ w.Aborts e := by
  have hclose (v : World) (hv : v.fault = none) : v.handleClose.fault ≠ some .abort :=
    callback_not_abort hv v.connectionCallback_
  have hdestroy (v : World) (hv : v.fault = none) : v.connectDestroyed.fault ≠ some .abort := by
    by_cases hstate : v.state_ = .kConnected
    · rw [connectDestroyed_of_connected hstate]
      exact callback_not_abort hv v.connectionCallback_
    · rw [connectDestroyed_of_ne hstate]
      simp [removeChannel, hv]
  have hserver (v : World) (hv : v.fault = none) : v.closeCallback.fault ≠ some .abort := by
    simp only [closeCallback]
    split_ifs <;> simp [removeConnectionInLoop, hv]
  have hconnected {p : Prop} (hstate : w.state_ = .kConnected) :
      p ↔ w.state_ = .kConnected ∧ p := ⟨fun hp => ⟨hstate, hp⟩, And.right⟩
  cases h with
  | refused refuses =>
    refine iff_of_false (by simp [hfault]) fun haborts => ?_
    cases e <;> first | exact refuses | exact haborts | exact refuses haborts.1
  | sendLoad | sendPush | shutdownLoad | shutdownStore | shutdownPush | forceCloseLoad
  | forceCloseStore | forceClosePush | assign | loopForceClose | poll | handleEvent | swap
  | removeConnectionInLoop =>
    exact iff_of_false (by simp [hfault, beginSend, handleEvent, removeConnectionInLoop]) not_false
  | removeConnectionFault => exact iff_of_false (by simp) not_false
  | loopSend connected branch => exact (branch.abort_iff hfault).trans (hconnected connected)
  | loopSendFault connected branch => exact (branch.abort_iff hfault).trans (hconnected connected)
  | loopShutdown connected =>
    have hstored : ((w.log .shutdownCalled).setState .kDisconnecting).fault = none := hfault
    exact (shutdownInLoop_abort_iff hstored).trans (hconnected connected)
  | destroyServer =>
    refine iff_of_false ?_ not_false
    simp only [destroyServer]
    split_ifs <;> simp [hfault]
  | @runCall c rest k _ todo branch =>
    simp only [Aborts, todo, List.head?_cons]
    cases branch with
    | handleClose => exact iff_of_false (hclose _ hfault) not_false
    | handleError => exact iff_of_true rfl trivial
    | handleRead branch =>
      cases branch with
      | failed errno result => exact iff_of_true rfl ⟨errno, result⟩
      | message inputBuffer result =>
        obtain ⟨bytes, hreadv, -⟩ := result
        exact iff_of_false (callback_not_abort hfault w.messageCallback_) (by simp [hreadv])
      | closed inputBuffer result => exact iff_of_false (hclose _ hfault) (by simp [result])
    | handleWrite branch => exact branch.abort_iff hfault
    | closeCallback => exact iff_of_false (hserver _ hfault) not_false
    | connectDestroyed => exact iff_of_false (hdestroy _ hfault) not_false
    | removeChannel => exact iff_of_false (by simp [removeChannel, hfault]) not_false
  | @runFunctor f rest k _ todo functors branch =>
    simp only [Aborts, functors, List.head?_cons]
    cases branch with
    | sendInLoop branch => exact branch.abort_iff hfault
    | shutdownInLoop => exact shutdownInLoop_abort_iff hfault
    | forceCloseInLoop =>
      refine iff_of_false ?_ not_false
      unfold forceCloseInLoop
      split_ifs
      · exact hclose _ hfault
      · simp [hfault]
    | connectDestroyed => exact iff_of_false (hdestroy _ hfault) not_false
    | userCallback callback =>
      refine iff_of_false (by simp [hfault]) ?_
      cases f <;> simp_all [Functor.isUserCallback]

end Abort

section UseAfterFree

variable {w w' : World} {k : Kernel}

/-- A user callback that is not set is no use of the server. -/
lemma callback_not_useAfterFree (hfault : w.fault = none) (isSet : Bool) :
    (if isSet then w.fault else some .badFunctionCall) ≠ some .useAfterFree := by
  cases isSet <;> simp [hfault]

/-- `sendInLoop` does not use the server. -/
lemma SendInLoop.not_useAfterFree {call : ℕ} {data : StdString} (h : SendInLoop w call data k w')
    (hfault : w.fault = none) : w'.fault ≠ some .useAfterFree := by
  cases h <;> simp [hfault]

/-- `shutdownInLoop` does not use the server. -/
lemma shutdownInLoop_not_useAfterFree (hfault : w.fault = none) (k : Kernel) :
    (w.shutdownInLoop k).fault ≠ some .useAfterFree := by
  unfold shutdownInLoop
  split_ifs with hwriting
  · simp [hfault]
  · by_cases hshutdown : k.shutdown = none <;> simp [hshutdown, hfault]

/-- `handleWrite` does not use the server. -/
lemma HandleWrite.not_useAfterFree (h : HandleWrite w k w') (hfault : w.fault = none) :
    w'.fault ≠ some .useAfterFree := by
  cases h with
  | notWriting | stuck | partly => simp [hfault]
  | drain => simp [drained, hfault]
  | drainShutdown =>
    by_cases hshutdown : k.shutdown = none <;> simp [drained, hshutdown, hfault]

/-- `closeCallback_` is bound to a member function of the server. -/
lemma closeCallback_useAfterFree_iff (hfault : w.fault = none) :
    w.closeCallback.fault = some .useAfterFree ↔ w.serverAlive ≠ true := by
  simp only [closeCallback]
  split_ifs <;> simp_all [removeConnectionInLoop]

/-- A step from a state without a fault uses a destroyed server exactly when it runs
`closeCallback_`, or the functor that this queues, after the destruction. -/
theorem useAfterFree_after_step_iff {e : Event} (h : Step w e w') (hfault : w.fault = none) :
    w'.fault = some .useAfterFree ↔ w.UsesDestroyedServer e := by
  have hclose (v : World) (hv : v.fault = none) : v.handleClose.fault ≠ some .useAfterFree :=
    callback_not_useAfterFree hv v.connectionCallback_
  have hdestroy (v : World) (hv : v.fault = none) :
      v.connectDestroyed.fault ≠ some .useAfterFree := by
    by_cases hstate : v.state_ = .kConnected
    · rw [connectDestroyed_of_connected hstate]
      exact callback_not_useAfterFree hv v.connectionCallback_
    · rw [connectDestroyed_of_ne hstate]
      simp [removeChannel, hv]
  cases h with
  | refused refuses =>
    refine iff_of_false (by simp [hfault]) fun huses => ?_
    cases e <;> first | exact refuses | exact huses
  | sendLoad | sendPush | shutdownLoad | shutdownStore | shutdownPush | forceCloseLoad
  | forceCloseStore | forceClosePush | assign | loopForceClose | poll | handleEvent | swap =>
    exact iff_of_false (by simp [hfault, beginSend, handleEvent]) not_false
  | removeConnectionInLoop alive =>
    exact iff_of_false (by simp [hfault, removeConnectionInLoop]) (not_not.mpr alive)
  | removeConnectionFault dead => exact iff_of_true rfl dead
  | loopSend connected branch =>
    exact iff_of_false (branch.not_useAfterFree hfault) not_false
  | loopSendFault connected branch =>
    exact iff_of_false (branch.not_useAfterFree hfault) not_false
  | loopShutdown =>
    have hstored : ((w.log .shutdownCalled).setState .kDisconnecting).fault = none := hfault
    exact iff_of_false (shutdownInLoop_not_useAfterFree hstored _) not_false
  | destroyServer =>
    refine iff_of_false ?_ not_false
    simp only [destroyServer]
    split_ifs <;> simp [hfault]
  | @runCall c rest k _ todo branch =>
    have huses :
        w.UsesDestroyedServer (.runCall k) ↔ c = .closeCallback ∧ w.serverAlive ≠ true := by
      simp [UsesDestroyedServer, todo]
    rw [huses]
    cases branch with
    | handleClose => exact iff_of_false (hclose _ hfault) (by simp)
    | handleError => exact iff_of_false (by simp) (by simp)
    | handleRead branch =>
      refine iff_of_false ?_ (by simp)
      cases branch with
      | failed errno result => simp
      | message inputBuffer result => exact callback_not_useAfterFree hfault w.messageCallback_
      | closed inputBuffer result => exact hclose _ hfault
    | handleWrite branch => exact iff_of_false (branch.not_useAfterFree hfault) (by simp)
    | closeCallback =>
      have hrest : (w.setTodo rest).fault = none := hfault
      exact (closeCallback_useAfterFree_iff hrest).trans (and_iff_right rfl).symm
    | connectDestroyed => exact iff_of_false (hdestroy _ hfault) (by simp)
    | removeChannel => exact iff_of_false (by simp [removeChannel, hfault]) (by simp)
  | @runFunctor f rest k _ todo functors branch =>
    refine iff_of_false ?_ not_false
    cases branch with
    | sendInLoop branch => exact branch.not_useAfterFree hfault
    | shutdownInLoop =>
      have hkept : (w.setFunctors rest).fault = none := hfault
      exact shutdownInLoop_not_useAfterFree hkept k
    | forceCloseInLoop =>
      unfold forceCloseInLoop
      split_ifs
      · exact hclose _ hfault
      · simp [hfault]
    | connectDestroyed => exact hdestroy _ hfault
    | userCallback => simp [hfault]

end UseAfterFree

/-- A world without a fault is one without any of the three. -/
lemma fault_eq_none_iff {w : World} :
    w.fault = none ↔ w.fault ≠ some .abort ∧ w.NoEmptyCall ∧ w.fault ≠ some .useAfterFree := by
  unfold NoEmptyCall
  rcases w.fault with - | fault
  · simp
  · cases fault <;> simp

/-- When the connection callback is set, a step from a state without a fault ends in one exactly
when it does none of the three things that raise one. -/
theorem fault_after_step_iff {w w' : World} {e : Event} (h : Step w e w') (hfault : w.fault = none)
    (hset : w.connectionCallback_ = true) :
    w'.fault = none ↔ ¬ w.Aborts e ∧ (w.messageCallback_ = true ∨ ¬ w.DeliversMessage e) ∧
      ¬ w.UsesDestroyedServer e := by
  rw [fault_eq_none_iff, ← abort_after_step_iff h hfault,
    ← noEmptyCall_after_step_iff h hfault hset, ← useAfterFree_after_step_iff h hfault]

end World

/-! ## The process -/

/-- The process that serves the connection. -/
structure Process where
  connection : World
  /-- `SIGPIPE` has ended the process. -/
  killed : Bool

namespace Process

/-- The connection has been established. -/
def established (cfg : Config) : Process := ⟨cfg.established, false⟩

/-- One step of the connection, which a signal may end. -/
def step (ignoresSigpipe : Bool) (p : Process) (e : Event) : Option Process :=
  if p.killed then none
  else (p.connection.step e).map fun w =>
    ⟨w, !ignoresSigpipe && decide (p.connection.RaisesSigpipe e)⟩

/-- Every step so far has returned normally to the event loop, which goes on serving all
connections. -/
def Serving (p : Process) : Prop := p.killed = false ∧ p.connection.fault = none

/-- The process is serving, and the connection callback is set. -/
structure Ready (p : Process) : Prop where
  serving : p.Serving
  connectionCallback : p.connection.connectionCallback_ = true

variable {ignoresSigpipe : Bool} {p p' : Process} {e : Event}

/-- A step of a serving process. -/
lemma serving_after_step_iff (h : p.Ready) (hstep : p.step ignoresSigpipe e = some p') :
    p'.connection.connectionCallback_ = true ∧
      (p'.Serving ↔ p.connection.ReturnsNormally ignoresSigpipe e) := by
  simp only [step, Option.ite_none_left_eq_some, Option.map_eq_some_iff] at hstep
  obtain ⟨-, w, hw, rfl⟩ := hstep
  obtain ⟨hfault, hbranch⟩ := World.step_eq_some hw
  have hset : w.connectionCallback_ = p.connection.connectionCallback_ :=
    congrArg UserCallbacks.connectionCallback_ (World.callbacks_of_step hbranch)
  have hkilled : (!ignoresSigpipe && decide (p.connection.RaisesSigpipe e)) = false ↔
      ignoresSigpipe = true ∨ ¬ p.connection.RaisesSigpipe e := by
    cases ignoresSigpipe <;> simp
  refine ⟨hset.trans h.connectionCallback, ?_⟩
  rw [Serving, hkilled, World.fault_after_step_iff hbranch hfault h.connectionCallback]
  constructor
  · rintro ⟨hsigpipe, hreports, hmessage, hserver⟩
    exact ⟨hreports, hsigpipe, hmessage, hserver⟩
  · rintro ⟨hreports, hsigpipe, hmessage, hserver⟩
    exact ⟨hsigpipe, hreports, hmessage, hserver⟩

/-- `connectEstablished` calls the connection callback. -/
lemma serving_established (cfg : Config) :
    (established cfg).Serving ↔ cfg.connectionCallback = true := by
  have hfault : cfg.established.fault =
      if cfg.connectionCallback then none else some .badFunctionCall := rfl
  rw [Serving, established, hfault]
  cases cfg.connectionCallback <;> simp

end Process

/-- For every disposition of `SIGPIPE`, every connection and every run: all steps return normally to
the event loop if and only if the connection callback is set and no step does one of the four things
from which it does not return. -/
theorem errors_confined_iff (ignoresSigpipe : Bool) (cfg : Config) (es : List Event) :
    Always (Process.step ignoresSigpipe) Process.Serving (.established cfg) es ↔
      cfg.connectionCallback = true ∧
        Meets (Process.step ignoresSigpipe)
          (fun p e => p.connection.ReturnsNormally ignoresSigpipe e) (.established cfg) es := by
  by_cases hset : cfg.connectionCallback = true
  · have hready : Process.Ready (.established cfg) :=
      ⟨(Process.serving_established cfg).mpr hset, hset⟩
    refine (always_iff_meets (fun p e p' hI hok hstep => ?_) (fun p hI => hI.serving)
      (fun p e p' hI hnot hstep => ?_) hready).trans (and_iff_right hset).symm
    · obtain ⟨hcallback, hiff⟩ := Process.serving_after_step_iff hI hstep
      exact ⟨hiff.mpr hok, hcallback⟩
    · exact fun hserving => hnot ((Process.serving_after_step_iff hI hstep).2.mp hserving)
  · exact iff_of_false
      (fun halways => hset ((Process.serving_established cfg).mp halways.of_start))
      fun h => hset h.1

/-- The peer resets a connection whose callbacks are set: `readv` fails with `ECONNRESET`, and the
process is aborted, whatever it does with `SIGPIPE`. -/
theorem aborted_by_peer_reset :
    ¬ ∀ (ignoresSigpipe : Bool) (cfg : Config) (es : List Event), cfg.connectionCallback = true →
      cfg.messageCallback = true →
        Always (Process.step ignoresSigpipe) Process.Serving (.established cfg) es := by
  have hrun : ∃ p, exec (Process.step true) (.established Config.single)
      [.poll EPOLLIN, .handleEvent, .runCall ⟨.ok 0, .error ECONNRESET, none⟩] = some p ∧
      p.connection.fault = some .abort :=
    exists_exec_of_any (by decide +kernel)
  obtain ⟨p, hrun, habort⟩ := hrun
  intro h
  have hserving := (h true Config.single _ rfl rfl).of_exec hrun
  exact absurd (habort.symm.trans hserving.2) (by decide)

end SimpleMuduo
