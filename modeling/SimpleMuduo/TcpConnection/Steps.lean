import SimpleMuduo.TcpConnection.Branches
import SimpleMuduo.TcpConnection.System

/-!
# What a step can do

`Step w e w'` lists everything that a step of the system can do, each with the guard under which
it happens and the world it ends in.  `step_eq_some` says that the list is complete; every
invariant of the connection is proved from it by cases, and none of them unfolds `World.step`.
-/

namespace SimpleMuduo

namespace World

/-- The worlds that `handleRead` may end in. -/
inductive HandleRead (w : World) (k : Kernel) : World → Prop
  /-- `readv` failed. -/
  | failed (errno : Errno) (result : k.readv = .error errno) : HandleRead w k w.abort
  /-- Bytes have arrived. -/
  | message (inputBuffer : Buffer) (result : ∃ bytes, k.readv = .ok bytes ∧ bytes ≠ []) :
      HandleRead w k ((w.setInput inputBuffer).callback w.messageCallback_ .messageCallback)
  /-- The peer has closed. -/
  | closed (inputBuffer : Buffer) (result : k.readv = .ok []) :
      HandleRead w k (w.setInput inputBuffer).handleClose

/-- `handleRead` takes one of its branches. -/
theorem handleRead_branch (w : World) (k : Kernel) : HandleRead w k (w.handleRead k) := by
  cases hreadv : k.readv with
  | error errno =>
    simp only [handleRead, Buffer.readFd, hreadv]
    exact .failed errno hreadv
  | ok bytes =>
    obtain ⟨inputBuffer, hread, -⟩ := w.inputBuffer_.exists_readFd_eq bytes
    have hcapacity := w.inputBuffer_.readFdCapacity_pos
    simp only [handleRead, hreadv, hread, List.length_take]
    by_cases hnil : bytes = []
    · subst hnil
      simpa using HandleRead.closed inputBuffer hreadv
    · have hpos : 0 < min w.inputBuffer_.readFdCapacity bytes.length :=
        Nat.lt_min.mpr ⟨hcapacity, List.length_pos_iff.mpr hnil⟩
      rw [if_pos hpos]
      exact .message inputBuffer ⟨bytes, hreadv, hnil⟩

/-- The steps of the loop thread when it goes on with the call `c`. -/
inductive CallStep (w : World) (k : Kernel) : Call → World → Prop
  | handleClose : CallStep w k .handleClose w.handleClose
  | handleError : CallStep w k .handleError w.abort
  | handleRead {w'} (branch : HandleRead w k w') : CallStep w k .handleRead w'
  | handleWrite {w'} (branch : HandleWrite w k w') : CallStep w k .handleWrite w'
  | closeCallback : CallStep w k .closeCallback w.closeCallback
  | connectDestroyed : CallStep w k .connectDestroyed w.connectDestroyed
  | removeChannel : CallStep w k .removeChannel w.removeChannel

lemma runCall_branch (w : World) (c : Call) (k : Kernel) : CallStep w k c (w.runCall c k) := by
  cases c with
  | handleClose => exact .handleClose
  | handleError => exact .handleError
  | handleRead => exact .handleRead (w.handleRead_branch k)
  | handleWrite => exact .handleWrite (w.handleWrite_branch k)
  | closeCallback => exact .closeCallback
  | connectDestroyed => exact .connectDestroyed
  | removeChannel => exact .removeChannel

/-- The steps of the loop thread when it runs the functor `f`. -/
inductive FunctorStep (w : World) (k : Kernel) : Functor → World → Prop
  | sendInLoop {call buf len w'}
      (branch : SendInLoop w call ((w.strings buf).take len) k w') :
      FunctorStep w k (.sendInLoop call buf len) w'
  | shutdownInLoop : FunctorStep w k .shutdownInLoop (w.shutdownInLoop k)
  | forceCloseInLoop : FunctorStep w k .forceCloseInLoop w.forceCloseInLoop
  | connectDestroyed : FunctorStep w k .connectDestroyed w.connectDestroyed
  | userCallback {f} (callback : f.isUserCallback = true) : FunctorStep w k f w

lemma runFunctor_branch (w : World) (f : Functor) (k : Kernel) :
    FunctorStep w k f (w.runFunctor f k) := by
  cases f with
  | sendInLoop call buf len => exact .sendInLoop (w.sendInLoop_branch call _ k)
  | shutdownInLoop => exact .shutdownInLoop
  | forceCloseInLoop => exact .forceCloseInLoop
  | connectDestroyed => exact .connectDestroyed
  | writeCompleteCallback => exact .userCallback rfl
  | highWaterMarkCallback => exact .userCallback rfl

/-- The event is a call of `send`, `shutdown` or `forceClose` that finds `state_` such that it does
nothing. -/
def Refuses (w : World) : Event → Prop
  | .sendLoad _ _ | .shutdownLoad _ | .loopSend _ _ | .loopShutdown _ => w.state_ ≠ .kConnected
  | .forceCloseLoad _ | .loopForceClose =>
    ¬ (w.state_ = .kConnected ∨ w.state_ = .kDisconnecting)
  | _ => False

/-- Everything that a step can do. -/
inductive Step (w : World) : Event → World → Prop
  | refused {e : Event} (refuses : w.Refuses e) : Step w e w
  | sendLoad {t buf} (pc : w.threads t = .idle) (connected : w.state_ = .kConnected) :
      Step w (.sendLoad t buf) (w.beginSend t buf)
  | sendPush {t call buf len} (pc : w.threads t = .send call buf len) :
      Step w (.sendPush t)
        (((w.queueInLoop (.sendInLoop call buf len)).log (.sendReturned call)).setThread t .idle)
  | shutdownLoad {t} (pc : w.threads t = .idle) (connected : w.state_ = .kConnected) :
      Step w (.shutdownLoad t) ((w.log .shutdownCalled).setThread t .shutdownStore)
  | shutdownStore {t} (pc : w.threads t = .shutdownStore) :
      Step w (.shutdownStore t) ((w.setState .kDisconnecting).setThread t .shutdownPush)
  | shutdownPush {t} (pc : w.threads t = .shutdownPush) :
      Step w (.shutdownPush t) ((w.queueInLoop .shutdownInLoop).setThread t .idle)
  | forceCloseLoad {t} (pc : w.threads t = .idle)
      (open_ : w.state_ = .kConnected ∨ w.state_ = .kDisconnecting) :
      Step w (.forceCloseLoad t) (w.setThread t .forceCloseStore)
  | forceCloseStore {t} (pc : w.threads t = .forceCloseStore) :
      Step w (.forceCloseStore t) ((w.setState .kDisconnecting).setThread t .forceClosePush)
  | forceClosePush {t} (pc : w.threads t = .forceClosePush) :
      Step w (.forceClosePush t) ((w.queueInLoop .forceCloseInLoop).setThread t .idle)
  | assign {t buf contents} (pc : w.threads t = .idle)
      (size : contents.size = (w.strings buf).size) :
      Step w (.assign t buf contents)
        { w with strings := Function.update w.strings buf contents }
  | loopSend {buf k w'} (connected : w.state_ = .kConnected)
      (branch : SendInLoop (w.callSend buf.data) w.sendCalls buf k w') (fault : w'.fault = none) :
      Step w (.loopSend buf k) (w'.log (.sendReturned w.sendCalls))
  | loopSendFault {buf k w'} (connected : w.state_ = .kConnected)
      (branch : SendInLoop (w.callSend buf.data) w.sendCalls buf k w') (fault : w'.fault ≠ none) :
      Step w (.loopSend buf k) w'
  | loopShutdown {k} (connected : w.state_ = .kConnected) :
      Step w (.loopShutdown k)
        (((w.log .shutdownCalled).setState .kDisconnecting).shutdownInLoop k)
  | loopForceClose (open_ : w.state_ = .kConnected ∨ w.state_ = .kDisconnecting) :
      Step w .loopForceClose ((w.setState .kDisconnecting).queueInLoop .forceCloseInLoop)
  | destroyServer (alive : w.serverAlive = true) : Step w .destroyServer w.destroyServer
  | poll {revents} (atPoll : w.AtPoll) (reportable : Reportable w.channel_ revents) :
      Step w (.poll revents) { w with channel_ := w.channel_.set_revents revents, active := true }
  | handleEvent (todo : w.todo = []) : Step w .handleEvent w.handleEvent
  | runCall {c rest k w'} (todo : w.todo = c :: rest) (branch : CallStep (w.setTodo rest) k c w') :
      Step w (.runCall k) w'
  | swap (atPoll : w.AtPoll) :
      Step w .swap { w with functors := w.pendingFunctors_, pendingFunctors_ := [] }
  | runFunctor {f rest k w'} (todo : w.todo = []) (functors : w.functors = f :: rest)
      (branch : FunctorStep (w.setFunctors rest) k f w') : Step w (.runFunctor k) w'
  | removeConnectionInLoop (alive : w.serverAlive = true) :
      Step w .removeConnectionInLoop
        { w with removePending := w.removePending - 1 }.removeConnectionInLoop
  | removeConnectionFault (dead : w.serverAlive ≠ true) :
      Step w .removeConnectionInLoop
        { w with removePending := w.removePending - 1, fault := some .useAfterFree }

/-- `loopSend` when the connection is established. -/
lemma loopSend_of_connected {w : World} (hstate : w.state_ = .kConnected) (buf : StdString)
    (k : Kernel) :
    w.loopSend buf k =
      if ((w.callSend buf.data).sendInLoop w.sendCalls buf k).fault = none then
        ((w.callSend buf.data).sendInLoop w.sendCalls buf k).log (.sendReturned w.sendCalls)
      else (w.callSend buf.data).sendInLoop w.sendCalls buf k := by
  rw [loopSend, if_pos hstate]

/-- Every step is in the list, and happens before any fault. -/
theorem step_eq_some {w w' : World} {e : Event} (h : w.step e = some w') :
    w.fault = none ∧ Step w e w' := by
  unfold step at h
  by_cases hfault : w.fault = none
  · refine ⟨hfault, ?_⟩
    rw [if_neg (not_not.mpr hfault)] at h
    cases e with
    | sendLoad t buf =>
      simp only [threadStep, Option.ite_none_right_eq_some] at h
      obtain ⟨hpc, h⟩ := h
      by_cases hstate : w.state_ = .kConnected
      · obtain rfl : _ = w' := by simpa [hstate] using h
        exact .sendLoad hpc hstate
      · obtain rfl : w = w' := by simpa [hstate] using h
        exact .refused hstate
    | sendPush t =>
      simp only [threadStep] at h
      cases hpc : w.threads t with
      | send call buf len =>
        obtain rfl : _ = w' := by simpa [hpc] using h
        exact .sendPush hpc
      | _ => simp [hpc] at h
    | shutdownLoad t =>
      simp only [threadStep, Option.ite_none_right_eq_some] at h
      obtain ⟨hpc, h⟩ := h
      by_cases hstate : w.state_ = .kConnected
      · obtain rfl : _ = w' := by simpa [hstate] using h
        exact .shutdownLoad hpc hstate
      · obtain rfl : w = w' := by simpa [hstate] using h
        exact .refused hstate
    | shutdownStore t =>
      simp only [threadStep, Option.ite_none_right_eq_some, Option.some.injEq] at h
      obtain ⟨hpc, rfl⟩ := h
      exact .shutdownStore hpc
    | shutdownPush t =>
      simp only [threadStep, Option.ite_none_right_eq_some, Option.some.injEq] at h
      obtain ⟨hpc, rfl⟩ := h
      exact .shutdownPush hpc
    | forceCloseLoad t =>
      simp only [threadStep, Option.ite_none_right_eq_some] at h
      obtain ⟨hpc, h⟩ := h
      by_cases hstate : w.state_ = .kConnected ∨ w.state_ = .kDisconnecting
      · obtain rfl : _ = w' := by simpa [hstate] using h
        exact .forceCloseLoad hpc hstate
      · obtain rfl : w = w' := by simpa [hstate] using h
        exact .refused hstate
    | forceCloseStore t =>
      simp only [threadStep, Option.ite_none_right_eq_some, Option.some.injEq] at h
      obtain ⟨hpc, rfl⟩ := h
      exact .forceCloseStore hpc
    | forceClosePush t =>
      simp only [threadStep, Option.ite_none_right_eq_some, Option.some.injEq] at h
      obtain ⟨hpc, rfl⟩ := h
      exact .forceClosePush hpc
    | assign t buf contents =>
      simp only [threadStep, Option.ite_none_right_eq_some, Option.some.injEq] at h
      obtain ⟨⟨hpc, hsize⟩, rfl⟩ := h
      exact .assign hpc hsize
    | loopSend buf k =>
      obtain rfl := Option.some.inj h
      by_cases hstate : w.state_ = .kConnected
      · rw [loopSend_of_connected hstate]
        have hbranch := (w.callSend buf.data).sendInLoop_branch w.sendCalls buf k
        split
        · exact .loopSend hstate hbranch ‹_›
        · exact .loopSendFault hstate hbranch ‹_›
      · rw [loopSend, if_neg hstate]
        exact .refused hstate
    | loopShutdown k =>
      obtain rfl := Option.some.inj h
      by_cases hstate : w.state_ = .kConnected
      · rw [loopShutdown, if_pos hstate]
        exact .loopShutdown hstate
      · rw [loopShutdown, if_neg hstate]
        exact .refused hstate
    | loopForceClose =>
      obtain rfl := Option.some.inj h
      by_cases hstate : w.state_ = .kConnected ∨ w.state_ = .kDisconnecting
      · rw [loopForceClose, if_pos hstate]
        exact .loopForceClose hstate
      · rw [loopForceClose, if_neg hstate]
        exact .refused hstate
    | destroyServer =>
      simp only [Option.ite_none_right_eq_some, Option.some.injEq] at h
      obtain ⟨halive, rfl⟩ := h
      exact .destroyServer halive
    | poll revents =>
      simp only [Option.ite_none_right_eq_some, Option.some.injEq] at h
      obtain ⟨⟨hat, hreportable⟩, rfl⟩ := h
      exact .poll hat hreportable
    | handleEvent =>
      simp only [Option.ite_none_right_eq_some, Option.some.injEq] at h
      obtain ⟨⟨-, htodo⟩, rfl⟩ := h
      exact .handleEvent htodo
    | runCall k =>
      cases htodo : w.todo with
      | nil => simp [htodo] at h
      | cons c rest =>
        obtain rfl : _ = w' := by simpa [htodo] using h
        exact .runCall htodo (runCall_branch _ c k)
    | swap =>
      simp only [Option.ite_none_right_eq_some, Option.some.injEq] at h
      obtain ⟨hat, rfl⟩ := h
      exact .swap hat
    | runFunctor k =>
      cases hfunctors : w.functors with
      | nil => simp [hfunctors] at h
      | cons f rest =>
        simp only [hfunctors, Option.ite_none_right_eq_some, Option.some.injEq] at h
        obtain ⟨htodo, rfl⟩ := h
        exact .runFunctor htodo hfunctors (runFunctor_branch _ f k)
    | removeConnectionInLoop =>
      simp only [Option.ite_none_right_eq_some] at h
      obtain ⟨-, h⟩ := h
      split at h <;> obtain rfl := Option.some.inj h
      · exact .removeConnectionInLoop ‹_›
      · exact .removeConnectionFault ‹_›
  · simp [hfault] at h

/-! ## What no step changes -/

/-- The callbacks of the connection and its high-water mark, which have been set before it was
established. -/
structure Settings where
  connectionCallback_ : Bool
  messageCallback_ : Bool
  writeCompleteCallback_ : Bool
  highWaterMarkCallback_ : Bool
  highWaterMark_ : ℕ

/-- What has been set in the connection. -/
def settings (w : World) : Settings :=
  ⟨w.connectionCallback_, w.messageCallback_, w.writeCompleteCallback_, w.highWaterMarkCallback_,
    w.highWaterMark_⟩

section Settings

variable {w w' : World} {k : Kernel}

lemma connectDestroyed_settings (w : World) : w.connectDestroyed.settings = w.settings := by
  by_cases hstate : w.state_ = .kConnected
  · rw [connectDestroyed_of_connected hstate]
    rfl
  · rw [connectDestroyed_of_ne hstate]
    rfl

lemma closeCallback_settings (w : World) : w.closeCallback.settings = w.settings := by
  simp only [closeCallback]
  split_ifs <;> rfl

lemma shutdownInLoop_settings (w : World) (k : Kernel) :
    (w.shutdownInLoop k).settings = w.settings := by
  unfold shutdownInLoop
  split_ifs <;> rfl

lemma SendInLoop.settings {call : ℕ} {data : StdString} (h : SendInLoop w call data k w') :
    w'.settings = w.settings := by
  cases h <;> rfl

lemma HandleWrite.settings (h : HandleWrite w k w') : w'.settings = w.settings := by
  cases h <;> rfl

/-- What has been set is never replaced. -/
theorem settings_of_step {e : Event} (h : Step w e w') : w'.settings = w.settings := by
  cases h with
  | refused | sendLoad | sendPush | shutdownLoad | shutdownStore | shutdownPush | forceCloseLoad
  | forceCloseStore | forceClosePush | assign | loopForceClose | poll | handleEvent | swap
  | removeConnectionInLoop | removeConnectionFault => rfl
  | loopSend connected branch | loopSendFault connected branch => exact branch.settings
  | loopShutdown => exact shutdownInLoop_settings _ _
  | destroyServer =>
    simp only [destroyServer]
    split_ifs <;> rfl
  | runCall todo branch =>
    cases branch with
    | handleClose | handleError | removeChannel => rfl
    | handleRead branch => cases branch <;> rfl
    | handleWrite branch => exact branch.settings
    | closeCallback => exact closeCallback_settings _
    | connectDestroyed => exact connectDestroyed_settings _
  | runFunctor todo functors branch =>
    cases branch with
    | sendInLoop branch => exact branch.settings
    | shutdownInLoop => exact shutdownInLoop_settings _ _
    | forceCloseInLoop =>
      unfold forceCloseInLoop
      split_ifs <;> rfl
    | connectDestroyed => exact connectDestroyed_settings _
    | userCallback => rfl

end Settings

end World

end SimpleMuduo
