import SimpleMuduo.TcpConnection.Steps

/-!
# The steps that move input

Only `handleRead` calls `readFd`, so `inputBuffer_` grows in a step by what `::readv` delivers in
it, and by nothing in any other step.
-/

namespace SimpleMuduo

namespace World

/-- What `::readv` answers in the step, if the step is a `handleRead`. -/
def readvIn (w : World) : Event → Option (Except Errno Bytes)
  | .runCall k => if w.todo.head? = some .handleRead then some k.readv else none
  | _ => none

/-- The bytes that the step moves from the socket to `inputBuffer_`: as many of those that have
arrived as the two vectors of `readFd` hold. -/
def delivered (w : World) (e : Event) : Bytes :=
  match w.readvIn e with
  | some (.ok arrived) => arrived.take w.inputBuffer_.readFdCapacity
  | _ => []

variable {w w' : World} {e : Event} {k : Kernel}

lemma SendInLoop.inputBuffer_ {call : ℕ} {data : StdString} (h : SendInLoop w call data k w') :
    w'.inputBuffer_ = w.inputBuffer_ := by
  cases h <;> rfl

lemma HandleWrite.inputBuffer_ (h : HandleWrite w k w') : w'.inputBuffer_ = w.inputBuffer_ := by
  cases h <;> rfl

lemma shutdownInLoop_inputBuffer_ (w : World) (k : Kernel) :
    (w.shutdownInLoop k).inputBuffer_ = w.inputBuffer_ := by
  unfold shutdownInLoop
  split_ifs <;> rfl

lemma connectDestroyed_inputBuffer_ (w : World) :
    w.connectDestroyed.inputBuffer_ = w.inputBuffer_ := by
  by_cases hstate : w.state_ = .kConnected
  · rw [connectDestroyed_of_connected hstate]
    rfl
  · rw [connectDestroyed_of_ne hstate]
    rfl

/-- A step that does not read leaves `inputBuffer_` alone. -/
lemma inputBuffer_of_step (h : Step w e w') (hread : w.readvIn e = none) :
    w'.inputBuffer_ = w.inputBuffer_ := by
  cases h with
  | refused | sendLoad | sendPush | shutdownLoad | shutdownStore | shutdownPush | forceCloseLoad
  | forceCloseStore | forceClosePush | assign | loopForceClose | poll | handleEvent | swap
  | removeConnectionInLoop | removeConnectionFault => rfl
  | loopSend connected branch | loopSendFault connected branch => exact branch.inputBuffer_
  | loopShutdown => exact shutdownInLoop_inputBuffer_ _ _
  | destroyServer =>
    simp only [destroyServer]
    split_ifs <;> rfl
  | runCall todo branch =>
    cases branch with
    | handleClose | handleError | removeChannel => rfl
    | handleRead => simp [readvIn, todo] at hread
    | handleWrite branch => exact branch.inputBuffer_
    | closeCallback =>
      simp only [closeCallback]
      split_ifs <;> rfl
    | connectDestroyed => exact connectDestroyed_inputBuffer_ _
  | runFunctor todo functors branch =>
    cases branch with
    | sendInLoop branch => exact branch.inputBuffer_
    | shutdownInLoop => exact shutdownInLoop_inputBuffer_ _ _
    | forceCloseInLoop =>
      unfold forceCloseInLoop
      split_ifs <;> rfl
    | connectDestroyed => exact connectDestroyed_inputBuffer_ _
    | userCallback => rfl

/-- `handleRead` adds what `::readv` delivers at the back of `inputBuffer_`. -/
lemma readable_handleRead (w : World) {arrived : Bytes} (hreadv : k.readv = .ok arrived) :
    (w.handleRead k).inputBuffer_.readable =
      w.inputBuffer_.readable ++ arrived.take w.inputBuffer_.readFdCapacity := by
  obtain ⟨inputBuffer, hread, hreadable⟩ := w.inputBuffer_.exists_readFd_eq arrived
  simp only [handleRead, hreadv, hread]
  split_ifs <;> exact hreadable

/-- What a step adds to `inputBuffer_`. -/
theorem readable_inputBuffer_of_step (h : w.step e = some w') :
    w'.inputBuffer_.readable = w.inputBuffer_.readable ++ w.delivered e := by
  obtain ⟨hfault, hstep⟩ := step_eq_some h
  by_cases hread : w.readvIn e = none
  · simp [inputBuffer_of_step hstep hread, delivered, hread]
  · -- the step is the `handleRead` of the channel
    cases e with
    | runCall k =>
      have hhead : w.todo.head? = some .handleRead := by
        by_contra hne
        simp [readvIn, hne] at hread
      obtain ⟨rest, htodo⟩ := List.head?_eq_some_iff.mp hhead
      obtain rfl : (w.setTodo rest).handleRead k = w' := by
        simpa [step, hfault, htodo, runCall] using h
      simp only [delivered, readvIn, hhead, if_true]
      cases hreadv : k.readv with
      | error errno =>
        simp [handleRead, Buffer.readFd, hreadv, handleError]
      | ok arrived => exact readable_handleRead (w.setTodo rest) hreadv
    | _ => exact absurd rfl hread

end World

end SimpleMuduo
