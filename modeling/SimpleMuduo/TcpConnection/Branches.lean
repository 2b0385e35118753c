import SimpleMuduo.TcpConnection.Handlers

/-!
# The branches of the output functions

`sendInLoop` and `handleWrite` choose between writing directly and buffering, and their results
depend on what `::write` answers.  This file lists their branches once, each with the condition
under which it is taken and the world it ends in, so that a property of them is proved by going
through the list.  What all of them have in common is the frame at the end of the file: whatever
they do, they do it to the output side of the connection.
-/

namespace SimpleMuduo

/-- The `::write` took `n` bytes and left the connection usable. -/
def Took (result : IoResult) (n : ℕ) : Prop :=
  result = .ok n ∨ result = .error EWOULDBLOCK ∧ n = 0

/-- The effects of buffering. -/
def Effect.isBuffering : Effect → Bool
  | .append _ | .enableWriting | .queueInLoop (.highWaterMarkCallback _) => true
  | _ => false

namespace World

/-- Nothing waits to be written: `sendInLoop` will call `::write`. -/
def Idle (w : World) : Prop :=
  w.channel_.isWriting = false ∧ w.outputBuffer_.readableBytes = 0

instance (w : World) : Decidable w.Idle := inferInstanceAs (Decidable (_ ∧ _))

/-! ## Buffering -/

/-- What is left of a string after its first `n` bytes has an exact `ssize_t`. -/
lemma toSsize_size_sub (data : StdString) {n : ℕ} (hn : n ≤ data.size) :
    toSsize (data.size - n) = (data.size - n : ℕ) := by
  have hsize : data.size ≤ maxObjectSize := data.size_le
  have hcast : (data.size : ℤ) - n = (data.size - n : ℕ) := by omega
  rw [hcast]
  exact toSsize_of_lt (by unfold maxObjectSize at hsize; omega)

/-- With the exact number of remaining bytes, `bufferRemaining` buffers everything after the
bytes written, if there is anything. -/
lemma bufferRemaining_eq (w : World) (data : StdString) (n : ℕ) :
    w.bufferRemaining data n ((data.size - n : ℕ) : ℤ) =
      if n < data.size then w.bufferOutput (data.data.drop n) (data.size - n) else w := by
  have hall : (data.data.drop n).take (data.size - n) = data.data.drop n :=
    List.take_of_length_le (by simp [StdString.size])
  rw [bufferRemaining, Int.toNat_natCast, hall]
  by_cases hlt : n < data.size
  · rw [if_pos hlt, if_pos (by omega)]
  · rw [if_neg hlt, if_neg (by omega)]

/-- The same when nothing was written. -/
lemma bufferRemaining_zero (w : World) (data : StdString) :
    w.bufferRemaining data 0 (toSsize data.size) =
      if data.data = [] then w else w.bufferOutput data.data data.size := by
  have h := w.bufferRemaining_eq data 0
  rw [List.drop_zero, Nat.sub_zero] at h
  rw [StdString.size, data.toSsize_size, ← StdString.size, h]
  by_cases hnil : data.data = []
  · rw [if_pos hnil, if_neg (by simp [StdString.size, hnil])]
  · have hpos : 0 < data.size := List.length_pos_iff.mpr hnil
    rw [if_neg hnil, if_pos hpos]

/-- Whoever buffers output asks for `EPOLLOUT`. -/
lemma isWriting_bufferOutput (w : World) (rest : Bytes) (remaining : ℕ) :
    (w.bufferOutput rest remaining).channel_.isWriting = true := by
  by_cases h : w.channel_.isWriting = true
  · simp [bufferOutput, h]
  · simp [bufferOutput, h]

/-- Buffering records that it does. -/
lemma bufferOutput_history (w : World) (rest : Bytes) (remaining : ℕ) :
    ∃ es : List Effect, (∀ e ∈ es, e.isBuffering = true) ∧ .append rest ∈ es ∧
      (w.bufferOutput rest remaining).history = es ++ w.history := by
  have hqueued (condition : Bool) (n : ℕ) : ∃ es : List Effect, (∀ e ∈ es, e.isBuffering = true) ∧
      (w.queueIf condition (.highWaterMarkCallback n)).history = es ++ w.history := by
    cases condition with
    | true => exact ⟨[.queueInLoop (.highWaterMarkCallback n)], by simp [Effect.isBuffering], rfl⟩
    | false => exact ⟨[], by simp, rfl⟩
  have happended (v : World) : ∃ es : List Effect, (∀ e ∈ es, e.isBuffering = true) ∧
      .append rest ∈ es ∧ (v.appendOutput rest).ensureWriting.history = es ++ v.history := by
    cases hwriting : v.channel_.isWriting with
    | true => exact ⟨[.append rest], by simp [Effect.isBuffering], by simp, by simp [hwriting]⟩
    | false =>
      exact ⟨[.enableWriting, .append rest], by simp [Effect.isBuffering], by simp,
        by simp [hwriting]⟩
  unfold bufferOutput
  obtain ⟨es₁, hes₁, h₁⟩ := hqueued _ _
  obtain ⟨es₂, hes₂, hmem, h₂⟩ := happended _
  refine ⟨es₂ ++ es₁, fun e he => ?_, List.mem_append_left _ hmem, ?_⟩
  · exact (List.mem_append.mp he).elim (hes₂ e) (hes₁ e)
  · rw [h₂, h₁, List.append_assoc]

/-- What buffering records. -/
lemma extends_bufferOutput (w : World) (rest : Bytes) (remaining : ℕ) :
    Extends (·.isBuffering = true) w.history (w.bufferOutput rest remaining).history := by
  obtain ⟨es, hes, -, hhistory⟩ := w.bufferOutput_history rest remaining
  exact ⟨es, hes, hhistory⟩

/-- The rest is appended. -/
@[simp] lemma bufferOutput_outputBuffer_ (w : World) (rest : Bytes) (remaining : ℕ) :
    (w.bufferOutput rest remaining).outputBuffer_ = w.outputBuffer_.append rest := rfl

/-- Writing is enabled unless it is. -/
lemma bufferOutput_channel_ (w : World) (rest : Bytes) (remaining : ℕ) :
    (w.bufferOutput rest remaining).channel_ =
      if w.channel_.isWriting then w.channel_ else w.channel_.enableWriting := rfl

/-- Buffering does not fail. -/
@[simp] lemma bufferOutput_fault (w : World) (rest : Bytes) (remaining : ℕ) :
    (w.bufferOutput rest remaining).fault = w.fault := rfl

/-! ## The branches of `sendInLoop` -/

/-- The worlds that `sendInLoop` may end in. -/
inductive SendInLoop (w : World) (call : ℕ) (data : StdString) (k : Kernel) : World → Prop
  /-- `::write` failed for good, and `LOG_ERROR` does not return. -/
  | fatal (errno : Errno) (idle : w.Idle) (result : k.write = .error errno)
      (hard : errno ≠ EWOULDBLOCK) :
      SendInLoop w call data k
        (((w.log (.sendInLoop call data.data)).log (.write data.data (.error errno))).abort)
  /-- `::write` took everything. -/
  | whole (idle : w.Idle) (result : sysWrite k.write data.size = .ok data.size) :
      SendInLoop w call data k
        (((w.log (.sendInLoop call data.data)).log (.write data.data (.ok data.size))).queueIf
          w.writeCompleteCallback_ .writeCompleteCallback)
  /-- `::write` took the first `n` bytes, and the rest is buffered. -/
  | partly (n : ℕ) (result : IoResult) (idle : w.Idle) (took : Took result n)
      (lt : n < data.size) (write : sysWrite k.write data.size = result) :
      SendInLoop w call data k
        (((w.log (.sendInLoop call data.data)).log (.write data.data result)).bufferOutput
          (data.data.drop n) (data.size - n))
  /-- There was nothing to write, and `::write` would have blocked. -/
  | nothing (idle : w.Idle) (empty : data.data = []) (result : k.write = .error EWOULDBLOCK) :
      SendInLoop w call data k
        ((w.log (.sendInLoop call data.data)).log (.write data.data (.error EWOULDBLOCK)))
  /-- Other bytes are waiting, and there is nothing to add. -/
  | noData (busy : ¬ w.Idle) (empty : data.data = []) :
      SendInLoop w call data k (w.log (.sendInLoop call data.data))
  /-- Other bytes are waiting, and everything is buffered behind them. -/
  | buffered (busy : ¬ w.Idle) (nonempty : data.data ≠ []) :
      SendInLoop w call data k
        ((w.log (.sendInLoop call data.data)).bufferOutput data.data data.size)

/-- `sendInLoop` takes one of its branches. -/
theorem sendInLoop_branch (w : World) (call : ℕ) (data : StdString) (k : Kernel) :
    SendInLoop w call data k (w.sendInLoop call data k) := by
  by_cases hidle : w.Idle
  · have htest : (w.log (.sendInLoop call data.data)).channel_.isWriting = false ∧
        (w.log (.sendInLoop call data.data)).outputBuffer_.readableBytes = 0 := hidle
    simp only [sendInLoop, if_pos htest]
    cases hresult : sysWrite k.write data.size with
    | ok n =>
      have hle : n ≤ data.size := sysWrite_le hresult
      simp only [toSsize_size_sub _ hle, bufferRemaining_eq]
      rcases Nat.lt_or_eq_of_le hle with hlt | rfl
      · have hleft : ((data.size - n : ℕ) : ℤ) ≠ 0 := by omega
        simp only [if_pos hlt, hleft, false_and, decide_false]
        exact .partly n (.ok n) hidle (.inl rfl) hlt hresult
      · have hnone : ((data.size - data.size : ℕ) : ℤ) = 0 := by omega
        simp only [if_neg (Nat.lt_irrefl data.size), hnone, true_and]
        simpa using SendInLoop.whole hidle hresult
    | error errno =>
      have hwrite : k.write = .error errno := by
        cases hk : k.write with
        | ok m => simp [sysWrite, hk, Except.map] at hresult
        | error e => simpa [sysWrite, hk, Except.map] using hresult
      by_cases hhard : errno ≠ EWOULDBLOCK
      · simp only [if_pos hhard]
        exact .fatal errno hidle hwrite hhard
      · obtain rfl : errno = EWOULDBLOCK := not_not.mp hhard
        simp only [if_neg hhard, bufferRemaining_zero]
        by_cases hnil : data.data = []
        · rw [if_pos hnil]
          exact .nothing hidle hnil hwrite
        · rw [if_neg hnil]
          have hpos : 0 < data.size := List.length_pos_iff.mpr hnil
          exact .partly 0 (.error EWOULDBLOCK) hidle (.inr ⟨rfl, rfl⟩) hpos hresult
  · have htest : ¬ ((w.log (.sendInLoop call data.data)).channel_.isWriting = false ∧
        (w.log (.sendInLoop call data.data)).outputBuffer_.readableBytes = 0) := hidle
    simp only [sendInLoop, if_neg htest, bufferRemaining_zero]
    by_cases hnil : data.data = []
    · rw [if_pos hnil]
      exact .noData hidle hnil
    · rw [if_neg hnil]
      exact .buffered hidle hnil

/-! ## The branches of `handleWrite` -/

/-- The world after `::write` took all of `outputBuffer_`: the channel no longer asks for
`EPOLLOUT`. -/
def drained (w : World) : World :=
  (((w.log (.write w.outputBuffer_.readable (.ok w.outputBuffer_.readableBytes))).retrieveOutput
    w.outputBuffer_.readableBytes).disableWriting).queueIf
      w.writeCompleteCallback_ .writeCompleteCallback

/-- `::write` takes all of a nonempty `outputBuffer_`. -/
def Drains (w : World) (k : Kernel) : Prop :=
  0 < w.outputBuffer_.readableBytes ∧
    sysWrite k.write w.outputBuffer_.readableBytes = .ok w.outputBuffer_.readableBytes

instance (w : World) (k : Kernel) : Decidable (w.Drains k) := inferInstanceAs (Decidable (_ ∧ _))

/-- The worlds that `handleWrite` may end in. -/
inductive HandleWrite (w : World) (k : Kernel) : World → Prop
  /-- The channel does not ask for `EPOLLOUT`. -/
  | notWriting (idle : w.channel_.isWriting = false) : HandleWrite w k w
  /-- `::write` took nothing. -/
  | stuck (result : IoResult) (writing : w.channel_.isWriting = true)
      (took : ∀ n, result ≠ .ok (n + 1))
      (write : sysWrite k.write w.outputBuffer_.readableBytes = result) :
      HandleWrite w k (w.log (.write w.outputBuffer_.readable result))
  /-- `::write` took the first `n` bytes. -/
  | partly (n : ℕ) (writing : w.channel_.isWriting = true) (pos : 0 < n)
      (lt : n < w.outputBuffer_.readableBytes)
      (write : sysWrite k.write w.outputBuffer_.readableBytes = .ok n) :
      HandleWrite w k ((w.log (.write w.outputBuffer_.readable (.ok n))).retrieveOutput n)
  /-- `::write` took everything, and nobody wants to half-close. -/
  | drain (writing : w.channel_.isWriting = true) (drains : w.Drains k)
      (open_ : w.state_ ≠ .kDisconnecting) : HandleWrite w k w.drained
  /-- `::write` took everything, and the socket is half-closed. -/
  | drainShutdown (writing : w.channel_.isWriting = true) (drains : w.Drains k)
      (closing : w.state_ = .kDisconnecting) : HandleWrite w k (w.drained.shutdownWrite k)

/-- `handleWrite` takes one of its branches. -/
theorem handleWrite_branch (w : World) (k : Kernel) : HandleWrite w k (w.handleWrite k) := by
  by_cases hwriting : w.channel_.isWriting = true
  · simp only [handleWrite, if_pos hwriting]
    cases hresult : sysWrite k.write w.outputBuffer_.readableBytes with
    | error errno => exact .stuck (.error errno) hwriting (by simp) hresult
    | ok n =>
      have hle : n ≤ w.outputBuffer_.readableBytes := sysWrite_le hresult
      by_cases hpos : 0 < n
      · simp only [if_pos hpos]
        rcases Nat.lt_or_eq_of_le hle with hlt | rfl
        · have hleft : w.outputBuffer_.readableBytes - n ≠ 0 := by omega
          simp only [retrieveOutput_outputBuffer_, log_outputBuffer_,
            Buffer.readableBytes_retrieve, if_neg hleft]
          exact .partly n hwriting hpos hlt hresult
        · simp only [retrieveOutput_outputBuffer_, log_outputBuffer_,
            Buffer.readableBytes_retrieve, Nat.sub_self, if_true]
          by_cases hclosing : w.state_ = .kDisconnecting
          · have h := HandleWrite.drainShutdown hwriting ⟨hpos, hresult⟩ hclosing
            simpa [drained, shutdownInLoop, hclosing] using h
          · have h := HandleWrite.drain hwriting ⟨hpos, hresult⟩ hclosing
            simpa [drained, hclosing] using h
      · simp only [if_neg hpos]
        refine .stuck (.ok n) hwriting (fun m h => ?_) hresult
        obtain rfl := Except.ok.inj h
        omega
  · simp only [handleWrite, if_neg hwriting]
    exact .notWriting (by simpa using hwriting)

/-! ## The branches of `connectDestroyed` -/

/-- An established connection is disconnected, and removed after the user has been told. -/
lemma connectDestroyed_of_connected {w : World} (hstate : w.state_ = .kConnected) :
    w.connectDestroyed =
      (((w.log .connectDestroyed).setState .kDisconnected).disableAll.callback
        w.connectionCallback_ (.connectionCallback false)).continueWith .removeChannel := by
  have hlogged : (w.log .connectDestroyed).state_ = .kConnected := hstate
  rw [connectDestroyed, if_pos hlogged]
  rfl

/-- Any other connection is only removed. -/
lemma connectDestroyed_of_ne {w : World} (hstate : w.state_ ≠ .kConnected) :
    w.connectDestroyed = (w.log .connectDestroyed).removeChannel := by
  have hlogged : (w.log .connectDestroyed).state_ ≠ .kConnected := hstate
  rw [connectDestroyed, if_neg hlogged]

end World

/-! ## The frame -/

/-- The functor only calls back into user code. -/
def Functor.isUserCallback : Functor → Bool
  | .writeCompleteCallback | .highWaterMarkCallback _ => true
  | _ => false

/-- The effects that the output functions have. -/
def Effect.isOutput : Effect → Bool
  | .write _ _ | .append _ | .enableWriting | .shutdownWrite _ => true
  | .queueInLoop f => f.isUserCallback
  | _ => false

/-- `w'` comes from `w` by work on the output side of the connection. -/
structure OutputFrame (w w' : World) : Prop where
  state_ : w'.state_ = w.state_
  todo : w'.todo = w.todo
  functors : w'.functors = w.functors
  threads : w'.threads = w.threads
  strings : w'.strings = w.strings
  sendCalls : w'.sendCalls = w.sendCalls
  pendingFunctors_ : ∃ fs : List Functor, (∀ f ∈ fs, f.isUserCallback = true) ∧
    w'.pendingFunctors_ = w.pendingFunctors_ ++ fs
  history : Extends (·.isOutput = true) w.history w'.history

namespace OutputFrame

variable {w w₁ w₂ : World}

/-- Nothing happens. -/
lemma refl (w : World) : OutputFrame w w :=
  ⟨rfl, rfl, rfl, rfl, rfl, rfl, ⟨[], by simp, by simp⟩, .refl _⟩

/-- Two such steps after each other. -/
lemma trans (h₁ : OutputFrame w w₁) (h₂ : OutputFrame w₁ w₂) : OutputFrame w w₂ := by
  obtain ⟨fs₁, hfs₁, hpending₁⟩ := h₁.pendingFunctors_
  obtain ⟨fs₂, hfs₂, hpending₂⟩ := h₂.pendingFunctors_
  refine ⟨h₂.state_.trans h₁.state_, h₂.todo.trans h₁.todo, h₂.functors.trans h₁.functors,
    h₂.threads.trans h₁.threads, h₂.strings.trans h₁.strings, h₂.sendCalls.trans h₁.sendCalls,
    ⟨fs₁ ++ fs₂, ?_, ?_⟩, h₁.history.trans h₂.history⟩
  · intro f hf
    exact (List.mem_append.mp hf).elim (hfs₁ f) (hfs₂ f)
  · rw [hpending₂, hpending₁, List.append_assoc]

/-- An effect that the output functions do not have has happened as often as before. -/
lemma count_eq (h : OutputFrame w w₁) {e : Effect} (he : e.isOutput = false) :
    w₁.history.count e = w.history.count e :=
  h.history.count_eq (by simp [he])

/-- The record of everything but output stays the same. -/
lemma mem_history (h : OutputFrame w w₁) {e : Effect} (he : e.isOutput = false) :
    e ∈ w₁.history ↔ e ∈ w.history :=
  h.history.mem_iff (by simp [he])

/-- A functor that is not a user callback is queued when it was before. -/
lemma mem_pendingFunctors (h : OutputFrame w w₁) {f : Functor} (hf : f.isUserCallback = false) :
    f ∈ w₁.pendingFunctors_ ↔ f ∈ w.pendingFunctors_ := by
  obtain ⟨fs, hfs, hpending⟩ := h.pendingFunctors_
  have hnone : f ∉ fs := fun hmem => by simp [hfs f hmem] at hf
  rw [hpending, List.mem_append]
  simp [hnone]

/-- Output is recorded. -/
lemma of_log (w : World) (e : Effect) (he : e.isOutput = true) : OutputFrame w (w.log e) :=
  ⟨rfl, rfl, rfl, rfl, rfl, rfl, ⟨[], by simp, by simp⟩, .cons he⟩

/-- A user callback is queued if it is set. -/
lemma of_queueIf (w : World) (condition : Bool) {f : Functor} (hf : f.isUserCallback = true) :
    OutputFrame w (w.queueIf condition f) := by
  cases condition with
  | true =>
    exact ⟨rfl, rfl, rfl, rfl, rfl, rfl, ⟨[f], by simpa using hf, by simp⟩, .cons hf⟩
  | false => exact refl w

/-- Output is buffered. -/
lemma of_bufferOutput (w : World) (rest : Bytes) (remaining : ℕ) :
    OutputFrame w (w.bufferOutput rest remaining) := by
  refine ⟨rfl, rfl, rfl, rfl, rfl, rfl, (of_queueIf w _ (by rfl)).pendingFunctors_,
    (w.extends_bufferOutput rest remaining).mono fun e hbuffering => ?_⟩
  unfold Effect.isBuffering at hbuffering
  split at hbuffering <;> simp_all [Effect.isOutput, Functor.isUserCallback]

/-- The socket is half-closed. -/
lemma of_shutdownWrite (w : World) (k : Kernel) : OutputFrame w (w.shutdownWrite k) :=
  ⟨rfl, rfl, rfl, rfl, rfl, rfl, ⟨[], by simp, by simp⟩, .cons rfl⟩

/-- The output has been drained. -/
lemma of_drained (w : World) : OutputFrame w w.drained := by
  have hwrite := of_log w (.write w.outputBuffer_.readable (.ok w.outputBuffer_.readableBytes)) rfl
  refine (hwrite.trans ?_).trans (of_queueIf _ _ rfl)
  exact ⟨rfl, rfl, rfl, rfl, rfl, rfl, ⟨[], by simp, by simp⟩, .refl _⟩

/-- `shutdownInLoop` half-closes the socket or waits. -/
lemma of_shutdownInLoop (w : World) (k : Kernel) : OutputFrame w (w.shutdownInLoop k) := by
  unfold World.shutdownInLoop
  split
  · exact refl w
  · exact of_shutdownWrite w k

end OutputFrame

namespace World

variable {w w' : World} {k : Kernel}

/-- After it has been entered, `sendInLoop` works on the output side. -/
theorem SendInLoop.frame {call : ℕ} {data : StdString} (h : SendInLoop w call data k w') :
    OutputFrame (w.log (.sendInLoop call data.data)) w' := by
  have hwrite (result : IoResult) :=
    OutputFrame.of_log (w.log (.sendInLoop call data.data)) (.write data.data result) rfl
  cases h with
  | fatal errno =>
    refine (hwrite (.error errno)).trans ?_
    exact ⟨rfl, rfl, rfl, rfl, rfl, rfl, ⟨[], by simp, by simp⟩, .refl _⟩
  | whole => exact (hwrite (.ok data.size)).trans (.of_queueIf _ _ rfl)
  | partly n result => exact (hwrite result).trans (.of_bufferOutput _ _ _)
  | nothing => exact hwrite (.error EWOULDBLOCK)
  | noData => exact .refl _
  | buffered => exact .of_bufferOutput _ _ _

/-- `handleWrite` works on the output side. -/
theorem HandleWrite.frame (h : HandleWrite w k w') : OutputFrame w w' := by
  cases h with
  | notWriting => exact .refl w
  | stuck result => exact .of_log w (.write w.outputBuffer_.readable result) rfl
  | partly n =>
    refine (OutputFrame.of_log w (.write w.outputBuffer_.readable (.ok n)) rfl).trans ?_
    exact ⟨rfl, rfl, rfl, rfl, rfl, rfl, ⟨[], by simp, by simp⟩, .refl _⟩
  | drain => exact .of_drained w
  | drainShutdown => exact (OutputFrame.of_drained w).trans (.of_shutdownWrite _ k)

end World

end SimpleMuduo
