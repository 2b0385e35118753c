import SimpleMuduo.TcpConnection.OutputSteps

/-!
# The output is a byte stream

What the kernel has accepted so far, followed by what `outputBuffer_` still holds, is what has
been passed to `sendInLoop`: nothing is lost, duplicated or reordered, whatever the results of
`::write` are.  The law holds in every state of every run before a fault; in particular it holds
after any sequence of `sendInLoop` and `handleWrite` calls on a connected connection.  When
`writeCompleteCallback_` is queued, nothing is left in the buffer.
-/

namespace SimpleMuduo

/-- The bytes that a `::write` handed to the kernel. -/
def Effect.accepted : Effect → Bytes
  | .write data (.ok n) => data.take n
  | _ => []

/-- The bytes that `sendInLoop` was called with. -/
def Effect.passed : Effect → Bytes
  | .sendInLoop _ data => data
  | _ => []

/-- The effect neither accepts nor passes bytes, and does not queue `writeCompleteCallback_`. -/
def Effect.LeavesStream (e : Effect) : Prop :=
  e.accepted = [] ∧ e.passed = [] ∧ e ≠ .queueInLoop .writeCompleteCallback

/-- All bytes that the kernel has accepted. -/
def acceptedBytes (h : List Effect) : Bytes := collect Effect.accepted h

/-- All bytes that have been passed to `sendInLoop`. -/
def passedBytes (h : List Effect) : Bytes := collect Effect.passed h

/-- The output of the connection is intact. -/
structure StreamInv (w : World) : Prop where
  stream : acceptedBytes w.history ++ w.outputBuffer_.readable = passedBytes w.history
  /-- Whenever `writeCompleteCallback_` was queued, everything had been accepted. -/
  completed : Whenever (· = .queueInLoop .writeCompleteCallback)
    (fun past => acceptedBytes past = passedBytes past) w.history

@[simp] lemma acceptedBytes_cons (e : Effect) (h : List Effect) :
    acceptedBytes (e :: h) = acceptedBytes h ++ e.accepted := rfl

@[simp] lemma passedBytes_cons (e : Effect) (h : List Effect) :
    passedBytes (e :: h) = passedBytes h ++ e.passed := rfl

namespace StreamInv

variable {w w' : World}

lemma established (cfg : Config) : StreamInv cfg.established := by
  have hempty : cfg.established.outputBuffer_.readable = [] := Buffer.readable_new kInitialSize
  refine ⟨?_, ?_⟩
  · rw [hempty, cfg.established_history]
    rfl
  · rw [cfg.established_history]
    simp

/-- With nothing in the buffer, everything passed has been accepted. -/
lemma accepted_eq (hw : StreamInv w) (hempty : w.outputBuffer_.readable = []) :
    acceptedBytes w.history = passedBytes w.history := by
  simpa [hempty] using hw.stream

/-- What does not move output and queues no `writeCompleteCallback_` keeps the output intact. -/
lemma of_extends (hw : StreamInv w) (hbuffer : w'.outputBuffer_ = w.outputBuffer_)
    (hext : Extends Effect.LeavesStream w.history w'.history) : StreamInv w' := by
  constructor
  · rw [hbuffer, acceptedBytes, hext.collect_eq fun e he => he.1, passedBytes,
      hext.collect_eq fun e he => he.2.1]
    exact hw.stream
  · exact (hext.whenever_iff fun e he => he.2.2).mpr hw.completed

/-- `writeCompleteCallback_` may be queued when nothing is left in the buffer. -/
lemma queueIf (hw : StreamInv w) (hempty : w.outputBuffer_.readable = []) (condition : Bool) :
    StreamInv (w.queueIf condition .writeCompleteCallback) := by
  cases condition with
  | false => exact ⟨hw.stream, hw.completed⟩
  | true =>
    refine ⟨?_, fun _ => hw.accepted_eq hempty, hw.completed⟩
    simpa [Effect.accepted, Effect.passed] using hw.stream

end StreamInv

namespace World

variable {w w' : World} {k : Kernel}

lemma passedBytes_queueIf (w : World) (condition : Bool) (f : Functor) :
    passedBytes (w.queueIf condition f).history = passedBytes w.history := by
  cases condition <;> simp [Effect.passed]

lemma leavesStream_of_isBuffering {e : Effect} (h : e.isBuffering = true) : e.LeavesStream := by
  refine ⟨?_, ?_, ?_⟩
  · cases e <;> simp_all [Effect.isBuffering, Effect.accepted]
  · cases e <;> simp_all [Effect.isBuffering, Effect.passed]
  · rintro rfl
    simp [Effect.isBuffering] at h

lemma passedBytes_bufferOutput (w : World) (rest : Bytes) (remaining : ℕ) :
    passedBytes (w.bufferOutput rest remaining).history = passedBytes w.history :=
  (w.extends_bufferOutput rest remaining).collect_eq fun _ he =>
    (leavesStream_of_isBuffering he).2.1

/-- Buffering what is left of the bytes passed makes the output intact again. -/
lemma streamInv_bufferOutput {rest : Bytes} {remaining : ℕ}
    (hstream : acceptedBytes w.history ++ (w.outputBuffer_.readable ++ rest) =
      passedBytes w.history)
    (hcompleted : Whenever (· = .queueInLoop .writeCompleteCallback)
      (fun past => acceptedBytes past = passedBytes past) w.history) :
    StreamInv (w.bufferOutput rest remaining) := by
  have hext := (w.extends_bufferOutput rest remaining).mono fun _ => leavesStream_of_isBuffering
  have haccepted : acceptedBytes (w.bufferOutput rest remaining).history =
      acceptedBytes w.history := hext.collect_eq fun _ he => he.1
  constructor
  · rw [passedBytes_bufferOutput, haccepted, bufferOutput_outputBuffer_, Buffer.readable_append]
    exact hstream
  · exact (hext.whenever_iff fun _ he => he.2.2).mpr hcompleted

/-- `sendInLoop` keeps the output intact, unless `::write` failed for good and it aborts. -/
theorem SendInLoop.streamInv {call : ℕ} {data : StdString} (hw : StreamInv w)
    (h : SendInLoop w call data k w') :
    (StreamInv w' ∧ w'.fault = w.fault) ∨
      (w'.fault = some .abort ∧ ∃ errno, k.write = .error errno ∧ errno ≠ EWOULDBLOCK) := by
  have hpassed : acceptedBytes w.history ++ (w.outputBuffer_.readable ++ data.data) =
      passedBytes (w.log (.sendInLoop call data.data)).history := by
    simp [Effect.passed, ← hw.stream]
  cases h with
  | fatal errno idle result hard => exact .inr ⟨rfl, errno, result, hard⟩
  | whole idle =>
    have hempty : w.outputBuffer_.readable = [] := Buffer.readableBytes_eq_zero.mp idle.2
    have hall : data.data.take data.size = data.data := List.take_of_length_le (Nat.le_refl _)
    have hwritten : StreamInv
        ((w.log (.sendInLoop call data.data)).log (.write data.data (.ok data.size))) := by
      refine ⟨?_, by simp, by simp, hw.completed⟩
      simpa [Effect.accepted, Effect.passed, hempty, hall] using hpassed
    exact .inl ⟨hwritten.queueIf hempty _, by simp⟩
  | partly n result idle took lt =>
    have hempty : w.outputBuffer_.readable = [] := Buffer.readableBytes_eq_zero.mp idle.2
    have haccepted : (Effect.write data.data result).accepted = data.data.take n := by
      rcases took with rfl | ⟨rfl, rfl⟩ <;> simp [Effect.accepted]
    have hwritten : acceptedBytes ((w.log (.sendInLoop call data.data)).log
        (.write data.data result)).history = acceptedBytes w.history ++ data.data.take n := by
      rw [log_history, acceptedBytes_cons, haccepted]
      simp [Effect.accepted]
    refine .inl ⟨streamInv_bufferOutput ?_ (by simpa using hw.completed), rfl⟩
    rw [hwritten]
    simpa [Effect.passed, hempty] using hpassed
  | nothing idle empty =>
    refine .inl ⟨⟨?_, by simp, by simp, hw.completed⟩, rfl⟩
    simpa [Effect.accepted, Effect.passed, empty] using hpassed
  | noData busy empty =>
    refine .inl ⟨⟨?_, by simp, hw.completed⟩, rfl⟩
    simpa [Effect.accepted, Effect.passed, empty] using hpassed
  | buffered busy nonempty =>
    refine .inl ⟨streamInv_bufferOutput ?_ (by simpa using hw.completed), rfl⟩
    simpa [Effect.accepted, Effect.passed] using hpassed

/-- Draining the buffer keeps the output intact. -/
lemma streamInv_drained (hw : StreamInv w) : StreamInv w.drained := by
  have hall : w.outputBuffer_.readable.take w.outputBuffer_.readableBytes =
      w.outputBuffer_.readable := List.take_of_length_le (by simp)
  have hnone : w.outputBuffer_.readable.drop w.outputBuffer_.readableBytes = [] :=
    List.drop_of_length_le (by simp)
  have hwritten : StreamInv ((w.log (.write w.outputBuffer_.readable
      (.ok w.outputBuffer_.readableBytes))).retrieveOutput
        w.outputBuffer_.readableBytes).disableWriting := by
    refine ⟨?_, by simp, hw.completed⟩
    simpa [Effect.accepted, Effect.passed, hall, hnone] using hw.stream
  exact hwritten.queueIf (by simp [hnone]) _

/-- `handleWrite` keeps the output intact. -/
theorem HandleWrite.streamInv (hw : StreamInv w) (h : HandleWrite w k w') : StreamInv w' := by
  cases h with
  | notWriting => exact hw
  | stuck result writing took =>
    have hnone : (Effect.write w.outputBuffer_.readable result).accepted = [] := by
      rcases result with errno | n
      · rfl
      · cases n with
        | zero => rfl
        | succ n => exact absurd rfl (took n)
    refine ⟨?_, by simp, hw.completed⟩
    simpa [hnone, Effect.passed] using hw.stream
  | partly n =>
    refine ⟨?_, by simp, hw.completed⟩
    simpa [Effect.accepted, Effect.passed, List.take_append_drop] using hw.stream
  | drain => exact streamInv_drained hw
  | drainShutdown =>
    exact (streamInv_drained hw).of_extends rfl (.cons ⟨rfl, rfl, by simp⟩)

lemma streamInv_shutdownInLoop (hw : StreamInv w) (k : Kernel) :
    StreamInv (w.shutdownInLoop k) := by
  unfold shutdownInLoop
  split_ifs
  · exact hw
  · exact hw.of_extends rfl (.cons ⟨rfl, rfl, by simp⟩)

end World

/-! ## Runs of output calls -/

/-- A result of `::write` that leaves the connection usable: any count, or `EWOULDBLOCK`. -/
inductive WriteOutcome
  | accepts (n : ℕ)
  | wouldBlock

/-- The result as the kernel reports it. -/
def WriteOutcome.result : WriteOutcome → IoResult
  | .accepts n => .ok n
  | .wouldBlock => .error EWOULDBLOCK

/-- A kernel in which `::write` has this outcome. -/
def WriteOutcome.kernel (outcome : WriteOutcome) : Kernel where
  write := outcome.result
  readv := .ok []
  shutdown := none

/-- The calls on the loop thread that move output. -/
inductive OutputCall
  | sendInLoop (call : ℕ) (data : StdString) (outcome : WriteOutcome)
  | handleWrite (outcome : WriteOutcome)

/-- What the call passes to the connection. -/
def OutputCall.data : OutputCall → Bytes
  | .sendInLoop _ data _ => data.data
  | .handleWrite _ => []

namespace World

/-- The connection after one call. -/
def outputCall (w : World) : OutputCall → World
  | .sendInLoop call data outcome => w.sendInLoop call data outcome.kernel
  | .handleWrite outcome => w.handleWrite outcome.kernel

/-- The connection after the calls of the list, in order. -/
def outputCalls (w : World) (calls : List OutputCall) : World := calls.foldl outputCall w

/-- `sendInLoop` passes its bytes on. -/
lemma SendInLoop.passedBytes_eq {w w' : World} {call : ℕ} {data : StdString} {k : Kernel}
    (h : SendInLoop w call data k w') :
    passedBytes w'.history = passedBytes w.history ++ data.data := by
  cases h with
  | fatal | nothing | noData => simp [Effect.passed]
  | whole =>
    rw [passedBytes_queueIf]
    simp [Effect.passed]
  | partly | buffered => simp [passedBytes_bufferOutput, Effect.passed]

/-- `handleWrite` on an established connection passes nothing on and raises no fault. -/
lemma HandleWrite.passedBytes_eq {w w' : World} {k : Kernel} (h : HandleWrite w k w')
    (hstate : w.state_ = .kConnected) :
    passedBytes w'.history = passedBytes w.history ∧ w'.fault = w.fault := by
  cases h with
  | notWriting => exact ⟨rfl, rfl⟩
  | stuck | partly => simp [Effect.passed]
  | drain =>
    refine ⟨?_, rfl⟩
    rw [drained, passedBytes_queueIf]
    simp [Effect.passed]
  | drainShutdown _ _ closing => simp [hstate] at closing

/-- One call on an established connection keeps the output intact, raises no fault, and passes
its bytes on. -/
lemma outputCall_streamInv {w : World} (hw : StreamInv w) (hstate : w.state_ = .kConnected)
    (c : OutputCall) :
    StreamInv (w.outputCall c) ∧ (w.outputCall c).state_ = .kConnected ∧
      (w.outputCall c).fault = w.fault ∧
      passedBytes (w.outputCall c).history = passedBytes w.history ++ c.data := by
  cases c with
  | sendInLoop call data outcome =>
    have hbranch := w.sendInLoop_branch call data outcome.kernel
    rcases hbranch.streamInv hw with ⟨hinv, hfault⟩ | ⟨-, errno, hwrite, hhard⟩
    · exact ⟨hinv, hbranch.frame.state_.trans hstate, hfault, hbranch.passedBytes_eq⟩
    · cases outcome with
      | accepts n => simp [WriteOutcome.kernel, WriteOutcome.result] at hwrite
      | wouldBlock => exact absurd (Except.error.inj hwrite).symm hhard
  | handleWrite outcome =>
    have hbranch := w.handleWrite_branch outcome.kernel
    obtain ⟨hpassed, hfault⟩ := hbranch.passedBytes_eq hstate
    have hnone : OutputCall.data (.handleWrite outcome) = [] := rfl
    refine ⟨hbranch.streamInv hw, hbranch.frame.state_.trans hstate, hfault, ?_⟩
    rw [hnone, List.append_nil]
    exact hpassed

/-- Any number of calls on an established connection keeps the output intact, raises no fault, and
passes the bytes on in the order of the calls. -/
lemma outputCalls_streamInv {w : World} (hw : StreamInv w) (hstate : w.state_ = .kConnected)
    (calls : List OutputCall) :
    StreamInv (w.outputCalls calls) ∧ (w.outputCalls calls).state_ = .kConnected ∧
      (w.outputCalls calls).fault = w.fault ∧
      passedBytes (w.outputCalls calls).history =
        passedBytes w.history ++ calls.flatMap OutputCall.data := by
  induction calls generalizing w with
  | nil => exact ⟨hw, hstate, rfl, by simp [outputCalls]⟩
  | cons c calls ih =>
    obtain ⟨hinv, hstate', hfault, hpassed⟩ := outputCall_streamInv hw hstate c
    obtain ⟨hinv', hstate'', hfault', hpassed'⟩ := ih hinv hstate'
    refine ⟨hinv', hstate'', hfault'.trans hfault, hpassed'.trans ?_⟩
    rw [hpassed, List.append_assoc, List.flatMap_cons]

end World

/-- On an established connection, after any sequence of `sendInLoop` and `handleWrite` calls with
any results of `::write` short of an error, the bytes accepted by the kernel followed by the
content of `outputBuffer_` are the bytes passed to the calls, in order; and whenever
`writeCompleteCallback_` was queued, all bytes passed until then had been accepted. -/
theorem output_stream_intact (cfg : Config) (calls : List OutputCall) :
    (cfg.established.outputCalls calls).fault = cfg.established.fault ∧
    acceptedBytes (cfg.established.outputCalls calls).history ++
        (cfg.established.outputCalls calls).outputBuffer_.readable =
      calls.flatMap OutputCall.data ∧
    ∀ past, .queueInLoop .writeCompleteCallback :: past <:+
        (cfg.established.outputCalls calls).history →
      acceptedBytes past = passedBytes past := by
  have hstate : cfg.established.state_ = .kConnected := rfl
  have hnothing : passedBytes cfg.established.history = [] := rfl
  obtain ⟨hinv, -, hfault, hpassed⟩ :=
    World.outputCalls_streamInv (StreamInv.established cfg) hstate calls
  rw [hnothing, List.nil_append] at hpassed
  refine ⟨hfault, hinv.stream.trans hpassed, fun past hpast => ?_⟩
  exact whenever_iff.mp hinv.completed _ past hpast rfl

/-! ## Runs of the system -/

/-- What does not move output keeps it intact. -/
lemma StreamInv.untouched {w w' : World} (hw : StreamInv w) (h : Untouched w w') :
    StreamInv w' := by
  refine hw.of_extends h.outputBuffer_ (h.history.mono fun e hquiet => ?_)
  refine ⟨?_, ?_, ?_⟩
  · cases e <;> simp_all [Effect.movesOutput, Effect.accepted]
  · cases e <;> simp_all [Effect.movesOutput, Effect.passed]
  · rintro rfl
    simp [Effect.movesOutput, Functor.isUserCallback] at hquiet

/-- A step that does not fault keeps the output intact. -/
lemma StreamInv.step {w w' : World} {e : Event} (hw : StreamInv w) (h : World.OutputStep w e w')
    (hfault : w'.fault = none) : StreamInv w' := by
  have hlog {v : World} (hv : StreamInv v) (call : ℕ) : StreamInv (v.log (.sendReturned call)) :=
    hv.untouched (.of_log v _ rfl (by simp))
  have hsend {v v' : World} {call : ℕ} {data : StdString} {k : Kernel} (hv : StreamInv v)
      (hv' : World.SendInLoop v call data k v') (hnone : v'.fault = none) : StreamInv v' := by
    rcases hv'.streamInv hv with ⟨hinv, -⟩ | ⟨habort, -⟩
    · exact hinv
    · simp [hnone] at habort
  have hcall (data : Bytes) : StreamInv (w.callSend data) := by
    have hcalled := hw.untouched (.of_log w (.sendCalled w.sendCalls data) rfl (by simp))
    exact ⟨hcalled.stream, hcalled.completed⟩
  have htodo (rest : List Call) : StreamInv (w.setTodo rest) := ⟨hw.stream, hw.completed⟩
  have hfunctors (rest : List Functor) : StreamInv (w.setFunctors rest) :=
    ⟨hw.stream, hw.completed⟩
  cases h with
  | untouched h => exact hw.untouched h
  | loopSend connected branch hnone => exact hlog (hsend (hcall _) branch hnone) _
  | loopSendFault connected branch hsome => exact absurd hfault hsome
  | loopShutdown =>
    have hcalled := hw.untouched (.of_log w .shutdownCalled rfl (by simp))
    exact World.streamInv_shutdownInLoop (hcalled.untouched (.of_kDisconnecting _)) _
  | handleWrite todo branch =>
    exact branch.streamInv (htodo _)
  | sendInLoop functors branch => exact hsend (hfunctors _) branch hfault
  | shutdownInLoop => exact World.streamInv_shutdownInLoop (hfunctors _) _

/-- In every state before a fault the output is intact. -/
theorem streamInv_of_runs {cfg : Config} {es : List Event} {w : World} (hrun : Runs cfg es w)
    (hfault : w.fault = none) : StreamInv w := by
  have hstep : ∀ (v : World) (e : Event) (v' : World), (v.fault = none → StreamInv v) →
      v.step e = some v' → v'.fault = none → StreamInv v' := by
    intro v e v' hv he hnone
    obtain ⟨hv', hstep⟩ := World.step_eq_some he
    exact (hv hv').step hstep.outputStep hnone
  exact invariant_of_exec hstep (fun _ => StreamInv.established cfg) hrun hfault

end SimpleMuduo
