import SimpleMuduo.TcpConnection.LifecycleSteps
import SimpleMuduo.TcpConnection.OutputStream
import SimpleMuduo.TcpConnection.QueueSteps

/-!
# What a deferred `send` transmits

On another thread than the loop thread, `send(buf)` captures `buf.c_str()` and `buf.size()`, not
the characters.  The `sendInLoop` functor reads them when it is run, so it transmits what the string
holds then.  The runs in which every `sendInLoop` gets the bytes of its `send` are exactly the runs
in which every captured string holds these bytes again when its functor is run; this is so in
particular when the callers leave their strings alone until then.  The connection object stays alive
until its functors have been run, because its users keep their `TcpConnectionPtr`.
-/

namespace SimpleMuduo

namespace World

variable {w w' : World} {e : Event} {call : ℕ} {buf : StringRef} {len : ℕ}

/-- `send` number `call` has captured `buf.c_str()` and `buf.size()`, and its `sendInLoop` has not
been run yet. -/
def Captured (w : World) (call : ℕ) (buf : StringRef) (len : ℕ) : Prop :=
  .sendInLoop call buf len ∈ w.queued ∨ ∃ t, w.threads t = .send call buf len

lemma captured_iff_deferred : w.Captured call buf len ↔ w.Deferred (.sendInLoop call buf len) := by
  simp only [Captured, Deferred, ThreadPc.functor_eq_sendInLoop]

lemma captured_of_functors {rest : List Functor}
    (h : w.functors = .sendInLoop call buf len :: rest) : w.Captured call buf len :=
  captured_iff_deferred.mpr (deferred_of_functors h)

lemma not_captured_established (cfg : Config) : ¬ cfg.established.Captured call buf len :=
  captured_iff_deferred.not.mpr (not_deferred_established cfg)

/-- A string is captured by a `send` that finds the connection established. -/
theorem QueueStep.captured (h : QueueStep w e w') (hcaptured : w'.Captured call buf len) :
    w.Captured call buf len ∨ w.state_ = .kConnected ∧ ∃ t, e = .sendLoad t buf ∧
      w' = w.beginSend t buf ∧ call = w.sendCalls ∧ len = (w.strings buf).size := by
  rw [captured_iff_deferred] at hcaptured ⊢
  rcases h.deferred rfl hcaptured with hold | ⟨t, buf', rfl, hstate, rfl, hnew⟩ | ⟨t, -, -, hnew⟩
  · exact .inl hold
  · obtain ⟨rfl, rfl, rfl⟩ := Functor.sendInLoop.inj hnew
    exact .inr ⟨hstate, t, rfl, rfl, rfl, rfl⟩
  · cases hnew

/-- Only the callers change their strings. -/
theorem QueueStep.strings (h : QueueStep w e w') :
    w'.strings = w.strings ∨ ∃ t buf contents, e = .assign t buf contents ∧
      contents.size = (w.strings buf).size ∧
        w'.strings = Function.update w.strings buf contents := by
  cases h with
  | quiet h => exact .inl h.strings
  | @assign t buf contents size => exact .inr ⟨t, buf, contents, rfl, size, rfl⟩
  | loopSend connected after returned =>
    rcases returned with rfl | rfl <;> exact .inl after.strings
  | sendInLoop functors after => exact .inl after.strings
  | sendLoad | sendPush | shutdownStore | shutdownPush => exact .inl rfl

lemma QueueStep.size_strings (h : QueueStep w e w') (buf : StringRef) :
    (w'.strings buf).size = (w.strings buf).size := by
  rcases h.strings with heq | ⟨t, buf', contents, -, hsize, heq⟩
  · rw [heq]
  · by_cases hbuf : buf = buf'
    · subst hbuf
      rw [heq, Function.update_self, hsize]
    · rw [heq, Function.update_of_ne hbuf]

/-- A step numbers at most one call of `send`. -/
theorem QueueStep.sendCalled (h : QueueStep w e w') :
    w.sendCalls ≤ w'.sendCalls ∧ ∃ value, ∀ c v, .sendCalled c v ∈ w'.history →
      .sendCalled c v ∈ w.history ∨ c = w.sendCalls ∧ c < w'.sendCalls ∧ v = value := by
  cases h with
  | quiet h => exact ⟨h.sendCalls.ge, [], fun c v hmem => .inl ((h.mem_history rfl).mp hmem)⟩
  | @sendLoad t buf =>
    refine ⟨Nat.le_succ _, (w.strings buf).data, fun c v hmem => ?_⟩
    rcases List.mem_cons.mp hmem with hnew | hold
    · obtain ⟨rfl, rfl⟩ := Effect.sendCalled.inj hnew
      exact .inr ⟨rfl, Nat.lt_succ_self _, rfl⟩
    · exact .inl hold
  | @loopSend buf k v _ connected after returned =>
    have hcalls : w'.sendCalls = w.sendCalls + 1 := by
      rcases returned with rfl | rfl <;> exact after.sendCalls
    refine ⟨hcalls ▸ Nat.le_succ _, buf.data, fun c value hmem => ?_⟩
    have hcalled : .sendCalled c value ∈ v.history := by
      rcases returned with rfl | rfl
      · exact hmem
      · simpa using hmem
    rw [after.mem_history rfl] at hcalled
    have hnew : c = w.sendCalls ∧ value = buf.data ∨ .sendCalled c value ∈ w.history := by
      simpa using hcalled
    exact hnew.symm.imp_right fun h => ⟨h.1, by simp [h.1, hcalls], h.2⟩
  | @sendInLoop call buf len rest k _ functors after =>
    have hcalls : w'.sendCalls = w.sendCalls := after.sendCalls
    refine ⟨hcalls.ge, [], fun c v hmem => .inl ?_⟩
    rw [after.mem_history rfl] at hmem
    simpa using hmem
  | sendPush | shutdownStore | shutdownPush | assign =>
    exact ⟨le_rfl, [], fun c v hmem => .inl (by simpa using hmem)⟩

/-- `sendInLoop` gets the bytes of its call on the loop thread, and what the string holds from the
queue. -/
theorem QueueStep.sendInLoop_data {data : Bytes} (h : QueueStep w e w')
    (hmem : .sendInLoop call data ∈ w'.history) :
    .sendInLoop call data ∈ w.history ∨ .sendCalled call data ∈ w'.history ∨
      ∃ k buf len rest, e = .runFunctor k ∧ w.functors = .sendInLoop call buf len :: rest ∧
        data = ((w.strings buf).take len).data := by
  cases h with
  | quiet h => exact .inl ((h.mem_history rfl).mp hmem)
  | @loopSend buf k v _ connected after returned =>
    have hkept {d : Effect} (hd : d ≠ .sendReturned w.sendCalls) : d ∈ v.history ↔
        d ∈ w'.history := by
      rcases returned with rfl | rfl
      · exact Iff.rfl
      · simp [hd]
    have hentered := (hkept (by simp)).mpr hmem
    rw [after.mem_history rfl] at hentered
    rcases List.mem_cons.mp hentered with hnew | hold
    · obtain ⟨rfl, rfl⟩ := Effect.sendInLoop.inj hnew
      refine .inr (.inl ((hkept (by simp)).mp ?_))
      rw [after.mem_history rfl]
      simp
    · exact .inl (by simpa using hold)
  | @sendInLoop call' buf len rest k _ functors after =>
    rw [after.mem_history rfl] at hmem
    rcases List.mem_cons.mp hmem with hnew | hold
    · obtain ⟨rfl, rfl⟩ := Effect.sendInLoop.inj hnew
      exact .inr (.inr ⟨k, buf, len, rest, rfl, functors, rfl⟩)
    · exact .inl hold
  | sendLoad => exact .inl (by simpa [beginSend] using hmem)
  | sendPush | shutdownStore | shutdownPush | assign => exact .inl (by simpa using hmem)

/-! ## The bytes of the calls -/

/-- What `sendInLoop` writes or buffers is what `buf` held when `send` was called. -/
structure SentAsCalled (w : World) : Prop where
  called : ∀ call data, .sendInLoop call data ∈ w.history →
    ∀ value, .sendCalled call value ∈ w.history ↔ value = data
  stream : w.fault = none →
    acceptedBytes w.history ++ w.outputBuffer_.readable = passedBytes w.history

/-- When a `sendInLoop` functor is run, the string it refers to holds what it held when `send` was
called. -/
def FindsUnchanged (w : World) : Event → Prop
  | .runFunctor _ => ∀ call buf len rest, w.functors = .sendInLoop call buf len :: rest →
      .sendCalled call (w.strings buf).data ∈ w.history
  | _ => True

/-- No thread assigns other contents to a captured string. -/
def KeepsCaptured (w : World) : Event → Prop
  | .assign _ buf contents =>
    (∃ call len, w.Captured call buf len) → contents.data = (w.strings buf).data
  | _ => True

/-- Every call of `send` has its own number, and a captured string keeps its size. -/
structure CaptureInv (w : World) : Prop where
  size : ∀ call buf len, w.Captured call buf len → (w.strings buf).size = len
  fresh : ∀ call value, .sendCalled call value ∈ w.history → call < w.sendCalls
  unique : ∀ call value value', .sendCalled call value ∈ w.history →
    .sendCalled call value' ∈ w.history → value = value'

namespace CaptureInv

/-- Every step keeps the invariant. -/
theorem step (hw : CaptureInv w) (h : Step w e w') : CaptureInv w' := by
  obtain ⟨hle, value, hcalled⟩ := h.queueStep.sendCalled
  refine ⟨fun call buf len hcaptured => ?_, fun c v hmem => ?_, fun c v v' hmem hmem' => ?_⟩
  · rw [h.queueStep.size_strings]
    rcases h.queueStep.captured hcaptured with hold | ⟨-, t, -, -, -, hlen⟩
    · exact hw.size call buf len hold
    · exact hlen.symm
  · rcases hcalled c v hmem with hold | ⟨-, hlt, -⟩
    · exact (hw.fresh c v hold).trans_le hle
    · exact hlt
  · rcases hcalled c v hmem with hold | ⟨heq, -, hv⟩ <;>
      rcases hcalled c v' hmem' with hold' | ⟨heq', -, hv'⟩
    · exact hw.unique c v v' hold hold'
    · exact absurd (hw.fresh c v hold) (heq' ▸ lt_irrefl _)
    · exact absurd (hw.fresh c v' hold') (heq ▸ lt_irrefl _)
    · rw [hv, hv']

lemma established (cfg : Config) : CaptureInv cfg.established := by
  refine ⟨fun call buf len hcaptured => ?_, ?_, ?_⟩
  · exact absurd hcaptured (not_captured_established cfg)
  · simp [cfg.established_history]
  · simp [cfg.established_history]

/-- The functor that is run reads the whole string. -/
lemma take_data (hw : CaptureInv w) {rest : List Functor}
    (hfunctors : w.functors = .sendInLoop call buf len :: rest) :
    ((w.strings buf).take len).data = (w.strings buf).data := by
  have hlen := hw.size call buf len (captured_of_functors hfunctors)
  exact List.take_of_length_le hlen.le

end CaptureInv

/-- Every `sendInLoop` so far has got the bytes of its call. -/
structure SentInv (w : World) : Prop where
  capture : CaptureInv w
  stream : w.fault = none → StreamInv w
  called : ∀ call data, .sendInLoop call data ∈ w.history → .sendCalled call data ∈ w.history

namespace SentInv

lemma sentAsCalled (hw : SentInv w) : w.SentAsCalled := by
  constructor
  · intro call data hmem value
    constructor
    · intro hvalue
      exact hw.capture.unique call value data hvalue (hw.called call data hmem)
    · rintro rfl
      exact hw.called call value hmem
  · intro hfault
    exact (hw.stream hfault).stream

/-- Every step that meets the condition keeps the invariant. -/
theorem step (hw : SentInv w) (h : Step w e w') (hfault : w.fault = none)
    (hok : w.FindsUnchanged e) : SentInv w' := by
  refine ⟨hw.capture.step h, (hw.stream hfault).step h.outputStep, fun call data hmem => ?_⟩
  rcases h.queueStep.sendInLoop_data hmem with
    hold | hcalled | ⟨k, buf, len, rest, rfl, hrun, hdata⟩
  · exact h.suffix.subset (hw.called call data hold)
  · exact hcalled
  · rw [hdata, hw.capture.take_data hrun]
    exact h.suffix.subset (hok call buf len rest hrun)

/-- A step that does not meet the condition passes other bytes on. -/
theorem not_sentAsCalled (hw : SentInv w) (h : Step w e w') (hnot : ¬ w.FindsUnchanged e) :
    ¬ w'.SentAsCalled := by
  cases e with
  | runFunctor k =>
    simp only [FindsUnchanged, not_forall] at hnot
    obtain ⟨call, buf, len, rest, hfunctors, hchanged⟩ := hnot
    intro hsent
    cases h with
    | refused refuses => exact refuses
    | runFunctor todo functors branch =>
      obtain ⟨rfl, rfl⟩ := List.cons.inj (functors.symm.trans hfunctors)
      cases branch with
      | sendInLoop branch =>
        have hentered : .sendInLoop call ((w.strings buf).take len).data ∈ w'.history :=
          (branch.frame.mem_history rfl).mpr List.mem_cons_self
        have hcalled := (hsent.called call _ hentered _).mpr rfl
        rw [branch.frame.mem_history rfl, hw.capture.take_data hfunctors] at hcalled
        exact hchanged (by simpa using hcalled)
      | userCallback callback => simp [Functor.isUserCallback] at callback
  | _ => exact absurd trivial hnot

lemma established (cfg : Config) : SentInv cfg.established := by
  refine ⟨CaptureInv.established cfg, fun _ => StreamInv.established cfg, fun call data hmem => ?_⟩
  cases hmem with
  | tail _ hmem => cases hmem with
    | tail _ hmem => cases hmem

end SentInv

/-- Every captured string holds the bytes of its call. -/
def CapturesUnchanged (w : World) : Prop :=
  ∀ call buf len, w.Captured call buf len → .sendCalled call (w.strings buf).data ∈ w.history

lemma capturesUnchanged_step (hw : w.CapturesUnchanged) (h : Step w e w')
    (hok : w.KeepsCaptured e) : w'.CapturesUnchanged := by
  intro call buf len hcaptured
  rcases h.queueStep.captured hcaptured with hold | ⟨-, t, rfl, rfl, rfl, -⟩
  · have hcalled := h.suffix.subset (hw call buf len hold)
    rcases h.queueStep.strings with heq | ⟨t, buf', contents, rfl, -, heq⟩
    · rwa [heq]
    · by_cases hbuf : buf = buf'
      · subst hbuf
        rwa [heq, Function.update_self, hok ⟨call, len, hold⟩]
      · rwa [heq, Function.update_of_ne hbuf]
  · exact List.mem_cons_self

/-- A run in which no captured string is changed finds every captured string unchanged. -/
theorem findsUnchanged_of_keepsCaptured (cfg : Config) {es : List Event}
    (hmeets : Meets World.step World.KeepsCaptured cfg.established es) :
    Meets World.step World.FindsUnchanged cfg.established es := by
  have hstart : cfg.established.CapturesUnchanged :=
    fun _ _ _ hcaptured => absurd hcaptured (not_captured_established cfg)
  refine hmeets.imp_of_invariant
    (fun v e v' hv hok he => capturesUnchanged_step hv (step_eq_some he).2 hok) ?_ hstart
  rintro v e hv -
  cases e with
  | runFunctor k =>
    intro call buf len rest hfunctors
    exact hv call buf len (captured_of_functors hfunctors)
  | _ => trivial

end World

/-- The runs in which every `sendInLoop` writes or buffers the bytes that `buf` held when `send` was
called are the runs in which every `sendInLoop` functor finds these bytes in the string it refers
to. -/
theorem sent_as_called_iff (cfg : Config) (es : List Event) :
    Always World.step World.SentAsCalled cfg.established es ↔
      Meets World.step World.FindsUnchanged cfg.established es :=
  always_iff_meets
    (fun _ _ _ hw hok he => hw.step (World.step_eq_some he).2 (World.step_eq_some he).1 hok)
    (fun _ hw => hw.sentAsCalled)
    (fun _ _ _ hw hnot he => hw.not_sentAsCalled (World.step_eq_some he).2 hnot)
    (World.SentInv.established cfg)

/-- Thread 1 sends `hi` and assigns `ho` to its string before the functor is run. -/
theorem not_sent_as_called :
    ¬ ∀ (cfg : Config) (es : List Event) (w : World), Runs cfg es w → w.SentAsCalled := by
  have hrun : ∃ w, exec World.step Config.single.established
      [.sendLoad 1 0, .sendPush 1, .assign 1 0 ⟨[104, 111], by decide⟩, .swap,
        .runFunctor (.ready [])] = some w ∧
      .sendInLoop 0 [104, 111] ∈ w.history ∧ .sendCalled 0 [104, 105] ∈ w.history :=
    exists_exec_of_any (by decide +kernel)
  obtain ⟨w, hrun, hentered, hcalled⟩ := hrun
  intro h
  have hsame := ((h _ _ w hrun).called 0 [104, 111] hentered [104, 105]).mp hcalled
  simp at hsame

end SimpleMuduo
