import SimpleMuduo.TcpConnection.OutputSteps

/-!
# The high-water mark

`sendInLoop` queues `highWaterMarkCallback_` when it finds `outputBuffer_` below the mark and leaves
it at the mark or above.  Nothing but `handleWrite` makes `outputBuffer_` shorter, so between two
such steps there is a `handleWrite` that takes it below the mark again.

The test adds the old length and the number of remaining bytes in `size_t`.  The sum is the new
length of `outputBuffer_`, which its vector has to hold, so it does not wrap in a step that
returns.
-/

namespace SimpleMuduo

/-- The argument of a `highWaterMarkCallback_` that is queued. -/
def Effect.highWaterArgument : Effect → List ℕ
  | .queueInLoop (.highWaterMarkCallback len) => [len]
  | _ => []

namespace World

/-- The arguments of the `highWaterMarkCallback_` calls that have been queued, in their order. -/
def highWaterCalls (w : World) : List ℕ := collect Effect.highWaterArgument w.history

/-- `outputBuffer_.readableBytes()`. -/
def outputLength (w : World) : ℕ := w.outputBuffer_.readableBytes

/-- The step runs `sendInLoop`. -/
def RunsSendInLoop (w : World) : Event → Prop
  | .loopSend _ _ => w.state_ = .kConnected
  | .runFunctor _ => ∃ call buf len rest, w.functors = .sendInLoop call buf len :: rest
  | _ => False

/-- The step runs `handleWrite`. -/
def RunsHandleWrite (w : World) : Event → Prop
  | .runCall _ => ∃ rest, w.todo = .handleWrite :: rest
  | _ => False

/-- The output becomes longer than the mark allows. -/
def CrossesHighWater (w w' : World) : Prop :=
  w.outputLength < w.highWaterMark_ ∧ w.highWaterMark_ ≤ w'.outputLength

instance (w w' : World) : Decidable (w.CrossesHighWater w') := inferInstanceAs (Decidable (_ ∧ _))

/-- One step that returns: `std::vector::resize` throws when `outputBuffer_` would become larger
than the largest object. -/
def stepWithin (w : World) (e : Event) : Option World :=
  (w.step e).filter fun w' => w'.outputBuffer_.buffer_.length ≤ maxObjectSize

/-! ## What the output functions queue -/

section Branches

variable {w w' : World} {k : Kernel}

/-- Any other effect leaves the calls alone. -/
lemma highWaterCalls_log (w : World) {e : Effect} (he : e.highWaterArgument = []) :
    (w.log e).highWaterCalls = w.highWaterCalls := by
  rw [highWaterCalls, log_history, collect_cons, he, List.append_nil, highWaterCalls]

/-- A functor that is queued counts when it is the callback. -/
lemma highWaterCalls_queueIf (w : World) (condition : Bool) (f : Functor) :
    (w.queueIf condition f).highWaterCalls = w.highWaterCalls ++
      if condition = true then (Effect.queueInLoop f).highWaterArgument else [] := by
  cases condition with
  | true => rfl
  | false => exact (List.append_nil _).symm

lemma highWaterCalls_queueIf_writeComplete (w : World) (condition : Bool) :
    (w.queueIf condition .writeCompleteCallback).highWaterCalls = w.highWaterCalls := by
  rw [highWaterCalls_queueIf]
  cases condition <;> exact List.append_nil _

lemma outputLength_bufferOutput (w : World) (rest : Bytes) (remaining : ℕ) :
    (w.bufferOutput rest remaining).outputLength = w.outputLength + rest.length := by
  rw [outputLength, bufferOutput_outputBuffer_, Buffer.readableBytes_append, outputLength]

lemma highWaterCalls_ensureWriting (w : World) (rest : Bytes) :
    (w.appendOutput rest).ensureWriting.highWaterCalls = w.highWaterCalls := by
  cases hwriting : w.channel_.isWriting with
  | true => simp [highWaterCalls, hwriting, Effect.highWaterArgument]
  | false => simp [highWaterCalls, hwriting, Effect.highWaterArgument]

/-- Buffering queues the callback exactly when it crosses the mark. -/
lemma highWaterCalls_bufferOutput (hset : w.highWaterMarkCallback_ = true) {rest : Bytes}
    {remaining : ℕ} (hlen : rest.length = remaining)
    (hfits : (w.bufferOutput rest remaining).outputLength < 2 ^ 64) :
    (w.bufferOutput rest remaining).highWaterCalls = w.highWaterCalls ++
      if w.CrossesHighWater (w.bufferOutput rest remaining) then
        [(w.bufferOutput rest remaining).outputLength] else [] := by
  have hnew : (w.bufferOutput rest remaining).outputLength = w.outputLength + remaining := by
    rw [outputLength_bufferOutput, hlen]
  have hsum :
      (w.outputBuffer_.readableBytes + remaining) % 2 ^ 64 = w.outputLength + remaining := by
    rw [hnew] at hfits
    exact Nat.mod_eq_of_lt hfits
  -- the test of `sendInLoop` is the crossing, with its two halves the other way round
  have htest : (w.highWaterMark_ ≤ (w.outputBuffer_.readableBytes + remaining) % 2 ^ 64 ∧
      w.outputBuffer_.readableBytes < w.highWaterMark_ ∧ w.highWaterMarkCallback_ = true) ↔
      w.CrossesHighWater (w.bufferOutput rest remaining) := by
    unfold CrossesHighWater
    rw [hsum, hnew, hset]
    exact ⟨fun h => ⟨h.2.1, h.1⟩, fun h => ⟨h.2, h.1, rfl⟩⟩
  have hbuffer : w.bufferOutput rest remaining =
      ((w.queueIf (decide (w.highWaterMark_ ≤
          (w.outputBuffer_.readableBytes + remaining) % 2 ^ 64 ∧
          w.outputBuffer_.readableBytes < w.highWaterMark_ ∧ w.highWaterMarkCallback_ = true))
        (.highWaterMarkCallback
          ((w.outputBuffer_.readableBytes + remaining) % 2 ^ 64))).appendOutput
            rest).ensureWriting := rfl
  rw [decide_eq_decide.mpr htest, hsum, ← hnew] at hbuffer
  calc (w.bufferOutput rest remaining).highWaterCalls
      = (w.queueIf (decide (w.CrossesHighWater (w.bufferOutput rest remaining)))
          (.highWaterMarkCallback (w.bufferOutput rest remaining).outputLength)).highWaterCalls :=
        (congrArg highWaterCalls hbuffer).trans (highWaterCalls_ensureWriting _ rest)
    _ = _ := by
        rw [highWaterCalls_queueIf]
        simp only [decide_eq_true_eq, Effect.highWaterArgument]

/-- The output has not become longer, and no callback has been queued. -/
lemma highWaterCalls_of_le (hle : w'.outputLength ≤ w.outputLength)
    (hcalls : w'.highWaterCalls = w.highWaterCalls) :
    w'.highWaterCalls = w.highWaterCalls ++
      if w.CrossesHighWater w' then [w'.outputLength] else [] := by
  have hnot : ¬ w.CrossesHighWater w' := fun h => by
    have hlt := h.1
    have hge := h.2
    omega
  rw [if_neg hnot, List.append_nil, hcalls]

/-- `sendInLoop` queues the callback exactly when it takes the output across the mark, and it never
makes the output shorter. -/
lemma SendInLoop.highWater {call : ℕ} {data : StdString} (h : SendInLoop w call data k w')
    (hset : w.highWaterMarkCallback_ = true) (hfits : w'.outputLength < 2 ^ 64) :
    w.outputLength ≤ w'.outputLength ∧
      w'.highWaterCalls = w.highWaterCalls ++
        if w.CrossesHighWater w' then [w'.outputLength] else [] := by
  have hentered : (w.log (.sendInLoop call data.data)).highWaterCalls = w.highWaterCalls :=
    highWaterCalls_log w rfl
  have hwrite (result : IoResult) : ((w.log (.sendInLoop call data.data)).log
      (.write data.data result)).highWaterCalls = w.highWaterCalls :=
    (highWaterCalls_log _ rfl).trans hentered
  cases h with
  | fatal errno => exact ⟨le_rfl, highWaterCalls_of_le le_rfl (hwrite _)⟩
  | whole =>
    refine ⟨le_rfl, highWaterCalls_of_le le_rfl ?_⟩
    rw [highWaterCalls_queueIf_writeComplete, hwrite]
  | partly n result =>
    let v := (w.log (.sendInLoop call data.data)).log (.write data.data result)
    have hlen : (data.data.drop n).length = data.size - n := List.length_drop
    have hcalls := highWaterCalls_bufferOutput (w := v) hset hlen hfits
    rw [hwrite result] at hcalls
    refine ⟨?_, hcalls⟩
    rw [outputLength_bufferOutput]
    exact Nat.le_add_right w.outputLength _
  | nothing => exact ⟨le_rfl, highWaterCalls_of_le le_rfl (hwrite _)⟩
  | noData => exact ⟨le_rfl, highWaterCalls_of_le le_rfl hentered⟩
  | buffered =>
    have hcalls :=
      highWaterCalls_bufferOutput (w := w.log (.sendInLoop call data.data)) hset rfl hfits
    rw [hentered] at hcalls
    refine ⟨?_, hcalls⟩
    rw [outputLength_bufferOutput]
    exact Nat.le_add_right w.outputLength _

lemma highWater_drained (w : World) :
    w.drained.outputLength ≤ w.outputLength ∧ w.drained.highWaterCalls = w.highWaterCalls := by
  constructor
  · have hlen : w.drained.outputLength = w.outputLength - w.outputLength :=
      Buffer.readableBytes_retrieve _ _
    rw [hlen]
    exact Nat.sub_le _ _
  · exact (highWaterCalls_queueIf_writeComplete _ _).trans (highWaterCalls_log w rfl)

/-- `handleWrite` never makes the output longer and does not queue the callback. -/
lemma HandleWrite.highWater (h : HandleWrite w k w') :
    w'.outputLength ≤ w.outputLength ∧ w'.highWaterCalls = w.highWaterCalls := by
  cases h with
  | notWriting => exact ⟨le_rfl, rfl⟩
  | stuck result => exact ⟨le_rfl, highWaterCalls_log w rfl⟩
  | partly n =>
    have hlen : (w.outputBuffer_.retrieve n).readableBytes = w.outputLength - n :=
      Buffer.readableBytes_retrieve _ _
    exact ⟨hlen.le.trans (Nat.sub_le _ _), highWaterCalls_log w rfl⟩
  | drain => exact highWater_drained w
  | drainShutdown =>
    obtain ⟨hle, hcalls⟩ := highWater_drained w
    exact ⟨hle, (List.append_nil _).trans hcalls⟩

end Branches

/-! ## What a step queues -/

/-- What a step has to do with the mark. -/
structure HighWaterStep (w : World) (e : Event) (w' : World) : Prop where
  calls : w'.highWaterCalls = w.highWaterCalls ++
    if w.CrossesHighWater w' then [w'.outputLength] else []
  sends : w.CrossesHighWater w' → w.RunsSendInLoop e
  drains : w'.outputLength < w.outputLength → w.RunsHandleWrite e

section Steps

variable {w w' : World} {e : Event}

/-- A step that makes the output no longer and queues no callback. -/
lemma HighWaterStep.of_le (hle : w'.outputLength ≤ w.outputLength)
    (hcalls : w'.highWaterCalls = w.highWaterCalls)
    (hdrains : w'.outputLength < w.outputLength → w.RunsHandleWrite e) :
    HighWaterStep w e w' := by
  refine ⟨highWaterCalls_of_le hle hcalls, fun hcross => ?_, hdrains⟩
  have hlt := hcross.1
  have hge := hcross.2
  omega

/-- A step that runs `sendInLoop`. -/
lemma HighWaterStep.of_ge (hsends : w.RunsSendInLoop e) (hle : w.outputLength ≤ w'.outputLength)
    (hcalls : w'.highWaterCalls = w.highWaterCalls ++
      if w.CrossesHighWater w' then [w'.outputLength] else []) : HighWaterStep w e w' :=
  ⟨hcalls, fun _ => hsends, fun hlt => absurd hlt (Nat.not_lt.mpr hle)⟩

lemma Untouched.highWater (h : Untouched w w') :
    w'.outputLength = w.outputLength ∧ w'.highWaterCalls = w.highWaterCalls := by
  refine ⟨congrArg Buffer.readableBytes h.outputBuffer_, h.history.collect_eq fun d hd => ?_⟩
  unfold Effect.highWaterArgument
  split
  · cases hd
  · rfl

lemma highWater_shutdownInLoop (w : World) (k : Kernel) :
    (w.shutdownInLoop k).outputLength = w.outputLength ∧
      (w.shutdownInLoop k).highWaterCalls = w.highWaterCalls := by
  unfold shutdownInLoop
  split
  · exact ⟨rfl, rfl⟩
  · exact ⟨rfl, List.append_nil _⟩

lemma highWaterCalls_callSend (w : World) (data : Bytes) :
    (w.callSend data).highWaterCalls = w.highWaterCalls := List.append_nil _

/-- Every step queues the callback exactly when it crosses the mark, which only `sendInLoop` does,
and only `handleWrite` makes the output shorter. -/
theorem OutputStep.highWater (h : OutputStep w e w') (hset : w.highWaterMarkCallback_ = true)
    (hfits : w'.outputLength < 2 ^ 64) : HighWaterStep w e w' := by
  cases h with
  | untouched h =>
    obtain ⟨hlen, hcalls⟩ := Untouched.highWater h
    exact .of_le hlen.le hcalls fun hlt => absurd hlt (by omega)
  | @loopSend buf k w₁ connected branch =>
    obtain ⟨hle, hcalls⟩ := branch.highWater hset hfits
    rw [highWaterCalls_callSend] at hcalls
    exact .of_ge connected hle ((highWaterCalls_log w₁ rfl).trans hcalls)
  | loopSendFault connected branch =>
    obtain ⟨hle, hcalls⟩ := branch.highWater hset hfits
    rw [highWaterCalls_callSend] at hcalls
    exact .of_ge connected hle hcalls
  | @loopShutdown k connected =>
    obtain ⟨hlen, hcalls⟩ :=
      highWater_shutdownInLoop ((w.log .shutdownCalled).setState .kDisconnecting) k
    have hlogged : ((w.log .shutdownCalled).setState .kDisconnecting).highWaterCalls =
        w.highWaterCalls := (List.append_nil _).trans (highWaterCalls_log w rfl)
    exact .of_le hlen.le (hcalls.trans hlogged) fun hlt => absurd hlt (Nat.not_lt.mpr hlen.ge)
  | handleWrite todo branch =>
    obtain ⟨hle, hcalls⟩ := branch.highWater
    exact .of_le hle hcalls fun _ => ⟨_, todo⟩
  | sendInLoop functors branch =>
    obtain ⟨hle, hcalls⟩ := branch.highWater hset hfits
    exact .of_ge ⟨_, _, _, _, functors⟩ hle hcalls
  | @shutdownInLoop rest k functors =>
    obtain ⟨hlen, hcalls⟩ := highWater_shutdownInLoop (w.setFunctors rest) k
    exact .of_le hlen.le hcalls fun hlt => absurd hlt (Nat.not_lt.mpr hlen.ge)

lemma stepWithin_eq_some (h : w.stepWithin e = some w') :
    w.step e = some w' ∧ w'.outputLength < 2 ^ 64 := by
  obtain ⟨hstep, hfits⟩ := Option.filter_eq_some_iff.mp h
  refine ⟨hstep, ?_⟩
  have hsize : w'.outputBuffer_.buffer_.length ≤ maxObjectSize := of_decide_eq_true hfits
  have hws := w'.outputBuffer_.writer_le_size
  have hmax : maxObjectSize < 2 ^ 64 := by decide
  unfold outputLength Buffer.readableBytes
  omega

/-- A step that returns keeps to the rules of the mark. -/
lemma highWater_of_stepWithin (hset : w.highWaterMarkCallback_ = true)
    (h : w.stepWithin e = some w') : HighWaterStep w e w' := by
  obtain ⟨hstep, hfits⟩ := stepWithin_eq_some h
  exact (step_eq_some hstep).2.outputStep.highWater hset hfits

/-- The mark and the callback stay as they have been set. -/
lemma settings_of_exec {es : List Event} (hrun : exec stepWithin w es = some w') :
    w'.settings = w.settings :=
  invariant_of_exec (I := fun v => v.settings = w.settings)
    (fun _ _ _ hv hstep =>
      (settings_of_step (step_eq_some (stepWithin_eq_some hstep).1).2).trans hv) rfl hrun

/-- A step that queues the callback crosses the mark. -/
lemma HighWaterStep.crosses (h : HighWaterStep w e w')
    (hqueues : w'.highWaterCalls ≠ w.highWaterCalls) : w.CrossesHighWater w' := by
  by_contra hnot
  have hcalls := h.calls
  rw [if_neg hnot, List.append_nil] at hcalls
  exact hqueues hcalls

end Steps

end World

/-- For every run of the connection from a state in which `highWaterMarkCallback_` is set: a step
queues the callback exactly when it takes the output from below the mark to the mark or above it,
such a step runs `sendInLoop`, and the argument is the new length of the output.  Between any two
such steps a `handleWrite` takes the output below the mark. -/
theorem highWaterMark_crossings {w₀ w : World} {es : List Event}
    (hset : w₀.highWaterMarkCallback_ = true) (hrun : exec World.stepWithin w₀ es = some w) :
    w.highWaterMark_ = w₀.highWaterMark_ ∧
      (∀ e w', w.stepWithin e = some w' →
        w'.highWaterCalls = w.highWaterCalls ++
            (if w.CrossesHighWater w' then [w'.outputLength] else []) ∧
          (w.CrossesHighWater w' → w.RunsSendInLoop e)) ∧
      ∀ e w₁ es' w₂ e' w₃, w.stepWithin e = some w₁ → w₁.highWaterCalls ≠ w.highWaterCalls →
        exec World.stepWithin w₁ es' = some w₂ →
        w₂.stepWithin e' = some w₃ → w₃.highWaterCalls ≠ w₂.highWaterCalls →
        ∃ fs f fs' v v', es' = fs ++ f :: fs' ∧ exec World.stepWithin w₁ fs = some v ∧
          v.stepWithin f = some v' ∧ exec World.stepWithin v' fs' = some w₂ ∧
          v.RunsHandleWrite f ∧ w₀.highWaterMark_ ≤ v.outputLength ∧
          v'.outputLength < w₀.highWaterMark_ := by
  have hkept : ∀ {v : World} {fs : List Event}, exec World.stepWithin w₀ fs = some v →
      v.highWaterMarkCallback_ = true ∧ v.highWaterMark_ = w₀.highWaterMark_ := by
    intro v fs hv
    have hsettings := World.settings_of_exec hv
    exact ⟨(congrArg World.Settings.highWaterMarkCallback_ hsettings).trans hset,
      congrArg World.Settings.highWaterMark_ hsettings⟩
  have hmark := (hkept hrun).2
  refine ⟨hmark, fun e w' hstep => ?_, ?_⟩
  · have h := World.highWater_of_stepWithin (hkept hrun).1 hstep
    exact ⟨h.calls, h.sends⟩
  · intro e w₁ es' w₂ e' w₃ hfirst hqueues hbetween hsecond hqueues'
    have hrun₁ : exec World.stepWithin w₀ (es ++ [e]) = some w₁ := by
      rw [exec_append, hrun]
      simpa using hfirst
    have hrun₂ : exec World.stepWithin w₀ (es ++ [e] ++ es') = some w₂ := by
      rw [exec_append, hrun₁]
      exact hbetween
    have hup := (World.highWater_of_stepWithin (hkept hrun).1 hfirst).crosses hqueues
    have hup' := (World.highWater_of_stepWithin (hkept hrun₂).1 hsecond).crosses hqueues'
    have habove : w₀.highWaterMark_ ≤ w₁.outputLength := hmark ▸ hup.2
    have hbelow : ¬ w₀.highWaterMark_ ≤ w₂.outputLength :=
      Nat.not_le.mpr ((hkept hrun₂).2 ▸ hup'.1)
    -- somewhere between the two the output falls below the mark, and only `handleWrite` does that
    obtain ⟨fs, f, fs', v, v', rfl, hfs, hstep, hfs', hv, hv'⟩ :=
      exists_step_of_exec (P := fun v => w₀.highWaterMark_ ≤ v.outputLength) hbetween habove hbelow
    have hrunv : exec World.stepWithin w₀ (es ++ [e] ++ fs) = some v := by
      rw [exec_append, hrun₁]
      exact hfs
    have hdrop : v'.outputLength < v.outputLength := (Nat.lt_of_not_le hv').trans_le hv
    exact ⟨fs, f, fs', v, v', rfl, hfs, hstep, hfs',
      (World.highWater_of_stepWithin (hkept hrunv).1 hstep).drains hdrop, hv,
      Nat.lt_of_not_le hv'⟩

/-- A connection whose mark is two bytes. -/
def Config.lowMark : Config :=
  { Config.single with highWaterMark := 2, highWaterMarkCallback := true }

/-- Twice two bytes are sent when `::write` would block, and both times the callback is queued with
the argument `2`; in between `handleWrite` has written the first two. -/
theorem highWaterMark_crossings_two_bytes :
    ∃ w₁ w₂ w₃, exec World.stepWithin Config.lowMark.established
        [.loopSend ⟨[104, 105], by decide⟩ ⟨.error EWOULDBLOCK, .ok [], none⟩] = some w₁ ∧
      exec World.stepWithin w₁ [.poll EPOLLOUT, .handleEvent,
        .runCall ⟨.ok 2, .ok [], none⟩] = some w₂ ∧
      w₂.stepWithin (.loopSend ⟨[104, 105], by decide⟩ ⟨.error EWOULDBLOCK, .ok [], none⟩) =
        some w₃ ∧ w₃.highWaterCalls = [2, 2] ∧
      ∃ (f : Event) (v v' : World), v.stepWithin f = some v' ∧ v.RunsHandleWrite f ∧
        2 ≤ v.outputLength ∧ v'.outputLength < 2 := by
  have hany : ((exec World.stepWithin Config.lowMark.established
      [.loopSend ⟨[104, 105], by decide⟩ ⟨.error EWOULDBLOCK, .ok [], none⟩]).any fun w₁ =>
      decide (w₁.outputLength = 2 ∧
        ((exec World.stepWithin w₁ [.poll EPOLLOUT, .handleEvent,
          .runCall ⟨.ok 2, .ok [], none⟩]).any fun w₂ =>
            decide (w₂.outputLength = 0 ∧ w₂.highWaterMark_ = 2 ∧ w₂.highWaterCalls = [2] ∧
              (w₂.stepWithin (.loopSend ⟨[104, 105], by decide⟩
                ⟨.error EWOULDBLOCK, .ok [], none⟩)).any fun w₃ =>
                  decide (w₃.outputLength = 2))) = true)) = true := by decide +kernel
  obtain ⟨w₁, hrun₁, hlen₁, hany₁⟩ := exists_exec_of_any hany
  obtain ⟨w₂, hrun₂, hlen₂, hmark, hcalls₂, hany₂⟩ := exists_exec_of_any hany₁
  obtain ⟨w₃, hstep₃, hlen₃⟩ := Option.any_eq_true _ _ |>.mp hany₂
  replace hlen₃ : w₃.outputLength = 2 := of_decide_eq_true hlen₃
  have hstep₁ : Config.lowMark.established.stepWithin
      (.loopSend ⟨[104, 105], by decide⟩ ⟨.error EWOULDBLOCK, .ok [], none⟩) = some w₁ := by
    simpa using hrun₁
  obtain ⟨-, hfirst, hbetween⟩ :=
    @highWaterMark_crossings Config.lowMark.established Config.lowMark.established [] rfl rfl
  obtain ⟨-, hsecond, -⟩ :=
    @highWaterMark_crossings Config.lowMark.established w₂ _ rfl
      (exec_append_of_eq_some hrun₁ hrun₂)
  -- both steps take the output to the mark
  have hcross₁ : Config.lowMark.established.CrossesHighWater w₁ :=
    ⟨(Nat.zero_lt_two : 0 < 2), hlen₁.ge⟩
  have hcross₃ : w₂.CrossesHighWater w₃ := by
    rw [World.CrossesHighWater, hlen₂, hmark, hlen₃]
    decide
  have hqueued₁ := (hfirst _ _ hstep₁).1
  have hqueued₃ := (hsecond _ _ hstep₃).1
  rw [if_pos hcross₁, hlen₁] at hqueued₁
  rw [if_pos hcross₃, hlen₃, hcalls₂] at hqueued₃
  have hne₁ : w₁.highWaterCalls ≠ Config.lowMark.established.highWaterCalls := by
    rw [hqueued₁]
    decide
  have hne₃ : w₃.highWaterCalls ≠ w₂.highWaterCalls := by
    rw [hqueued₃, hcalls₂]
    decide
  obtain ⟨-, f, -, v, v', -, -, hstep, -, hwrites, habove, hbelow⟩ :=
    hbetween _ _ _ _ _ _ hstep₁ hne₁ hrun₂ hstep₃ hne₃
  exact ⟨w₁, w₂, w₃, hrun₁, hrun₂, hstep₃, hqueued₃, f, v, v', hstep, hwrites, habove, hbelow⟩

end SimpleMuduo
