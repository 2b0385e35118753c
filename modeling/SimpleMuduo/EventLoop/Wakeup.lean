import SimpleMuduo.EventLoop.Loop

/-!
# Wakeups of the event loop

A functor that waits in `pendingFunctors_` while the loop sleeps in `poll` has to be announced
through the eventfd.  `queueInLoop` leaves `wakeup()` out when it is called by the loop's own thread
and `callingPendingFunctors_` is not set, which is right in the handlers of an iteration, whose
`doPendingFunctors` is still to come, but not outside `loop()` and not in the destructors of the
functors that `doPendingFunctors` has finished with: what is pushed there sleeps with the loop.
-/

namespace SimpleMuduo

namespace EventLoop

/-- The loop is woken up, or another thread is about to do it. -/
def Waking (l : EventLoop) : Prop :=
  0 < l.wakeupCounter ∨ ∃ t, t ≠ l.threadId_ ∧ l.callers t = .pushed

/-- The loop does not sleep in `poll` while functors are pending, unless it is woken up or about to
be. -/
def NoLostWakeup (l : EventLoop) : Prop :=
  ∀ timeoutMs, l.pc = .polling timeoutMs → 0 < timeoutMs → l.pendingFunctors_ ≠ [] → l.Waking

/-- Some functor was pushed by a call of `queueInLoop` that goes on to `wakeup()`. -/
def SomeWakes (fs : List QueuedFunctor) : Prop := ∃ f ∈ fs, f.wakes = true

/-- When the loop is going to sleep with functors pending, not all of them were pushed without a
wakeup. -/
def AnnouncedBeforePoll (l : EventLoop) : LoopEvent → Prop
  | .poll nextExpired now =>
    ∀ timeoutMs ∈ pollTimeout nextExpired now, 0 < timeoutMs →
      l.pendingFunctors_ ≠ [] → SomeWakes l.pendingFunctors_
  | _ => True

instance (fs : List QueuedFunctor) : Decidable (SomeWakes fs) :=
  inferInstanceAs (Decidable (∃ f ∈ fs, f.wakes = true))

instance (l : EventLoop) (e : LoopEvent) : Decidable (l.AnnouncedBeforePoll e) := by
  cases e <;> dsimp only [AnnouncedBeforePoll] <;> infer_instance

/-- The loop is between `poll` and the swap of the same iteration, which takes all that is pending.
-/
def beforeSwap (l : EventLoop) : Bool :=
  match l.pc with
  | .handlers _ | .timers | .swapping => true
  | _ => false

/-- Whatever was pushed with a wakeup is still announced, except in the part of an iteration that
leads to the swap; and when the loop sleeps with functors pending, one of them was. -/
structure WakeupInv (l : EventLoop) : Prop where
  announced : l.beforeSwap = false → SomeWakes l.pendingFunctors_ → l.Waking
  asleep : ∀ timeoutMs, l.pc = .polling timeoutMs → 0 < timeoutMs → l.pendingFunctors_ ≠ [] →
    SomeWakes l.pendingFunctors_

lemma WakeupInv.new (threadId : ThreadId) : WakeupInv (new threadId) := by
  constructor
  · rintro - ⟨f, hf, -⟩
    cases hf
  · intro timeoutMs hpc
    cases hpc

/-- Together the two parts of the invariant say that no wakeup is lost. -/
lemma WakeupInv.noLostWakeup {l : EventLoop} (hl : WakeupInv l) : l.NoLostWakeup := by
  intro timeoutMs hpc hpos hne
  apply hl.announced
  · rw [beforeSwap, hpc]
  · exact hl.asleep timeoutMs hpc hpos hne

variable {l l' : EventLoop}

/-- A step that goes to a place other than `poll`, and leaves the queue, the counter and the other
threads alone. -/
lemma WakeupInv.frame (hl : WakeupInv l) (hpending : l'.pendingFunctors_ = l.pendingFunctors_)
    (hcounter : l'.wakeupCounter = l.wakeupCounter) (hid : l'.threadId_ = l.threadId_)
    (hcallers : l'.callers = l.callers) (hswap : l'.beforeSwap = false → l.beforeSwap = false)
    (hpc : ∀ timeoutMs, l'.pc ≠ .polling timeoutMs) : WakeupInv l' := by
  constructor
  · intro hafter hsome
    rw [hpending] at hsome
    have hwaking := hl.announced (hswap hafter) hsome
    rw [Waking, hcounter, hid, hcallers]
    exact hwaking
  · intro timeoutMs h
    exact absurd h (hpc timeoutMs)

/-- A step to a place where the queue is about to be swapped promises nothing. -/
lemma WakeupInv.of_beforeSwap (h : l.beforeSwap = true) : WakeupInv l := by
  constructor
  · intro hafter
    rw [h] at hafter
    cases hafter
  · intro timeoutMs hpc
    rw [beforeSwap, hpc] at h
    cases h

/-- The steps of the loop's own thread in `loop()`. -/
lemma WakeupInv.stepLoop {e : LoopEvent} (hl : WakeupInv l) (hok : l.AnnouncedBeforePoll e)
    (h : l.stepLoop l.pc e = some l') : WakeupInv l' := by
  have hbefore : ∀ pc, l.pc = pc → l.beforeSwap = (l.goto pc).beforeSwap := by
    intro pc hpc
    rw [beforeSwap, hpc]
    rfl
  generalize hpc : l.pc = pc at h
  specialize hbefore pc hpc
  unfold EventLoop.stepLoop at h
  split at h
  · obtain rfl := Option.some.inj h
    exact hl.frame rfl rfl rfl rfl (fun _ => hbefore) (by simp)
  · obtain rfl := Option.some.inj h
    exact hl.frame rfl rfl rfl rfl (fun _ => hbefore) (by simp)
  · obtain rfl := Option.some.inj h
    refine hl.frame rfl rfl rfl rfl (fun _ => hbefore) ?_
    intro timeoutMs
    simp only [goto]
    split <;> simp
  · -- the loop goes to sleep
    obtain ⟨timeoutMs, htimeout, rfl⟩ := Option.map_eq_some_iff.mp h
    constructor
    · intro _ hsome
      exact hl.announced hbefore hsome
    · intro timeoutMs' hpolling hpos hne
      obtain rfl : timeoutMs = timeoutMs' := LoopPc.polling.inj hpolling
      exact hok timeoutMs htimeout hpos hne
  · split at h
    · obtain rfl := Option.some.inj h
      exact .of_beforeSwap rfl
    · cases h
  · obtain rfl := Option.some.inj h
    exact .of_beforeSwap rfl
  · obtain rfl := Option.some.inj h
    exact .of_beforeSwap rfl
  · obtain rfl := Option.some.inj h
    exact .of_beforeSwap rfl
  · -- the swap leaves nothing that could be announced
    obtain rfl := Option.some.inj h
    constructor
    · rintro - ⟨f, hf, -⟩
      cases hf
    · intro timeoutMs hpolling
      cases hpolling
  · split at h
    · cases h
    · obtain rfl := Option.some.inj h
      exact hl.frame rfl rfl rfl rfl (fun _ => hbefore) (by simp [hpc])
  · split at h
    · obtain rfl := Option.some.inj h
      exact hl.frame rfl rfl rfl rfl (fun _ => hbefore) (by simp)
    · cases h
  · obtain rfl := Option.some.inj h
    exact hl.frame rfl rfl rfl rfl (fun _ => hbefore) (by simp)
  · obtain rfl := Option.some.inj h
    exact hl.frame rfl rfl rfl rfl (fun _ => hbefore) (by simp)
  · cases h

/-- A functor that is pushed with a wakeup, where the wakeup has been written or is about to be. -/
lemma WakeupInv.of_push {call : QueueCall} (hwaking : l'.Waking)
    (hpending : l'.pendingFunctors_ = l.pendingFunctors_ ++ [⟨call, true⟩]) : WakeupInv l' := by
  constructor
  · rintro - -
    exact hwaking
  · intro timeoutMs _ _ _
    refine ⟨⟨call, true⟩, ?_, rfl⟩
    rw [hpending]
    exact List.mem_append_right _ (List.mem_singleton.mpr rfl)

/-- The loop's own thread is not in user code while it sleeps. -/
lemma not_polling_of_inUserCode (h : l.inUserCode = true) (timeoutMs : ℤ) :
    l.pc ≠ .polling timeoutMs := by
  intro hpc
  rw [inUserCode, hpc] at h
  cases h

/-- `queueInLoop` called by the loop's own thread. -/
lemma WakeupInv.queueInLoop (hl : WakeupInv l) (h : l.step .queueInLoop = some l') :
    WakeupInv l' := by
  simp only [step, Option.ite_none_right_eq_some, Option.some.injEq] at h
  obtain ⟨huser, rfl⟩ := h
  cases hcalling : l.callingPendingFunctors_ with
  | true =>
    rw [if_pos rfl]
    have hpending : (l.pushFunctor l.threadId_).writeWakeup.pendingFunctors_ =
        l.pendingFunctors_ ++ [⟨⟨l.threadId_, l.returned l.threadId_⟩, true⟩] := by
      simp [writeWakeup, pushFunctor, hcalling]
    exact of_push (.inl (Nat.succ_pos l.wakeupCounter)) hpending
  | false =>
    rw [if_neg Bool.false_ne_true]
    constructor
    · rintro hafter ⟨f, hf, hwakes⟩
      have hold : f ∈ l.pendingFunctors_ := by
        simp only [pushFunctor, hcalling, List.mem_append, List.mem_singleton] at hf
        rcases hf with hf | rfl
        · exact hf
        · simp at hwakes
      exact hl.announced hafter ⟨f, hold, hwakes⟩
    · intro timeoutMs hpc
      exact absurd hpc (not_polling_of_inUserCode huser timeoutMs)

/-- A push by another thread, which has its wakeup still before it. -/
lemma WakeupInv.push {t : ThreadId} (h : l.step (.push t) = some l') : WakeupInv l' := by
  simp only [step, Option.ite_none_right_eq_some, Option.some.injEq] at h
  obtain ⟨⟨hne, -⟩, rfl⟩ := h
  have hpending : ((l.pushFunctor t).setCaller t .pushed).pendingFunctors_ =
      l.pendingFunctors_ ++ [⟨⟨t, l.returned t⟩, true⟩] := by
    simp [setCaller, pushFunctor, hne]
  exact of_push (.inr ⟨t, hne, by simp [setCaller]⟩) hpending

lemma WakeupInv.storeQuit {t : ThreadId} (hl : WakeupInv l)
    (h : l.step (.storeQuit t) = some l') : WakeupInv l' := by
  simp only [step, Option.ite_none_right_eq_some, Option.some.injEq] at h
  obtain ⟨⟨-, hidle⟩, rfl⟩ := h
  constructor
  · intro hafter hsome
    rcases hl.announced hafter hsome with hpos | ⟨u, hne, hpushed⟩
    · exact .inl hpos
    · have hut : u ≠ t := by
        rintro rfl
        rw [hidle] at hpushed
        cases hpushed
      exact .inr ⟨u, hne, by simpa [setCaller, hut] using hpushed⟩
  · exact hl.asleep

lemma WakeupInv.wakeup {t : ThreadId} (hl : WakeupInv l) (h : l.step (.wakeup t) = some l') :
    WakeupInv l' := by
  simp only [step, Option.ite_none_right_eq_some, Option.some.injEq] at h
  obtain ⟨-, rfl⟩ := h
  constructor
  · rintro - -
    exact .inl (Nat.succ_pos l.wakeupCounter)
  · exact hl.asleep

/-- Every step keeps the invariant, if the loop does not go to sleep on functors that were all
pushed without a wakeup. -/
lemma WakeupInv.step {e : LoopEvent} (hl : WakeupInv l) (hok : l.AnnouncedBeforePoll e)
    (h : l.step e = some l') : WakeupInv l' := by
  cases e with
  | queueInLoop => exact hl.queueInLoop h
  | quit =>
    simp only [EventLoop.step, Option.ite_none_right_eq_some, Option.some.injEq] at h
    obtain ⟨huser, rfl⟩ := h
    exact hl.frame rfl rfl rfl rfl id (not_polling_of_inUserCode huser)
  | push t => exact .push h
  | storeQuit t => exact hl.storeQuit h
  | wakeup t => exact hl.wakeup h
  | _ => exact hl.stepLoop hok h

/-- In every run in which the loop never goes to sleep on functors that were all pushed without a
wakeup, no wakeup is lost: while the loop sleeps with functors pending, the counter of the eventfd
is positive or another thread is between its push and its `wakeup()`. -/
theorem no_lost_wakeup {threadId : ThreadId} {es : List LoopEvent}
    (hmeets : Meets EventLoop.step AnnouncedBeforePoll (new threadId) es)
    (hrun : exec EventLoop.step (new threadId) es = some l) : l.NoLostWakeup :=
  (invariant_of_meets (fun _ _ _ hl hok h => hl.step hok h) (WakeupInv.new threadId) hmeets
    hrun).noLostWakeup

/-- Another thread pushes a functor while the loop is on its way to `poll` with a timer pending. -/
theorem no_lost_wakeup_push :
    ∃ l, exec EventLoop.step (new 0) [.enter, .clearQuit, .test, .push 1, .poll 2000000 1000000] =
      some l ∧ l.NoLostWakeup := by
  have hrun : ∃ l, exec EventLoop.step (new 0)
      [.enter, .clearQuit, .test, .push 1, .poll 2000000 1000000] = some l ∧ True :=
    exists_exec_of_any (by decide +kernel)
  obtain ⟨l, hrun, -⟩ := hrun
  exact ⟨l, hrun, no_lost_wakeup (by decide +kernel) hrun⟩

/-- A functor that the loop's own thread queues before it enters `loop()`, with a timer pending:
the loop goes to sleep on it. -/
theorem not_noLostWakeup_queued_before_loop :
    ¬ ∀ (threadId : ThreadId) (es : List LoopEvent) (l : EventLoop),
      exec EventLoop.step (new threadId) es = some l → l.NoLostWakeup := by
  intro h
  have htimeout : pollTimeout 2000000 1000000 = some 1000 := by decide +kernel
  have hrun : exec EventLoop.step (new 0)
      [.queueInLoop, .enter, .clearQuit, .test, .poll 2000000 1000000] =
      some { new 0 with
        looping_ := true
        pendingFunctors_ := [⟨⟨0, 0⟩, false⟩]
        returned := Function.update (fun _ => 0) 0 1
        pc := .polling 1000 } := by
    simp [EventLoop.step, EventLoop.stepLoop, EventLoop.new, inUserCode, pushFunctor, goto,
      htimeout]
  rcases h 0 _ _ hrun 1000 rfl (by decide) (by simp) with hpos | ⟨t, -, hpushed⟩
  · exact absurd hpos (Nat.lt_irrefl 0)
  · cases hpushed

end EventLoop

end SimpleMuduo
