import Mathlib.Data.List.Infix
import SimpleMuduo.EventLoop.Loop

/-!
# The rounds of the event loop

The event loop, with all its threads, runs a functor queue: its pushes, its swap and its calls are
the steps of the queue, and the places of `loop()` see to it that the queue is swapped only when
the batch has been called.  So what waits at any time is called in the round of
`doPendingFunctors` that comes next, or in the one after it when a round is in progress, and the
loop gets there after a bounded number of its own steps, whatever the other threads do.
-/

namespace SimpleMuduo

/-! ## Two swaps of a functor queue -/

namespace FunctorQueue

variable {q q' r : FunctorQueue} {e : FunctorEvent} {es : List FunctorEvent}

/-- Every functor that has been swapped out, oldest first. -/
def taken (q : FunctorQueue) : List QueueCall := q.executed ++ q.functors

/-- Everything a step can do. -/
lemma step_cases (h : q.step e = some q') :
    (∃ t, e = .push t ∧ q' = q.pushOnto t q.pendingFunctors_) ∨
    (e = .swap ∧ q.functors = [] ∧
      q' = { q with functors := q.pendingFunctors_, pendingFunctors_ := [] }) ∨
    (e = .run ∧ ∃ c rest, q.functors = c :: rest ∧
      q' = { q with functors := rest, executed := q.executed ++ [c] }) := by
  cases e with
  | push t => exact .inl ⟨t, rfl, (Option.some.inj h).symm⟩
  | swap =>
    obtain ⟨hempty, heq⟩ := Option.ite_none_right_eq_some.mp h
    exact .inr (.inl ⟨rfl, hempty, (Option.some.inj heq).symm⟩)
  | run =>
    cases hfunctors : q.functors with
    | nil => simp [step, hfunctors] at h
    | cons c rest =>
      rw [step, hfunctors] at h
      exact .inr (.inr ⟨rfl, c, rest, rfl, (Option.some.inj h).symm⟩)

/-- Nothing that is held is lost or reordered. -/
lemma all_prefix_step (h : q.step e = some q') : q.all <+: q'.all := by
  obtain ⟨t, -, rfl⟩ | ⟨-, hempty, rfl⟩ | ⟨-, c, rest, hfunctors, rfl⟩ := step_cases h
  · exact ⟨[⟨t, q.returned t⟩], by simp [all, pushOnto]⟩
  · simp [all, hempty]
  · simp [all, hfunctors]

/-- What has been swapped out stays so. -/
lemma taken_prefix_step (h : q.step e = some q') : q.taken <+: q'.taken := by
  obtain ⟨t, -, rfl⟩ | ⟨-, hempty, rfl⟩ | ⟨-, c, rest, hfunctors, rfl⟩ := step_cases h
  · exact List.prefix_rfl
  · exact ⟨q.pendingFunctors_, by simp [taken, hempty]⟩
  · simp [taken, hfunctors]

/-- What has been run stays so. -/
lemma executed_prefix_step (h : q.step e = some q') : q.executed <+: q'.executed := by
  obtain ⟨t, -, rfl⟩ | ⟨-, hempty, rfl⟩ | ⟨-, c, rest, hfunctors, rfl⟩ := step_cases h
  · exact List.prefix_rfl
  · exact List.prefix_rfl
  · exact List.prefix_append _ _

/-- The swap takes all that is held. -/
lemma taken_of_swap (h : q.step .swap = some q') : q'.taken = q.all := by
  obtain ⟨t, heq, -⟩ | ⟨-, hempty, rfl⟩ | ⟨heq, -⟩ := step_cases h
  · cases heq
  · simp [taken, all, hempty]
  · cases heq

/-- Nothing is lost or reordered in a run. -/
lemma all_prefix_exec (hrun : exec step q es = some r) : q.all <+: r.all :=
  invariant_of_exec (I := fun t => q.all <+: t.all)
    (fun _ _ _ h hstep => h.trans (all_prefix_step hstep)) List.prefix_rfl hrun

/-- What has been swapped out stays so in a run. -/
lemma taken_prefix_exec (hrun : exec step q es = some r) : q.taken <+: r.taken :=
  invariant_of_exec (I := fun t => q.taken <+: t.taken)
    (fun _ _ _ h hstep => h.trans (taken_prefix_step hstep)) List.prefix_rfl hrun

/-- What has been run stays so in a run. -/
lemma executed_prefix_exec (hrun : exec step q es = some r) : q.executed <+: r.executed :=
  invariant_of_exec (I := fun t => q.executed <+: t.executed)
    (fun _ _ _ h hstep => h.trans (executed_prefix_step hstep)) List.prefix_rfl hrun

end FunctorQueue

/-! ## The loop runs a functor queue -/

/-- What a step of the threads does to the queue. -/
def LoopEvent.queueEvents (threadId : ThreadId) : LoopEvent → List FunctorEvent
  | .push t => [.push t]
  | .queueInLoop => [.push threadId]
  | .swap => [.swap]
  | .callFunctor => [.run]
  | _ => []

/-- The step is one of `loop()` itself. -/
def LoopEvent.isLoopStep : LoopEvent → Bool
  | .queueInLoop | .quit | .push _ | .storeQuit _ | .wakeup _ => false
  | _ => true

/-- The step pushes a functor. -/
def LoopEvent.isPush : LoopEvent → Bool
  | .queueInLoop | .push _ => true
  | _ => false

/-- How far the thread has got on its way to the end of the next round. -/
def LoopPc.place : LoopPc → ℕ
  | .outside => 0
  | .entered | .destroying => 1
  | .condition => 2
  | .preparing | .leaving => 3
  | .polling _ => 4
  | .handlers true => 5
  | .handlers false => 6
  | .timers => 7
  | .swapping => 8
  | .running => 9

namespace EventLoop

variable {threadId : ThreadId} {l l' m : EventLoop} {e : LoopEvent} {es more : List LoopEvent}
  {cs : List QueueCall}

/-- The functor queue that the loop runs. -/
def queue (l : EventLoop) : FunctorQueue where
  pendingFunctors_ := l.pendingFunctors_.map QueuedFunctor.toQueueCall
  functors := l.functors.map QueuedFunctor.toQueueCall
  executed := l.executed
  returned := l.returned

/-- Everything a step can do to the functors, and how far it takes the loop. -/
inductive RoundStep (l l' : EventLoop) : LoopEvent → Prop
  | push (t : ThreadId) (e : LoopEvent) (queueEvents : e.queueEvents l.threadId_ = [.push t])
      (isPush : e.isPush = true) (isLoopStep : e.isLoopStep = false)
      (queue : l'.queue = l.queue.pushOnto t l.queue.pendingFunctors_) (pc : l'.pc = l.pc) :
      RoundStep l l' e
  | swap (pc : l.pc = .swapping)
      (queue : l'.queue =
        { l.queue with functors := l.queue.pendingFunctors_, pendingFunctors_ := [] })
      (pc' : l'.pc = .running) : RoundStep l l' .swap
  | call (c : QueueCall) (rest : List QueueCall) (pc : l.pc = .running)
      (functors : l.queue.functors = c :: rest)
      (queue : l'.queue = { l.queue with functors := rest, executed := l.queue.executed ++ [c] })
      (pc' : l'.pc = .running) : RoundStep l l' .callFunctor
  | finish (pc : l.pc = .running) (functors : l.queue.functors = []) (queue : l'.queue = l.queue)
      (pc' : l'.pc = .destroying) : RoundStep l l' .functorsCalled
  | moves (e : LoopEvent) (queueEvents : e.queueEvents l.threadId_ = [])
      (isPush : e.isPush = false) (notFunctorsCalled : e ≠ .functorsCalled)
      (notCallFunctor : e ≠ .callFunctor) (queue : l'.queue = l.queue) (pc : l.pc ≠ .running)
      (pc' : l'.pc ≠ .running) (place : e ≠ .leave → l.pc.place < l'.pc.place) : RoundStep l l' e
  | other (e : LoopEvent) (queueEvents : e.queueEvents l.threadId_ = [])
      (isPush : e.isPush = false) (isLoopStep : e.isLoopStep = false)
      (queue : l'.queue = l.queue) (pc : l'.pc = l.pc) : RoundStep l l' e

/-- The steps of the loop's own thread in `loop()`. -/
lemma roundStep_of_stepLoop (h : l.stepLoop l.pc e = some l') :
    RoundStep l l' e ∧ l'.threadId_ = l.threadId_ := by
  generalize hpc : l.pc = pc at h
  unfold stepLoop at h
  split at h
  case h_3 =>
    obtain rfl := Option.some.inj h
    refine ⟨.moves _ rfl rfl (by simp) (by simp) rfl (by simp [hpc]) ?_ fun _ => ?_, rfl⟩
    all_goals simp only [goto]; split <;> simp [hpc, LoopPc.place]
  case h_4 =>
    obtain ⟨timeoutMs, -, rfl⟩ := Option.map_eq_some_iff.mp h
    exact ⟨.moves _ rfl rfl (by simp) (by simp) rfl (by simp [hpc]) (by simp [goto])
      fun _ => by simp [hpc, goto, LoopPc.place], rfl⟩
  case h_5 readable =>
    obtain ⟨-, heq⟩ := Option.ite_none_right_eq_some.mp h
    obtain rfl := Option.some.inj heq
    exact ⟨.moves _ rfl rfl (by simp) (by simp) rfl (by simp [hpc]) (by simp [goto])
      fun _ => by cases readable <;> simp [hpc, goto, LoopPc.place], rfl⟩
  case h_9 =>
    obtain rfl := Option.some.inj h
    exact ⟨.swap hpc rfl rfl, rfl⟩
  case h_10 =>
    split at h
    · cases h
    · rename_i f rest hfunctors
      obtain rfl := Option.some.inj h
      have hqueue : l.queue.functors = f.toQueueCall :: rest.map QueuedFunctor.toQueueCall := by
        simp [queue, hfunctors]
      exact ⟨.call _ _ hpc hqueue rfl hpc, rfl⟩
  case h_11 =>
    obtain ⟨hempty, heq⟩ := Option.ite_none_right_eq_some.mp h
    obtain rfl := Option.some.inj heq
    exact ⟨.finish hpc (by simp [queue, hempty]) rfl rfl, rfl⟩
  case h_13 =>
    obtain rfl := Option.some.inj h
    exact ⟨.moves _ rfl rfl (by simp) (by simp) rfl (by simp [hpc]) (by simp)
      fun hne => absurd rfl hne, rfl⟩
  case h_14 => cases h
  all_goals
    obtain rfl := Option.some.inj h
    exact ⟨.moves _ rfl rfl (by simp) (by simp) rfl (by simp [hpc]) (by simp [goto])
      fun _ => by simp [hpc, goto, LoopPc.place], rfl⟩

/-- A push appends the next functor of the thread. -/
lemma queue_pushFunctor (l : EventLoop) (t : ThreadId) :
    (l.pushFunctor t).queue = l.queue.pushOnto t l.queue.pendingFunctors_ := by
  simp [queue, pushFunctor, FunctorQueue.pushOnto]

/-- The inversion lemma. -/
lemma roundStep_of_step (h : l.step e = some l') :
    RoundStep l l' e ∧ l'.threadId_ = l.threadId_ := by
  cases e with
  | queueInLoop =>
    obtain ⟨-, heq⟩ := Option.ite_none_right_eq_some.mp h
    obtain rfl := Option.some.inj heq
    refine ⟨.push l.threadId_ _ rfl rfl rfl ?_ ?_, ?_⟩
    · rw [← queue_pushFunctor]
      split <;> rfl
    · split <;> rfl
    · split <;> rfl
  | push t =>
    obtain ⟨-, heq⟩ := Option.ite_none_right_eq_some.mp h
    obtain rfl := Option.some.inj heq
    exact ⟨.push t _ rfl rfl rfl (queue_pushFunctor l t) rfl, rfl⟩
  | quit | storeQuit t | wakeup t =>
    obtain ⟨-, heq⟩ := Option.ite_none_right_eq_some.mp h
    obtain rfl := Option.some.inj heq
    exact ⟨.other _ rfl rfl rfl rfl rfl, rfl⟩
  | _ => exact roundStep_of_stepLoop h

/-- Between two rounds the loop has no functor to call. -/
def Between (l : EventLoop) : Prop := l.pc ≠ .running → l.queue.functors = []

/-- A new loop has no functors. -/
lemma between_new (threadId : ThreadId) : Between (.new threadId) := fun _ => rfl

/-- The step lemma: each step of the threads is what it does to the queue. -/
lemma Between.step (h : l.Between) (hstep : l.step e = some l') :
    exec FunctorQueue.step l.queue (e.queueEvents l.threadId_) = some l'.queue ∧ l'.Between := by
  cases (roundStep_of_step hstep).1 with
  | push t _ hevents _ _ hqueue hpc =>
    refine ⟨by rw [hevents, hqueue]; rfl, fun hne => ?_⟩
    rw [hqueue]
    exact h (hpc ▸ hne)
  | swap hpc hqueue hpc' =>
    have hempty := h (by simp [hpc])
    refine ⟨?_, fun hne => absurd hpc' hne⟩
    simp [LoopEvent.queueEvents, FunctorQueue.step, hempty, hqueue]
  | call c rest hpc hfunctors hqueue hpc' =>
    refine ⟨?_, fun hne => absurd hpc' hne⟩
    simp [LoopEvent.queueEvents, FunctorQueue.step, hfunctors, hqueue]
  | finish _ hfunctors hqueue =>
    refine ⟨by rw [hqueue]; rfl, fun _ => ?_⟩
    rw [hqueue, hfunctors]
  | moves _ hevents _ _ _ hqueue hpc =>
    refine ⟨by rw [hevents, hqueue]; rfl, fun _ => ?_⟩
    rw [hqueue]
    exact h hpc
  | other _ hevents _ _ hqueue hpc =>
    refine ⟨by rw [hevents, hqueue]; rfl, fun hne => ?_⟩
    rw [hqueue]
    exact h (hpc ▸ hne)

/-- The run lemma: a run of the threads is a run of the queue. -/
lemma Between.run (h : l.Between) (hrun : exec EventLoop.step l es = some m) :
    exec FunctorQueue.step l.queue (es.flatMap (LoopEvent.queueEvents l.threadId_)) =
        some m.queue ∧ m.Between ∧ m.threadId_ = l.threadId_ := by
  induction es generalizing l with
  | nil =>
    obtain rfl : l = m := by simpa using hrun
    exact ⟨rfl, h, rfl⟩
  | cons e es ih =>
    obtain ⟨u, hu, hrest⟩ := exec_cons_eq_some.mp hrun
    obtain ⟨hqueue, hbetween⟩ := h.step hu
    obtain ⟨hrun', hm, hid⟩ := ih hbetween hrest
    rw [(roundStep_of_step hu).2] at hrun' hid
    exact ⟨exec_append_of_eq_some hqueue hrun', hm, hid⟩

/-! ## Rounds -/

/-- The end of a round: what has been swapped out has been run. -/
lemma Between.executed_of_taken (h : l.Between) (hrun : exec EventLoop.step l more = some m)
    (htaken : cs <+: l.queue.taken) (hround : .functorsCalled ∈ more) : cs <+: m.executed := by
  induction more generalizing l with
  | nil => cases hround
  | cons e more ih =>
    obtain ⟨u, hu, hrest⟩ := exec_cons_eq_some.mp hrun
    obtain ⟨hqueue, hbetween⟩ := h.step hu
    have htaken' := htaken.trans (FunctorQueue.taken_prefix_exec hqueue)
    by_cases hend : e = .functorsCalled
    · subst hend
      cases (roundStep_of_step hu).1 with
      | push t _ _ hpush => cases hpush
      | moves _ _ _ hne => exact absurd rfl hne
      | other _ _ _ hloop => cases hloop
      | finish _ hempty hsame =>
        rw [FunctorQueue.taken, hsame, hempty, List.append_nil, ← hsame] at htaken'
        exact htaken'.trans (FunctorQueue.executed_prefix_exec (hbetween.run hrest).1)
    · exact ih hbetween hrest htaken' ((List.mem_cons.mp hround).resolve_left (Ne.symm hend))

/-- What waits outside a round has been run at the end of the next one. -/
lemma Between.executed_of_notRunning (h : l.Between) (hrun : exec EventLoop.step l more = some m)
    (hpc : l.pc ≠ .running) (hall : cs <+: l.queue.all) (hround : .functorsCalled ∈ more) :
    cs <+: m.executed := by
  induction more generalizing l with
  | nil => cases hround
  | cons e more ih =>
    obtain ⟨u, hu, hrest⟩ := exec_cons_eq_some.mp hrun
    obtain ⟨hqueue, hbetween⟩ := h.step hu
    have hall' := hall.trans (FunctorQueue.all_prefix_exec hqueue)
    have hrounds (hne : e ≠ .functorsCalled) : .functorsCalled ∈ more :=
      (List.mem_cons.mp hround).resolve_left (Ne.symm hne)
    cases (roundStep_of_step hu).1 with
    | push t _ _ hpush _ _ hpc' =>
      exact ih hbetween hrest (hpc' ▸ hpc) hall' (hrounds (by rintro rfl; cases hpush))
    | swap =>
      -- the swap takes all that waits
      have hswap : l.queue.step .swap = some u.queue := by
        simpa [LoopEvent.queueEvents] using hqueue
      refine hbetween.executed_of_taken hrest ?_ (hrounds (by simp))
      rw [FunctorQueue.taken_of_swap hswap]
      exact hall
    | call _ _ hpc' => exact absurd hpc' hpc
    | finish hpc' => exact absurd hpc' hpc
    | moves _ _ _ hne _ _ _ hpc' => exact ih hbetween hrest hpc' hall' (hrounds hne)
    | other _ _ _ hloop _ hpc' =>
      exact ih hbetween hrest (hpc' ▸ hpc) hall' (hrounds (by rintro rfl; cases hloop))

/-- What waits at any time has been run at the end of the second round from there. -/
lemma Between.executed_of_two (h : l.Between) (hrun : exec EventLoop.step l more = some m)
    (hall : cs <+: l.queue.all) (hrounds : 2 ≤ more.count .functorsCalled) :
    cs <+: m.executed := by
  induction more generalizing l with
  | nil => cases hrounds
  | cons e more ih =>
    obtain ⟨u, hu, hrest⟩ := exec_cons_eq_some.mp hrun
    obtain ⟨hqueue, hbetween⟩ := h.step hu
    have hall' := hall.trans (FunctorQueue.all_prefix_exec hqueue)
    by_cases hend : e = .functorsCalled
    · subst hend
      rw [List.count_cons_self] at hrounds
      refine hbetween.executed_of_notRunning hrest ?_ hall' (List.count_pos_iff.mp (by omega))
      cases (roundStep_of_step hu).1 with
      | push t _ _ hpush => cases hpush
      | moves _ _ _ hne => exact absurd rfl hne
      | other _ _ _ hloop => cases hloop
      | finish _ _ _ hpc => simp [hpc]
    · rw [List.count_cons_of_ne hend] at hrounds
      exact ih hbetween hrest hall' hrounds

/-! ## How soon -/

/-- There are ten places. -/
lemma place_le (pc : LoopPc) : pc.place ≤ 9 := by
  unfold LoopPc.place
  split <;> omega

/-- How many functors are held that have not been called. -/
def waitingCount (l : EventLoop) : ℕ := l.queue.functors.length + l.queue.pendingFunctors_.length

/-- Only what waits or is pushed can be called. -/
lemma calls_le (hrun : exec EventLoop.step l more = some m) :
    more.count .callFunctor + m.waitingCount ≤ l.waitingCount + more.countP LoopEvent.isPush := by
  induction more generalizing l with
  | nil =>
    obtain rfl : l = m := by simpa using hrun
    simp
  | cons e more ih =>
    obtain ⟨u, hu, hrest⟩ := exec_cons_eq_some.mp hrun
    specialize ih hrest
    unfold waitingCount at ih ⊢
    cases (roundStep_of_step hu).1 with
    | push t _ _ hpush _ hqueue =>
      have hcall : e ≠ .callFunctor := by
        rintro rfl
        cases hpush
      rw [List.count_cons_of_ne hcall, List.countP_cons_of_pos hpush]
      simp only [hqueue, FunctorQueue.pushOnto, List.length_append, List.length_singleton] at ih
      omega
    | swap _ hqueue =>
      rw [List.count_cons_of_ne (by simp), List.countP_cons_of_neg (by simp [LoopEvent.isPush])]
      simp only [hqueue, List.length_nil] at ih
      omega
    | call c rest _ hfunctors hqueue =>
      rw [List.count_cons_self, List.countP_cons_of_neg (by simp [LoopEvent.isPush]), hfunctors,
        List.length_cons]
      simp only [hqueue] at ih
      omega
    | finish _ _ hqueue =>
      rw [List.count_cons_of_ne (by simp), List.countP_cons_of_neg (by simp [LoopEvent.isPush])]
      rw [hqueue] at ih
      exact ih
    | moves _ _ hpush _ hcall hqueue =>
      rw [List.count_cons_of_ne hcall, List.countP_cons_of_neg (by simp [hpush])]
      rw [hqueue] at ih
      exact ih
    | other _ _ hpush hloop hqueue =>
      have hcall : e ≠ .callFunctor := by
        rintro rfl
        cases hloop
      rw [List.count_cons_of_ne hcall, List.countP_cons_of_neg (by simp [hpush])]
      rw [hqueue] at ih
      exact ih

/-- Between the ends of two rounds `loop()` takes nine steps, apart from the calls. -/
lemma loopSteps_le (hrun : exec EventLoop.step l more = some m) (hleave : .leave ∉ more) :
    more.countP LoopEvent.isLoopStep + l.pc.place ≤
      m.pc.place + 9 * more.count .functorsCalled + more.count .callFunctor := by
  induction more generalizing l with
  | nil =>
    obtain rfl : l = m := by simpa using hrun
    simp
  | cons e more ih =>
    obtain ⟨u, hu, hrest⟩ := exec_cons_eq_some.mp hrun
    obtain ⟨hne, hleave⟩ := not_or.mp (mt List.mem_cons.mpr hleave)
    specialize ih hrest hleave
    cases (roundStep_of_step hu).1 with
    | push t _ _ _ hloop _ hpc | other _ _ _ hloop _ hpc =>
      rw [hpc] at ih
      rw [List.countP_cons_of_neg (by simp [hloop]), List.count_cons, List.count_cons]
      omega
    | swap hpc _ hpc' =>
      rw [hpc', LoopPc.place] at ih
      rw [List.countP_cons_of_pos rfl, List.count_cons_of_ne (by simp),
        List.count_cons_of_ne (by simp), hpc, LoopPc.place]
      omega
    | call _ _ hpc _ _ hpc' =>
      rw [hpc', ← hpc] at ih
      rw [List.countP_cons_of_pos rfl, List.count_cons_of_ne (by simp), List.count_cons_self]
      omega
    | finish hpc _ _ hpc' =>
      rw [hpc', LoopPc.place] at ih
      rw [List.countP_cons_of_pos rfl, List.count_cons_self, List.count_cons_of_ne (by simp), hpc,
        LoopPc.place]
      omega
    | moves _ _ _ _ _ _ _ _ hplace =>
      have hless := hplace (Ne.symm hne)
      rw [List.countP_cons, List.count_cons, List.count_cons]
      split <;> omega

/-- A loop that is not left and takes enough steps has come to the end of two rounds. -/
lemma two_rounds (hrun : exec EventLoop.step l more = some m) (hleave : .leave ∉ more)
    (hsteps : l.waitingCount + more.countP LoopEvent.isPush + 19 ≤
      more.countP LoopEvent.isLoopStep) : 2 ≤ more.count .functorsCalled := by
  have hcalls := calls_le hrun
  have hloop := loopSteps_le hrun hleave
  have hplace := place_le m.pc
  omega

/-- The loop with all its threads runs a functor queue: its pushes, swaps and calls are those of the
queue that it holds, in which nothing is lost, run twice or overtaken.  What waits at any time is
called by the end of the next round of `doPendingFunctors`, or of the second one where a round is in
progress, and before all that is pushed later; and the loop, unless it is left, has got there after
nineteen of its own steps and one for every functor that waits or is pushed meanwhile. -/
theorem functors_run_in_rounds (hrun : exec EventLoop.step (new threadId) es = some l)
    (hmore : exec EventLoop.step l more = some m) :
    exec FunctorQueue.step .init (es.flatMap (LoopEvent.queueEvents threadId)) = some l.queue ∧
      exec FunctorQueue.step l.queue (more.flatMap (LoopEvent.queueEvents threadId)) =
        some m.queue ∧
      m.queue.Correct ∧
      (l.pc ≠ .running → .functorsCalled ∈ more → l.queue.all <+: m.executed) ∧
      (2 ≤ more.count .functorsCalled → l.queue.all <+: m.executed) ∧
      (.leave ∉ more →
        l.waitingCount + more.countP LoopEvent.isPush + 19 ≤ more.countP LoopEvent.isLoopStep →
          l.queue.all <+: m.executed) := by
  obtain ⟨hq, hl, hid⟩ := (between_new threadId).run hrun
  obtain ⟨hr, -, -⟩ := hl.run hmore
  have htwo (hrounds : 2 ≤ more.count .functorsCalled) : l.queue.all <+: m.executed :=
    hl.executed_of_two hmore List.prefix_rfl hrounds
  refine ⟨hq, ?_, ?_, ?_, htwo, ?_⟩
  · rwa [hid] at hr
  · exact FunctorQueue.correct_of_exec (exec_append_of_eq_some hq hr)
  · intro hpc hround
    exact hl.executed_of_notRunning hmore hpc List.prefix_rfl hround
  · intro hleave hsteps
    exact htwo (two_rounds hmore hleave hsteps)

/-- Two functors that another thread pushes during a round, and one that a functor of the round
pushes between them, are called in the next round, in this order. -/
theorem functors_run_in_rounds_push : ∃ l m : EventLoop,
    exec EventLoop.step (new 0) [.queueInLoop, .enter, .clearQuit, .test, .poll 0 0,
      .pollReturns false, .runTimer, .doPendingFunctors, .swap, .push 1, .wakeup 1, .callFunctor,
      .queueInLoop, .push 1] = some l ∧
    exec EventLoop.step l [.wakeup 1, .functorsCalled, .functorsDestroyed, .test, .poll 0 0,
      .pollReturns true, .handleRead, .runTimer, .doPendingFunctors, .swap, .callFunctor,
      .callFunctor, .callFunctor, .functorsCalled] = some m ∧
    l.queue.all = [⟨0, 0⟩, ⟨1, 0⟩, ⟨0, 1⟩, ⟨1, 1⟩] ∧ l.queue.all <+: m.executed := by
  obtain ⟨l, hrun, hall, hany⟩ : ∃ l, exec EventLoop.step (new 0) [.queueInLoop, .enter, .clearQuit,
      .test, .poll 0 0, .pollReturns false, .runTimer, .doPendingFunctors, .swap, .push 1,
      .wakeup 1, .callFunctor, .queueInLoop, .push 1] = some l ∧
        l.queue.all = [⟨0, 0⟩, ⟨1, 0⟩, ⟨0, 1⟩, ⟨1, 1⟩] ∧
        (exec EventLoop.step l [.wakeup 1, .functorsCalled, .functorsDestroyed, .test, .poll 0 0,
          .pollReturns true, .handleRead, .runTimer, .doPendingFunctors, .swap, .callFunctor,
          .callFunctor, .callFunctor, .functorsCalled]).any
            (fun m => decide (m.functors = [])) = true :=
    exists_exec_of_any (by decide +kernel)
  obtain ⟨m, hmore, -⟩ := exists_exec_of_any hany
  obtain ⟨-, -, -, -, htwo, -⟩ := functors_run_in_rounds hrun hmore
  exact ⟨l, m, hrun, hmore, hall, htwo (by decide)⟩

end EventLoop

end SimpleMuduo
