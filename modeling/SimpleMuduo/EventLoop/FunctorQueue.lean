import Mathlib.Data.List.Range
import Mathlib.Data.List.Nodup
import Mathlib.Logic.Function.Basic
import SimpleMuduo.Foundation.TransitionSystem

/-!
# The functor queue of the event loop

`EventLoop::queueInLoop` appends to `pendingFunctors_` from any thread, and
`EventLoop::doPendingFunctors` swaps the vector out on the loop thread and runs what it took.

The queue is modelled on two levels.  `FunctorQueue` is the queue as it is meant: appending is
one atomic step.  `VectorQueue` is the queue as it is written: `queueInLoop` constructs its
`unique_lock` with `std::defer_lock`, so the lock is never taken, and `emplace_back` is a read of
the vector followed by a separate write back of the extended vector.  The swap does hold
`mutex_`, but there is no other critical section for it to exclude.

A functor is identified by the call that queued it: the thread and how many functors that thread
had queued before.
-/

namespace SimpleMuduo

/-- A thread id. -/
abbrev ThreadId := ℕ

/-- A call `queueInLoop(cb)`: the calling thread and the number of its earlier calls. -/
structure QueueCall where
  thread : ThreadId
  number : ℕ
  deriving DecidableEq, Repr

/-- The numbers of the calls of the thread `t` in a list of calls. -/
def numbersOf (t : ThreadId) (calls : List QueueCall) : List ℕ :=
  (calls.filter fun c => c.thread = t).map QueueCall.number

/-- The calls of a concatenation are those of its parts. -/
lemma numbersOf_append (t : ThreadId) (l l' : List QueueCall) :
    numbersOf t (l ++ l') = numbersOf t l ++ numbersOf t l' := by
  simp [numbersOf]

/-- A call is in a list exactly when its number is among those of its thread. -/
lemma mem_numbersOf {t : ThreadId} {n : ℕ} {calls : List QueueCall} :
    n ∈ numbersOf t calls ↔ ⟨t, n⟩ ∈ calls := by
  simp only [numbersOf, List.mem_map, List.mem_filter, decide_eq_true_eq]
  constructor
  · rintro ⟨c, ⟨hc, rfl⟩, rfl⟩
    exact hc
  · intro h
    exact ⟨_, ⟨h, rfl⟩, rfl⟩

/-! ## The queue with atomic appends -/

/-- The functor queue: what is pending, the rest of the batch that `doPendingFunctors` took, what
has been run, oldest first, and how many calls of each thread have returned. -/
structure FunctorQueue where
  pendingFunctors_ : List QueueCall
  functors : List QueueCall
  executed : List QueueCall
  returned : ThreadId → ℕ

/-- The steps of the queue. -/
inductive FunctorEvent
  /-- A thread appends its next functor. -/
  | push (t : ThreadId)
  /-- `functors.swap(pendingFunctors_)`. -/
  | swap
  /-- The loop runs the next functor of the batch. -/
  | run

namespace FunctorQueue

/-- The queue of a new loop. -/
def init : FunctorQueue := ⟨[], [], [], fun _ => 0⟩

/-- The thread `t` has appended its next functor to the contents `v`. -/
def pushOnto (q : FunctorQueue) (t : ThreadId) (v : List QueueCall) : FunctorQueue :=
  { q with
    pendingFunctors_ := v ++ [⟨t, q.returned t⟩]
    returned := Function.update q.returned t (q.returned t + 1) }

/-- One step of the queue with atomic appends. -/
def step (q : FunctorQueue) : FunctorEvent → Option FunctorQueue
  | .push t => some (q.pushOnto t q.pendingFunctors_)
  | .swap =>
    if q.functors = [] then
      some { q with functors := q.pendingFunctors_, pendingFunctors_ := [] }
    else none
  | .run =>
    match q.functors with
    | [] => none
    | c :: rest => some { q with functors := rest, executed := q.executed ++ [c] }

/-- Nothing is lost, nothing is run twice, and every thread's functors are run in order. -/
structure Correct (q : FunctorQueue) : Prop where
  /-- Every functor passed to `queueInLoop` is pending, in the batch, or has been run. -/
  notLost : ∀ t n, n < q.returned t →
    ⟨t, n⟩ ∈ q.pendingFunctors_ ∨ ⟨t, n⟩ ∈ q.functors ∨ ⟨t, n⟩ ∈ q.executed
  /-- Every functor is run at most once. -/
  atMostOnce : q.executed.Nodup
  /-- The functors of one thread are run in the order in which it queued them. -/
  inOrder : ∀ t, (numbersOf t q.executed).Pairwise (· < ·)

/-- Every functor ever held, oldest first. -/
def all (q : FunctorQueue) : List QueueCall := q.executed ++ q.functors ++ q.pendingFunctors_

/-- The calls of every thread are held in order and without gaps. -/
def Ordered (q : FunctorQueue) : Prop := ∀ t, numbersOf t q.all = List.range (q.returned t)

/-- Every step keeps the calls of every thread in order and without gaps. -/
lemma ordered_step {q q' : FunctorQueue} {e : FunctorEvent} (hq : q.Ordered)
    (h : q.step e = some q') : q'.Ordered := by
  intro t
  have ht := hq t
  cases e with
  | push u =>
    obtain rfl : q.pushOnto u q.pendingFunctors_ = q' := by simpa [step] using h
    have hall : (q.pushOnto u q.pendingFunctors_).all = q.all ++ [⟨u, q.returned u⟩] := by
      simp [all, pushOnto]
    rw [hall, numbersOf_append, ht]
    by_cases hu : u = t
    · subst hu
      simp [numbersOf, pushOnto, List.range_succ]
    · have hne : t ≠ u := fun h => hu h.symm
      simp [numbersOf, pushOnto, hu, Function.update_of_ne hne]
  | swap =>
    simp only [step, Option.ite_none_right_eq_some, Option.some.injEq] at h
    obtain ⟨hempty, rfl⟩ := h
    simpa [all, hempty] using ht
  | run =>
    cases hf : q.functors with
    | nil => simp [step, hf] at h
    | cons c rest =>
      obtain rfl : _ = q' := by simpa [step, hf] using h
      simpa [all, hf] using ht

/-- A queue that holds the calls of every thread in order and without gaps is correct. -/
lemma Ordered.correct {q : FunctorQueue} (hq : q.Ordered) : q.Correct := by
  refine ⟨?_, ?_, ?_⟩
  · intro t n hn
    have hmem : (⟨t, n⟩ : QueueCall) ∈ q.all := by
      rw [← mem_numbersOf, hq t, List.mem_range]
      exact hn
    simp only [all, List.mem_append] at hmem
    tauto
  · have hnodup : q.all.Nodup := by
      rw [List.nodup_iff_count_le_one]
      rintro ⟨t, n⟩
      calc q.all.count ⟨t, n⟩
          ≤ (numbersOf t q.all).count n := by
            rw [numbersOf, List.count_eq_countP, List.count_eq_countP, List.countP_map,
              List.countP_filter]
            refine List.countP_mono_left fun c _ hc => ?_
            obtain rfl : c = ⟨t, n⟩ := by simpa using hc
            simp
        _ ≤ 1 := by rw [hq t]; exact List.nodup_iff_count_le_one.mp List.nodup_range n
    simp only [all, List.append_assoc] at hnodup
    exact hnodup.of_append_left
  · intro t
    have hsorted : (numbersOf t q.all).Pairwise (· < ·) := by
      rw [hq t]
      exact List.pairwise_lt_range
    rw [all, List.append_assoc, numbersOf_append] at hsorted
    exact (List.pairwise_append.mp hsorted).1

/-- With atomic appends every run of the queue is correct. -/
theorem correct_of_exec {es : List FunctorEvent} {q : FunctorQueue}
    (hrun : exec step init es = some q) : q.Correct :=
  Ordered.correct (invariant_of_exec (fun _ _ _ => ordered_step)
    (fun _ => rfl : init.Ordered) hrun)

end FunctorQueue

/-! ## The queue as it is written -/

/-- The functor queue together with the `emplace_back` calls in progress: the contents of
`pendingFunctors_` that each of them has read. -/
structure VectorQueue extends FunctorQueue where
  reading : ThreadId → Option (List QueueCall)

/-- The steps of the threads that share the queue. -/
inductive VectorEvent
  /-- `emplace_back` of `queueInLoop` reads the vector. -/
  | readVector (t : ThreadId)
  /-- `emplace_back` of `queueInLoop` writes the extended vector back. -/
  | writeBack (t : ThreadId)
  /-- `doPendingFunctors` locks `mutex_`, swaps and unlocks. -/
  | swap
  /-- `doPendingFunctors` runs the next functor. -/
  | run

namespace VectorQueue

/-- The thread of the event loop. -/
def loopThread : ThreadId := 0

/-- The queue of a new loop. -/
def init : VectorQueue := ⟨FunctorQueue.init, fun _ => none⟩

/-- One step of the threads that share the queue.  The loop thread swaps and starts a functor only
when it is not itself inside `queueInLoop`. -/
def step (q : VectorQueue) : VectorEvent → Option VectorQueue
  | .readVector t =>
    match q.reading t with
    | none => some { q with reading := Function.update q.reading t (some q.pendingFunctors_) }
    | some _ => none
  | .writeBack t =>
    match q.reading t with
    | none => none
    | some snapshot =>
      some ⟨q.toFunctorQueue.pushOnto t snapshot, Function.update q.reading t none⟩
  | .swap =>
    if q.reading loopThread = none then
      (q.toFunctorQueue.step .swap).map fun f => { q with toFunctorQueue := f }
    else none
  | .run =>
    if q.reading loopThread = none then
      (q.toFunctorQueue.step .run).map fun f => { q with toFunctorQueue := f }
    else none

/-- The vector that an `emplace_back` writes back extends the one that is still in place: no
other append and no swap fell between its read and its write. -/
def WriteBackCurrent (q : VectorQueue) : VectorEvent → Prop
  | .writeBack t => ∀ snapshot, q.reading t = some snapshot → snapshot = q.pendingFunctors_
  | _ => True

instance (q : VectorQueue) (e : VectorEvent) : Decidable (q.WriteBackCurrent e) :=
  match e with
  | .writeBack t =>
    inferInstanceAs (Decidable (∀ snapshot ∈ q.reading t, snapshot = q.pendingFunctors_))
  | .readVector _ | .swap | .run => inferInstanceAs (Decidable True)

/-- What a step of the written queue is in the queue with atomic appends. -/
def atomicEvents : VectorEvent → List FunctorEvent
  | .readVector _ => []
  | .writeBack t => [.push t]
  | .swap => [.swap]
  | .run => [.run]

/-- A step that writes back a current vector is matched by the queue with atomic appends. -/
lemma step_refines {q q' : VectorQueue} {e : VectorEvent} (hcurrent : q.WriteBackCurrent e)
    (h : q.step e = some q') :
    exec FunctorQueue.step q.toFunctorQueue (atomicEvents e) = some q'.toFunctorQueue := by
  cases e with
  | readVector t =>
    cases hr : q.reading t with
    | some snapshot => simp [step, hr] at h
    | none =>
      obtain rfl : _ = q' := by simpa [step, hr] using h
      rfl
  | writeBack t =>
    cases hr : q.reading t with
    | none => simp [step, hr] at h
    | some snapshot =>
      obtain rfl : _ = q' := by simpa [step, hr] using h
      have hsnap : snapshot = q.pendingFunctors_ := hcurrent snapshot hr
      simp [atomicEvents, FunctorQueue.step, hsnap]
  | swap | run =>
    simp only [step, Option.ite_none_right_eq_some, Option.map_eq_some_iff] at h
    obtain ⟨-, f, hf, rfl⟩ := h
    simpa [atomicEvents] using hf

/-- In every run in which each write back finds the vector it read still in place, the written
queue refines the queue with atomic appends. -/
theorem refines_functorQueue {es : List VectorEvent} {q : VectorQueue}
    (hmeets : Meets step WriteBackCurrent init es) (hrun : exec step init es = some q) :
    ∃ fs, exec FunctorQueue.step FunctorQueue.init fs = some q.toFunctorQueue := by
  have hstep : ∀ (s : VectorQueue) (e : VectorEvent) (t : VectorQueue), True →
      s.WriteBackCurrent e → step s e = some t →
      True ∧ exec FunctorQueue.step s.toFunctorQueue (atomicEvents e) = some t.toFunctorQueue :=
    fun _ _ _ _ hcurrent h => ⟨trivial, step_refines hcurrent h⟩
  exact refines_of_meets hstep trivial hmeets hrun

/-- In every run in which each write back finds the vector it read still in place, no functor is
lost, none is run twice, and the functors of one thread are run in the order it queued them. -/
theorem correct_of_writeBackCurrent {es : List VectorEvent} {q : VectorQueue}
    (hmeets : Meets step WriteBackCurrent init es) (hrun : exec step init es = some q) :
    q.toFunctorQueue.Correct := by
  obtain ⟨fs, hfs⟩ := refines_functorQueue hmeets hrun
  exact FunctorQueue.correct_of_exec hfs

/-- Three functors of two threads whose appends do not overlap, with a swap between them. -/
theorem correct_of_writeBackCurrent_two_threads :
    ∃ q, exec step init [.readVector 1, .writeBack 1, .swap, .readVector 2, .writeBack 2, .run,
        .readVector 1, .writeBack 1, .swap, .run, .run] = some q ∧
      q.executed = [⟨1, 0⟩, ⟨2, 0⟩, ⟨1, 1⟩] ∧ q.toFunctorQueue.Correct := by
  have hmeets : Meets step WriteBackCurrent init [.readVector 1, .writeBack 1, .swap,
      .readVector 2, .writeBack 2, .run, .readVector 1, .writeBack 1, .swap, .run, .run] := by
    decide
  exact ⟨_, rfl, rfl, correct_of_writeBackCurrent hmeets rfl⟩

/-- Two threads whose unlocked appends overlap: the functor of thread 1 is overwritten. -/
theorem not_correct_of_overlap :
    ¬ ∀ (es : List VectorEvent) (q : VectorQueue),
      exec step init es = some q → q.toFunctorQueue.Correct := by
  intro h
  have hlost := (h [.readVector 1, .readVector 2, .writeBack 1, .writeBack 2] _ rfl).notLost 1 0
    (by decide)
  revert hlost
  decide

end VectorQueue

end SimpleMuduo
