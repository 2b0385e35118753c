import SimpleMuduo.TcpClient.Interleaving

/-!
# Stopping a client that reconnects

`removeConnection` tests the `connect_` of the client, and `restart()` then sets the `connect_` of
the connector; a `stop()` between the two is overridden by the second.  What stops the client then
is the functor `stopInLoop`: it is called when `restart()` has returned, and the attempt that it
finds is given up, because another one ends in the assertion that there is no channel.  So `stop()`
is respected as long as its functor is not lost.
-/

namespace SimpleMuduo

/-- There has been a `connect()` since the thread has called `stop()`. -/
def connectedSince (t : ThreadId) : List ReconnectEffect → Bool
  | [] => false
  | .stop u :: history => if u = t then false else connectedSince t history
  | .connect :: _ => true
  | _ :: history => connectedSince t history

/-- For each `stop()` that has returned, and that no `connect()` has followed since it was called:
the functors that had not run when it returned, without those that have run since. -/
def awaited : List ReconnectEffect → List (List NumberedFunctor)
  | [] => []
  | .connect :: _ => []
  | .stopReturned t unfinished :: history =>
    if connectedSince t history then awaited history else unfinished :: awaited history
  | .ran f :: history => (awaited history).map fun fs => fs.filter (· ≠ f)
  | _ :: history => awaited history

/-- A socket or a `TcpConnection` was created. -/
def ReconnectEffect.Creates (e : ReconnectEffect) : Prop :=
  match e with
  | .socket _ | .newConnection _ => True
  | _ => False

instance (e : ReconnectEffect) : Decidable e.Creates :=
  match e with
  | .socket _ | .newConnection _ => isTrue trivial
  | .connect | .stop _ | .stopReturned _ _ | .ran _ | .close _ => isFalse id

/-- What leads to a connection. -/
def LoopTask.starts : LoopTask → Bool
  | .restart | .startInLoop | .connect | .retry _ | .connected _ | .newConnection => true
  | _ => false

/-- `stop()` has stored the `connect_` of the client. -/
def ClientCallPc.Stored : ClientCallPc → Prop
  | .connectorStop | .stopReturns => True
  | .queueInLoop f | .writeBack _ f => f = .stopInLoop
  | _ => False

/-- The thread is in no call, or it is queueing `resetChannel`. -/
def ClientCallPc.Resets (pc : ClientCallPc) : Prop :=
  pc = .idle ∨ pc = .queueInLoop .resetChannel ∨ ∃ read, pc = .writeBack read .resetChannel

/-- A call has begun that is not `connect()` and does not queue `stopInLoop`. -/
def ClientCallPc.Plain (pc : ClientCallPc) : Prop :=
  pc = .stop ∨ ∃ f, f ≠ .stopInLoop ∧ pc = .queueInLoop f

namespace ReconnectingClient

open VectorQueue (loopThread)

/-- Whenever a socket or a `TcpConnection` was created, some functor had still to run of those that
were unfinished when a `stop()` returned, unless there has been a `connect()` since that `stop()`
was called. -/
def StopRespected (s : ReconnectingClient) : Prop :=
  Whenever ReconnectEffect.Creates (fun past => [] ∉ awaited past) s.history

/-- The vector that is written back has all the functors `stopInLoop` that are in the one that it
replaces. -/
def KeepsStops (s : ReconnectingClient) : ReconnectEvent → Prop
  | .call t =>
    match s.calls t with
    | .writeBack read _ => ∀ f ∈ s.pendingFunctors_, f.functor = .stopInLoop → f ∈ read
    | _ => True
  | _ => True

/-! ## The invariant -/

/-- `connect()` is being called. -/
def Starting (s : ReconnectingClient) : Prop :=
  s.calls loopThread = .connect ∨ s.calls loopThread = .connectorStart

/-- Nothing is under way that leads to a connection. -/
structure Quiet (s : ReconnectingClient) : Prop where
  connect_ : s.connect_ = false
  state : s.state_ ≠ .kConnecting
  tasks : ∀ task ∈ s.tasks, task.starts = false
  calls : ¬ s.Starting

/-- Nothing is under way, or a functor `stopInLoop` of the list has still to run. -/
def Heeded (s : ReconnectingClient) (fs : List NumberedFunctor) : Prop :=
  s.Quiet ∨ ∃ f ∈ fs, f.functor = .stopInLoop ∧ f ∈ s.unfinished

/-- How far the functor `stopInLoop` that is being called has got: the attempt that it has given up
leaves a channel, so that the next one does not get further than to its assertion. -/
inductive Stopping (s : ReconnectingClient) (f : NumberedFunctor) : Prop
  | begins (htasks : s.tasks = [.stopInLoop, .return f]) (hcall : s.calls loopThread = .idle)
  | removed (sockfd : Fd)
      (htasks : s.tasks = [.queueInLoop .resetChannel, .retry sockfd, .return f])
      (hcall : s.calls loopThread = .idle) (hstate : s.state_ = .kDisconnected)
      (hchannel : s.channel_ ≠ none)
  | retries (sockfd : Fd) (htasks : s.tasks = [.retry sockfd, .return f])
      (hcall : (s.calls loopThread).Resets) (hstate : s.state_ = .kDisconnected)
      (hchannel : s.channel_ ≠ none)
  | starts (htasks : s.tasks = [.startInLoop, .return f]) (hcall : s.calls loopThread = .idle)
      (hstate : s.state_ = .kDisconnected) (hchannel : s.channel_ ≠ none)
  | connects (htasks : s.tasks = [.connect, .return f]) (hcall : s.calls loopThread = .idle)
      (hstate : s.state_ = .kDisconnected) (hchannel : s.channel_ ≠ none)
  | ended (htasks : s.tasks = [.return f]) (hcall : s.calls loopThread = .idle)
      (hstate : s.state_ ≠ .kConnecting)

/-- Every `stop()` that no `connect()` has followed is heeded, or is going to be when the functors
that are awaited have run. -/
structure StopInv (s : ReconnectingClient) : Prop where
  queues : .queueInLoop .stopInLoop ∉ s.tasks
  running : ∀ f : NumberedFunctor, f.functor = .stopInLoop → .return f ∈ s.tasks → s.Stopping f
  connects : ∀ t, s.calls t = .connect ∨ s.calls t = .connectorStart → t = loopThread
  stored : ∀ t, (s.calls t).Stored → connectedSince t s.history = false → ¬ s.Starting →
    s.connect_ = false
  returns : ∀ t, s.calls t = .stopReturns → connectedSince t s.history = false →
    s.Heeded s.unfinished
  awaits : ∀ fs ∈ awaited s.history, s.Heeded fs ∧ (¬ s.Starting → s.connect_ = false)

lemma new_stopInv : StopInv .new where
  queues := List.not_mem_nil
  running := fun _ _ hmem => absurd hmem List.not_mem_nil
  connects := fun _ hcall => by rcases hcall with hcall | hcall <;> cases hcall
  stored := fun _ hstored => hstored.elim
  returns := fun _ hcall => by cases hcall
  awaits := fun _ hmem => absurd hmem List.not_mem_nil

variable {s s' : ReconnectingClient} {f : NumberedFunctor} {fs : List NumberedFunctor}
  {task : LoopTask} {rest : List LoopTask}

lemma Heeded.mono (h : s.Heeded fs) (hquiet : s.Quiet → s'.Quiet)
    (hunfinished : ∀ f, f.functor = .stopInLoop → f ∈ s.unfinished → f ∈ s'.unfinished) :
    s'.Heeded fs := by
  rcases h with hq | ⟨f, hf, hstop, hmem⟩
  · exact .inl (hquiet hq)
  · exact .inr ⟨f, hf, hstop, hunfinished f hstop hmem⟩

/-- A functor `stopInLoop` that has still to run is an unfinished one. -/
lemma Heeded.of_unfinished (h : s.Heeded fs) : s.Heeded s.unfinished := by
  rcases h with hq | ⟨f, -, hstop, hmem⟩
  · exact .inl hq
  · exact .inr ⟨f, hmem, hstop, hmem⟩

/-- What is awaited when something is under way that leads to a connection. -/
lemma Heeded.ne_nil (h : s.Heeded fs) (hnot : ¬ s.Quiet) : fs ≠ [] := by
  rcases h with hq | ⟨f, hf, -⟩
  · exact absurd hq hnot
  · exact List.ne_nil_of_mem hf

lemma mem_unfinished : f ∈ s.unfinished ↔
    f ∈ s.pendingFunctors_ ∨ f ∈ s.functors ∨ .return f ∈ s.tasks := by
  have hreturn : f ∈ s.tasks.filterMap LoopTask.returning ↔ .return f ∈ s.tasks := by
    rw [List.mem_filterMap]
    constructor
    · rintro ⟨task, htask, heq⟩
      cases task with
      | «return» g =>
        obtain rfl := Option.some.inj heq
        exact htask
      | _ => cases heq
    · exact fun hmem => ⟨_, hmem, rfl⟩
  rw [unfinished, List.mem_append, List.mem_append, hreturn, or_assoc]

namespace Stopping

/-- Only the thread of the loop gets on with the functor. -/
lemma congr (h : s.Stopping f) (htasks : s'.tasks = s.tasks)
    (hcall : s'.calls loopThread = s.calls loopThread) (hstate : s'.state_ = s.state_)
    (hchannel : s'.channel_ = s.channel_) : s'.Stopping f := by
  cases h with
  | begins h₁ h₂ => exact .begins (htasks.trans h₁) (hcall.trans h₂)
  | removed sockfd h₁ h₂ h₃ h₄ =>
    exact .removed sockfd (htasks.trans h₁) (hcall.trans h₂) (hstate.trans h₃) (hchannel ▸ h₄)
  | retries sockfd h₁ h₂ h₃ h₄ =>
    exact .retries sockfd (htasks.trans h₁) (hcall ▸ h₂) (hstate.trans h₃) (hchannel ▸ h₄)
  | starts h₁ h₂ h₃ h₄ =>
    exact .starts (htasks.trans h₁) (hcall.trans h₂) (hstate.trans h₃) (hchannel ▸ h₄)
  | connects h₁ h₂ h₃ h₄ =>
    exact .connects (htasks.trans h₁) (hcall.trans h₂) (hstate.trans h₃) (hchannel ▸ h₄)
  | ended h₁ h₂ h₃ => exact .ended (htasks.trans h₁) (hcall.trans h₂) (hstate ▸ h₃)

/-- The thread of the loop is in no call but the one that queues `resetChannel`. -/
lemma resets (h : s.Stopping f) : (s.calls loopThread).Resets := by
  cases h with
  | begins _ hcall | removed _ _ hcall | starts _ hcall | connects _ hcall | ended _ hcall =>
    exact .inl hcall
  | retries _ _ hcall => exact hcall

/-- No user code is running. -/
lemma not_mayCall (h : s.Stopping f) : s.mayCall loopThread = false := by
  cases h with
  | begins htasks | removed _ htasks | retries _ htasks | starts htasks | connects htasks
  | ended htasks => simp [mayCall, htasks]

end Stopping

/-! ## What keeps the invariant -/

namespace StopInv

/-- The rule for a step that connects nothing and takes no functor `stopInLoop` away. -/
lemma of_kept (h : s.StopInv) (hqueues : .queueInLoop .stopInLoop ∉ s'.tasks)
    (hrunning : ∀ f : NumberedFunctor, f.functor = .stopInLoop → .return f ∈ s'.tasks →
      s'.Stopping f)
    (hconnects : ∀ t, s'.calls t = .connect ∨ s'.calls t = .connectorStart → t = loopThread)
    (hstored : ∀ t, (s'.calls t).Stored → connectedSince t s'.history = false →
      s'.connect_ = false ∨ (s.calls t).Stored ∧ connectedSince t s.history = false)
    (hreturns : ∀ t, s'.calls t = .stopReturns → connectedSince t s'.history = false →
      s'.Heeded s'.unfinished ∨ s.calls t = .stopReturns ∧ connectedSince t s.history = false)
    (hawaited : awaited s'.history = awaited s.history)
    (hconnect : s.connect_ = false → ¬ s'.Starting → s'.connect_ = false)
    (hstarting : s.Starting → s'.Starting) (hquiet : s.Quiet → s'.Quiet)
    (hunfinished : ∀ f, f.functor = .stopInLoop → f ∈ s.unfinished → f ∈ s'.unfinished) :
    s'.StopInv where
  queues := hqueues
  running := hrunning
  connects := hconnects
  stored t hcall hsince hnot := by
    rcases hstored t hcall hsince with hfalse | ⟨hold, hsince⟩
    · exact hfalse
    · exact hconnect (h.stored t hold hsince fun hs => hnot (hstarting hs)) hnot
  returns t hcall hsince := by
    rcases hreturns t hcall hsince with hheeded | ⟨hold, hsince⟩
    · exact hheeded
    · exact ((h.returns t hold hsince).mono hquiet hunfinished).of_unfinished
  awaits fs hfs := by
    obtain ⟨hheeded, hfalse⟩ := h.awaits fs (hawaited ▸ hfs)
    refine ⟨hheeded.mono hquiet hunfinished, fun hnot => hconnect ?_ hnot⟩
    exact hfalse fun hs => hnot (hstarting hs)

/-- The rule for a step that goes on in no call. -/
lemma of_plain (h : s.StopInv) (hqueues : .queueInLoop .stopInLoop ∉ s'.tasks)
    (hrunning : ∀ f : NumberedFunctor, f.functor = .stopInLoop → .return f ∈ s'.tasks →
      s'.Stopping f)
    (hcalls : ∀ t, s'.calls t = s.calls t ∨ s.calls t = .idle ∧ (s'.calls t).Plain)
    (hsince : ∀ t, s'.calls t = s.calls t → connectedSince t s'.history = false →
      connectedSince t s.history = false)
    (hawaited : awaited s'.history = awaited s.history)
    (hconnect : s.connect_ = false → s'.connect_ = false)
    (hstate : s.Quiet → s'.state_ ≠ .kConnecting)
    (htasks : s.Quiet → ∀ task ∈ s'.tasks, task.starts = false)
    (hunfinished : ∀ f, f.functor = .stopInLoop → f ∈ s.unfinished → f ∈ s'.unfinished) :
    s'.StopInv := by
  have hstarting : s'.Starting ↔ s.Starting := by
    rcases hcalls loopThread with heq | ⟨hidle, hpc | ⟨g, -, hpc⟩⟩
    · simp [Starting, heq]
    · simp [Starting, hidle, hpc]
    · simp [Starting, hidle, hpc]
  refine h.of_kept hqueues hrunning ?_ ?_ ?_ hawaited (fun hfalse _ => hconnect hfalse)
    hstarting.mpr ?_ hunfinished
  · intro t hcall
    rcases hcalls t with heq | ⟨-, hpc | ⟨g, -, hpc⟩⟩
    · exact h.connects t (heq ▸ hcall)
    · simp [hpc] at hcall
    · simp [hpc] at hcall
  · intro t hcall hnot
    rcases hcalls t with heq | ⟨-, hpc | ⟨g, hg, hpc⟩⟩
    · exact .inr ⟨heq ▸ hcall, hsince t heq hnot⟩
    · rw [hpc] at hcall
      exact hcall.elim
    · rw [hpc] at hcall
      exact absurd hcall hg
  · intro t hcall hnot
    rcases hcalls t with heq | ⟨-, hpc | ⟨g, -, hpc⟩⟩
    · exact .inr ⟨heq ▸ hcall, hsince t heq hnot⟩
    · simp [hpc] at hcall
    · simp [hpc] at hcall
  · exact fun hq =>
      ⟨hconnect hq.connect_, hstate hq, htasks hq, fun hs => hq.calls (hstarting.mp hs)⟩

/-- The rule for a step of `connect()`: no `stop()` counts that was called before. -/
lemma of_connect {past : List ReconnectEffect} (hhistory : s'.history = .connect :: past)
    (hqueues : .queueInLoop .stopInLoop ∉ s'.tasks)
    (hrunning : ∀ f : NumberedFunctor, f.functor = .stopInLoop → .return f ∈ s'.tasks →
      s'.Stopping f)
    (hconnects : ∀ t, s'.calls t = .connect ∨ s'.calls t = .connectorStart → t = loopThread) :
    s'.StopInv where
  queues := hqueues
  running := hrunning
  connects := hconnects
  stored t _ hsince := by
    rw [hhistory] at hsince
    cases hsince
  returns t _ hsince := by
    rw [hhistory] at hsince
    cases hsince
  awaits fs hfs := by
    rw [hhistory] at hfs
    cases hfs

/-- Whatever is awaited is not empty while something is under way that leads to a connection. -/
lemma awaited_ne_nil (h : s.StopInv) (hnot : ¬ s.Quiet) : [] ∉ awaited s.history :=
  fun hmem => (h.awaits [] hmem).1.ne_nil hnot rfl

end StopInv

end ReconnectingClient

end SimpleMuduo
