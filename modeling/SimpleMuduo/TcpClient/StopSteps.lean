import SimpleMuduo.Foundation.TransitionSystem
import SimpleMuduo.TcpClient.Stop

/-!
# The steps of a client that reconnects

What the steps of the thread of the loop and of the calls do to the invariant of `stop()`, and from
it the statement about a run.  A step after which the process has ended has to keep only what is
recorded.
-/

namespace SimpleMuduo

/-- Neither the return of a functor nor a `queueInLoop` of `stopInLoop`. -/
def LoopTask.plain : LoopTask → Bool
  | .return _ | .queueInLoop .stopInLoop => false
  | _ => true

namespace ReconnectingClient

open VectorQueue (loopThread)

variable {s s' : ReconnectingClient} {f : NumberedFunctor} {task : LoopTask} {rest : List LoopTask}
  {answers : TaskAnswers} {t : ThreadId}

/-! ## The tasks of the loop -/

/-- The thread of the loop has run a part of a member function: it leaves the calls, the `connect_`
of the client and the functors as they are. -/
structure RunsTask (s s' : ReconnectingClient) : Prop where
  calls : s'.calls = s.calls
  connect_ : s'.connect_ = s.connect_
  pendingFunctors_ : s'.pendingFunctors_ = s.pendingFunctors_
  functors : s'.functors = s.functors
  since : ∀ t, connectedSince t s'.history = connectedSince t s.history
  awaited : awaited s'.history = awaited s.history
  next : ∃ new, s'.tasks = new ++ s.tasks ∧ new.all LoopTask.plain = true

namespace RunsTask

/-- Only the thread of the loop uses these. -/
lemma own (s : ReconnectingClient) (connection_ : Option ℕ) (connectorConnect_ : Bool)
    (state_ : ConnectorState) (channel_ : Option ClientChannel) :
    s.RunsTask { s with
      connection_ := connection_
      connectorConnect_ := connectorConnect_
      state_ := state_
      channel_ := channel_ } :=
  ⟨rfl, rfl, rfl, rfl, fun _ => rfl, rfl, [], rfl, rfl⟩

/-- Nothing happens. -/
lemma refl (s : ReconnectingClient) : s.RunsTask s := own s _ _ _ _

/-- The task ends the process. -/
lemma fail (h : s.RunsTask s') (fault : ReconnectFault) : s.RunsTask (s'.fail fault) :=
  ⟨h.calls, h.connect_, h.pendingFunctors_, h.functors, h.since, h.awaited, h.next⟩

/-- A task may close a socket. -/
lemma close (h : s.RunsTask s') (sockfd : Fd) : s.RunsTask (s'.close sockfd) :=
  ⟨h.calls, h.connect_, h.pendingFunctors_, h.functors, h.since, h.awaited, h.next⟩

/-- A task may open a socket. -/
lemma socket (h : s.RunsTask s') (sockfd : Fd) : s.RunsTask (s'.record (.socket sockfd)) :=
  ⟨h.calls, h.connect_, h.pendingFunctors_, h.functors, h.since, h.awaited, h.next⟩

/-- A task whose parts do such steps. -/
lemma trans {s'' : ReconnectingClient} (h : s.RunsTask s') (h' : s'.RunsTask s'') :
    s.RunsTask s'' := by
  obtain ⟨new, htasks, hnew⟩ := h.next
  obtain ⟨new', htasks', hnew'⟩ := h'.next
  refine ⟨h'.calls.trans h.calls, h'.connect_.trans h.connect_,
    h'.pendingFunctors_.trans h.pendingFunctors_, h'.functors.trans h.functors,
    fun t => (h'.since t).trans (h.since t), h'.awaited.trans h.awaited, new' ++ new, ?_, ?_⟩
  · rw [htasks', htasks, List.append_assoc]
  · rw [List.all_append, hnew', hnew, Bool.and_self]

/-- A task may have other tasks run before the rest. -/
lemma before (h : s.RunsTask s') (new : List LoopTask) (hnew : new.all LoopTask.plain = true) :
    s.RunsTask (s'.before new) :=
  h.trans ⟨rfl, rfl, rfl, rfl, fun _ => rfl, rfl, new, rfl, hnew⟩

end RunsTask

/-- `removeConnection` may have `restart` run. -/
lemma removeConnection_runs (s : ReconnectingClient) (i : ℕ) :
    s.RunsTask (s.removeConnection i) := by
  unfold removeConnection
  split_ifs
  · exact (RunsTask.own s _ _ _ _).before [.queueInLoop (.connectDestroyed i), .testConnect] rfl
  · exact (RunsTask.refl s).fail _

/-- The test of `connect_` in `startInLoop`. -/
lemma testConnect_runs (s : ReconnectingClient) : s.RunsTask s.testConnect := by
  unfold testConnect
  split_ifs
  · exact (RunsTask.refl s).before [.restart] rfl
  · exact .refl s

/-- `restart` has `startInLoop` run. -/
lemma restart_runs (s : ReconnectingClient) : s.RunsTask s.restart :=
  (RunsTask.own s _ _ _ _).before [.startInLoop] rfl

/-- `startInLoop` up to its call of `connect`. -/
lemma startInLoop_runs (s : ReconnectingClient) : s.RunsTask s.startInLoop := by
  unfold startInLoop
  split_ifs
  · exact (RunsTask.refl s).before [.connect] rfl
  · exact (RunsTask.refl s).fail _
  · exact (RunsTask.refl s).fail _

/-- `connecting` makes a channel. -/
lemma connecting_runs (s : ReconnectingClient) (sockfd : Fd) :
    s.RunsTask (s.connecting sockfd) := by
  unfold connecting
  dsimp only
  split_ifs
  · exact .own s _ _ _ _
  · exact (RunsTask.own s _ _ _ _).fail _

/-- The three outcomes of `connect`. -/
lemma connect_runs (s : ReconnectingClient) (attempt : ConnectAttempt) :
    s.RunsTask (s.connect attempt) := by
  have hsocket := (RunsTask.refl s).socket attempt.sockfd
  unfold connect
  split_ifs
  · exact (RunsTask.refl s).fail _
  · cases connectCase attempt.savedErrno with
    | connecting => exact hsocket.trans (connecting_runs _ _)
    | retry => exact hsocket.before [.retry attempt.sockfd] rfl
    | close => exact hsocket.close _

/-- `retry` closes the socket and may have `startInLoop` run. -/
lemma retry_runs (s : ReconnectingClient) (sockfd : Fd) : s.RunsTask (s.retry sockfd) := by
  have hclose : s.RunsTask { s.close sockfd with state_ := .kDisconnected } :=
    ((RunsTask.refl s).close sockfd).trans (.own _ _ _ _ _)
  unfold retry
  dsimp only
  split_ifs
  · exact hclose.before [.startInLoop] rfl
  · exact hclose

/-- `removeAndResetChannel` goes on with the socket of the channel. -/
lemma removeAndResetChannel_runs (s : ReconnectingClient) {next : Fd → LoopTask}
    (hnext : ∀ sockfd, (next sockfd).plain = true) : s.RunsTask (s.removeAndResetChannel next) := by
  unfold removeAndResetChannel
  cases s.channel_ with
  | none => exact (RunsTask.refl s).fail _
  | some channel =>
    refine (RunsTask.own s _ _ _ _).before [.queueInLoop .resetChannel, next channel.fd] ?_
    simp only [List.all_cons, List.all_nil, hnext, Bool.and_true]
    rfl

/-- `stopInLoop` closes the socket of the channel. -/
lemma stopInLoop_runs (s : ReconnectingClient) : s.RunsTask s.stopInLoop := by
  unfold stopInLoop
  split_ifs
  · exact (RunsTask.own s _ _ _ _).trans (removeAndResetChannel_runs _ fun _ => rfl)
  · exact .refl s

/-- `handleError` goes on with `retry`. -/
lemma handleError_runs (s : ReconnectingClient) : s.RunsTask s.handleError := by
  unfold handleError
  split_ifs
  · exact removeAndResetChannel_runs s fun _ => rfl
  · exact .refl s

/-- `handleWrite` goes on with the socket of the channel. -/
lemma handleWrite_runs (s : ReconnectingClient) : s.RunsTask s.handleWrite := by
  unfold handleWrite
  split_ifs
  · exact removeAndResetChannel_runs s fun _ => rfl
  · exact .refl s
  · exact (RunsTask.refl s).fail _

/-- What `handleWrite` does with its socket. -/
lemma connected_runs (s : ReconnectingClient) (answers : TaskAnswers) (sockfd : Fd) :
    s.RunsTask (s.connected answers sockfd) := by
  have hstate := RunsTask.own s s.connection_ s.connectorConnect_ .kConnected s.channel_
  unfold connected
  dsimp only
  split_ifs
  · exact (RunsTask.refl s).before [.retry sockfd] rfl
  · exact hstate.before [.newConnection] rfl
  · exact hstate.close sockfd

/-- `newConnection` of the client. -/
lemma newConnection_runs (s : ReconnectingClient) : s.RunsTask s.newConnection :=
  ⟨rfl, rfl, rfl, rfl, fun _ => rfl, rfl, [.user], rfl, rfl⟩

/-- Every task runs a part of a member function, but the ones that queue and the returns. -/
lemma runTask_runs (s : ReconnectingClient) (answers : TaskAnswers)
    (hqueue : ∀ f, task ≠ .queueInLoop f) (hreturn : ∀ f, task ≠ .return f) :
    s.RunsTask (s.runTask answers task) := by
  cases task with
  | user => exact .refl s
  | removeConnection i => exact removeConnection_runs s i
  | testConnect => exact testConnect_runs s
  | restart => exact restart_runs s
  | startInLoop => exact startInLoop_runs s
  | connect => exact connect_runs s answers.attempt
  | retry sockfd => exact retry_runs s sockfd
  | stopInLoop => exact stopInLoop_runs s
  | handleError => exact handleError_runs s
  | handleWrite => exact handleWrite_runs s
  | connected sockfd => exact connected_runs s answers sockfd
  | newConnection => exact newConnection_runs s
  | queueInLoop f => exact absurd rfl (hqueue f)
  | resetChannel => exact .own s _ _ _ _
  | «return» f => exact absurd rfl (hreturn f)

/-- Without an attempt, and with the `connect_` of the client off, nothing leads to a connection. -/
lemma runTask_quiet (answers : TaskAnswers) (hconnect : s.connect_ = false)
    (hstate : s.state_ ≠ .kConnecting) (hstarts : task.starts = false) :
    (s.runTask answers task).state_ ≠ .kConnecting ∧
      ∀ next ∈ (s.runTask answers task).tasks, next ∈ s.tasks ∨ next.starts = false := by
  have hsame : ∀ next ∈ s.tasks, next ∈ s.tasks ∨ next.starts = false := fun _ => .inl
  cases task with
  | restart | startInLoop | connect | retry | connected | newConnection => cases hstarts
  | user | resetChannel | queueInLoop | «return» => exact ⟨hstate, hsame⟩
  | removeConnection i =>
    simp only [runTask, removeConnection]
    split_ifs
    · refine ⟨hstate, fun next hmem => ?_⟩
      rcases List.mem_append.mp hmem with hnew | hold
      · rcases List.mem_pair.mp hnew with rfl | rfl <;> exact .inr rfl
      · exact .inl hold
    · exact ⟨hstate, hsame⟩
  | testConnect =>
    have hnothing : s.testConnect = s := by simp [testConnect, hconnect]
    rw [runTask, hnothing]
    exact ⟨hstate, hsame⟩
  | stopInLoop | handleError =>
    simpa [runTask, stopInLoop, handleError, hstate] using hsame
  | handleWrite =>
    simp only [runTask, handleWrite, if_neg hstate]
    split_ifs <;> exact ⟨hstate, hsame⟩

/-- Only a task that leads to a connection creates something. -/
lemma runTask_respected (h : s.StopRespected)
    (hstarts : task.starts = true → [] ∉ awaited s.history) :
    (s.runTask answers task).StopRespected := by
  cases task with
  | user | resetChannel | queueInLoop | restart => exact h
  | «return» f => exact ⟨fun hcreates => hcreates.elim, h⟩
  | newConnection => exact ⟨fun _ => hstarts rfl, h⟩
  | removeConnection | testConnect | startInLoop =>
    simp only [runTask, removeConnection, testConnect, startInLoop]
    split_ifs <;> exact h
  | retry sockfd =>
    have hclose : (s.close sockfd).StopRespected := ⟨fun hcreates => hcreates.elim, h⟩
    simp only [runTask, retry]
    split_ifs <;> exact hclose
  | connect =>
    simp only [runTask, connect]
    have hsocket : (s.record (.socket answers.attempt.sockfd)).StopRespected :=
      ⟨fun _ => hstarts rfl, h⟩
    split_ifs
    · exact h
    · cases connectCase answers.attempt.savedErrno with
      | connecting =>
        simp only [connecting]
        split_ifs <;> exact hsocket
      | retry => exact hsocket
      | close => exact ⟨fun hcreates => hcreates.elim, hsocket⟩
  | stopInLoop | handleError | handleWrite =>
    simp only [runTask, stopInLoop, handleError, handleWrite, removeAndResetChannel]
    split_ifs <;> first | exact h | (split <;> exact h)
  | connected sockfd =>
    simp only [runTask, connected]
    split_ifs
    · exact h
    · exact h
    · exact ⟨fun hcreates => hcreates.elim, h⟩

/-! ## The functor `stopInLoop` -/

namespace Stopping

/-- `stopInLoop` gives up the attempt. -/
lemma of_stopInLoop (htasks : s.tasks = [.return f]) (hcall : s.calls loopThread = .idle)
    (hfault : s.stopInLoop.fault = none) : s.stopInLoop.Stopping f := by
  unfold stopInLoop at hfault ⊢
  by_cases hstate : s.state_ = .kConnecting
  · simp only [if_pos hstate, removeAndResetChannel] at hfault ⊢
    cases hchannel : s.channel_ with
    | none => simp [hchannel, fail] at hfault
    | some channel =>
      exact .removed channel.fd (by simp [before, htasks]) hcall rfl (by simp [before])
  · rw [if_neg hstate]
    exact .ended htasks hcall hstate

/-- `retry` of an attempt that has been given up. -/
lemma of_retry {sockfd : Fd} (htasks : s.tasks = [.return f]) (hcall : s.calls loopThread = .idle)
    (hchannel : s.channel_ ≠ none) : (s.retry sockfd).Stopping f := by
  unfold retry
  dsimp only
  split_ifs
  · exact .starts (by simp [before, close, record, htasks]) hcall rfl hchannel
  · exact .ended htasks hcall (by simp)

/-- `startInLoop` after an attempt that has been given up. -/
lemma of_startInLoop (htasks : s.tasks = [.return f]) (hcall : s.calls loopThread = .idle)
    (hstate : s.state_ = .kDisconnected) (hchannel : s.channel_ ≠ none)
    (hfault : s.startInLoop.fault = none) : s.startInLoop.Stopping f := by
  unfold startInLoop at hfault ⊢
  rw [if_pos hstate] at hfault ⊢
  split_ifs at hfault ⊢
  · exact .connects (by simp [before, htasks]) hcall hstate hchannel
  · cases hfault

/-- The channel of the attempt that has been given up is still there. -/
lemma of_connect {attempt : ConnectAttempt} (htasks : s.tasks = [.return f])
    (hcall : s.calls loopThread = .idle) (hstate : s.state_ = .kDisconnected)
    (hchannel : s.channel_ ≠ none) (hfault : (s.connect attempt).fault = none) :
    (s.connect attempt).Stopping f := by
  unfold connect at hfault ⊢
  split_ifs at hfault ⊢
  · cases hfault
  · cases hcase : connectCase attempt.savedErrno with
    | connecting => simp [hcase, connecting, record, hchannel, fail] at hfault
    | retry =>
      exact .retries attempt.sockfd (by simp [before, record, htasks]) (.inl hcall) hstate hchannel
    | close => exact .ended htasks hcall (by simp [close, record, hstate])

/-- The functor queues `resetChannel`. -/
lemma queueInLoop {g : ClientFunctor} (h : s.Stopping f)
    (htasks : s.tasks = .queueInLoop g :: rest) :
    ({ s with tasks := rest }.setCall loopThread (.queueInLoop g)).Stopping f := by
  cases h with
  | removed sockfd heq _ hstate hchannel =>
    obtain ⟨hhead, rfl⟩ := List.cons.inj (htasks.symm.trans heq)
    obtain rfl := LoopTask.queueInLoop.inj hhead
    exact .retries sockfd rfl (.inr (.inl (setCall_self ..))) hstate hchannel
  | begins heq | retries _ heq | starts heq | connects heq | ended heq =>
    exact absurd (List.cons.inj (htasks.symm.trans heq)).1 (by simp)

/-- The functor gets on with every other task of the thread of the loop. -/
lemma runTask (h : s.Stopping f) (htasks : s.tasks = task :: rest)
    (hcall : s.calls loopThread = .idle) (hqueue : ∀ g, task ≠ .queueInLoop g)
    (hreturn : ∀ g, task ≠ .return g)
    (hfault : ({ s with tasks := rest }.runTask answers task).fault = none) :
    ({ s with tasks := rest }.runTask answers task).Stopping f := by
  cases h with
  | begins heq =>
    obtain ⟨rfl, rfl⟩ := List.cons.inj (htasks.symm.trans heq)
    exact .of_stopInLoop rfl hcall hfault
  | removed sockfd heq =>
    obtain ⟨rfl, rfl⟩ := List.cons.inj (htasks.symm.trans heq)
    exact absurd rfl (hqueue .resetChannel)
  | retries sockfd heq _ _ hchannel =>
    obtain ⟨rfl, rfl⟩ := List.cons.inj (htasks.symm.trans heq)
    exact .of_retry rfl hcall hchannel
  | starts heq _ hstate hchannel =>
    obtain ⟨rfl, rfl⟩ := List.cons.inj (htasks.symm.trans heq)
    exact .of_startInLoop rfl hcall hstate hchannel hfault
  | connects heq _ hstate hchannel =>
    obtain ⟨rfl, rfl⟩ := List.cons.inj (htasks.symm.trans heq)
    exact .of_connect rfl hcall hstate hchannel hfault
  | ended heq =>
    obtain ⟨rfl, rfl⟩ := List.cons.inj (htasks.symm.trans heq)
    exact absurd rfl (hreturn f)

end Stopping

/-! ## The thread of the loop -/

/-- What a run keeps: the invariant is needed as long as the process goes on. -/
structure StopSafe (s : ReconnectingClient) : Prop where
  respected : s.StopRespected
  inv : s.fault = none → s.StopInv

/-- A thread that is idle is not in `connect()`. -/
lemma not_starting (hidle : s.calls loopThread = .idle) : ¬ s.Starting := by
  simp [Starting, hidle]

/-- The functors `stopInLoop` that have not run are the same when the tasks change only by tasks
from which no functor returns. -/
lemma mem_unfinished_of_tasks (hpending : s'.pendingFunctors_ = s.pendingFunctors_)
    (hfunctors : s'.functors = s.functors)
    (htasks : LoopTask.return f ∈ s.tasks → .return f ∈ s'.tasks)
    (hmem : f ∈ s.unfinished) : f ∈ s'.unfinished := by
  rw [mem_unfinished] at hmem ⊢
  rw [hpending, hfunctors]
  exact hmem.imp_right (Or.imp_right htasks)

/-- A part of a member function on the thread of the loop. -/
lemma StopInv.runTask (h : s.StopInv) (hidle : s.calls loopThread = .idle)
    (htasks : s.tasks = task :: rest) (hqueue : ∀ f, task ≠ .queueInLoop f)
    (hreturn : ∀ f, task ≠ .return f)
    (hfault : ({ s with tasks := rest }.runTask answers task).fault = none) :
    ({ s with tasks := rest }.runTask answers task).StopInv := by
  have hruns := runTask_runs { s with tasks := rest } answers hqueue hreturn
  obtain ⟨new, hnext, hnew⟩ := hruns.next
  have hplain : ∀ task ∈ new, task.plain = true := List.all_eq_true.mp hnew
  have hquiet := fun hq : s.Quiet => runTask_quiet (s := { s with tasks := rest }) answers
    hq.connect_ hq.state (hq.tasks task (htasks ▸ List.mem_cons_self))
  have hrest : ∀ task ∈ rest, task ∈ s.tasks := fun _ hmem => htasks ▸ List.mem_cons_of_mem _ hmem
  refine h.of_plain ?_ ?_ (fun t => .inl (by rw [hruns.calls])) (fun t _ hsince => ?_) hruns.awaited
    (fun hfalse => hruns.connect_.trans hfalse) (fun hq => ?_) (fun hq => ?_)
    (fun f hstop hmem => ?_)
  · rw [hnext]
    intro hmem
    rcases List.mem_append.mp hmem with hin | hin
    · cases hplain _ hin
    · exact h.queues (hrest _ hin)
  · intro f hstop hmem
    rw [hnext] at hmem
    rcases List.mem_append.mp hmem with hin | hin
    · cases hplain _ hin
    · exact (h.running f hstop (hrest _ hin)).runTask htasks hidle hqueue hreturn hfault
  · rwa [hruns.since t] at hsince
  · exact (hquiet hq).1
  · intro next hmem
    rcases (hquiet hq).2 next hmem with hin | hfalse
    · exact hq.tasks next (hrest _ hin)
    · exact hfalse
  · refine mem_unfinished_of_tasks (s := s) hruns.pendingFunctors_ hruns.functors
      (fun hin => ?_) hmem
    rw [hnext]
    rcases List.mem_cons.mp (htasks ▸ hin) with heq | hin
    · exact absurd heq.symm (hreturn f)
    · exact List.mem_append_right new hin

/-- `queueInLoop` on the thread of the loop begins. -/
lemma StopInv.runQueueInLoop (h : s.StopInv) (hidle : s.calls loopThread = .idle)
    {g : ClientFunctor}
    (htasks : s.tasks = .queueInLoop g :: rest) :
    ({ s with tasks := rest }.setCall loopThread (.queueInLoop g)).StopInv := by
  have hrest : ∀ task ∈ rest, task ∈ s.tasks := fun _ hmem => htasks ▸ List.mem_cons_of_mem _ hmem
  have hg : g ≠ .stopInLoop := by
    rintro rfl
    exact h.queues (htasks ▸ List.mem_cons_self)
  refine h.of_plain (fun hmem => h.queues (hrest _ hmem)) (fun f hstop hmem => ?_) (fun t => ?_)
    (fun t _ => id) rfl id Quiet.state (fun hq task hmem => hq.tasks task (hrest _ hmem))
    (fun f hstop hmem => ?_)
  · exact (h.running f hstop (hrest _ hmem)).queueInLoop htasks
  · by_cases ht : t = loopThread
    · subst ht
      exact .inr ⟨hidle, .inr ⟨g, hg, setCall_self ..⟩⟩
    · exact .inl (setCall_of_ne _ ht _)
  · refine mem_unfinished_of_tasks (s := s) rfl rfl (fun hin => ?_) hmem
    rcases List.mem_cons.mp (htasks ▸ hin) with heq | hin
    · cases heq
    · exact hin

/-- A functor returns.  When it is a `stopInLoop`, nothing is under way any more that leads to a
connection. -/
lemma StopInv.runReturn (h : s.StopInv) (hidle : s.calls loopThread = .idle)
    (htasks : s.tasks = .return f :: rest) :
    ({ s with tasks := rest }.record (.ran f)).StopInv := by
  have hnot : ¬ s.Starting := not_starting hidle
  have hrest : ∀ task ∈ rest, task ∈ s.tasks := fun _ hmem => htasks ▸ List.mem_cons_of_mem _ hmem
  have hquiet : s.Quiet → ({ s with tasks := rest }.record (.ran f)).Quiet := fun hq =>
    ⟨hq.connect_, hq.state, fun task hmem => hq.tasks task (hrest _ hmem), hq.calls⟩
  -- the other functors have still to run
  have hothers : ∀ g ≠ f, g ∈ s.unfinished →
      g ∈ ({ s with tasks := rest }.record (.ran f)).unfinished := by
    intro g hne hmem
    refine mem_unfinished_of_tasks (s := s) rfl rfl (fun hin => ?_) hmem
    rcases List.mem_cons.mp (htasks ▸ hin) with heq | hin
    · exact absurd (LoopTask.return.inj heq) hne
    · exact hin
  have hover : f.functor = .stopInLoop → s.connect_ = false →
      ({ s with tasks := rest }.record (.ran f)).Quiet := by
    intro hstop hfalse
    have hmem : .return f ∈ s.tasks := htasks ▸ List.mem_cons_self
    cases h.running f hstop hmem with
    | ended heq _ hstate =>
      obtain ⟨-, rfl⟩ := List.cons.inj (htasks.symm.trans heq)
      exact ⟨hfalse, hstate, fun task hnil => absurd hnil List.not_mem_nil, hnot⟩
    | begins heq | removed _ heq | retries _ heq | starts heq | connects heq =>
      exact absurd (List.cons.inj (htasks.symm.trans heq)).1 (by simp)
  have hheeded : ∀ fs, s.Heeded fs → s.connect_ = false →
      ({ s with tasks := rest }.record (.ran f)).Heeded (fs.filter (· ≠ f)) := by
    rintro fs (hq | ⟨g, hg, hstop, hmem⟩) hfalse
    · exact .inl (hquiet hq)
    · by_cases hgf : g = f
      · exact .inl (hover (hgf ▸ hstop) hfalse)
      · exact .inr ⟨g, List.mem_filter.mpr ⟨hg, by simpa using hgf⟩, hstop, hothers g hgf hmem⟩
  refine ⟨fun hmem => h.queues (hrest _ hmem), fun g hstop hmem => ?_, h.connects, h.stored,
    fun t hcall hsince => ?_, fun fs hfs => ?_⟩
  · cases h.running g hstop (hrest _ hmem) with
    | ended heq =>
      obtain ⟨-, rfl⟩ := List.cons.inj (htasks.symm.trans heq)
      cases hmem
    | begins heq | removed _ heq | retries _ heq | starts heq | connects heq =>
      exact absurd (List.cons.inj (htasks.symm.trans heq)).1 (by simp)
  · refine (hheeded s.unfinished (h.returns t hcall hsince) ?_).of_unfinished
    have hcall : s.calls t = .stopReturns := hcall
    exact h.stored t (by rw [hcall]; trivial) hsince hnot
  · obtain ⟨fs, hold, rfl⟩ := List.mem_map.mp hfs
    obtain ⟨hheed, hfalse⟩ := h.awaits fs hold
    exact ⟨hheeded fs hheed (hfalse hnot), fun _ => hfalse hnot⟩

/-- The thread of the loop goes on. -/
lemma StopSafe.runTask (h : s.StopSafe) (hfault : s.fault = none)
    (hidle : s.calls loopThread = .idle) (htasks : s.tasks = task :: rest) :
    ({ s with tasks := rest }.runTask answers task).StopSafe where
  respected := by
    refine runTask_respected h.respected fun hstarts => (h.inv hfault).awaited_ne_nil fun hq => ?_
    have hfalse := hq.tasks task (htasks ▸ List.mem_cons_self)
    rw [hstarts] at hfalse
    cases hfalse
  inv hfault' := by
    by_cases hqueue : ∃ g, task = .queueInLoop g
    · obtain ⟨g, rfl⟩ := hqueue
      exact (h.inv hfault).runQueueInLoop hidle htasks
    by_cases hreturn : ∃ f, task = .return f
    · obtain ⟨f, rfl⟩ := hreturn
      exact (h.inv hfault).runReturn hidle htasks
    · exact (h.inv hfault).runTask hidle htasks (fun g heq => hqueue ⟨g, heq⟩)
        (fun f heq => hreturn ⟨f, heq⟩) hfault'

/-- The tasks of a functor are plain ones. -/
lemma tasksOf_plain (isOpen : Bool) (g : ClientFunctor) :
    (tasksOf isOpen g).all LoopTask.plain = true := by
  cases g with
  | forceCloseInLoop i => cases isOpen <;> rfl
  | user | connectDestroyed | stopInLoop | resetChannel => rfl

/-- The tasks of a functor do not lead to a connection. -/
lemma tasksOf_starts (isOpen : Bool) (g : ClientFunctor) : ∀ task ∈ tasksOf isOpen g,
    task.starts = false := by
  cases g with
  | forceCloseInLoop i => cases isOpen <;> simp [tasksOf, LoopTask.starts]
  | user | connectDestroyed | stopInLoop | resetChannel => simp [tasksOf, LoopTask.starts]

/-- A new thing to do for the loop from which no functor returns. -/
lemma StopInv.before (h : s.StopInv) {new : List LoopTask} (htasks : s.tasks = [])
    (hplain : new.all LoopTask.plain = true) (hstarts : ∀ task ∈ new, task.starts = false) :
    (s.before new).StopInv := by
  have hnew : (s.before new).tasks = new := by simp [ReconnectingClient.before, htasks]
  refine h.of_plain (fun hmem => ?_) (fun f _ hmem => ?_) (fun t => .inl rfl) (fun t _ => id) rfl id
    Quiet.state (fun _ task hmem => hstarts task (hnew ▸ hmem)) (fun f _ hmem => ?_)
  · cases List.all_eq_true.mp hplain _ (hnew ▸ hmem)
  · cases List.all_eq_true.mp hplain _ (hnew ▸ hmem)
  · exact mem_unfinished_of_tasks (s := s) rfl rfl (by simp [htasks]) hmem

/-- `doPendingFunctors` swaps. -/
lemma StopInv.swap (h : s.StopInv) (hfunctors : s.functors = []) :
    StopInv { s with functors := s.pendingFunctors_, pendingFunctors_ := [] } := by
  refine h.of_plain h.queues (fun f hstop hmem => ?_) (fun t => .inl rfl) (fun t _ => id) rfl id
    Quiet.state Quiet.tasks (fun f _ hmem => ?_)
  · exact (h.running f hstop hmem).congr rfl rfl rfl rfl
  · rw [mem_unfinished, hfunctors] at hmem
    rw [mem_unfinished]
    rcases hmem with hpending | hnil | htask
    · exact .inr (.inl hpending)
    · cases hnil
    · exact .inr (.inr htask)

/-- `doPendingFunctors` calls a functor. -/
lemma StopInv.functor (h : s.StopInv) {remaining : List NumberedFunctor} (isOpen : Bool)
    (hfunctors : s.functors = f :: remaining) (hidle : s.calls loopThread = .idle)
    (htasks : s.tasks = []) :
    ({ s with functors := remaining }.before
      (tasksOf isOpen f.functor ++ [LoopTask.return f])).StopInv := by
  have hnew : ({ s with functors := remaining }.before
      (tasksOf isOpen f.functor ++ [LoopTask.return f])).tasks =
        tasksOf isOpen f.functor ++ [LoopTask.return f] := by
    simp [ReconnectingClient.before, htasks]
  have hplain := List.all_eq_true.mp (tasksOf_plain isOpen f.functor)
  refine h.of_plain (fun hmem => ?_) (fun g hstop hmem => ?_) (fun t => .inl rfl) (fun t _ => id)
    rfl id Quiet.state (fun _ task hmem => ?_) (fun g _ hmem => ?_)
  · rcases List.mem_append.mp (hnew ▸ hmem) with hin | hin
    · cases hplain _ hin
    · cases List.mem_singleton.mp hin
  · have hgf : g = f := by
      rcases List.mem_append.mp (hnew ▸ hmem) with hin | hin
      · cases hplain _ hin
      · exact LoopTask.return.inj (List.mem_singleton.mp hin)
    subst hgf
    exact .begins (by rw [hnew, hstop]; rfl) hidle
  · rcases List.mem_append.mp (hnew ▸ hmem) with hin | hin
    · exact tasksOf_starts isOpen f.functor task hin
    · rw [List.mem_singleton.mp hin]
      rfl
  · rw [mem_unfinished, hfunctors, htasks] at hmem
    rw [mem_unfinished, hnew]
    rcases hmem with hpending | hin | hnil
    · exact .inl hpending
    · rcases List.mem_cons.mp hin with rfl | hin
      · exact .inr (.inr (List.mem_append_right _ List.mem_cons_self))
      · exact .inr (.inl hin)
    · cases hnil

/-! ## The calls -/

/-- Only an idle thread calls. -/
lemma calls_of_mayCall (h : s.mayCall t = true) : s.calls t = .idle := by
  simp only [mayCall, decide_eq_true_eq] at h
  exact h.1

/-- A call begins that is not `connect()`. -/
lemma StopInv.beginCall (h : s.StopInv) (hmay : s.mayCall t = true) {pc : ClientCallPc}
    (hpc : pc.Plain) (hcalls : s'.calls = (s.setCall t pc).calls) (htasks : s'.tasks = s.tasks)
    (hpending : s'.pendingFunctors_ = s.pendingFunctors_) (hfunctors : s'.functors = s.functors)
    (hconnect : s'.connect_ = s.connect_) (hstate : s'.state_ = s.state_)
    (hchannel : s'.channel_ = s.channel_)
    (hsince : ∀ u ≠ t, connectedSince u s'.history = connectedSince u s.history)
    (hawaited : awaited s'.history = awaited s.history) : s'.StopInv := by
  have hidle : s.calls t = .idle := calls_of_mayCall hmay
  refine h.of_plain (htasks ▸ h.queues) (fun f hstop hmem => ?_) (fun u => ?_)
    (fun u heq hfalse => ?_)
    hawaited (fun hfalse => hconnect.trans hfalse) (fun hq => hstate ▸ hq.state)
    (fun hq => htasks ▸ hq.tasks) (fun f _ hmem => ?_)
  · have hold : s.Stopping f := h.running f hstop (htasks ▸ hmem)
    have hne : loopThread ≠ t := by
      rintro rfl
      rw [hold.not_mayCall] at hmay
      cases hmay
    exact hold.congr htasks (by rw [hcalls, setCall_of_ne _ hne]) hstate hchannel
  · by_cases hu : u = t
    · subst hu
      exact .inr ⟨hidle, by rwa [hcalls, setCall_self]⟩
    · exact .inl (by rw [hcalls, setCall_of_ne _ hu])
  · have hu : u ≠ t := by
      rintro rfl
      rw [hcalls, setCall_self, hidle] at heq
      rcases hpc with rfl | ⟨g, -, rfl⟩ <;> cases heq
    rwa [hsince u hu] at hfalse
  · exact mem_unfinished_of_tasks hpending hfunctors (fun hin => htasks ▸ hin) hmem

/-- The thread of the loop is in a call while the functor waits, and then it queues `resetChannel`.
-/
lemma Stopping.of_resets (h : s.Stopping f) (hbusy : s.calls loopThread ≠ .idle)
    (htasks : s'.tasks = s.tasks) (hcall : (s'.calls loopThread).Resets)
    (hstate : s'.state_ = s.state_)
    (hchannel : s'.channel_ = s.channel_) : s'.Stopping f := by
  cases h with
  | retries sockfd h₁ _ h₂ h₃ =>
    exact .retries sockfd (htasks.trans h₁) hcall (hstate.trans h₂) (hchannel ▸ h₃)
  | begins _ hidle | removed _ _ hidle | starts _ hidle | connects _ hidle | ended _ hidle =>
    exact absurd hidle hbusy

/-- A call goes on, and another thread, or the functor itself, is in it. -/
lemma Stopping.goOn (h : s.Stopping f) (hconnects : s.calls t = .connectorStart → t = loopThread)
    (hstep : s.goOn t = some s') : s'.Stopping f := by
  by_cases ht : loopThread = t
  · subst ht
    rcases h.resets with hidle | hqueue | ⟨read, hwrite⟩
    · simp [ReconnectingClient.goOn, hidle] at hstep
    · simp only [ReconnectingClient.goOn, hqueue, Option.some.injEq] at hstep
      subst hstep
      exact h.of_resets (by simp [hqueue]) rfl (.inr (.inr ⟨_, setCall_self ..⟩)) rfl rfl
    · simp only [ReconnectingClient.goOn, hwrite, Option.some.injEq] at hstep
      subst hstep
      exact h.of_resets (by simp [hwrite]) rfl (.inl (setCall_self ..)) rfl rfl
  · cases hcall : s.calls t with
    | idle => simp [ReconnectingClient.goOn, hcall] at hstep
    | connectorStart => exact absurd (hconnects hcall).symm ht
    | stop | connectorStop | queueInLoop g | writeBack read g | stopReturns | connect =>
      simp only [ReconnectingClient.goOn, hcall, Option.some.injEq] at hstep
      subst hstep
      exact h.congr rfl (setCall_of_ne _ ht _) rfl rfl

/-- `connect()` is being called as before, where another call goes on. -/
lemma starting_of_call {pc : ClientCallPc} (hcalls : s'.calls = (s.setCall t pc).calls)
    (hold : s.calls t ≠ .connect ∧ s.calls t ≠ .connectorStart)
    (hpc : pc ≠ .connect ∧ pc ≠ .connectorStart) : s'.Starting ↔ s.Starting := by
  unfold Starting
  rw [hcalls]
  by_cases ht : loopThread = t
  · subst ht
    rw [setCall_self]
    exact iff_of_false (not_or.mpr hpc) (not_or.mpr hold)
  · rw [setCall_of_ne _ ht]

/-- The calls that connect are the old ones, when the new one does not. -/
lemma connects_of_call {pc : ClientCallPc} (h : s.StopInv)
    (hcalls : s'.calls = (s.setCall t pc).calls)
    (hpc : pc ≠ .connect ∧ pc ≠ .connectorStart) (u : ThreadId)
    (hcall : s'.calls u = .connect ∨ s'.calls u = .connectorStart) : u = loopThread := by
  rw [hcalls] at hcall
  by_cases hu : u = t
  · subst hu
    rw [setCall_self] at hcall
    exact absurd hcall (not_or.mpr hpc)
  · rw [setCall_of_ne _ hu] at hcall
    exact h.connects u hcall

/-- A call goes on that is not `connect()`, and does not return from `stop()`. -/
lemma StopInv.of_call (h : s.StopInv) {pc : ClientCallPc} (hstep : s.goOn t = some s')
    (hcalls : s'.calls = (s.setCall t pc).calls)
    (hold : s.calls t ≠ .connect ∧ s.calls t ≠ .connectorStart)
    (hpc : pc ≠ .connect ∧ pc ≠ .connectorStart)
    (hstored : pc.Stored → s'.connect_ = false ∨ (s.calls t).Stored)
    (hreturns : pc = .stopReturns → s'.Heeded s'.unfinished)
    (hconnect : s.connect_ = false → s'.connect_ = false)
    (hpending : ∀ f : NumberedFunctor, f.functor = .stopInLoop → f ∈ s.pendingFunctors_ →
      f ∈ s'.pendingFunctors_)
    (hfunctors : s'.functors = s.functors) (htasks : s'.tasks = s.tasks)
    (hstate : s'.state_ = s.state_) (hhistory : s'.history = s.history) : s'.StopInv := by
  have hstarting := starting_of_call hcalls hold hpc
  refine h.of_kept (htasks ▸ h.queues) (fun f hstop hmem => ?_) (connects_of_call h hcalls hpc)
    (fun u hcall hsince => ?_) (fun u hcall hsince => ?_) (by rw [hhistory])
    (fun hfalse _ => hconnect hfalse) hstarting.mpr (fun hq => ?_) (fun f hstop hmem => ?_)
  · exact (h.running f hstop (htasks ▸ hmem)).goOn (fun hcall => absurd hcall hold.2) hstep
  · rw [hhistory] at hsince
    rw [hcalls] at hcall
    by_cases hu : u = t
    · subst hu
      rw [setCall_self] at hcall
      exact (hstored hcall).imp_right fun hold => ⟨hold, hsince⟩
    · rw [setCall_of_ne _ hu] at hcall
      exact .inr ⟨hcall, hsince⟩
  · rw [hhistory] at hsince
    rw [hcalls] at hcall
    by_cases hu : u = t
    · subst hu
      rw [setCall_self] at hcall
      exact .inl (hreturns hcall)
    · rw [setCall_of_ne _ hu] at hcall
      exact .inr ⟨hcall, hsince⟩
  · exact ⟨hconnect hq.connect_, hstate ▸ hq.state, htasks ▸ hq.tasks,
      fun hs => hq.calls (hstarting.mp hs)⟩
  · rw [mem_unfinished] at hmem ⊢
    rw [hfunctors, htasks]
    exact hmem.imp_left (hpending f hstop)

/-- `stop()` returns: its functor has been appended, or has already been called. -/
lemma StopInv.stopReturns (h : s.StopInv) (hcall : s.calls t = .stopReturns)
    (hstep : s.goOn t = some s') : s'.StopInv := by
  simp only [goOn, hcall, Option.some.injEq] at hstep
  subst hstep
  set s' := (s.record (.stopReturned t s.unfinished)).setCall t .idle with hs'
  have hcalls : s'.calls = (s.setCall t .idle).calls := rfl
  have hstarting : s'.Starting ↔ s.Starting := starting_of_call hcalls (by simp [hcall]) (by simp)
  have hsince : ∀ u, connectedSince u s'.history = connectedSince u s.history := fun _ => rfl
  have hquiet : s.Quiet → s'.Quiet := fun hq =>
    ⟨hq.connect_, hq.state, hq.tasks, fun hs => hq.calls (hstarting.mp hs)⟩
  have hheeded : ∀ fs, s.Heeded fs → s'.Heeded fs := fun fs hheed =>
    hheed.mono hquiet fun f _ hmem => hmem
  refine ⟨h.queues, fun f hstop hmem => ?_, connects_of_call h hcalls (by simp),
    fun u hstored hfalse hnot => ?_, fun u hreturns hfalse => ?_, fun fs hfs => ?_⟩
  · refine (h.running f hstop hmem).goOn (t := t) (by simp [hcall]) ?_
    simp only [goOn, hcall, hs']
  · by_cases hu : u = t
    · subst hu
      rw [hcalls, setCall_self] at hstored
      exact hstored.elim
    · rw [hcalls, setCall_of_ne _ hu] at hstored
      exact h.stored u hstored hfalse fun hs => hnot (hstarting.mpr hs)
  · by_cases hu : u = t
    · subst hu
      rw [hcalls, setCall_self] at hreturns
      cases hreturns
    · rw [hcalls, setCall_of_ne _ hu] at hreturns
      exact hheeded _ (h.returns u hreturns hfalse)
  · have hold : ∀ fs ∈ awaited s.history, s'.Heeded fs ∧ (¬ s'.Starting → s'.connect_ = false) := by
      intro fs hfs
      obtain ⟨hheed, hfalse⟩ := h.awaits fs hfs
      exact ⟨hheeded fs hheed, fun hnot => hfalse fun hs => hnot (hstarting.mpr hs)⟩
    change fs ∈ if connectedSince t s.history then awaited s.history
      else s.unfinished :: awaited s.history at hfs
    split_ifs at hfs with hsince
    · exact hold fs hfs
    · have hsince : connectedSince t s.history = false := Bool.eq_false_iff.mpr hsince
      rcases List.mem_cons.mp hfs with rfl | hfs
      · refine ⟨hheeded _ (h.returns t hcall hsince), fun hnot => ?_⟩
        exact h.stored t (by rw [hcall]; trivial) hsince fun hs => hnot (hstarting.mpr hs)
      · exact hold fs hfs

/-- `connect()` stores the `connect_` of the client. -/
lemma StopInv.clientConnect (h : s.StopInv) (hcall : s.calls t = .connect)
    (hstep : s.goOn t = some s') : s'.StopInv := by
  obtain rfl : t = loopThread := h.connects t (.inl hcall)
  have hnext := hstep
  simp only [goOn, hcall, Option.some.injEq] at hnext
  subst hnext
  set s' := { s with connect_ := true }.setCall loopThread .connectorStart
  have hself : s'.calls loopThread = .connectorStart := setCall_self ..
  have hothers : ∀ u ≠ loopThread, s'.calls u = s.calls u := fun u hu => setCall_of_ne _ hu _
  have hstarting : s'.Starting := .inr hself
  refine h.of_kept h.queues (fun f hstop hmem => ?_) (fun u hu => ?_) (fun u hstored hsince => ?_)
    (fun u hreturns hsince => ?_) rfl (fun _ hnot => absurd hstarting hnot) (fun _ => hstarting)
    (fun hq => absurd (.inl hcall) hq.calls) (fun _ _ => id)
  · exact (h.running f hstop hmem).goOn (by simp [hcall]) hstep
  · by_cases hloop : u = loopThread
    · exact hloop
    · exact h.connects u (hothers u hloop ▸ hu)
  · by_cases hu : u = loopThread
    · subst hu
      rw [hself] at hstored
      exact hstored.elim
    · exact .inr ⟨hothers u hu ▸ hstored, hsince⟩
  · by_cases hu : u = loopThread
    · subst hu
      rw [hself] at hreturns
      cases hreturns
    · exact .inr ⟨hothers u hu ▸ hreturns, hsince⟩

/-- `start()` of the connector stores its `connect_`. -/
lemma StopInv.connectorStart (h : s.StopInv) (hcall : s.calls t = .connectorStart)
    (hstep : s.goOn t = some s') : s'.StopInv := by
  obtain rfl : t = loopThread := h.connects t (.inr hcall)
  simp only [goOn, hcall, Option.some.injEq] at hstep
  subst hstep
  refine .of_connect rfl (fun hmem => ?_) (fun f hstop hmem => ?_)
    (connects_of_call h (show _ = (s.setCall loopThread .idle).calls from rfl) (by simp))
  · rcases List.mem_cons.mp hmem with heq | hin
    · cases heq
    · exact h.queues hin
  · rcases List.mem_cons.mp hmem with heq | hin
    · cases heq
    · have hresets := (h.running f hstop hin).resets
      simp [hcall, ClientCallPc.Resets] at hresets

/-- A thread goes on in its call. -/
lemma StopInv.goOn (h : s.StopInv) (hok : s.KeepsStops (.call t)) (hstep : s.goOn t = some s') :
    s'.StopInv := by
  cases hcall : s.calls t with
  | idle => simp [ReconnectingClient.goOn, hcall] at hstep
  | stopReturns => exact h.stopReturns hcall hstep
  | connect => exact h.clientConnect hcall hstep
  | connectorStart => exact h.connectorStart hcall hstep
  | stop =>
    have hnext := hstep
    simp only [ReconnectingClient.goOn, hcall, Option.some.injEq] at hnext
    subst hnext
    exact h.of_call hstep rfl (by simp [hcall]) (by simp) (fun _ => .inl rfl) (by simp)
      (fun _ => rfl) (fun _ _ => id) rfl rfl rfl rfl
  | connectorStop =>
    have hnext := hstep
    simp only [ReconnectingClient.goOn, hcall, Option.some.injEq] at hnext
    subst hnext
    refine h.of_call hstep rfl (by simp [hcall]) (by simp) (fun _ => .inr ?_) (by simp) id
      (fun _ _ => id) rfl rfl rfl rfl
    rw [hcall]
    trivial
  | queueInLoop f =>
    have hnext := hstep
    simp only [ReconnectingClient.goOn, hcall, Option.some.injEq] at hnext
    subst hnext
    refine h.of_call hstep rfl (by simp [hcall]) (by simp) (fun hf => .inr ?_) (by simp) id
      (fun _ _ => id) rfl rfl rfl rfl
    rw [hcall]
    exact hf
  | writeBack read f =>
    have hnext := hstep
    simp only [ReconnectingClient.goOn, hcall, Option.some.injEq] at hnext
    subst hnext
    simp only [KeepsStops, hcall] at hok
    refine h.of_call hstep rfl (by simp [hcall]) (by split_ifs <;> simp) (fun hstored => .inr ?_)
      (fun hreturns => ?_) id (fun g hstop hmem => ?_) rfl rfl rfl rfl
    · rw [hcall]
      split_ifs at hstored with hf
      · exact hf
      · exact hstored.elim
    · split_ifs at hreturns with hf
      refine .inr ⟨⟨s.queued, f⟩, mem_unfinished.mpr (.inl ?_), hf, mem_unfinished.mpr (.inl ?_)⟩
      · exact List.mem_append_right _ List.mem_cons_self
      · exact List.mem_append_right _ List.mem_cons_self
    · exact List.mem_append_left _ (hok g hmem hstop)

/-- No call creates anything. -/
lemma goOn_respected (h : s.StopRespected) (hstep : s.goOn t = some s') : s'.StopRespected := by
  cases hcall : s.calls t with
  | idle => simp [goOn, hcall] at hstep
  | stop | connectorStop | queueInLoop f | writeBack read f | connect =>
    simp only [goOn, hcall, Option.some.injEq] at hstep
    subst hstep
    exact h
  | stopReturns | connectorStart =>
    simp only [goOn, hcall, Option.some.injEq] at hstep
    subst hstep
    exact ⟨fun hcreates => hcreates.elim, h⟩

/-- `enableRetry()`, and `disconnect()` as far as it is about `connect_`. -/
lemma StopInv.setFlags (h : s.StopInv) {retry_ connect_ : Bool}
    (hconnect : s.connect_ = false → connect_ = false) :
    StopInv { s with retry_ := retry_, connect_ := connect_ } := by
  refine h.of_plain h.queues (fun f hstop hmem => ?_) (fun _ => .inl rfl) (fun _ _ => id) rfl
    hconnect Quiet.state Quiet.tasks (fun _ _ => id)
  exact (h.running f hstop hmem).congr rfl rfl rfl rfl

/-! ## The runs -/

/-- One step, in which no functor `stopInLoop` is lost. -/
theorem StopSafe.step {e : ReconnectEvent} (h : s.StopSafe) (hok : s.KeepsStops e)
    (hstep : s.step e = some s') : s'.StopSafe := by
  unfold ReconnectingClient.step at hstep
  cases hfault : s.fault with
  | some fault => simp [hfault] at hstep
  | none =>
    have hinv : s.StopInv := h.inv hfault
    simp only [hfault] at hstep
    cases e with
    | enableRetry =>
      obtain rfl := Option.some.inj hstep
      exact ⟨h.respected, fun _ => hinv.setFlags id⟩
    | disconnect =>
      obtain rfl := Option.some.inj hstep
      exact ⟨h.respected, fun _ => hinv.setFlags fun _ => rfl⟩
    | stop t =>
      obtain ⟨hmay, heq⟩ := Option.ite_none_right_eq_some.mp hstep
      obtain rfl := Option.some.inj heq
      refine ⟨⟨fun hcreates => hcreates.elim, h.respected⟩, fun _ => ?_⟩
      exact hinv.beginCall hmay (.inl rfl) rfl rfl rfl rfl rfl rfl rfl
        (fun u hu => if_neg hu.symm) rfl
    | queueInLoop t forceClose =>
      obtain ⟨hmay, heq⟩ := Option.ite_none_right_eq_some.mp hstep
      obtain rfl := Option.some.inj heq
      refine ⟨h.respected, fun _ => ?_⟩
      refine hinv.beginCall hmay (.inr ⟨_, ?_, rfl⟩) rfl rfl rfl rfl rfl rfl rfl
        (fun _ _ => rfl) rfl
      cases forceClose <;> simp
    | connect =>
      obtain ⟨hmay, heq⟩ := Option.ite_none_right_eq_some.mp hstep
      obtain rfl := Option.some.inj heq
      refine ⟨⟨fun hcreates => hcreates.elim, h.respected⟩, fun _ => ?_⟩
      refine .of_connect rfl hinv.queues (fun f hstop hmem => ?_) (fun t hcall => ?_)
      · have hnot := (hinv.running f hstop hmem).not_mayCall
        rw [hnot] at hmay
        cases hmay
      · by_cases ht : t = loopThread
        · exact ht
        · rw [setCall_of_ne _ ht] at hcall
          exact hinv.connects t hcall
    | call t => exact ⟨goOn_respected h.respected hstep, fun _ => hinv.goOn hok hstep⟩
    | task answers =>
      simp only [stepRunning] at hstep
      split at hstep
      · rename_i task rest htasks
        obtain ⟨hidle, heq⟩ := Option.ite_none_right_eq_some.mp hstep
        obtain rfl := Option.some.inj heq
        exact h.runTask hfault hidle htasks
      · cases hstep
    | handleEvent err out =>
      obtain ⟨⟨hidle, htasks, -⟩, heq⟩ := Option.ite_none_right_eq_some.mp hstep
      obtain rfl := Option.some.inj heq
      refine ⟨h.respected, fun _ => hinv.before htasks ?_ ?_⟩
      · cases err <;> cases out <;> rfl
      · cases err <;> cases out <;> simp [LoopTask.starts]
    | handleClose i =>
      obtain ⟨⟨hidle, htasks, -⟩, heq⟩ := Option.ite_none_right_eq_some.mp hstep
      obtain rfl := Option.some.inj heq
      exact ⟨h.respected, fun _ => hinv.before htasks rfl (by simp [LoopTask.starts])⟩
    | swap =>
      obtain ⟨⟨hidle, htasks, hfunctors⟩, heq⟩ := Option.ite_none_right_eq_some.mp hstep
      obtain rfl := Option.some.inj heq
      exact ⟨h.respected, fun _ => hinv.swap hfunctors⟩
    | functor isOpen =>
      simp only [stepRunning] at hstep
      split at hstep
      · rename_i f remaining hfunctors
        obtain ⟨⟨hidle, htasks⟩, heq⟩ := Option.ite_none_right_eq_some.mp hstep
        obtain rfl := Option.some.inj heq
        exact ⟨h.respected, fun _ => hinv.functor isOpen hfunctors hidle htasks⟩
      · cases hstep

/-- It holds of a new client. -/
lemma new_stopSafe : StopSafe .new := ⟨trivial, fun _ => new_stopInv⟩

/-- When no `queueInLoop` takes a functor `stopInLoop` out of the vector again, no socket and no
`TcpConnection` is created after a `stop()`, once the functors have run that were unfinished when it
returned, whatever the threads do in between. -/
theorem stop_respected {es : List ReconnectEvent} (hmeets : Meets step KeepsStops .new es)
    (hrun : exec step .new es = some s) : s.StopRespected :=
  (invariant_of_meets (fun _ _ _ h hok hstep => StopSafe.step h hok hstep) new_stopSafe hmeets
    hrun).respected

instance (s : ReconnectingClient) (e : ReconnectEvent) : Decidable (s.KeepsStops e) :=
  match e with
  | .call t =>
    match h : s.calls t with
    | .writeBack read _ =>
      decidable_of_iff (∀ f ∈ s.pendingFunctors_, f.functor = .stopInLoop → f ∈ read)
        (by simp only [KeepsStops, h])
    | .idle | .stop | .connectorStop | .queueInLoop _ | .stopReturns | .connect | .connectorStart =>
      isTrue (by simp only [KeepsStops, h])
  | .enableRetry | .disconnect | .stop _ | .queueInLoop _ _ | .connect | .task _ | .handleEvent _ _
  | .handleClose _ | .swap | .functor _ => isTrue trivial

instance (s : ReconnectingClient) : Decidable s.StopRespected :=
  inferInstanceAs (Decidable
    (Whenever ReconnectEffect.Creates (fun past => [] ∉ awaited past) s.history))

/-! ## Two runs -/

/-- The kernel gives the descriptor, and the attempt does not succeed at once. -/
def inProgress (sockfd : Fd) : TaskAnswers := ⟨⟨sockfd, EINPROGRESS⟩, 0, false⟩

/-- The client connects, its peer closes the connection, and the test of `removeConnection`
succeeds: `restart()` is going to be called. -/
def testedForReconnect : List ReconnectEvent :=
  [.enableRetry, .connect, .call 0, .call 0, .task (inProgress 5), .task (inProgress 5),
    .handleEvent false true, .task (inProgress 5), .task (inProgress 5), .call 0, .call 0,
    .task (inProgress 5), .task (inProgress 5), .task (inProgress 5), .swap, .functor true,
    .task (inProgress 5), .task (inProgress 5), .handleClose 0, .task (inProgress 6),
    .task (inProgress 6), .task (inProgress 6), .call 0, .call 0, .task (inProgress 6)]

/-- Thread 1 calls `stop()` while the new attempt is under way, and `stopInLoop` gives it up. -/
def stoppedWhileConnecting : List ReconnectEvent :=
  testedForReconnect ++ [.task (inProgress 6), .task (inProgress 6), .task (inProgress 6), .stop 1,
    .call 1, .call 1, .call 1, .call 1, .call 1, .swap, .functor true, .task (inProgress 6),
    .task (inProgress 6), .functor true, .task (inProgress 6), .task (inProgress 6), .call 0,
    .call 0, .task (inProgress 6), .task (inProgress 6)]

/-- Thread 1 calls `stop()` between the test and `restart()`, and the thread of the loop writes back
a vector without its `stopInLoop`.  The attempt succeeds when every functor has run. -/
def stopLost : List ReconnectEvent :=
  testedForReconnect ++ [.stop 1, .call 1, .call 1, .task (inProgress 6), .task (inProgress 6),
    .task (inProgress 6), .call 1, .queueInLoop 0 none, .call 0, .call 1, .call 0, .call 1, .swap,
    .functor true, .task (inProgress 6), .task (inProgress 6), .functor true, .task (inProgress 6),
    .task (inProgress 6), .handleEvent false true, .task (inProgress 6), .task (inProgress 6),
    .call 0, .call 0, .task (inProgress 6), .task (inProgress 6)]

/-- `stop` is called while the connector is connecting. -/
theorem stop_respected_whileConnecting : ∃ s, exec step .new stoppedWhileConnecting = some s ∧
    [] ∈ awaited s.history ∧ s.state_ = .kDisconnected ∧ s.StopRespected := by
  obtain ⟨s, hrun, hawaited, hstate⟩ : ∃ s, exec step .new stoppedWhileConnecting = some s ∧
      [] ∈ awaited s.history ∧ s.state_ = .kDisconnected := by decide
  exact ⟨s, hrun, hawaited, hstate, stop_respected (by decide) hrun⟩

/-- The second `TcpConnection` of the client, although nothing is awaited any more. -/
theorem stop_lost_connects : ∃ s, exec step .new stopLost = some s ∧
    .newConnection 1 ∈ s.history ∧ ¬ s.StopRespected := by decide

end ReconnectingClient

end SimpleMuduo
