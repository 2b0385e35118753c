import SimpleMuduo.TcpServer.Quiescence

/-!
# A forced close is never lost

Once `forceCloseInLoop` has been queued for a connection, it waits there until it is run or until
`handleClose` has been called, and whatever else happens the connection is gone when the loops come
to rest.
-/

namespace SimpleMuduo

namespace ServerLoops

variable {name ipPort : Bytes} {loop : LoopId} {c : ConnId} {s t : ServerLoops} {l : LoopId}
  {a : AcceptedConnection} {ph : Phase} {e : ServerLoopsEvent} {es : List ServerLoopsEvent}

/-- The connection is going to be closed, or `handleClose` has been called for it. -/
def Closing (s : ServerLoops) (c : ConnId) : Prop :=
  (∃ l, .forceCloseInLoop c ∈ s.queue l) ∨ ∃ l, (l, .handleClose) ∈ s.calls c

/-- A connection that is neither connecting nor up has been closed. -/
lemma Lives.handleClose_mem (h : Lives s c a ph) (halive : s.serverAlive = true)
    (hcalls : s.calls c ≠ []) (hup : ph ≠ .up) : (a.loop_, .handleClose) ∈ s.calls c := by
  have horphan := h.orphan
  rw [h.calls] at hcalls ⊢
  cases ph with
  | closed | removed | gone => simp [Phase.calls]
  | up => exact absurd rfl hup
  | connecting => exact absurd rfl hcalls
  | _ => simp [Phase.orphan, halive] at horphan

/-- `handleClose` records its call. -/
lemma handleClose_mem_calls (s : ServerLoops) (l : LoopId) (c : ConnId) :
    (l, .handleClose) ∈ (s.handleClose l c).calls c := by
  have hdisabled := (Keeps.setState (s.record l .handleClose c) c .kDisconnected).trans
    (.operate _ l c .disableAll)
  obtain ⟨sent, hkeeps, -⟩ := Keeps.removeConnection
    (((s.record l .handleClose c).setState c .kDisconnected).operate l c .disableAll) l c
  exact ((hdisabled.trans hkeeps).calls c).subset (by simp)

/-- Running `forceCloseInLoop` closes the connection unless it has been closed before. -/
lemma LifeInv.closing_forceCloseInLoop (hs : LifeInv name ipPort s) (halive : s.serverAlive = true)
    {rest : List ServerFunctor} (h : s.functors l = .forceCloseInLoop c :: rest) :
    (runFunctor (s.take l (.forceCloseInLoop c) rest) l (.forceCloseInLoop c)).Closing c := by
  have hmem : .forceCloseInLoop c ∈ s.queue l := by simp [queue, h]
  obtain ⟨a, ph, ha, hlives, hl⟩ := hs.exists_of_queue (c := c) hmem rfl
  simp only [runFunctor, forceCloseInLoop]
  split
  · exact .inr ⟨l, handleClose_mem_calls _ l c⟩
  · rename_i hstate
    refine .inr ⟨a.loop_, hlives.handleClose_mem halive (hlives.forced l hmem) ?_⟩
    rintro rfl
    have hstates := hlives.state_
    simp only [Phase.states, List.mem_cons, List.not_mem_nil, or_false] at hstates
    exact hstate hstates

/-- The step lemma. -/
lemma Closing.step (hc : s.Closing c) (hs : LifeInv name ipPort s) (halive : s.serverAlive = true)
    (he : ∀ order, e ≠ .destroyServer order) (h : s.step e = some t) : t.Closing c := by
  have hgoes := goes_of_step h he
  obtain ⟨l, hmem⟩ | ⟨l, hcall⟩ := hc
  · obtain hwaits | ⟨rfl, hhead⟩ := hgoes.queue l _ hmem
    · exact .inl ⟨l, hwaits⟩
    · obtain ⟨rest, hfunctors⟩ := List.head?_eq_some_iff.mp hhead
      obtain ⟨-, h⟩ := Option.ite_none_right_eq_some.mp h
      rw [act, hfunctors] at h
      obtain rfl := Option.some.inj h
      exact hs.closing_forceCloseInLoop halive hfunctors
  · exact .inr ⟨l, (hgoes.calls c).subset hcall⟩

/-- A connection that is being closed is gone when nothing waits any more. -/
lemma Running.gone_of_closing (hs : Running name ipPort s) (halive : s.serverAlive = true)
    (hc : s.Closing c) (hqueue : ∀ l, s.queue l = []) :
    ∃ a, s.server.accepted[c]? = some a ∧ InPhase s c a .gone := by
  obtain ⟨l, hmem⟩ | ⟨l, hcall⟩ := hc
  · simp [hqueue l] at hmem
  · obtain hlt | hge := Nat.lt_or_ge c s.server.accepted.length
    · have ha := List.getElem?_eq_getElem hlt
      refine ⟨_, ha, (hs.up_or_gone halive hqueue ha).resolve_left fun hup => ?_⟩
      rw [hup.calls] at hcall
      simp [Phase.calls] at hcall
    · rw [(hs.lifeInv.unborn c hge).calls] at hcall
      cases hcall

end ServerLoops

open ServerLoops

variable {name ipPort : Bytes} {loop : LoopId} {c : ConnId} {l : LoopId} {s t : ServerLoops}
  {es more : List ServerLoopsEvent}

/-- Once a thread has queued `forceCloseInLoop` for a connection, in every allowed run that goes on
from there this functor still waits or `handleClose` has been called for the connection, and in
every state of the run in which no functor waits the connection is gone. -/
theorem forced_close_effective (hipPort : ipPort.length ≤ 47)
    (hok : Meets ServerLoops.step Allowed (.new loop ipPort name) es)
    (hrun : exec ServerLoops.step (.new loop ipPort name) es = some s)
    (hqueued : .forceCloseInLoop c ∈ s.queue l)
    (hmore : Meets ServerLoops.step Allowed s more) (hnext : exec ServerLoops.step s more = some t)
    (halive : ∀ order, .destroyServer order ∉ es ++ more) :
    t.Closing c ∧ ((∀ l, t.queue l = []) →
      ∃ a, t.server.accepted[c]? = some a ∧ InPhase t c a .gone) := by
  have hes (order : List ConnId) : .destroyServer order ∉ es :=
    fun hmem => halive order (List.mem_append_left _ hmem)
  have hs := running_of_exec hipPort hok hrun hes
  have hmeets : Meets ServerLoops.step (fun s e => s.Allowed e ∧
      ∀ order, e ≠ .destroyServer order) s more :=
    hmore.and (Meets.of_forall _ fun e he order heq =>
      halive order (List.mem_append_right _ (heq ▸ he)))
  obtain ⟨ht, htalive, hclosing⟩ := invariant_of_meets
    (I := fun t => Running name ipPort t ∧ t.serverAlive = true ∧ t.Closing c)
    (fun t e u ⟨ht, htalive, hclosing⟩ he h => ⟨ht.step hipPort he.1 he.2 htalive h,
      (goes_of_step h he.2).serverAlive.trans htalive,
      hclosing.step ht.lifeInv htalive he.2 h⟩)
    ⟨hs, serverAlive_of_exec hrun hes, .inl ⟨l, hqueued⟩⟩ hmeets hnext
  exact ⟨hclosing, ht.gone_of_closing htalive hclosing⟩

/-- The run in which a connection is closed by another thread, cut where its functor has been
queued and where all loops have been at work. -/
theorem forced_close_effective_in_time : ∃ s t,
    exec ServerLoops.step (.new 0 [49, 58, 50] [115]) (forcedClose.take 10) = some s ∧
      exec ServerLoops.step s (forcedClose.drop 10) = some t ∧
      ∃ a, t.server.accepted[0]? = some a ∧ InPhase t 0 a .gone := by
  obtain ⟨s, hrun, ⟨hqueued, hmore⟩, hlast⟩ : ∃ s, exec ServerLoops.step
      (.new 0 [49, 58, 50] [115]) (forcedClose.take 10) = some s ∧
        (.forceCloseInLoop 0 ∈ s.queue 1 ∧
          Meets ServerLoops.step Careful s (forcedClose.drop 10)) ∧
        (exec ServerLoops.step s (forcedClose.drop 10)).any (fun t =>
          decide (∀ l ∈ t.loops, t.queue l = [] ∧ t.held l = [])) = true :=
    exists_exec_of_any (by decide +kernel)
  obtain ⟨t, hnext, hrest⟩ := exists_exec_of_any hlast
  have ht := running_of_exec (by decide) meets_forcedClose (exec_append_of_eq_some hrun hnext)
    (by simp [forcedClose])
  have heffective := forced_close_effective (by decide) (meets_of_careful (by decide +kernel)) hrun
    hqueued (meets_of_careful hmore) hnext (by simp [forcedClose])
  exact ⟨s, t, hrun, hnext, heffective.2 fun l => (ht.rest_of_loops hrest l).1⟩

end SimpleMuduo
