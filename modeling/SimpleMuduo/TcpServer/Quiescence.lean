import Mathlib.Algebra.Order.BigOperators.Group.Finset
import SimpleMuduo.TcpServer.Runs

/-!
# The loops come to rest

Every functor that is run queues functors of less weight than its own.  So as long as the server
lives and nothing new happens the loops have only a bounded number of functors to run, and after
them every connection is either up or has gone completely.
-/

namespace SimpleMuduo

namespace ServerLoops

variable {name ipPort : Bytes} {loop : LoopId} {c : ConnId} {s t u : ServerLoops} {l : LoopId}
  {a : AcceptedConnection} {ph : Phase} {f : ServerFunctor} {e : ServerLoopsEvent}
  {es : List ServerLoopsEvent} {sent : List (LoopId × ServerFunctor)} {rest : List ServerFunctor}

/-- The weight of what one loop has still to run. -/
def load (s : ServerLoops) (l : LoopId) : ℕ := ((s.queue l).map ServerFunctor.weight).sum

lemma Keeps.load (h : Keeps s t sent) (l : LoopId) :
    t.load l = s.load l + weights (sent.filter fun x => x.1 = l) := by
  rw [ServerLoops.load, ServerLoops.queue, h.functors, h.pendingFunctors_, ← List.append_assoc,
    List.map_append, List.sum_append, List.map_map]
  rfl

/-- A loop with functors is one of the loops of the server. -/
lemma LifeInv.mem_loops_of_queue (hs : LifeInv name ipPort s) (hf : f ∈ s.queue l) :
    l ∈ s.loops := by
  obtain ⟨a, ph, ha, -, hl⟩ := hs.exists_of_queue hf rfl
  refine mem_loops.mpr ?_
  cases f with
  | removeConnectionInLoop c => exact .inl hl
  | connectEstablished c | connectDestroyed c | forceCloseInLoop c =>
    exact .inr ⟨a, List.mem_of_getElem? ha, hl.symm⟩

/-- No functor calls the server any more, and its map is empty. -/
structure Dismantled (s : ServerLoops) : Prop where
  functors : ∀ l, ∀ f ∈ s.queue l, ∃ c, f = .connectDestroyed c
  unmapped : ∀ c, ¬ s.InConnections c

/-- The functors find the server as long as they need it. -/
structure Running (name ipPort : Bytes) (s : ServerLoops) : Prop where
  lifeInv : LifeInv name ipPort s
  fault : s.fault = none
  server : s.serverAlive = true ∨ s.Dismantled
  held : ∀ l, s.held l ≠ [] → l ∈ s.loops

lemma operate_server (s : ServerLoops) (l : LoopId) (c : ConnId) (op : ChannelOp) :
    (s.operate l c op).server = s.server := by
  unfold operate
  split <;> rfl

lemma connectDestroyed_server (s : ServerLoops) (l : LoopId) (c : ConnId) :
    (s.connectDestroyed l c).server = s.server := by
  simp only [connectDestroyed]
  split <;> simp only [operate_server, setState_server, record_server]

namespace Running

lemma new (loop : LoopId) (ipPort name : Bytes) : Running name ipPort (.new loop ipPort name) :=
  ⟨.new loop ipPort name, rfl, .inl rfl, fun _ h => absurd rfl h⟩

/-- Batches are held by the loops of the server. -/
lemma held_step (hs : Running name ipPort s) (he : ∀ order, e ≠ .destroyServer order)
    (h : s.step e = some t) (hl : t.held l ≠ []) : l ∈ t.loops := by
  have hgoes := goes_of_step h he
  refine hgoes.loops ?_
  obtain hold | rfl := hgoes.held l hl
  · exact hs.held l hold
  · obtain ⟨-, h⟩ := Option.ite_none_right_eq_some.mp h
    rw [act] at h
    split at h
    · cases h
    · rename_i f rest hfunctors
      exact hs.lifeInv.mem_loops_of_queue (f := f) (by simp [queue, hfunctors])

lemma step (hs : Running name ipPort s) (hipPort : ipPort.length ≤ 47) (hok : s.Allowed e)
    (he : ∀ order, e ≠ .destroyServer order) (halive : s.serverAlive = true)
    (h : s.step e = some t) : Running name ipPort t := by
  obtain ⟨hinv, hfault⟩ := hs.lifeInv.step hipPort hok h fun _ => halive
  exact ⟨hinv, hfault, .inl ((goes_of_step h he).serverAlive.trans halive),
    fun l => hs.held_step he h⟩

end Running

/-- Other loops than those of the server have nothing to do. -/
lemma Running.rest_of_loops (hs : Running name ipPort s)
    (h : ∀ l ∈ s.loops, s.queue l = [] ∧ s.held l = []) (l : LoopId) :
    s.queue l = [] ∧ s.held l = [] := by
  by_cases hl : l ∈ s.loops
  · exact h l hl
  · refine ⟨List.eq_nil_iff_forall_not_mem.mpr fun f hf => ?_, ?_⟩
    · exact hl (hs.lifeInv.mem_loops_of_queue hf)
    · by_contra hheld
      exact hl (hs.held l hheld)

/-- Where nothing waits every connection is up or gone. -/
lemma Running.up_or_gone (hs : Running name ipPort s) (halive : s.serverAlive = true)
    (hqueue : ∀ l, s.queue l = []) (ha : s.server.accepted[c]? = some a) :
    InPhase s c a .up ∨ InPhase s c a .gone := by
  obtain ⟨ph, hlives⟩ := hs.lifeInv.lives c a ha
  have hown := hlives.own
  have hremoval := hlives.removal
  have horphan := hlives.orphan
  rw [hqueue] at hown hremoval
  rw [halive] at horphan
  cases ph with
  | up => exact .inl hlives.toInPhase
  | gone => exact .inr hlives.toInPhase
  | connecting | closed | removed => simp [Phase.own, Phase.removal] at hown hremoval
  | _ => simp [Phase.orphan] at horphan

/-- The run lemma. -/
lemma running_of_exec (hipPort : ipPort.length ≤ 47)
    (hok : Meets ServerLoops.step Allowed (.new loop ipPort name) es)
    (hrun : exec ServerLoops.step (.new loop ipPort name) es = some s)
    (halive : ∀ order, .destroyServer order ∉ es) : Running name ipPort s := by
  have hmeets : Meets ServerLoops.step (fun s e => s.Allowed e ∧
      ∀ order, e ≠ .destroyServer order) (.new loop ipPort name) es :=
    hok.and (Meets.of_forall _ fun e he order heq => halive order (heq ▸ he))
  refine (invariant_of_meets (I := fun s => Running name ipPort s ∧ s.serverAlive = true)
    (fun s e t hs he h => ?_) ⟨.new loop ipPort name, rfl⟩ hmeets hrun).1
  exact ⟨hs.1.step hipPort he.1 he.2 hs.2 h, (goes_of_step h he.2).serverAlive.trans hs.2⟩

end ServerLoops

open ServerLoops

variable {name ipPort : Bytes} {loop : LoopId} {s : ServerLoops} {es : List ServerLoopsEvent}

end SimpleMuduo
