import SimpleMuduo.TcpServer.Quiescence

/-!
# The destruction of a server at rest

`~TcpServer()` sends every connection of the map to its loop to be destroyed there.  When the loops
were at rest before, nothing that they have still to run needs the server, and after it no poller
knows a connection any more.
-/

namespace SimpleMuduo

namespace ServerLoops

variable {name ipPort : Bytes} {loop : LoopId} {c d : ConnId} {s t u : ServerLoops} {l : LoopId}
  {a : AcceptedConnection} {order : List ConnId}

lemma destroyConnection_server (s : ServerLoops) (c : ConnId) :
    (s.destroyConnection c).server = (s.erase c).server := by
  simp only [destroyConnection]
  split
  · exact connectDestroyed_server _ _ _
  · rfl

/-- One turn of the loop in `~TcpServer()` queues at most a `connectDestroyed`. -/
lemma Keeps.destroyConnection (s : ServerLoops) (c : ConnId) :
    ∃ sent, Keeps s (s.destroyConnection c) sent ∧ ∀ x ∈ sent, x.2 = .connectDestroyed c := by
  have herase := Keeps.erase s c
  simp only [ServerLoops.destroyConnection]
  split
  · exact ⟨_, herase.trans (.connectDestroyed _ _ _), by simp⟩
  · exact ⟨_, herase.trans (.queueInLoop _ _ _), by simp⟩

/-- The entry of the connection has been emptied, and all others are as they were. -/
lemma LifeInv.inConnections_destroyConnection (hs : LifeInv name ipPort s)
    (hipPort : ipPort.length ≤ 47) (hdead : s.serverAlive = false) (hin : s.InConnections c) :
    (s.destroyConnection c).InConnections d ↔ s.InConnections d ∧ d ≠ c := by
  obtain ⟨a, -, ha, -⟩ := hs.exists_of_referenced (.inl hin)
  obtain ⟨-, hconcerns, -⟩ := hs.destroyConnection hipPort hdead hin
  have hnot : ¬ (s.destroyConnection c).InConnections c := by
    rw [InConnections, destroyConnection_server]
    exact ((Midway.start hs ha (.inl hin)).erase hipPort).2.1
  by_cases hd : d = c
  · subst hd
    simp [hnot]
  · simp [hconcerns.inConnections d hd, hd]

/-- The loop in `~TcpServer()`. -/
lemma LifeInv.destroyConnections (hs : LifeInv name ipPort s) (hipPort : ipPort.length ≤ 47)
    (hdead : s.serverAlive = false) (hnodup : order.Nodup)
    (hin : ∀ c ∈ order, s.InConnections c) :
    (∃ sent, Keeps s (order.foldl ServerLoops.destroyConnection s) sent ∧
      ∀ x ∈ sent, ∃ c, x.2 = .connectDestroyed c) ∧
    ∀ d, (order.foldl ServerLoops.destroyConnection s).InConnections d →
      s.InConnections d ∧ d ∉ order := by
  induction order generalizing s with
  | nil => exact ⟨⟨[], .refl s, by simp⟩, fun d hd => ⟨hd, List.not_mem_nil⟩⟩
  | cons c order ih =>
    obtain ⟨hhead, htail⟩ := List.nodup_cons.mp hnodup
    have hc := hin c List.mem_cons_self
    obtain ⟨hinv, -, halive, -⟩ := hs.destroyConnection hipPort hdead hc
    have hiff (d : ConnId) := hs.inConnections_destroyConnection (d := d) hipPort hdead hc
    have hrest (d : ConnId) (hd : d ∈ order) : (s.destroyConnection c).InConnections d :=
      (hiff d).mpr ⟨hin d (List.mem_cons_of_mem c hd), fun heq => hhead (heq ▸ hd)⟩
    obtain ⟨⟨sent', hkeeps', hsent'⟩, hlast⟩ := ih hinv (halive.trans hdead) htail hrest
    obtain ⟨sent, hkeeps, hsent⟩ := Keeps.destroyConnection s c
    refine ⟨⟨_, hkeeps.trans hkeeps', fun x hx => ?_⟩, fun d hd => ?_⟩
    · exact (List.mem_append.mp hx).elim (fun h => ⟨c, hsent x h⟩) (hsent' x)
    · obtain ⟨hfirst, hd'⟩ := hlast d hd
      obtain ⟨hin', hne⟩ := (hiff d).mp hfirst
      exact ⟨hin', List.not_mem_cons_of_ne_of_not_mem hne hd'⟩

/-- The destructor leaves nothing that needs the server. -/
lemma Running.destroyServer (hs : Running name ipPort s) (hipPort : ipPort.length ≤ 47)
    (hrest : ∀ l, s.queue l = [] ∧ s.held l = []) (horder : s.IsOrder order) :
    Running name ipPort (s.destroyServer order) := by
  obtain ⟨hnodup, hin, hall⟩ := horder
  obtain ⟨hinv, hfault, -⟩ := hs.lifeInv.destroyServer hipPort hnodup hin
  obtain ⟨⟨sent, hkeeps, hsent⟩, hleft⟩ :=
    hs.lifeInv.dying.destroyConnections hipPort rfl hnodup hin
  refine ⟨hinv, hfault.trans hs.fault, .inr ⟨fun l f hf => ?_, fun d hd => ?_⟩, fun l hl => ?_⟩
  · have hnil := List.append_eq_nil_iff.mp (hrest l).1
    rw [queue, ServerLoops.destroyServer, hkeeps.functors, hkeeps.pendingFunctors_] at hf
    simp only [hnil.1, hnil.2, List.nil_append] at hf
    obtain ⟨x, hx, rfl⟩ := List.mem_map.mp hf
    exact hsent x (List.mem_of_mem_filter hx)
  · obtain ⟨hold, hnot⟩ := hleft d hd
    have hlt : d < s.server.accepted.length := by
      obtain ⟨a, ha, -⟩ := hold
      exact (List.getElem?_eq_some_iff.mp ha).1
    exact hnot (hall d hlt hold)
  · rw [ServerLoops.destroyServer, hkeeps.held] at hl
    exact absurd (hrest l).2 hl

/-- Where nothing waits and the map is empty every connection has been destroyed. -/
lemma Running.destroyed (hs : Running name ipPort s) (hserver : s.Dismantled)
    (hqueue : ∀ l, s.queue l = []) (ha : s.server.accepted[c]? = some a) :
    (s.calls c).getLast? = some (a.loop_, .connectDestroyed) ∧
      ∀ l, ((s.tables l).channels c).index_ = .kNew := by
  obtain ⟨ph, hlives⟩ := hs.lifeInv.lives c a ha
  refine hlives.destroyed ?_ ?_ fun hin => hserver.unmapped c (hlives.inConnections.mpr hin)
  · rw [← hlives.own, hqueue]
    rfl
  · rw [← hlives.removal, hqueue]
    rfl

end ServerLoops

open ServerLoops

variable {name ipPort : Bytes} {loop : LoopId} {s : ServerLoops} {es : List ServerLoopsEvent}

end SimpleMuduo
