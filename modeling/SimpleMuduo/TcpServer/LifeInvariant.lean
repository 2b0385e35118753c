import SimpleMuduo.TcpServer.Phases

/-!
# The invariant of all connections

Every accepted connection is in one of the phases, the pollers know exactly the channels that the
phases say, and the connections that still exist have different descriptors.  A step that concerns
one connection keeps the invariant when that connection is in a phase again.
-/

namespace SimpleMuduo

/-- The loop in whose queue the functor belongs. -/
def ServerFunctor.home (io base : LoopId) : ServerFunctor → LoopId
  | .removeConnectionInLoop _ => base
  | .connectEstablished _ | .connectDestroyed _ | .forceCloseInLoop _ => io

namespace ServerLoops

/-- The phase is one of a connection whose server has been destroyed before it was taken out. -/
def Phase.orphan : Phase → Bool
  | .orphanConnecting | .orphanUp | .orphanGone | .orphanClosed | .orphanClosedGone => true
  | .connecting | .up | .closed | .removed | .gone => false

/-- The connection waits for its `connectEstablished`. -/
def Phase.waiting : Phase → Bool
  | .connecting | .orphanConnecting => true
  | .up | .closed | .removed | .gone | .orphanUp | .orphanGone | .orphanClosed
  | .orphanClosedGone => false

/-- What holds of an accepted connection. -/
structure Lives (s : ServerLoops) (c : ConnId) (a : AcceptedConnection) (ph : Phase) : Prop extends
    InPhase s c a ph where
  orphan : ph.orphan = true → s.serverAlive = false
  remote : ph.waiting = true → a.loop_ ≠ s.server.loop_
  home : ∀ l, ∀ f ∈ s.queue l, f.conn = c → l = f.home a.loop_ s.server.loop_
  elsewhere : ∀ l ≠ a.loop_, ((s.tables l).channels c).index_ = .kNew
  fd_ : ((s.tables a.loop_).channels c).fd_ = a.sockfd
  callers : ∀ th, (s.threads th).conn = some c → s.calls c ≠ []
  forced : ∀ l, .forceCloseInLoop c ∈ s.queue l → s.calls c ≠ []

/-- What holds of a number that no connection has got yet. -/
structure Unborn (s : ServerLoops) (c : ConnId) : Prop where
  calls : s.calls c = []
  index : ∀ l, ((s.tables l).channels c).index_ = .kNew
  unreferenced : ¬ s.Referenced c

/-- What holds in every state that can be reached. -/
structure LifeInv (name ipPort : Bytes) (s : ServerLoops) : Prop where
  map : TcpServer.MapInv name ipPort s.server
  few : s.server.accepted.length < 2 ^ 31 - 1
  kept : ∀ l, Kept (s.tables l)
  lives : ∀ c a, s.server.accepted[c]? = some a → ∃ ph, Lives s c a ph
  unborn : ∀ c, s.server.accepted.length ≤ c → Unborn s c
  distinct : ∀ c d a b, s.server.accepted[c]? = some a → s.server.accepted[d]? = some b →
    s.Referenced c → s.Referenced d → a.sockfd = b.sockfd → c = d

variable {name ipPort : Bytes} {c d : ConnId} {s t u : ServerLoops} {l : LoopId}
  {a b : AcceptedConnection} {ph ph' : Phase}

/-- A functor in a queue holds a pointer. -/
lemma Referenced.of_queue {f : ServerFunctor} (hf : f ∈ s.queue l) : s.Referenced f.conn :=
  .inr (.inl ⟨l, f, List.mem_append_left _ hf, rfl⟩)

/-- Somebody holds a pointer to the connection as long as its channel is known to the poller. -/
lemma InPhase.referenced (h : InPhase s c a ph) (hindex : ph.index ≠ .kNew) : s.Referenced c := by
  have hown (f : ServerFunctor) (hconn : f.conn = c) (hf : f ∈ ph.own c) : s.Referenced c := by
    rw [← h.own] at hf
    exact hconn ▸ Referenced.of_queue (List.mem_of_mem_filter hf)
  cases ph with
  | up | closed => exact .inl (h.inConnections.mpr rfl)
  | removed | orphanUp | orphanClosed => exact hown (.connectDestroyed c) rfl List.mem_cons_self
  | connecting | gone | orphanConnecting | orphanGone | orphanClosedGone =>
    exact absurd rfl hindex

/-- The other connections go on living. -/
lemma Frame.lives (h : Frame c s t) (hd : d ≠ c) (halive : t.serverAlive = s.serverAlive)
    (hs : Lives s d a ph) : Lives t d a ph where
  toInPhase := h.inPhase hd hs.toInPhase
  orphan := halive ▸ hs.orphan
  remote := h.loop_ ▸ hs.remote
  home l f hf hconn := by
    have hmem : f ∈ (t.queue l).filter fun f => f.conn = d :=
      List.mem_filter.mpr ⟨hf, by simpa using hconn⟩
    rw [h.queue d hd] at hmem
    rw [h.loop_]
    exact hs.home l f (List.mem_of_mem_filter hmem) hconn
  elsewhere l hl := by rw [h.channels d hd, hs.elsewhere l hl]
  fd_ := by rw [h.channels d hd, hs.fd_]
  callers th hth := by
    rw [h.calls d hd]
    exact hs.callers th (h.threads d hd th hth)
  forced l hf := by
    have hmem : .forceCloseInLoop d ∈ (t.queue l).filter fun f => f.conn = d :=
      List.mem_filter.mpr ⟨hf, by simp [ServerFunctor.conn]⟩
    rw [h.queue d hd] at hmem
    rw [h.calls d hd]
    exact hs.forced l (List.mem_of_mem_filter hmem)

lemma Frame.unborn (h : Frame c s t) (hd : d ≠ c) (hs : Unborn s d) : Unborn t d where
  calls := by rw [h.calls d hd, hs.calls]
  index l := by rw [h.channels d hd, hs.index]
  unreferenced href := hs.unreferenced (h.referenced d hd href)

/-- After a step that concerns one connection, to which somebody held a pointer before it, the
invariant holds again when that connection is in a phase again. -/
lemma LifeInv.of_concerns (hs : LifeInv name ipPort s) (ha : s.server.accepted[c]? = some a)
    (hc : s.Referenced c) (h : Concerns c s t) (halive : t.serverAlive = s.serverAlive)
    (hmap : TcpServer.MapInv name ipPort t.server) (hkept : ∀ l, Kept (t.tables l))
    (hlives : Lives t c a ph) : LifeInv name ipPort t := by
  have hback (d : ConnId) (href : t.Referenced d) : s.Referenced d := by
    by_cases hd : d = c
    · exact hd ▸ hc
    · exact h.referenced d hd href
  refine ⟨hmap, h.accepted ▸ hs.few, hkept, fun d b hb => ?_, fun d hd => ?_,
    fun d e a' b' ha' hb' hd he => ?_⟩
  · rw [h.accepted] at hb
    by_cases hd : d = c
    · subst hd
      obtain rfl : a = b := Option.some.inj (ha.symm.trans hb)
      exact ⟨ph, hlives⟩
    · exact (hs.lives d b hb).imp fun _ => h.lives hd halive
  · rw [h.accepted] at hd
    have hne : d ≠ c := by
      rintro rfl
      rw [List.getElem?_eq_none hd] at ha
      cases ha
    exact h.unborn hne (hs.unborn d hd)
  · rw [h.accepted] at ha' hb'
    exact hs.distinct d e a' b' ha' hb' (hback d hd) (hback e he)

/-! ## The pollers -/

/-- No other channel that the poller knows has the descriptor of the connection. -/
def Alone (s : ServerLoops) (c : ConnId) (a : AcceptedConnection) : Prop :=
  ∀ q ≠ c, ((s.tables a.loop_).channels q).index_ ≠ .kNew →
    ((s.tables a.loop_).channels q).fd_ ≠ a.sockfd

/-- The channels that a poller knows belong to connections that exist. -/
lemma LifeInv.exists_of_index (hs : LifeInv name ipPort s)
    (hindex : ((s.tables l).channels c).index_ ≠ .kNew) :
    ∃ b, s.server.accepted[c]? = some b ∧ s.Referenced c ∧
      ((s.tables l).channels c).fd_ = b.sockfd := by
  obtain hlt | hge := Nat.lt_or_ge c s.server.accepted.length
  · have hb : s.server.accepted[c]? = some s.server.accepted[c] := List.getElem?_eq_getElem hlt
    obtain ⟨ph, hlives⟩ := hs.lives c _ hb
    have hloop : l = s.server.accepted[c].loop_ := by
      by_contra hloop
      exact hindex (hlives.elsewhere _ hloop)
    subst hloop
    exact ⟨_, hb, hlives.referenced (hlives.index ▸ hindex), hlives.fd_⟩
  · exact absurd ((hs.unborn c hge).index l) hindex

lemma LifeInv.alone (hs : LifeInv name ipPort s) (ha : s.server.accepted[c]? = some a)
    (hc : s.Referenced c) : Alone s c a := by
  intro q hne hindex hfd
  obtain ⟨b, hb, href, hqfd⟩ := hs.exists_of_index hindex
  exact hne (hs.distinct q c b a hb ha href hc (Int.ofNat_inj.mp (hqfd.symm.trans hfd)))

lemma Alone.unshared (hs : Alone s c a) (h : Concerns c s u) (hkept : Kept (u.tables a.loop_))
    (hfd : ((u.tables a.loop_).channels c).fd_ = a.sockfd) :
    ∀ q ∈ (u.tables a.loop_).poller.channels_ ((u.tables a.loop_).channels c).fd_, q = c := by
  intro q hq
  by_contra hne
  obtain ⟨hqfd, hqnew⟩ := hkept.known _ q hq
  rw [h.channels q hne] at hqfd hqnew
  exact hs q hne hqnew (hqfd.trans hfd)

/-- What an operation on the channel of the connection does. -/
structure Operated (s t : ServerLoops) (l : LoopId) (c : ConnId) (op : ChannelOp) : Prop where
  concerns : Concerns c s t
  eq : ∃ tables, t = { s with tables }
  kept : ∀ l, Kept (t.tables l)
  channel : (t.tables l).channels c = op.after ((s.tables l).channels c)
  elsewhere : ∀ l' ≠ l, t.tables l' = s.tables l'

/-- An operation never fails. -/
lemma operated (op : ChannelOp) (hkept : ∀ l, Kept (u.tables l))
    (hshare : ∀ q ∈ (u.tables l).poller.channels_ ((u.tables l).channels c).fd_, q = c) :
    Operated u (u.operate l c op) l c op := by
  have hconcerns := Concerns.operate u l c op
  obtain ⟨table, htable, hnew, -⟩ := (hkept l).operate op hshare
  have hafter : table.channels c = op.after ((u.tables l).channels c) := by
    obtain ⟨⟨c', p'⟩, hrun, rfl⟩ := Option.map_eq_some_iff.mp htable
    simpa using op.run_eq_after ((hkept l).agrees_of_unshared hshare) hrun
  have heq : u.operate l c op = { u with tables := Function.update u.tables l table } := by
    simp only [operate, htable]
  rw [heq] at hconcerns ⊢
  refine ⟨hconcerns, ⟨_, rfl⟩, fun l' => ?_, by simpa using hafter, fun l' hl => by simp [hl]⟩
  by_cases hl : l' = l
  · subst hl
    simpa using hnew
  · simpa [hl] using hkept l'

/-! ## In the middle of a step -/

/-- The state `u` in the middle of a step from `s` that concerns the connection `c`. -/
structure Midway (name ipPort : Bytes) (s u : ServerLoops) (c : ConnId) (a : AcceptedConnection) :
    Prop where
  alone : Alone s c a
  accepted : s.server.accepted[c]? = some a
  few : s.server.accepted.length < 2 ^ 31 - 1
  concerns : Concerns c s u
  alive : u.serverAlive = s.serverAlive
  map : TcpServer.MapInv name ipPort u.server
  kept : ∀ l, Kept (u.tables l)
  home : ∀ l, ∀ f ∈ u.queue l, f.conn = c → l = f.home a.loop_ s.server.loop_
  elsewhere : ∀ l ≠ a.loop_, ((u.tables l).channels c).index_ = .kNew
  fd_ : ((u.tables a.loop_).channels c).fd_ = a.sockfd

namespace Midway

/-- Nothing has been done yet. -/
lemma start (hs : LifeInv name ipPort s) (ha : s.server.accepted[c]? = some a)
    (hc : s.Referenced c) : Midway name ipPort s s c a := by
  obtain ⟨ph, hlives⟩ := hs.lives c a ha
  exact ⟨hs.alone ha hc, ha, hs.few, Concerns.refl c s, rfl, hs.map, hs.kept, hlives.home,
    hlives.elsewhere, hlives.fd_⟩

/-- The connection lives on in another phase, in which `connectEstablished` has been called. -/
lemma lives (h : Midway name ipPort s t c a) (hph : InPhase t c a ph)
    (horphan : ph.orphan = true → t.serverAlive = false)
    (hcalls : ∀ io base, ph.calls io base ≠ []) : Lives t c a ph := by
  have hne : t.calls c ≠ [] := hph.calls ▸ hcalls _ _
  refine { hph with
    orphan := horphan
    remote := fun hwaiting => ?_
    home := fun l f hf hconn => ?_
    elsewhere := h.elsewhere
    fd_ := h.fd_
    callers := fun _ _ => hne
    forced := fun _ _ => hne }
  · cases ph <;> simp [Phase.waiting, Phase.calls] at hwaiting hcalls
  · rw [h.concerns.loop_]
    exact h.home l f hf hconn

/-- The step is done when the connection lives on. -/
lemma finish_lives (h : Midway name ipPort s t c a) (hs : LifeInv name ipPort s)
    (hc : s.Referenced c) (hlives : Lives t c a ph) : LifeInv name ipPort t :=
  hs.of_concerns h.accepted hc h.concerns h.alive h.map h.kept hlives

lemma finish (h : Midway name ipPort s t c a) (hs : LifeInv name ipPort s)
    (hc : s.Referenced c) (hph : InPhase t c a ph)
    (horphan : ph.orphan = true → t.serverAlive = false)
    (hcalls : ∀ io base, ph.calls io base ≠ []) : LifeInv name ipPort t :=
  h.finish_lives hs hc (h.lives hph horphan hcalls)

lemma ioLoop_eq (h : Midway name ipPort s u c a) : u.ioLoop c = a.loop_ := by
  rw [ioLoop, h.concerns.accepted, h.accepted]
  rfl

lemma record (h : Midway name ipPort s u c a) (l : LoopId) (call : ServerCall) :
    Midway name ipPort s (u.record l call c) c a :=
  { h with concerns := h.concerns.trans (.record u l call c) }

lemma setState (h : Midway name ipPort s u c a) (state : StateE) :
    Midway name ipPort s (u.setState c state) c a :=
  { h with concerns := h.concerns.trans (.setState u c state) }

lemma queueInLoop (h : Midway name ipPort s u c a) {f : ServerFunctor} (hf : f.conn = c)
    (hl : l = f.home a.loop_ s.server.loop_) :
    Midway name ipPort s (u.queueInLoop l f) c a := by
  refine { h with
    concerns := h.concerns.trans (.queueInLoop u l hf)
    home := fun l' g hg hg' => ?_ }
  rw [queue_queueInLoop] at hg
  obtain hold | hnew := List.mem_append.mp hg
  · exact h.home l' g hold hg'
  · split at hnew
    · obtain rfl := List.mem_singleton.mp hnew
      rename_i heq
      rw [heq, hl]
    · cases hnew

/-- The entry in the map is erased. -/
lemma erase (h : Midway name ipPort s u c a) (hipPort : ipPort.length ≤ 47) :
    Midway name ipPort s (u.erase c) c a ∧ ¬ (u.erase c).InConnections c ∧
      (u.erase c).queue = u.queue ∧ (u.erase c).calls = u.calls ∧
      (u.erase c).state_ = u.state_ ∧ (u.erase c).tables = u.tables ∧
      (u.erase c).threads = u.threads ∧ (u.erase c).fault = u.fault := by
  have ha : u.server.accepted[c]? = some a := by rw [h.concerns.accepted, h.accepted]
  have hfew : u.server.accepted.length < 2 ^ 31 - 1 := h.concerns.accepted ▸ h.few
  have heq : u.erase c = { u with server := u.server.removeConnectionInLoop c a } := by
    simp [ServerLoops.erase, ha]
  have hconcerns : Concerns c u (u.erase c) := Concerns.erase hipPort h.map hfew c
  rw [heq] at hconcerns ⊢
  refine ⟨{ h with
    concerns := h.concerns.trans hconcerns
    map := h.map.removeConnectionInLoop hipPort hfew ha }, ?_, rfl, rfl, rfl, rfl, rfl, rfl⟩
  rintro ⟨b, hb, hmap⟩
  obtain rfl : a = b := Option.some.inj (ha.symm.trans hb)
  simp [TcpServer.removeConnectionInLoop] at hmap

/-- An operation on the channel succeeds. -/
lemma operate (h : Midway name ipPort s u c a) (op : ChannelOp) :
    Midway name ipPort s (u.operate a.loop_ c op) c a ∧
      (∃ tables, u.operate a.loop_ c op = { u with tables }) ∧
      ((u.operate a.loop_ c op).tables a.loop_).channels c =
        op.after ((u.tables a.loop_).channels c) := by
  have hop := operated op h.kept (h.alone.unshared h.concerns (h.kept a.loop_) h.fd_)
  obtain ⟨tables, heq⟩ := hop.eq
  refine ⟨?_, ⟨tables, heq⟩, hop.channel⟩
  refine { alone := h.alone, accepted := h.accepted, few := h.few
           concerns := h.concerns.trans hop.concerns
           alive := by rw [heq]; exact h.alive
           map := by rw [heq]; exact h.map
           kept := hop.kept
           home := by rw [heq]; exact h.home
           elsewhere := fun l hl => by rw [hop.elsewhere l hl, h.elsewhere l hl]
           fd_ := ?_ }
  rw [hop.channel, op.after_fd_, h.fd_]

end Midway

end ServerLoops

end SimpleMuduo
