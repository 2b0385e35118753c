import SimpleMuduo.Poller.NoInterest
import SimpleMuduo.TcpServer.Loops

/-!
# The phases of a connection

Whatever the loops do in whatever order, a connection goes through a fixed sequence of phases.  The
phase says which calls have been made for it, what waits for it in the two queues, whether the map
holds it, what its state can be and how its channel is registered.
-/

namespace SimpleMuduo

/-- The channel after the operation. -/
def ChannelOp.after (op : ChannelOp) (c : Channel) : Channel :=
  if op = .remove then { c with index_ := .kNew }
  else Channel.updated { c with events_ := op.newEvents c.events_ }

lemma ChannelOp.run_eq_after (op : ChannelOp) {c c' : Channel} {p p' : EPollPoller}
    (h : Agrees c p) (hrun : op.run c p = some (c', p')) : c' = op.after c := by
  by_cases hop : op = .remove
  · subst hop
    obtain ⟨q, hq, -⟩ := EPollPoller.removeChannel_agrees h
    exact congrArg Prod.fst (Option.some.inj (hrun.symm.trans hq))
  · obtain ⟨q, hq, -⟩ := EPollPoller.updateChannel_agrees h (op.newEvents c.events_)
    rw [ChannelOp.after, if_neg hop]
    have hsame := hrun.symm.trans ((op.run_eq_update hop c p).trans hq)
    exact congrArg Prod.fst (Option.some.inj hsame)

lemma ChannelOp.after_fd_ (op : ChannelOp) (c : Channel) : (op.after c).fd_ = c.fd_ := by
  unfold ChannelOp.after
  split <;> rfl

namespace ServerLoops

/-- Where a connection is in its life; an orphan is one whose server has been destroyed before it
was taken out of the map. -/
inductive Phase
  | connecting
  | up
  | closed
  | removed
  | gone
  | orphanConnecting
  | orphanUp
  | orphanGone
  | orphanClosed
  | orphanClosedGone
  deriving DecidableEq, Repr

namespace Phase

/-- The calls that have been made, with the loop of each. -/
def calls (io base : LoopId) : Phase → List (LoopId × ServerCall)
  | connecting | orphanConnecting => []
  | up | orphanUp => [(io, .connectEstablished)]
  | closed | orphanClosed => [(io, .connectEstablished), (io, .handleClose)]
  | removed =>
    [(io, .connectEstablished), (io, .handleClose), (base, .removeConnectionInLoop)]
  | gone =>
    [(io, .connectEstablished), (io, .handleClose), (base, .removeConnectionInLoop),
      (io, .connectDestroyed)]
  | orphanGone => [(io, .connectEstablished), (io, .connectDestroyed)]
  | orphanClosedGone =>
    [(io, .connectEstablished), (io, .handleClose), (io, .connectDestroyed)]

/-- What waits in the queue of the loop of the connection, in this order. -/
def own (c : ConnId) : Phase → List ServerFunctor
  | connecting => [.connectEstablished c]
  | orphanConnecting => [.connectEstablished c, .connectDestroyed c]
  | removed | orphanUp | orphanClosed => [.connectDestroyed c]
  | up | closed | gone | orphanGone | orphanClosedGone => []

/-- What waits in the queue of the base loop. -/
def removal (c : ConnId) : Phase → List ServerFunctor
  | closed | orphanClosed | orphanClosedGone => [.removeConnectionInLoop c]
  | _ => []

/-- The map holds the connection. -/
def inConnections : Phase → Bool
  | connecting | up | closed => true
  | _ => false

/-- The index of the channel. -/
def index : Phase → ChannelIndex
  | up | orphanUp => .kAdded
  | closed | removed | orphanClosed => .kDeleted
  | connecting | gone | orphanConnecting | orphanGone | orphanClosedGone => .kNew

/-- The states that the connection can be in. -/
def states : Phase → List StateE
  | connecting | orphanConnecting => [.kConnecting]
  | up | orphanUp => [.kConnected, .kDisconnecting]
  | orphanGone => [.kDisconnected, .kDisconnecting]
  | closed | removed | gone | orphanClosed | orphanClosedGone => [.kDisconnected]

end Phase

/-- The functor is one of those that wait in the queue of the loop of the connection. -/
def isOwn (c : ConnId) (f : ServerFunctor) : Bool :=
  f = .connectEstablished c ∨ f = .connectDestroyed c

/-- The functor waits in the queue of the base loop. -/
def isRemoval (c : ConnId) (f : ServerFunctor) : Bool := f = .removeConnectionInLoop c

/-- The connection `c`, which was constructed as `a`, is in the phase. -/
structure InPhase (s : ServerLoops) (c : ConnId) (a : AcceptedConnection) (ph : Phase) : Prop where
  calls : s.calls c = ph.calls a.loop_ s.server.loop_
  own : (s.queue a.loop_).filter (isOwn c) = ph.own c
  removal : (s.queue s.server.loop_).filter (isRemoval c) = ph.removal c
  inConnections : s.InConnections c ↔ ph.inConnections = true
  index : ((s.tables a.loop_).channels c).index_ = ph.index
  state_ : s.state_ c ∈ ph.states

@[simp] lemma queue_queueInLoop (s : ServerLoops) (l : LoopId) (f : ServerFunctor) (l' : LoopId) :
    (s.queueInLoop l f).queue l' = s.queue l' ++ if l' = l then [f] else [] := by
  by_cases hl : l' = l
  · subst hl
    simp [queue]
  · simp [queue, hl]

/-! ## What concerns one connection -/

/-- The two states differ in nothing that concerns another connection than `c`. -/
structure Frame (c : ConnId) (s t : ServerLoops) : Prop where
  loop_ : t.server.loop_ = s.server.loop_
  calls : ∀ d ≠ c, t.calls d = s.calls d
  state_ : ∀ d ≠ c, t.state_ d = s.state_ d
  channels : ∀ d ≠ c, ∀ l, (t.tables l).channels d = (s.tables l).channels d
  queue : ∀ d ≠ c, ∀ l, (t.queue l).filter (fun f => f.conn = d) =
    (s.queue l).filter fun f => f.conn = d
  inConnections : ∀ d ≠ c, t.InConnections d ↔ s.InConnections d
  threads : ∀ d ≠ c, ∀ th, (t.threads th).conn = some d → (s.threads th).conn = some d
  referenced : ∀ d ≠ c, t.Referenced d → s.Referenced d

/-- A step that concerns one connection, which has been accepted before. -/
structure Concerns (c : ConnId) (s t : ServerLoops) : Prop extends Frame c s t where
  accepted : t.server.accepted = s.server.accepted

variable {c d : ConnId} {s t u : ServerLoops} {l : LoopId}

namespace Frame

lemma trans (hst : Frame c s t) (htu : Frame c t u) : Frame c s u where
  loop_ := htu.loop_.trans hst.loop_
  calls d hd := (htu.calls d hd).trans (hst.calls d hd)
  state_ d hd := (htu.state_ d hd).trans (hst.state_ d hd)
  channels d hd l := (htu.channels d hd l).trans (hst.channels d hd l)
  queue d hd l := (htu.queue d hd l).trans (hst.queue d hd l)
  inConnections d hd := (htu.inConnections d hd).trans (hst.inConnections d hd)
  threads d hd th h := hst.threads d hd th (htu.threads d hd th h)
  referenced d hd h := hst.referenced d hd (htu.referenced d hd h)

/-- A part of the functors for another connection. -/
lemma filter_queue (h : Frame c s t) (hd : d ≠ c) (l : LoopId) {p : ServerFunctor → Bool}
    (hp : ∀ f, p f = true → f.conn = d) : (t.queue l).filter p = (s.queue l).filter p := by
  have hrefine (fs : List ServerFunctor) :
      fs.filter p = (fs.filter fun f => f.conn = d).filter p := by
    rw [List.filter_filter]
    refine List.filter_congr fun f _ => ?_
    cases hpf : p f with
    | true => simp [hp f hpf]
    | false => rfl
  rw [hrefine, h.queue d hd l, ← hrefine]

/-- The phases of the other connections do not change. -/
lemma inPhase (h : Frame c s t) (hd : d ≠ c) {a : AcceptedConnection} {ph : Phase}
    (hph : InPhase s d a ph) : InPhase t d a ph where
  calls := by rw [h.calls d hd, h.loop_, hph.calls]
  own := by
    rw [h.filter_queue hd a.loop_ fun f hf => ?_, hph.own]
    obtain rfl | rfl := of_decide_eq_true hf <;> rfl
  removal := by
    rw [h.loop_, h.filter_queue hd s.server.loop_ fun f hf => ?_, hph.removal]
    rw [of_decide_eq_true hf]
    rfl
  inConnections := (h.inConnections d hd).trans hph.inConnections
  index := by rw [h.channels d hd, hph.index]
  state_ := by
    rw [h.state_ d hd]
    exact hph.state_

end Frame

namespace Concerns

lemma refl (c : ConnId) (s : ServerLoops) : Concerns c s s :=
  ⟨⟨rfl, fun _ _ => rfl, fun _ _ => rfl, fun _ _ _ => rfl, fun _ _ _ => rfl,
    fun _ _ => Iff.rfl, fun _ _ _ => id, fun _ _ => id⟩, rfl⟩

lemma trans (hst : Concerns c s t) (htu : Concerns c t u) : Concerns c s u :=
  ⟨hst.toFrame.trans htu.toFrame, htu.accepted.trans hst.accepted⟩

/-! ### The elementary steps -/

lemma record (s : ServerLoops) (l : LoopId) (call : ServerCall) (c : ConnId) :
    Concerns c s (s.record l call c) :=
  { refl c s with calls := fun _ hd => Function.update_of_ne hd _ _ }

lemma setState (s : ServerLoops) (c : ConnId) (state : StateE) :
    Concerns c s (s.setState c state) :=
  { refl c s with state_ := fun _ hd => Function.update_of_ne hd _ _ }

/-- A step of a poller touches the channel it is called for. -/
lemma operate (s : ServerLoops) (l : LoopId) (c : ConnId) (op : ChannelOp) :
    Concerns c s (s.operate l c op) := by
  unfold ServerLoops.operate
  split
  · rename_i table htable
    obtain ⟨r, -, rfl⟩ := Option.map_eq_some_iff.mp htable
    refine { refl c s with channels := fun d hd l' => ?_ }
    by_cases hl : l' = l
    · subst hl
      simp [hd]
    · simp [hl]
  · exact { refl c s with }

lemma queueInLoop (s : ServerLoops) (l : LoopId) {f : ServerFunctor} (hf : f.conn = c) :
    Concerns c s (s.queueInLoop l f) := by
  refine { refl c s with queue := fun d hd l' => ?_, referenced := fun d hd h => ?_ }
  · rw [queue_queueInLoop]
    split <;> simp [hf, hd.symm]
  · obtain hmap | ⟨l', g, hg, hconn⟩ | hrest := h
    · exact .inl hmap
    · refine .inr (.inl ⟨l', g, ?_, hconn⟩)
      have hgf : g ≠ f := fun heq => hd (hconn.symm.trans (heq ▸ hf))
      rw [queue_queueInLoop] at hg
      split at hg
      · simpa [hgf] using hg
      · simpa using hg
    · exact .inr (.inr hrest)

lemma setThread (s : ServerLoops) (th : ThreadId) {pc : ServerCallerPc}
    (hpc : ∀ d, pc.conn = some d → d = c) : Concerns c s (s.setThread th pc) := by
  have hthreads (d : ConnId) (hd : d ≠ c) (th' : ThreadId)
      (h : ((s.setThread th pc).threads th').conn = some d) : (s.threads th').conn = some d := by
    by_cases hth : th' = th
    · subst hth
      exact absurd (hpc d (by simpa using h)) hd
    · simpa [hth] using h
  refine { refl c s with threads := hthreads, referenced := fun d hd h => ?_ }
  obtain hmap | hqueue | husers | ⟨th', h⟩ := h
  · exact .inl hmap
  · exact .inr (.inl hqueue)
  · exact .inr (.inr (.inl husers))
  · exact .inr (.inr (.inr ⟨th', hthreads d hd th' h⟩))

lemma erase {name ipPort : Bytes} (hipPort : ipPort.length ≤ 47)
    (hmap : TcpServer.MapInv name ipPort s.server)
    (hfew : s.server.accepted.length < 2 ^ 31 - 1) (c : ConnId) : Concerns c s (s.erase c) := by
  unfold ServerLoops.erase
  split
  · rename_i a ha
    have hin (d : ConnId) (hd : d ≠ c) : InConnections { s with
        server := s.server.removeConnectionInLoop c a } d ↔ s.InConnections d := by
      refine exists_congr fun b => and_congr_right fun hb => ?_
      have hname : b.name_ ≠ a.name_ := fun heq => hd (hmap.eq_of_name_eq hipPort hfew hb ha heq)
      simp [TcpServer.removeConnectionInLoop, hname]
    refine { refl c s with inConnections := hin, referenced := fun d hd h => ?_ }
    exact h.imp_left (hin d hd).mp
  · exact refl c s

end Concerns

end ServerLoops

end SimpleMuduo
