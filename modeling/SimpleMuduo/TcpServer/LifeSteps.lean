import SimpleMuduo.TcpServer.LifeInvariant

/-!
# The steps of the phases

What each function of the connection and of the server does to the connection it is called for, and
from it the phase in which each step of the loops leaves that connection.
-/

namespace SimpleMuduo

lemma ChannelOp.after_enableReading {c : Channel} (h : c.index_ = .kNew) :
    (ChannelOp.enableReading.after c).index_ = .kAdded := by
  simp [ChannelOp.after, Channel.updated, h]

lemma ChannelOp.after_disableAll {c : Channel} (h : c.index_ = .kAdded) :
    (ChannelOp.disableAll.after c).index_ = .kDeleted := by
  simp [ChannelOp.after, Channel.updated, ChannelOp.newEvents, Channel.isNoneEvent, h]

lemma ChannelOp.after_remove (c : Channel) : (ChannelOp.remove.after c).index_ = .kNew := by
  simp [ChannelOp.after]

namespace ServerLoops

variable {name ipPort : Bytes} {c d : ConnId} {s t u : ServerLoops} {l : LoopId}
  {a b : AcceptedConnection} {ph ph' : Phase}

/-- What a function of the connection does that neither queues a functor nor calls the server. -/
structure Does (u t : ServerLoops) (c : ConnId) (io : LoopId) (call : ServerCall)
    (index : ChannelIndex) : Prop where
  calls : t.calls c = u.calls c ++ [(io, call)]
  queue : t.queue = u.queue
  server : t.server = u.server
  index : ((t.tables io).channels c).index_ = index
  fault : t.fault = u.fault

namespace Midway

/-- `connectEstablished` registers the channel. -/
lemma connectEstablished (h : Midway name ipPort s u c a)
    (hnew : ((u.tables a.loop_).channels c).index_ = .kNew) :
    Midway name ipPort s (u.connectEstablished a.loop_ c) c a ∧
      Does u (u.connectEstablished a.loop_ c) c a.loop_ .connectEstablished .kAdded ∧
      (u.connectEstablished a.loop_ c).state_ c = .kConnected := by
  obtain ⟨hmid, ⟨tables, heq⟩, hchannel⟩ :=
    ((h.record a.loop_ .connectEstablished).setState .kConnected).operate .enableReading
  refine ⟨hmid, ⟨?_, ?_, ?_, ?_, ?_⟩, ?_⟩
  · simp [ServerLoops.connectEstablished, heq]
  · rw [ServerLoops.connectEstablished, heq]
    rfl
  · rw [ServerLoops.connectEstablished, heq]
    rfl
  · rw [ServerLoops.connectEstablished, hchannel]
    exact ChannelOp.after_enableReading hnew
  · rw [ServerLoops.connectEstablished, heq]
    rfl
  · simp [ServerLoops.connectEstablished, heq]

/-- `connectDestroyed` removes the channel. -/
lemma connectDestroyed (h : Midway name ipPort s u c a) :
    Midway name ipPort s (u.connectDestroyed a.loop_ c) c a ∧
      Does u (u.connectDestroyed a.loop_ c) c a.loop_ .connectDestroyed .kNew ∧
      (u.connectDestroyed a.loop_ c).state_ c =
        if u.state_ c = .kConnected then .kDisconnected else u.state_ c := by
  unfold ServerLoops.connectDestroyed
  have hrecord := h.record a.loop_ .connectDestroyed
  by_cases hconnected : u.state_ c = .kConnected
  · obtain ⟨hdisabled, ⟨tables, heq⟩, -⟩ := (hrecord.setState .kDisconnected).operate .disableAll
    obtain ⟨hmid, ⟨tables', heq'⟩, hchannel⟩ := hdisabled.operate .remove
    have hstate : (u.record a.loop_ .connectDestroyed c).state_ c = .kConnected := hconnected
    simp only [if_pos hstate, if_pos hconnected]
    refine ⟨hmid, ⟨?_, ?_, ?_, ?_, ?_⟩, ?_⟩
    · rw [heq', heq]
      simp
    · rw [heq', heq]
      rfl
    · rw [heq', heq]
      rfl
    · rw [hchannel]
      exact ChannelOp.after_remove _
    · rw [heq', heq]
      rfl
    · rw [heq', heq]
      simp
  · obtain ⟨hmid, ⟨tables, heq⟩, hchannel⟩ := hrecord.operate .remove
    have hstate : (u.record a.loop_ .connectDestroyed c).state_ c ≠ .kConnected := hconnected
    simp only [if_neg hstate, if_neg hconnected]
    refine ⟨hmid, ⟨?_, ?_, ?_, ?_, ?_⟩, ?_⟩
    · simp [heq]
    · rw [heq]
      rfl
    · rw [heq]
      rfl
    · rw [hchannel]
      exact ChannelOp.after_remove _
    · rw [heq]
      rfl
    · simp [heq]

/-- `handleClose` up to the call of `closeCallback_`. -/
lemma disconnect (h : Midway name ipPort s u c a)
    (hadded : ((u.tables a.loop_).channels c).index_ = .kAdded) :
    ∃ t, u.handleClose a.loop_ c = t.removeConnection a.loop_ c ∧ Midway name ipPort s t c a ∧
      Does u t c a.loop_ .handleClose .kDeleted ∧ t.state_ c = .kDisconnected ∧
      t.serverAlive = u.serverAlive := by
  obtain ⟨hmid, ⟨tables, heq⟩, hchannel⟩ :=
    ((h.record a.loop_ .handleClose).setState .kDisconnected).operate .disableAll
  refine ⟨_, rfl, hmid, ⟨?_, ?_, ?_, ?_, ?_⟩, ?_, ?_⟩
  · simp [heq]
  · rw [heq]
    rfl
  · rw [heq]
    rfl
  · rw [hchannel]
    exact ChannelOp.after_disableAll hadded
  · rw [heq]
    rfl
  · simp [heq]
  · rw [heq]
    rfl

/-- `removeConnectionInLoop` of a living server. -/
lemma removeConnectionInLoop (h : Midway name ipPort s u c a) (hipPort : ipPort.length ≤ 47)
    (halive : u.serverAlive = true) (l : LoopId) :
    Midway name ipPort s (u.removeConnectionInLoop l c) c a ∧
      (u.removeConnectionInLoop l c).calls c = u.calls c ++ [(l, .removeConnectionInLoop)] ∧
      (∀ l', (u.removeConnectionInLoop l c).queue l' =
        u.queue l' ++ if l' = a.loop_ then [.connectDestroyed c] else []) ∧
      ¬ (u.removeConnectionInLoop l c).InConnections c ∧
      (u.removeConnectionInLoop l c).tables = u.tables ∧
      (u.removeConnectionInLoop l c).state_ = u.state_ ∧
      (u.removeConnectionInLoop l c).fault = u.fault := by
  obtain ⟨hmid, hmap, hqueue, hcalls, hstate, htables, -, hfault⟩ :=
    (h.record l .removeConnectionInLoop).erase hipPort
  have heq : u.removeConnectionInLoop l c =
      ((u.record l .removeConnectionInLoop c).erase c).queueInLoop a.loop_
        (.connectDestroyed c) := by
    simp only [ServerLoops.removeConnectionInLoop, if_pos halive, hmid.ioLoop_eq]
  rw [heq]
  refine ⟨hmid.queueInLoop rfl rfl, ?_, fun l' => ?_, hmap, htables, hstate, hfault⟩
  · rw [queueInLoop_calls, hcalls]
    simp
  · rw [queue_queueInLoop, hqueue]
    rfl

end Midway

/-! ## Functors -/

variable {f : ServerFunctor} {rest : List ServerFunctor}

lemma queue_take (h : s.functors l = f :: rest) (l' : LoopId) :
    s.queue l' = (if l' = l then [f] else []) ++ (s.take l f rest).queue l' := by
  by_cases hl : l' = l
  · subst hl
    simp [queue, take, h]
  · simp [queue, take, hl]

/-- The functors of a kind, before and after one has been taken. -/
lemma filter_queue_take (h : s.functors l = f :: rest) (l' : LoopId) (p : ServerFunctor → Bool) :
    (s.queue l').filter p =
      (if l' = l ∧ p f = true then [f] else []) ++ ((s.take l f rest).queue l').filter p := by
  rw [queue_take h, List.filter_append]
  by_cases hl : l' = l
  · cases hp : p f <;> simp [hl, hp]
  · simp [hl]

/-- A functor is run on the loop on which it belongs, for a connection that has been accepted. -/
lemma LifeInv.exists_of_queue (hs : LifeInv name ipPort s) (hf : f ∈ s.queue l)
    (hconn : f.conn = c) :
    ∃ a ph, s.server.accepted[c]? = some a ∧ Lives s c a ph ∧
      l = f.home a.loop_ s.server.loop_ := by
  have href : s.Referenced c := hconn ▸ Referenced.of_queue hf
  obtain hlt | hge := Nat.lt_or_ge c s.server.accepted.length
  · have ha := List.getElem?_eq_getElem hlt
    obtain ⟨ph, hlives⟩ := hs.lives _ _ ha
    exact ⟨_, ph, ha, hlives, hlives.home l f hf hconn⟩
  · exact absurd href (hs.unborn _ hge).unreferenced

lemma Midway.take (hs : LifeInv name ipPort s) (h : s.functors l = f :: rest)
    (hf : f.conn = c) (ha : s.server.accepted[c]? = some a) :
    Midway name ipPort s (s.take l f rest) c a := by
  have hmem : f ∈ s.queue l := by simp [queue, h]
  have hstart := Midway.start hs ha (hf ▸ Referenced.of_queue hmem)
  have hsub (l' : LoopId) (g : ServerFunctor) (hg : g ∈ (s.take l f rest).queue l') :
      g ∈ s.queue l' := by
    rw [queue_take h]
    exact List.mem_append_right _ hg
  refine { hstart with
    home := fun l' g hg => hstart.home l' g (hsub l' g hg)
    concerns := { hstart.concerns with
      queue := fun d hd l' => ?_
      referenced := fun d hd h' => ?_ } }
  · rw [filter_queue_take h]
    simp [hf, hd.symm]
  · obtain hmap | ⟨l', g, hg, hconn⟩ | hrest := h'
    · exact .inl hmap
    · refine .inr (.inl ⟨l', g, ?_, hconn⟩)
      obtain hqueue | hheld := List.mem_append.mp hg
      · exact List.mem_append_left _ (hsub l' g hqueue)
      · by_cases hl : l' = l
        · subst hl
          simp only [ServerLoops.take, Function.update_self] at hheld
          obtain rfl | hold := List.mem_cons.mp hheld
          · exact absurd (hconn.symm.trans hf) hd
          · exact List.mem_append_right _ hold
        · refine List.mem_append_right _ ?_
          simpa [ServerLoops.take, hl] using hheld
    · exact .inr (.inr hrest)

/-- The next phase after a functor that only calls the connection. -/
lemma InPhase.of_does {call : ServerCall} {index : ChannelIndex} (hs : InPhase s c a ph)
    (h : s.functors l = f :: rest) (hdoes : Does (s.take l f rest) t c a.loop_ call index)
    (hf : isRemoval c f = false)
    (hown : ((s.take l f rest).queue a.loop_).filter (isOwn c) = ph'.own c)
    (hcalls : ph.calls a.loop_ s.server.loop_ ++ [(a.loop_, call)] =
      ph'.calls a.loop_ s.server.loop_)
    (hin : ph.inConnections = ph'.inConnections) (hremoval : ph.removal c = ph'.removal c)
    (hindex : index = ph'.index) (hstate : t.state_ c ∈ ph'.states) : InPhase t c a ph' where
  calls := by
    rw [hdoes.server, hdoes.calls]
    exact (congrArg (· ++ _) hs.calls).trans hcalls
  own := by rw [hdoes.queue, hown]
  removal := by
    have hsame := filter_queue_take h s.server.loop_ (isRemoval c)
    rw [hs.removal, hremoval] at hsame
    rw [hdoes.server, hdoes.queue, hsame]
    simp [hf, ServerLoops.take]
  inConnections := by
    rw [InConnections, hdoes.server, ← hin]
    exact hs.inConnections
  index := hdoes.index.trans hindex
  state_ := hstate

/-- `connectEstablished` is run. -/
lemma LifeInv.run_connectEstablished (hs : LifeInv name ipPort s)
    (h : s.functors l = .connectEstablished c :: rest) :
    LifeInv name ipPort (runFunctor (s.take l (.connectEstablished c) rest) l
        (.connectEstablished c)) ∧
      (runFunctor (s.take l (.connectEstablished c) rest) l (.connectEstablished c)).fault =
        s.fault := by
  have hmem : .connectEstablished c ∈ s.queue l := by simp [queue, h]
  have href : s.Referenced c := Referenced.of_queue hmem
  obtain ⟨a, ph, ha, hlives, hl⟩ := hs.exists_of_queue (c := c) hmem rfl
  obtain rfl : l = a.loop_ := hl
  have hmid := Midway.take (c := c) hs h rfl ha
  have hown := filter_queue_take h a.loop_ (isOwn c)
  rw [hlives.own, if_pos ⟨rfl, by simp [isOwn]⟩] at hown
  have hnew : ph.index = .kNew := by
    cases ph <;> simp [Phase.own] at hown <;> rfl
  obtain ⟨hmid', hdoes, hstate⟩ := hmid.connectEstablished (hlives.index.trans hnew)
  refine ⟨?_, hdoes.fault⟩
  cases ph with
  | connecting =>
    have hph : InPhase _ c a .up := hlives.of_does h hdoes rfl
      (List.cons.inj hown).2.symm rfl rfl rfl rfl (by simp [hstate, Phase.states])
    exact hmid'.finish hs href hph (by simp [Phase.orphan]) (by simp [Phase.calls])
  | orphanConnecting =>
    have hph : InPhase _ c a .orphanUp := hlives.of_does h hdoes rfl
      (List.cons.inj hown).2.symm rfl rfl rfl rfl (by simp [hstate, Phase.states])
    exact hmid'.finish hs href hph (fun _ => hmid'.alive.trans (hlives.orphan rfl))
      (by simp [Phase.calls])
  | _ => simp [Phase.own] at hown

/-- `connectDestroyed` is run. -/
lemma LifeInv.run_connectDestroyed (hs : LifeInv name ipPort s)
    (h : s.functors l = .connectDestroyed c :: rest) :
    LifeInv name ipPort (runFunctor (s.take l (.connectDestroyed c) rest) l
        (.connectDestroyed c)) ∧
      (runFunctor (s.take l (.connectDestroyed c) rest) l (.connectDestroyed c)).fault =
        s.fault := by
  have hmem : .connectDestroyed c ∈ s.queue l := by simp [queue, h]
  have href : s.Referenced c := Referenced.of_queue hmem
  obtain ⟨a, ph, ha, hlives, hl⟩ := hs.exists_of_queue (c := c) hmem rfl
  obtain rfl : l = a.loop_ := hl
  have hmid := Midway.take (c := c) hs h rfl ha
  have hown := filter_queue_take h a.loop_ (isOwn c)
  rw [hlives.own, if_pos ⟨rfl, by simp [isOwn]⟩] at hown
  have hsame : (s.take a.loop_ (.connectDestroyed c) rest).state_ = s.state_ := rfl
  have hstates := hlives.state_
  obtain ⟨hmid', hdoes, hstate⟩ := hmid.connectDestroyed
  rw [hsame] at hstate
  refine ⟨?_, hdoes.fault⟩
  cases ph with
  | removed =>
    have hdisconnected : s.state_ c = .kDisconnected := by simpa [Phase.states] using hstates
    have hph : InPhase _ c a .gone := hlives.of_does h hdoes rfl
      (List.cons.inj hown).2.symm rfl rfl rfl rfl (by simp [hstate, hdisconnected, Phase.states])
    exact hmid'.finish hs href hph (by simp [Phase.orphan]) (by simp [Phase.calls])
  | orphanUp =>
    have hleft : (if s.state_ c = .kConnected then .kDisconnected else s.state_ c) ∈
        [StateE.kDisconnected, .kDisconnecting] := by
      obtain hconnected | hdisconnecting :
          s.state_ c = .kConnected ∨ s.state_ c = .kDisconnecting := by
        simpa [Phase.states] using hstates
      · simp [hconnected]
      · simp [hdisconnecting]
    have hph : InPhase _ c a .orphanGone := hlives.of_does h hdoes rfl
      (List.cons.inj hown).2.symm rfl rfl rfl rfl (hstate ▸ hleft)
    exact hmid'.finish hs href hph (fun _ => hmid'.alive.trans (hlives.orphan rfl))
      (by simp [Phase.calls])
  | orphanClosed =>
    have hdisconnected : s.state_ c = .kDisconnected := by simpa [Phase.states] using hstates
    have hph : InPhase _ c a .orphanClosedGone := hlives.of_does h hdoes rfl
      (List.cons.inj hown).2.symm rfl rfl rfl rfl (by simp [hstate, hdisconnected, Phase.states])
    exact hmid'.finish hs href hph (fun _ => hmid'.alive.trans (hlives.orphan rfl))
      (by simp [Phase.calls])
  | _ => simp [Phase.own] at hown

/-! ## Closing -/

/-- A functor that is taken and is none of those that the phases speak of. -/
lemma InPhase.take (hs : InPhase s c a ph) (h : s.functors l = f :: rest)
    (hown : isOwn c f = false) (hremoval : isRemoval c f = false) :
    InPhase (s.take l f rest) c a ph := by
  refine { hs with own := ?_, removal := ?_ }
  · have hsame := filter_queue_take h a.loop_ (isOwn c)
    rw [hs.own] at hsame
    simpa [hown] using hsame.symm
  · have hsame := filter_queue_take h s.server.loop_ (isRemoval c)
    rw [hs.removal] at hsame
    simpa [hremoval, ServerLoops.take] using hsame.symm

/-- `handleClose` for a connection that is up. -/
lemma Midway.handleClose (h : Midway name ipPort s u c a) (hs : LifeInv name ipPort s)
    (href : s.Referenced c) (hipPort : ipPort.length ≤ 47) (halive : u.serverAlive = true)
    (hup : InPhase u c a .up) : LifeInv name ipPort (u.handleClose a.loop_ c) ∧
      (u.handleClose a.loop_ c).fault = u.fault := by
  obtain ⟨v, heq, hmid, hdoes, hstate, hsame⟩ := h.disconnect hup.index
  have halive' : v.serverAlive = true := hsame.trans halive
  have hcalls : v.calls c = [(a.loop_, .connectEstablished), (a.loop_, .handleClose)] := by
    rw [hdoes.calls, hup.calls]
    rfl
  have hown : (v.queue a.loop_).filter (isOwn c) = [] := by rw [hdoes.queue, hup.own, Phase.own]
  have hremoval : (v.queue v.server.loop_).filter (isRemoval c) = [] := by
    rw [hdoes.queue, hdoes.server, hup.removal]
    rfl
  rw [heq, removeConnection, if_pos halive']
  by_cases hbase : a.loop_ = v.server.loop_
  · -- the connection lives on the base loop
    rw [if_pos hbase]
    obtain ⟨hmid', hcalls', hqueue, hmap, htables, hstate', hfault⟩ :=
      hmid.removeConnectionInLoop hipPort halive' a.loop_
    have hloop : (v.removeConnectionInLoop a.loop_ c).server.loop_ = a.loop_ := by
      rw [hmid'.concerns.loop_, ← hmid.concerns.loop_, hbase]
    have hph : InPhase (v.removeConnectionInLoop a.loop_ c) c a .removed := by
      refine ⟨?_, ?_, ?_, iff_of_false hmap (by simp [Phase.inConnections]), ?_, ?_⟩
      · rw [hcalls', hcalls, hloop]
        rfl
      · rw [hqueue, List.filter_append, hown]
        simp [isOwn, Phase.own]
      · rw [hloop, hqueue, List.filter_append, hbase, hremoval]
        simp [isRemoval, Phase.removal]
      · rw [htables]
        exact hdoes.index
      · rw [hstate', hstate]
        simp [Phase.states]
    exact ⟨hmid'.finish hs href hph (by simp [Phase.orphan]) (by simp [Phase.calls]),
      hfault.trans hdoes.fault⟩
  · rw [if_neg hbase]
    have hmid' := hmid.queueInLoop (f := .removeConnectionInLoop c) rfl hmid.concerns.loop_
    have hph : InPhase (v.queueInLoop v.server.loop_ (.removeConnectionInLoop c)) c a .closed := by
      refine ⟨hcalls, ?_, ?_, ?_, hdoes.index, ?_⟩
      · rw [queue_queueInLoop, List.filter_append, hown, if_neg hbase]
        rfl
      · rw [queue_queueInLoop]
        simp [hremoval, isRemoval, Phase.removal]
      · have hsame : v.InConnections c ↔ u.InConnections c := by
          rw [InConnections, hdoes.server, ← InConnections]
        exact hsame.trans hup.inConnections
      · exact (by simp [hstate, Phase.states] : v.state_ c ∈ Phase.closed.states)
    exact ⟨hmid'.finish hs href hph (by simp [Phase.orphan]) (by simp [Phase.calls]),
      hdoes.fault⟩

/-- `handleClose` after the destruction of the server. -/
lemma handleClose_of_dead (hdead : u.serverAlive = false) (l : LoopId) (c : ConnId) :
    (u.handleClose l c).fault = some .useAfterFree := by
  have hsame : (((u.record l .handleClose c).setState c .kDisconnected).operate l c
      .disableAll).serverAlive = u.serverAlive := by
    unfold operate
    split <;> rfl
  rw [handleClose, removeConnection, hsame, hdead]
  rfl

/-- A connection that can still be closed is up, or its server has been destroyed. -/
lemma Lives.up_of_state (h : Lives s c a ph)
    (hstate : s.state_ c = .kConnected ∨ s.state_ c = .kDisconnecting)
    (halive : s.serverAlive = true) : ph = .up := by
  have hstates := h.state_
  have horphan := h.orphan
  cases ph with
  | up => rfl
  | orphanUp | orphanGone | orphanConnecting | orphanClosed | orphanClosedGone =>
    simp [Phase.orphan, halive] at horphan
  | connecting | closed | removed | gone =>
    obtain hstate | hstate := hstate <;> simp [Phase.states, hstate] at hstates

/-- `forceCloseInLoop` is run. -/
lemma LifeInv.run_forceCloseInLoop (hs : LifeInv name ipPort s) (hipPort : ipPort.length ≤ 47)
    (h : s.functors l = .forceCloseInLoop c :: rest)
    (hok : (runFunctor (s.take l (.forceCloseInLoop c) rest) l (.forceCloseInLoop c)).fault =
      some .useAfterFree → s.serverAlive = true) :
    LifeInv name ipPort (runFunctor (s.take l (.forceCloseInLoop c) rest) l
        (.forceCloseInLoop c)) ∧
      (runFunctor (s.take l (.forceCloseInLoop c) rest) l (.forceCloseInLoop c)).fault =
        s.fault := by
  have hmem : .forceCloseInLoop c ∈ s.queue l := by simp [queue, h]
  have href : s.Referenced c := Referenced.of_queue hmem
  obtain ⟨a, ph, ha, hlives, hl⟩ := hs.exists_of_queue (c := c) hmem rfl
  obtain rfl : l = a.loop_ := hl
  have hmid := Midway.take (c := c) hs h rfl ha
  have hph := hlives.take h (by simp [isOwn]) (by simp [isRemoval])
  simp only [runFunctor, forceCloseInLoop] at hok ⊢
  split
  · rename_i hstate
    rw [if_pos hstate] at hok
    have halive : s.serverAlive = true := by
      by_contra hdead
      have hdead' : (s.take a.loop_ (.forceCloseInLoop c) rest).serverAlive = false :=
        Bool.eq_false_iff.mpr hdead
      exact hdead (hok (handleClose_of_dead hdead' _ _))
    obtain rfl := hlives.up_of_state hstate halive
    exact hmid.handleClose hs href hipPort halive hph
  · -- the connection has been closed before
    refine ⟨hmid.finish hs href hph hlives.orphan fun io base hnil => ?_, rfl⟩
    have hcalls := hlives.forced a.loop_ hmem
    rw [hlives.calls] at hcalls
    cases ph <;> simp [Phase.calls] at hnil hcalls

/-- `removeConnectionInLoop` is run. -/
lemma LifeInv.run_removeConnectionInLoop (hs : LifeInv name ipPort s)
    (hipPort : ipPort.length ≤ 47) (h : s.functors l = .removeConnectionInLoop c :: rest)
    (hok : (runFunctor (s.take l (.removeConnectionInLoop c) rest) l
      (.removeConnectionInLoop c)).fault = some .useAfterFree → s.serverAlive = true) :
    LifeInv name ipPort (runFunctor (s.take l (.removeConnectionInLoop c) rest) l
        (.removeConnectionInLoop c)) ∧
      (runFunctor (s.take l (.removeConnectionInLoop c) rest) l
        (.removeConnectionInLoop c)).fault = s.fault := by
  have hmem : .removeConnectionInLoop c ∈ s.queue l := by simp [queue, h]
  have href : s.Referenced c := Referenced.of_queue hmem
  obtain ⟨a, ph, ha, hlives, hl⟩ := hs.exists_of_queue (c := c) hmem rfl
  obtain rfl : l = s.server.loop_ := hl
  have hmid := Midway.take (c := c) hs h rfl ha
  have halive : s.serverAlive = true := by
    by_contra hdead
    refine hdead (hok ?_)
    rw [runFunctor, removeConnectionInLoop, if_neg (by simpa [ServerLoops.take] using hdead)]
  have hremoval := filter_queue_take h s.server.loop_ (isRemoval c)
  rw [hlives.removal, if_pos ⟨rfl, by simp [isRemoval]⟩] at hremoval
  have hown := filter_queue_take h a.loop_ (isOwn c)
  rw [hlives.own, if_neg (by simp [isOwn])] at hown
  have horphan := hlives.orphan
  obtain rfl : ph = .closed := by
    cases ph <;> simp [Phase.removal, Phase.orphan, halive] at hremoval horphan
    rfl
  have hnoRemoval : ((s.take s.server.loop_ (.removeConnectionInLoop c) rest).queue
      s.server.loop_).filter (isRemoval c) = [] := (List.cons.inj hremoval).2.symm
  have hnoOwn : ((s.take s.server.loop_ (.removeConnectionInLoop c) rest).queue a.loop_).filter
      (isOwn c) = [] := hown.symm
  obtain ⟨hmid', hcalls, hqueue, hmap, htables, hstate, hfault⟩ :=
    hmid.removeConnectionInLoop hipPort halive s.server.loop_
  suffices hph : InPhase (runFunctor (s.take s.server.loop_ (.removeConnectionInLoop c) rest)
      s.server.loop_ (.removeConnectionInLoop c)) c a .removed from
    ⟨hmid'.finish hs href hph (by simp [Phase.orphan]) (by simp [Phase.calls]), hfault⟩
  refine ⟨?_, ?_, ?_, iff_of_false hmap (by simp [Phase.inConnections]), ?_, ?_⟩
  · rw [runFunctor, hcalls, hmid'.concerns.loop_]
    exact congrArg (· ++ _) hlives.calls
  · rw [runFunctor, hqueue, List.filter_append, hnoOwn]
    simp [isOwn, Phase.own]
  · rw [runFunctor, hmid'.concerns.loop_, hqueue, List.filter_append, hnoRemoval]
    split <;> simp [isRemoval, Phase.removal]
  · rw [runFunctor, htables]
    exact hlives.index
  · rw [runFunctor, hstate]
    exact hlives.state_

end ServerLoops

end SimpleMuduo
