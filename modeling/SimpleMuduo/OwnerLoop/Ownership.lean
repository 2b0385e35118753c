import SimpleMuduo.OwnerLoop.Events
import SimpleMuduo.Connector.Ownership

/-!
# Owners, channels and the pointers of the poller

`Shape` is what holds in every run: a channel that has not been destroyed is the member `channel_`
of its owner and of no other object, and the pointers of the poller and of the kernel belong to
channels with the descriptor under which they stand.  Whether these channels still exist is another
matter.

`Calm` says what the member functions have in common: they keep the shape, they leave
`activeChannels_` alone, and apart from user code they leave nothing to be done but for the given
owners, whose channels are also the only ones that they remove from the poller.
-/

namespace SimpleMuduo

/-- What has just been stored is what is found. -/
lemma eq_of_update_self {α β : Type*} [DecidableEq α] {f : α → Option β} {a : α} {x y : β}
    (h : Function.update f a (some x) a = some y) : x = y := by
  rw [Function.update_self] at h
  exact Option.some.inj h

/-! ## The pointers of the poller -/

namespace EPollPoller

variable {c c' : Channel} {p p' : EPollPoller} {op : EpollOp}

/-- What `update` stores. -/
lemma update_cases (h : p.update op c = some p') :
    p' = ⟨p.channels_, Function.update p.interest c.fd_
      (if op = .EPOLL_CTL_DEL then none else some ⟨c.events_, c.self⟩)⟩ := by
  unfold update epoll_ctl at h
  obtain ⟨set, hset, rfl⟩ := Option.map_eq_some_iff.mp h
  split at hset
  · rw [← Option.some.inj hset, if_neg (by decide)]
  · rw [← Option.some.inj hset, if_neg (by decide)]
  · rw [← Option.some.inj hset, if_pos rfl]
  · cases hset

/-- What `updateChannel` does when it returns. -/
lemma updateChannel_cases (h : p.updateChannel c = some (c', p')) :
    (c' = { c with index_ := .kAdded } ∧
        (p'.channels_ = p.channels_ ∨
          p'.channels_ = Function.update p.channels_ c.fd_ (some c.self)) ∧
        p'.interest = Function.update p.interest c.fd_ (some ⟨c.events_, c.self⟩)) ∨
      c.index_ = .kAdded ∧ c' = { c with index_ := .kDeleted } ∧ p'.channels_ = p.channels_ ∧
        p'.interest = Function.update p.interest c.fd_ none := by
  unfold updateChannel at h
  cases hindex : c.index_ with
  | kNew =>
    simp only [hindex, Option.map_eq_some_iff, Prod.mk.injEq] at h
    obtain ⟨q, hq, rfl, rfl⟩ := h
    rw [update_cases hq]
    exact .inl ⟨rfl, .inr rfl, rfl⟩
  | kDeleted =>
    simp only [hindex, Option.map_eq_some_iff, Prod.mk.injEq] at h
    obtain ⟨q, hq, rfl, rfl⟩ := h
    rw [update_cases hq]
    exact .inl ⟨rfl, .inl rfl, rfl⟩
  | kAdded =>
    simp only [hindex] at h
    split at h
    · simp only [Option.map_eq_some_iff, Prod.mk.injEq] at h
      obtain ⟨q, hq, rfl, rfl⟩ := h
      rw [update_cases hq]
      exact .inr ⟨rfl, rfl, rfl, rfl⟩
    · simp only [Option.map_eq_some_iff, Prod.mk.injEq] at h
      obtain ⟨q, hq, rfl, rfl⟩ := h
      rw [update_cases hq]
      exact .inl ⟨by rw [← hindex], .inl rfl, rfl⟩

/-- What `removeChannel` does when it returns. -/
lemma removeChannel_cases (h : p.removeChannel c = some (c', p')) :
    c' = { c with index_ := .kNew } ∧
      p'.channels_ = Function.update p.channels_ c.fd_ none ∧
      (p'.interest = Function.update p.interest c.fd_ none ∨
        c.index_ ≠ .kAdded ∧ p'.interest = p.interest) := by
  simp only [removeChannel, Option.map_eq_some_iff, Prod.mk.injEq] at h
  obtain ⟨q, hq, rfl, rfl⟩ := h
  cases hindex : c.index_ with
  | kAdded =>
    rw [hindex] at hq
    rw [update_cases hq]
    exact ⟨rfl, rfl, .inl rfl⟩
  | kNew | kDeleted =>
    rw [hindex] at hq
    obtain rfl := Option.some.inj hq
    exact ⟨rfl, rfl, .inr ⟨by simp, rfl⟩⟩

end EPollPoller

/-- What a member function of a channel does to the pointers of the poller and of the kernel. -/
structure ChannelOp.Ran (op : ChannelOp) (c c' : Channel) (p p' : EPollPoller) : Prop where
  fd : c'.fd_ = c.fd_
  self : c'.self = c.self
  index : c'.index_ = .kNew ↔ op = .remove
  channels : ∀ fd q, p'.channels_ fd = some q →
    p.channels_ fd = some q ∧ (op = .remove → fd ≠ c.fd_) ∨
      q = c.self ∧ fd = c.fd_ ∧ op ≠ .remove
  interest : ∀ fd event, p'.interest fd = some event →
    p.interest fd = some event ∧ (fd = c.fd_ → c.index_ ≠ .kAdded) ∨
      event.data = c.self ∧ fd = c.fd_ ∧ c'.index_ = .kAdded

/-- `update()` after the events of the channel have changed. -/
lemma Channel.ran_update {op : ChannelOp} (hop : op ≠ .remove) {c c' : Channel}
    {p p' : EPollPoller} (events : EventMask)
    (h : Channel.update { c with events_ := events } p = some (c', p')) : op.Ran c c' p p' := by
  rcases EPollPoller.updateChannel_cases h with ⟨rfl, hchannels, hinterest⟩ |
    ⟨hindex, rfl, hchannels, hinterest⟩
  · refine ⟨rfl, rfl, by simp [hop], ?_, ?_⟩
    · intro fd q hq
      rcases hchannels with hsame | hupdate
      · rw [hsame] at hq
        exact .inl ⟨hq, fun heq => absurd heq hop⟩
      · rw [hupdate, Function.update_apply] at hq
        split_ifs at hq with hfd
        · exact .inr ⟨(Option.some.inj hq).symm, hfd, hop⟩
        · exact .inl ⟨hq, fun heq => absurd heq hop⟩
    · intro fd event hevent
      rw [hinterest, Function.update_apply] at hevent
      split_ifs at hevent with hfd
      · obtain rfl := Option.some.inj hevent
        exact .inr ⟨rfl, hfd, rfl⟩
      · exact .inl ⟨hevent, fun heq => absurd heq hfd⟩
  · refine ⟨rfl, rfl, by simp [hop], ?_, ?_⟩
    · intro fd q hq
      rw [hchannels] at hq
      exact .inl ⟨hq, fun heq => absurd heq hop⟩
    · intro fd event hevent
      rw [hinterest, Function.update_apply] at hevent
      split_ifs at hevent with hfd
      exact .inl ⟨hevent, fun heq => absurd heq hfd⟩

/-- Each member function of a channel that returns. -/
theorem ChannelOp.run_ran {op : ChannelOp} {c c' : Channel} {p p' : EPollPoller}
    (h : op.run c p = some (c', p')) : op.Ran c c' p p' := by
  cases op with
  | enableReading => exact Channel.ran_update (by simp) _ h
  | disableReading => exact Channel.ran_update (by simp) _ h
  | enableWriting => exact Channel.ran_update (by simp) _ h
  | disableWriting => exact Channel.ran_update (by simp) _ h
  | disableAll => exact Channel.ran_update (by simp) _ h
  | remove =>
    obtain ⟨rfl, hchannels, hinterest⟩ := EPollPoller.removeChannel_cases h
    refine ⟨rfl, rfl, by simp, ?_, ?_⟩
    · intro fd q hq
      rw [hchannels, Function.update_apply] at hq
      split_ifs at hq with hfd
      exact .inl ⟨hq, fun _ => hfd⟩
    · intro fd event hevent
      rcases hinterest with hupdate | ⟨hindex, hsame⟩
      · rw [hupdate, Function.update_apply] at hevent
        split_ifs at hevent with hfd
        exact .inl ⟨hevent, fun heq => absurd heq hfd⟩
      · rw [hsame] at hevent
        exact .inl ⟨hevent, fun _ => hindex⟩

/-- The identity of the object. -/
def ChannelOwner.number : ChannelOwner → Option ℕ
  | .eventLoop => none
  | .udpSocket n | .acceptor n | .connector n | .connection n => some n

/-- The channel whose `handleEvent` has not returned. -/
def OwnerFrame.current : OwnerFrame → List ChannelPtr
  | .handleEvent p => [p]
  | .handleEventWithGuard p _ _ => [p]
  | _ => []

/-- The owners whose channels are going to be removed. -/
def OwnerFrame.condemned : OwnerFrame → List ChannelOwner
  | .connectDestroyed c => [.connection c]
  | .destroyServer a rest => .acceptor a :: rest.map .connection
  | _ => []

namespace OwnerLoop

variable {s s' s'' : OwnerLoop} {w : ChannelOwner} {W : ChannelOwner → Prop}

/-! ## The shape -/

/-- There is no object with this identity yet. -/
def Unborn (s : OwnerLoop) (n : ℕ) : Prop :=
  s.udpSockets n = false ∧ s.acceptors n = none ∧ s.servers n = none ∧ s.clients n = none ∧
    s.connections n = none ∧ ∀ w, w.number = some n → s.channel_ w = none

/-- The channels that exist and their owners belong together, and the pointers of the poller and of
the kernel stand where they should. -/
structure Shape (s : OwnerLoop) : Prop where
  fresh : ∀ p, s.nextChannel ≤ p → s.objects p = none
  unborn : ∀ n, s.nextObject ≤ n → s.Unborn n
  owned : ∀ w p, s.channel_ w = some p → ∃ o, s.objects p = some o ∧ o.owner = w ∧ o.live = true
  owns : ∀ p o, s.objects p = some o → o.live = true → s.channel_ o.owner = some p
  self : ∀ p o, s.objects p = some o → o.channel.self = p
  map : ∀ fd p, s.poller.channels_ fd = some p →
    ∃ o, s.objects p = some o ∧ o.channel.fd_ = fd ∧ o.channel.index_ ≠ .kNew
  interest : ∀ fd event, s.poller.interest fd = some event →
    ∃ o, s.objects event.data = some o ∧ o.channel.fd_ = fd ∧ o.channel.index_ = .kAdded

namespace Shape

lemma new (wakeupFd : Fd) (descriptors : Fd → Bool) : Shape (.new wakeupFd descriptors) := by
  have hobject {p : ChannelPtr} {o : ChannelObject}
      (h : (OwnerLoop.new wakeupFd descriptors).objects p = some o) :
      p = 0 ∧ o = ⟨wakeupChannel wakeupFd, .eventLoop, true⟩ := by
    simp only [OwnerLoop.new, Function.update_apply] at h
    split_ifs at h with hp
    exact ⟨hp, (Option.some.inj h).symm⟩
  have hself : (OwnerLoop.new wakeupFd descriptors).objects 0 =
      some ⟨wakeupChannel wakeupFd, .eventLoop, true⟩ := by simp [OwnerLoop.new]
  refine ⟨?_, ?_, ?_, ?_, ?_, ?_, ?_⟩
  · intro p hp
    have hne : p ≠ 0 := Nat.ne_of_gt hp
    simp [OwnerLoop.new, hne]
  · intro n _
    refine ⟨rfl, rfl, rfl, rfl, rfl, fun w hw => ?_⟩
    have hne : w ≠ .eventLoop := by
      rintro rfl
      cases hw
    simp [OwnerLoop.new, hne]
  · intro w p hw
    simp only [OwnerLoop.new, Function.update_apply] at hw
    split_ifs at hw with heq
    obtain rfl := Option.some.inj hw
    exact ⟨_, hself, heq.symm, rfl⟩
  · intro p o ho _
    obtain ⟨rfl, rfl⟩ := hobject ho
    simp [OwnerLoop.new]
  · intro p o ho
    obtain ⟨rfl, rfl⟩ := hobject ho
    rfl
  · intro fd p hp
    simp only [OwnerLoop.new, Function.update_apply] at hp
    split_ifs at hp with hfd
    obtain rfl := Option.some.inj hp
    exact ⟨_, hself, hfd.symm, by simp [wakeupChannel]⟩
  · intro fd event hevent
    simp only [OwnerLoop.new, Function.update_apply] at hevent
    split_ifs at hevent with hfd
    obtain rfl := Option.some.inj hevent
    exact ⟨_, hself, hfd.symm, rfl⟩

/-- Only the channels, the poller and the identities matter. -/
lemma congr (h : s.Shape) (hpoller : s'.poller = s.poller) (hobjects : s'.objects = s.objects)
    (hnext : s'.nextChannel = s.nextChannel) (hchannel : s'.channel_ = s.channel_)
    (hunborn : ∀ n, s'.nextObject ≤ n → s'.Unborn n) : s'.Shape := by
  obtain ⟨hfresh, -, howned, howns, hself, hmap, hinterest⟩ := h
  refine ⟨?_, hunborn, ?_, ?_, ?_, ?_, ?_⟩
  · rw [hnext, hobjects]
    exact hfresh
  · rw [hchannel, hobjects]
    exact howned
  · rw [hchannel, hobjects]
    exact howns
  · rw [hobjects]
    exact hself
  · rw [hpoller, hobjects]
    exact hmap
  · rw [hpoller, hobjects]
    exact hinterest

/-- Only the `revents_` of the channels have changed. -/
lemma withRevents (h : s.Shape) {objects : ChannelPtr → Option ChannelObject}
    (hnone : ∀ p, s.objects p = none → objects p = none)
    (hsome : ∀ p o, s.objects p = some o → ∃ revents, objects p =
      some { o with channel := { o.channel with revents_ := revents } }) :
    Shape { s with objects := objects } := by
  obtain ⟨hfresh, hunborn, howned, howns, hself, hmap, hinterest⟩ := h
  have hcases {p : ChannelPtr} {o' : ChannelObject} (ho' : objects p = some o') :
      ∃ o revents, s.objects p = some o ∧
        o' = { o with channel := { o.channel with revents_ := revents } } := by
    cases ho : s.objects p with
    | none =>
      rw [hnone p ho] at ho'
      cases ho'
    | some o =>
      obtain ⟨revents, heq⟩ := hsome p o ho
      exact ⟨o, revents, rfl, Option.some.inj (ho'.symm.trans heq)⟩
  refine ⟨fun p hp => hnone p (hfresh p hp), hunborn, ?_, ?_, ?_, ?_, ?_⟩
  · intro w p hw
    obtain ⟨o, ho, howner, hlive⟩ := howned w p hw
    obtain ⟨revents, ho'⟩ := hsome p o ho
    exact ⟨_, ho', howner, hlive⟩
  · intro p o' ho' hlive
    obtain ⟨o, revents, ho, rfl⟩ := hcases ho'
    exact howns p o ho hlive
  · intro p o' ho'
    obtain ⟨o, revents, ho, rfl⟩ := hcases ho'
    exact hself p o ho
  · intro fd p hp
    obtain ⟨o, ho, hfd, hindex⟩ := hmap fd p hp
    obtain ⟨revents, ho'⟩ := hsome p o ho
    exact ⟨_, ho', hfd, hindex⟩
  · intro fd event hevent
    obtain ⟨o, ho, hfd, hindex⟩ := hinterest fd event hevent
    obtain ⟨revents, ho'⟩ := hsome event.data o ho
    exact ⟨_, ho', hfd, hindex⟩

/-- An object that exists has been created. -/
lemma lt_of_not_unborn (h : s.Shape) {n : ℕ} (hn : ¬ s.Unborn n) : n < s.nextObject := by
  by_contra hge
  exact hn (h.unborn n (not_lt.mp hge))

end Shape

/-! ## What the member functions have in common -/

/-- What has been left alone, and what has been removed on behalf of the owners `W`. -/
structure CalmAfter (W : ChannelOwner → Prop) (s s' : OwnerLoop) : Prop where
  shape : s'.Shape
  active : s'.activeChannels_ = s.activeChannels_
  pc : s'.pc = s.pc
  owner : ∀ p o, s.objects p = some o → ∃ o', s'.objects p = some o' ∧ o'.owner = o.owner
  current : s'.frames.flatMap OwnerFrame.current = s.frames.flatMap OwnerFrame.current
  condemned : ∀ v ∈ s'.frames.flatMap OwnerFrame.condemned,
    W v ∨ v ∈ s.frames.flatMap OwnerFrame.condemned
  history : ∃ ps : List ChannelPtr, s'.history = ps.map .remove ++ s.history ∧
    ∀ p ∈ ps, ∃ o, s'.objects p = some o ∧ W o.owner

/-- A member function that keeps the shape and condemns and removes on behalf of `W` only. -/
def Calm (W : ChannelOwner → Prop) (s s' : OwnerLoop) : Prop := s.Shape → CalmAfter W s s'

namespace Calm

lemma trans (h₁ : Calm W s s') (h₂ : Calm W s' s'') : Calm W s s'' := by
  intro hs
  obtain ⟨hshape₁, hactive₁, hpc₁, howner₁, hcurrent₁, hcondemned₁, ps, hps, hremoved⟩ := h₁ hs
  obtain ⟨hshape₂, hactive₂, hpc₂, howner₂, hcurrent₂, hcondemned₂, qs, hqs, hremoved'⟩ :=
    h₂ hshape₁
  refine ⟨hshape₂, hactive₂.trans hactive₁, hpc₂.trans hpc₁, ?_, hcurrent₂.trans hcurrent₁, ?_,
    qs ++ ps, ?_, ?_⟩
  · intro p o ho
    obtain ⟨o', ho', heq⟩ := howner₁ p o ho
    obtain ⟨o'', ho'', heq'⟩ := howner₂ p o' ho'
    exact ⟨o'', ho'', heq'.trans heq⟩
  · intro v hv
    rcases hcondemned₂ v hv with hW | hv
    · exact .inl hW
    · exact hcondemned₁ v hv
  · rw [hqs, hps, List.map_append, List.append_assoc]
  · intro p hp
    rcases List.mem_append.mp hp with hp | hp
    · exact hremoved' p hp
    · obtain ⟨o, ho, hW⟩ := hremoved p hp
      obtain ⟨o', ho', heq⟩ := howner₂ p o ho
      exact ⟨o', ho', heq ▸ hW⟩

/-- Nothing has happened to the channels and to what is left to be done. -/
lemma of_shape (hshape : s.Shape → s'.Shape) (hobjects : s'.objects = s.objects)
    (hactive : s'.activeChannels_ = s.activeChannels_) (hpc : s'.pc = s.pc)
    (hframes : s'.frames = s.frames) (hhistory : s'.history = s.history) : Calm W s s' := by
  intro hs
  refine ⟨hshape hs, hactive, hpc, ?_, by rw [hframes], ?_, [], by simpa using hhistory, by simp⟩
  · intro p o ho
    rw [hobjects]
    exact ⟨o, ho, rfl⟩
  · intro v hv
    rw [hframes] at hv
    exact .inr hv

lemma refl (s : OwnerLoop) : Calm W s s := of_shape id rfl rfl rfl rfl rfl

/-! ### The channels -/

/-- A channel is created for an object that has none. -/
lemma attach (hfree : s.channel_ w = none) (hborn : ∀ n ∈ w.number, n < s.nextObject) (fd : Fd) :
    Calm W s (s.attach w fd) := by
  intro hs
  obtain ⟨hfresh, hunborn, howned, howns, hself, hmap, hinterest⟩ := hs
  have hnone : s.objects s.nextChannel = none := hfresh _ le_rfl
  have hold {p : ChannelPtr} {o : ChannelObject} (ho : s.objects p = some o) :
      (s.attach w fd).objects p = some o := by
    have hne : p ≠ s.nextChannel := by
      rintro rfl
      rw [hnone] at ho
      cases ho
    exact (Function.update_of_ne hne _ _).trans ho
  have hnew : (s.attach w fd).objects s.nextChannel =
      some ⟨Channel.new s.nextChannel fd, w, true⟩ := Function.update_self ..
  have hcases {p : ChannelPtr} {o : ChannelObject} (ho : (s.attach w fd).objects p = some o) :
      p = s.nextChannel ∧ o = ⟨Channel.new s.nextChannel fd, w, true⟩ ∨ s.objects p = some o := by
    by_cases hp : p = s.nextChannel
    · subst hp
      rw [hnew] at ho
      exact .inl ⟨rfl, (Option.some.inj ho).symm⟩
    · exact .inr ((Function.update_of_ne hp _ _).symm.trans ho)
  refine ⟨⟨?_, ?_, ?_, ?_, ?_, ?_, ?_⟩, rfl, rfl, fun p o ho => ⟨o, hold ho, rfl⟩, rfl,
    fun v => .inr, [], rfl, by simp⟩
  · intro p hp
    have hne : p ≠ s.nextChannel := Nat.ne_of_gt hp
    exact (Function.update_of_ne hne _ _).trans (hfresh p (Nat.le_of_succ_le hp))
  · intro n hn
    obtain ⟨hudp, hacceptor, hserver, hclient, hconnection, hchannel⟩ := hunborn n hn
    refine ⟨hudp, hacceptor, hserver, hclient, hconnection, fun v hv => ?_⟩
    have hne : v ≠ w := by
      rintro rfl
      exact absurd (hborn n hv) (not_lt.mpr hn)
    exact (Function.update_of_ne hne _ _).trans (hchannel v hv)
  · intro v p hv
    by_cases hvw : v = w
    · subst hvw
      obtain rfl := eq_of_update_self hv
      exact ⟨_, hnew, rfl, rfl⟩
    · obtain ⟨o, ho, howner⟩ := howned v p ((Function.update_of_ne hvw _ _).symm.trans hv)
      exact ⟨o, hold ho, howner⟩
  · intro p o ho hlive
    rcases hcases ho with ⟨rfl, rfl⟩ | ho
    · exact Function.update_self ..
    · have hchannel := howns p o ho hlive
      have hne : o.owner ≠ w := by
        intro heq
        rw [heq, hfree] at hchannel
        cases hchannel
      exact (Function.update_of_ne hne _ _).trans hchannel
  · intro p o ho
    rcases hcases ho with ⟨rfl, rfl⟩ | ho
    · rfl
    · exact hself p o ho
  · intro fd' p hp
    obtain ⟨o, ho, hrest⟩ := hmap fd' p hp
    exact ⟨o, hold ho, hrest⟩
  · intro fd' event hevent
    obtain ⟨o, ho, hrest⟩ := hinterest fd' event hevent
    exact ⟨o, hold ho, hrest⟩

/-- The channel of an object is destroyed. -/
lemma detach (s : OwnerLoop) (w : ChannelOwner) : Calm W s (s.detach w) := by
  cases hw : s.channel_ w with
  | none =>
    rw [OwnerLoop.detach, hw]
    exact refl s
  | some p =>
    intro hs
    obtain ⟨hfresh, hunborn, howned, howns, hself, hmap, hinterest⟩ := hs
    obtain ⟨o, ho, howner, hlive⟩ := howned w p hw
    have heq : s.detach w = { s with
        objects := Function.update s.objects p (some { o with live := false })
        channel_ := Function.update s.channel_ w none } := by
      simp only [OwnerLoop.detach, hw, ho, Option.map_some]
    rw [heq]
    have hkept {p' : ChannelPtr} {o' : ChannelObject} (ho' : s.objects p' = some o') :
        ∃ o'', Function.update s.objects p (some { o with live := false }) p' = some o'' ∧
          o''.owner = o'.owner ∧ o''.channel = o'.channel := by
      by_cases hp : p' = p
      · subst hp
        obtain rfl := Option.some.inj (ho.symm.trans ho')
        exact ⟨_, Function.update_self .., rfl, rfl⟩
      · exact ⟨o', (Function.update_of_ne hp _ _).trans ho', rfl, rfl⟩
    refine ⟨⟨?_, ?_, ?_, ?_, ?_, ?_, ?_⟩, rfl, rfl, ?_, rfl, fun v => .inr, [], rfl, by simp⟩
    · intro p' hp'
      have hne : p' ≠ p := by
        rintro rfl
        rw [hfresh p' hp'] at ho
        cases ho
      exact (Function.update_of_ne hne _ _).trans (hfresh p' hp')
    · intro n hn
      obtain ⟨hudp, hacceptor, hserver, hclient, hconnection, hchannel⟩ := hunborn n hn
      refine ⟨hudp, hacceptor, hserver, hclient, hconnection, fun v hv => ?_⟩
      change Function.update s.channel_ w none v = none
      rw [Function.update_apply]
      split
      · rfl
      · exact hchannel v hv
    · intro v p' hv
      change Function.update s.channel_ w none v = some p' at hv
      rw [Function.update_apply] at hv
      split_ifs at hv with hvw
      obtain ⟨o', ho', howner', hlive'⟩ := howned v p' hv
      have hne : p' ≠ p := by
        rintro rfl
        obtain rfl := Option.some.inj (ho.symm.trans ho')
        exact hvw (howner'.symm.trans howner)
      exact ⟨o', (Function.update_of_ne hne _ _).trans ho', howner', hlive'⟩
    · intro p' o' ho' hlive'
      change Function.update s.objects p _ p' = some o' at ho'
      by_cases hp : p' = p
      · subst hp
        obtain rfl := eq_of_update_self ho'
        cases hlive'
      · rw [Function.update_of_ne hp] at ho'
        have hchannel := howns p' o' ho' hlive'
        have hne : o'.owner ≠ w := by
          intro hcontra
          rw [hcontra, hw] at hchannel
          exact hp (Option.some.inj hchannel).symm
        exact (Function.update_of_ne hne _ _).trans hchannel
    · intro p' o' ho'
      change Function.update s.objects p _ p' = some o' at ho'
      rw [Function.update_apply] at ho'
      split_ifs at ho' with hp
      · obtain rfl := Option.some.inj ho'
        exact hp ▸ hself p o ho
      · exact hself p' o' ho'
    · intro fd p' hp'
      obtain ⟨o', ho', hfd, hindex⟩ := hmap fd p' hp'
      obtain ⟨o'', ho'', -, hchannel⟩ := hkept ho'
      exact ⟨o'', ho'', by rw [hchannel, hfd], by rwa [hchannel]⟩
    · intro fd event hevent
      obtain ⟨o', ho', hfd, hindex⟩ := hinterest fd event hevent
      obtain ⟨o'', ho'', -, hchannel⟩ := hkept ho'
      exact ⟨o'', ho'', by rw [hchannel, hfd], by rwa [hchannel]⟩
    · intro p' o' ho'
      obtain ⟨o'', ho'', howner', -⟩ := hkept ho'
      exact ⟨o'', ho'', howner'⟩

end Calm

/-- The state after a member function of the channel `p` of an object. -/
def ranAt (s : OwnerLoop) (p : ChannelPtr) (o : ChannelObject) (op : ChannelOp) (channel : Channel)
    (poller : EPollPoller) : OwnerLoop :=
  { s with
    poller := poller
    objects := Function.update s.objects p (some { o with channel := channel })
    history := if op = .remove then .remove p :: s.history else s.history }

/-- What `run` does when it returns. -/
lemma run_cases {op : ChannelOp} (hok : s.run w op = .ok s') :
    ∃ p o channel poller, s.channel_ w = some p ∧ s.objects p = some o ∧
      op.Ran o.channel channel s.poller poller ∧ s' = s.ranAt p o op channel poller := by
  unfold run at hok
  split at hok
  · cases hok
  · rename_i p hp
    split at hok
    · cases hok
    · rename_i o ho
      split at hok
      · cases hok
      · split at hok
        · cases hok
        · rename_i channel poller hrun
          exact ⟨p, o, channel, poller, hp, ho, ChannelOp.run_ran hrun, (Except.ok.inj hok).symm⟩

namespace Calm

/-- A member function of a channel; only channels of the owners `W` are removed. -/
lemma run {op : ChannelOp} (hok : s.run w op = .ok s') (hW : op = .remove → W w) : Calm W s s' := by
  obtain ⟨p, o, channel, poller, hp, ho, hran, rfl⟩ := run_cases hok
  intro hs
  obtain ⟨hfresh, hunborn, howned, howns, hself, hmap, hinterest⟩ := hs
  have howner : o.owner = w := by
    obtain ⟨o', ho', howner, -⟩ := howned w p hp
    obtain rfl := Option.some.inj (ho.symm.trans ho')
    exact howner
  have hpself := hself p o ho
  have hcases {p' : ChannelPtr} {o' : ChannelObject}
      (ho' : (s.ranAt p o op channel poller).objects p' = some o') :
      p' = p ∧ o' = { o with channel := channel } ∨ p' ≠ p ∧ s.objects p' = some o' := by
    change Function.update s.objects p _ p' = some o' at ho'
    by_cases hp' : p' = p
    · subst hp'
      rw [Function.update_self] at ho'
      exact .inl ⟨rfl, (Option.some.inj ho').symm⟩
    · rw [Function.update_of_ne hp'] at ho'
      exact .inr ⟨hp', ho'⟩
  have hat : (s.ranAt p o op channel poller).objects p = some { o with channel := channel } :=
    Function.update_self ..
  have hother {p' : ChannelPtr} (hne : p' ≠ p) :
      (s.ranAt p o op channel poller).objects p' = s.objects p' := Function.update_of_ne hne _ _
  have hkept {p' : ChannelPtr} {o' : ChannelObject} (ho' : s.objects p' = some o') :
      ∃ o'', (s.ranAt p o op channel poller).objects p' = some o'' ∧ o''.owner = o'.owner ∧
        o''.live = o'.live := by
    by_cases hne : p' = p
    · subst hne
      obtain rfl := Option.some.inj (ho.symm.trans ho')
      exact ⟨_, hat, rfl, rfl⟩
    · exact ⟨o', (hother hne).trans ho', rfl, rfl⟩
  refine ⟨⟨?_, hunborn, ?_, ?_, ?_, ?_, ?_⟩, rfl, rfl, ?_, rfl, fun v => .inr, ?_⟩
  · intro p' hp'
    have hne : p' ≠ p := by
      rintro rfl
      rw [hfresh p' hp'] at ho
      cases ho
    exact (hother hne).trans (hfresh p' hp')
  · intro v p' hv
    obtain ⟨o', ho', howner', hlive'⟩ := howned v p' hv
    obtain ⟨o'', ho'', heq, hlive⟩ := hkept ho'
    exact ⟨o'', ho'', heq.trans howner', hlive.trans hlive'⟩
  · intro p' o' ho' hlive'
    rcases hcases ho' with ⟨rfl, rfl⟩ | ⟨-, ho'⟩
    · exact howns p' o ho hlive'
    · exact howns p' o' ho' hlive'
  · intro p' o' ho'
    rcases hcases ho' with ⟨rfl, rfl⟩ | ⟨-, ho'⟩
    · exact hran.self.trans hpself
    · exact hself p' o' ho'
  · intro fd p' hp'
    rcases hran.channels fd p' hp' with ⟨hold, hremove⟩ | ⟨rfl, rfl, hnot⟩
    · obtain ⟨o', ho', hfd, hindex⟩ := hmap fd p' hold
      by_cases hne : p' = p
      · -- the entry of the channel itself is left only if the channel was not removed
        subst hne
        obtain rfl := Option.some.inj (ho.symm.trans ho')
        refine ⟨_, hat, hran.fd.trans hfd, fun hnew => ?_⟩
        exact hremove (hran.index.mp hnew) hfd.symm
      · exact ⟨o', (hother hne).trans ho', hfd, hindex⟩
    · rw [hpself]
      exact ⟨_, hat, hran.fd, fun hnew => hnot (hran.index.mp hnew)⟩
  · intro fd event hevent
    rcases hran.interest fd event hevent with ⟨hold, hremove⟩ | ⟨hdata, rfl, hindex⟩
    · obtain ⟨o', ho', hfd, hindex⟩ := hinterest fd event hold
      by_cases hne : event.data = p
      · rw [hne] at ho'
        obtain rfl := Option.some.inj (ho.symm.trans ho')
        exact absurd hindex (hremove hfd.symm)
      · exact ⟨o', (hother hne).trans ho', hfd, hindex⟩
    · rw [hdata, hpself]
      exact ⟨_, hat, hran.fd, hindex⟩
  · intro p' o' ho'
    obtain ⟨o'', ho'', heq, -⟩ := hkept ho'
    exact ⟨o'', ho'', heq⟩
  · by_cases hremove : op = .remove
    · refine ⟨[p], if_pos hremove, fun p' hp' => ?_⟩
      obtain rfl := List.mem_singleton.mp hp'
      exact ⟨_, hat, howner.symm ▸ hW hremove⟩
    · exact ⟨[], if_neg hremove, by simp⟩

/-! ### The kernel and the records of the objects -/

/-- The kernel closes a descriptor. -/
lemma close (s : OwnerLoop) (fd : Fd) : Calm W s (s.close fd) := by
  refine of_shape (fun hs => ?_) rfl rfl rfl rfl rfl
  obtain ⟨hfresh, hunborn, howned, howns, hself, hmap, hinterest⟩ := hs
  refine ⟨hfresh, hunborn, howned, howns, hself, hmap, fun fd' event hevent => ?_⟩
  change Function.update s.poller.interest fd none fd' = some event at hevent
  rw [Function.update_apply] at hevent
  split_ifs at hevent
  exact hinterest fd' event hevent

/-- The records of the objects change, but no object comes into being. -/
lemma of_records (hpoller : s'.poller = s.poller) (hobjects : s'.objects = s.objects)
    (hnext : s'.nextChannel = s.nextChannel) (hchannel : s'.channel_ = s.channel_)
    (hunborn : ∀ n, s.nextObject ≤ n → s.Unborn n → s'.nextObject ≤ n → s'.Unborn n)
    (hle : s.nextObject ≤ s'.nextObject)
    (hactive : s'.activeChannels_ = s.activeChannels_) (hpc : s'.pc = s.pc)
    (hframes : s'.frames = s.frames) (hhistory : s'.history = s.history) : Calm W s s' :=
  of_shape (fun hs => hs.congr hpoller hobjects hnext hchannel fun n hn =>
    hunborn n (hle.trans hn) (hs.unborn n (hle.trans hn)) hn) hobjects hactive hpc hframes hhistory

lemma openFd {fd : Fd} (hok : s.openFd fd = .ok s') : Calm W s s' := by
  unfold OwnerLoop.openFd at hok
  split_ifs at hok
  obtain rfl := Except.ok.inj hok
  exact of_records rfl rfl rfl rfl (fun _ _ hn _ => hn) le_rfl rfl rfl rfl rfl

lemma createNonblocking {fd : Fd} (hok : s.createNonblocking fd = .ok s') : Calm W s s' := by
  unfold OwnerLoop.createNonblocking at hok
  split_ifs at hok
  exact openFd hok

lemma setConnection {c : ℕ} {conn : ConnectionObject} (h : s.connections c = some conn)
    (conn' : ConnectionObject) : Calm W s (s.setConnection c conn') := by
  refine of_records rfl rfl rfl rfl (fun n _ hn _ => ?_) le_rfl rfl rfl rfl rfl
  obtain ⟨hudp, hacceptor, hserver, hclient, hconnection, hchannel⟩ := hn
  refine ⟨hudp, hacceptor, hserver, hclient, ?_, hchannel⟩
  have hne : n ≠ c := by
    rintro rfl
    rw [hconnection] at h
    cases h
  exact (Function.update_of_ne hne _ _).trans hconnection

lemma setClient {k : ℕ} {client : ClientObject} (h : s.clients k = some client)
    (client' : ClientObject) : Calm W s (s.setClient k client') := by
  refine of_records rfl rfl rfl rfl (fun n _ hn _ => ?_) le_rfl rfl rfl rfl rfl
  obtain ⟨hudp, hacceptor, hserver, hclient, hconnection, hchannel⟩ := hn
  refine ⟨hudp, hacceptor, hserver, ?_, hconnection, hchannel⟩
  have hne : n ≠ k := by
    rintro rfl
    rw [hclient] at h
    cases h
  exact (Function.update_of_ne hne _ _).trans hclient

lemma setServer {v : ℕ} {server : ServerObject} (h : s.servers v = some server)
    (server' : ServerObject) : Calm W s (s.setServer v server') := by
  refine of_records rfl rfl rfl rfl (fun n _ hn _ => ?_) le_rfl rfl rfl rfl rfl
  obtain ⟨hudp, hacceptor, hserver, hclient, hconnection, hchannel⟩ := hn
  refine ⟨hudp, hacceptor, ?_, hclient, hconnection, hchannel⟩
  have hne : n ≠ v := by
    rintro rfl
    rw [hserver] at h
    cases h
  exact (Function.update_of_ne hne _ _).trans hserver

lemma queueInLoop (s : OwnerLoop) (f : OwnerFunctor) : Calm W s (s.queueInLoop f) :=
  of_records rfl rfl rfl rfl (fun _ _ hn _ => hn) le_rfl rfl rfl rfl rfl

/-- A member function is left for a while that condemns owners of `W` only. -/
lemma push (s : OwnerLoop) {f : OwnerFrame} (hcurrent : f.current = [])
    (hcondemned : ∀ v ∈ f.condemned, W v) : Calm W s (s.push f) := by
  intro hs
  refine ⟨hs.congr rfl rfl rfl rfl hs.unborn, rfl, rfl, fun p o ho => ⟨o, ho, rfl⟩, ?_, ?_, [],
    rfl, by simp⟩
  · simp [OwnerLoop.push, hcurrent]
  · intro v hv
    rw [OwnerLoop.push, List.flatMap_cons] at hv
    exact (List.mem_append.mp hv).imp_left (hcondemned v)

lemma callUser (s : OwnerLoop) (conn : Option ℕ) : Calm W s (s.callUser conn) :=
  push s rfl fun _ hv => absurd hv List.not_mem_nil

end Calm

end OwnerLoop

end SimpleMuduo
