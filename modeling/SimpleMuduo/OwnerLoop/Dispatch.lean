import SimpleMuduo.OwnerLoop.Members

/-!
# Dispatch of the active channels

`loop()` calls `handleEvent` on all channels of `activeChannels_`, a list of raw pointers that
`poll` has filled before the handlers run.  A handler that destroys a `TcpServer` or an `Acceptor`
removes their channels from the poller, but not from this list.  Nothing else that a handler can do
removes a channel that is still in it: connections are removed by functors, and a connector removes
the channel that is being handled.
-/

namespace SimpleMuduo

/-- The channels that have been removed from the poller since `poll` has returned. -/
def removedSincePoll : List DispatchEffect → List ChannelPtr
  | [] => []
  | .poll :: _ => []
  | .remove p :: history => p :: removedSincePoll history
  | .handleEvent _ :: history => removedSincePoll history

lemma removedSincePoll_append (ps : List ChannelPtr) (history : List DispatchEffect) :
    removedSincePoll (ps.map .remove ++ history) = ps ++ removedSincePoll history := by
  induction ps with
  | nil => rfl
  | cons p ps ih => simp only [List.map_cons, List.cons_append, removedSincePoll, ih]

namespace OwnerLoop

variable {s s' : OwnerLoop} {W : ChannelOwner → Prop}

/-- `handleEvent` has never been called on a channel that had been removed from the poller in the
same iteration. -/
def NoStaleDispatch (s : OwnerLoop) : Prop :=
  ∀ p, Whenever (· = .handleEvent p) (fun past => p ∉ removedSincePoll past) s.history

/-- User code does not destroy an `Acceptor` or a `TcpServer` while its channel, or that of one of
its connections, waits in `activeChannels_`. -/
def SparesActive (s : OwnerLoop) : OwnerLoopEvent → Prop
  | .call u =>
    ∀ w ∈ s.condemns u, ∀ p ∈ s.activeChannels_, (s.objects p).map ChannelObject.owner ≠ some w
  | _ => True

instance (s : OwnerLoop) (e : OwnerLoopEvent) : Decidable (s.SparesActive e) :=
  match e with
  | .call u => inferInstanceAs (Decidable (∀ w ∈ s.condemns u, ∀ p ∈ _, _ ≠ _))
  | .return | .resume _ | .callback _ | .poll _ | .dispatch | .timer | .swap | .functor _
  | .endIteration | .release _ => isTrue trivial

/-- The channels that are being handled or wait to be handled. -/
def batch (s : OwnerLoop) : List ChannelPtr :=
  s.frames.flatMap OwnerFrame.current ++ s.activeChannels_

/-- The channels of the batch have different owners, and nobody has removed or is going to remove
one that waits. -/
structure DispatchInv (s : OwnerLoop) : Prop where
  shape : s.Shape
  active : s.pc ≠ .handlers → s.activeChannels_ = []
  owners : ∃ owner : ChannelPtr → ChannelOwner, (s.batch.map owner).Nodup ∧
    ∀ p ∈ s.batch, ∃ o, s.objects p = some o ∧ o.owner = owner p
  spared : ∀ p ∈ s.activeChannels_, p ∉ removedSincePoll s.history
  safe : ∀ p ∈ s.activeChannels_, ∀ o, s.objects p = some o →
    o.owner ∉ s.frames.flatMap OwnerFrame.condemned
  noStale : s.NoStaleDispatch

namespace DispatchInv

lemma new (wakeupFd : Fd) (descriptors : Fd → Bool) : DispatchInv (.new wakeupFd descriptors) where
  shape := .new wakeupFd descriptors
  active := fun _ => rfl
  owners := ⟨fun _ => .eventLoop, List.nodup_nil, fun _ hp => absurd hp List.not_mem_nil⟩
  spared := fun _ hp => absurd hp List.not_mem_nil
  safe := fun _ hp => absurd hp List.not_mem_nil
  noStale := fun _ => trivial

/-- A calm member function that removes or condemns no channel that waits. -/
lemma calm (h : s.DispatchInv) (hcalm : Calm W s s')
    (hW : ∀ p ∈ s.activeChannels_, ∀ o, s.objects p = some o → ¬ W o.owner) : s'.DispatchInv := by
  obtain ⟨hshape, hactive, hpc, howner, hcurrent, hcondemned, ps, hhistory, hremoved⟩ :=
    hcalm h.shape
  obtain ⟨owner, hnodup, howners⟩ := h.owners
  have hbatch : s'.batch = s.batch := by rw [batch, batch, hcurrent, hactive]
  have hwaits {p : ChannelPtr} (hp : p ∈ s.activeChannels_) : ∃ o, s.objects p = some o := by
    obtain ⟨o, ho, -⟩ := howners p (List.mem_append_right _ hp)
    exact ⟨o, ho⟩
  refine ⟨hshape, ?_, ⟨owner, by rwa [hbatch], ?_⟩, ?_, ?_, ?_⟩
  · rw [hpc, hactive]
    exact h.active
  · intro p hp
    rw [hbatch] at hp
    obtain ⟨o, ho, heq⟩ := howners p hp
    obtain ⟨o', ho', heq'⟩ := howner p o ho
    exact ⟨o', ho', heq'.trans heq⟩
  · intro p hp hmem
    rw [hactive] at hp
    rw [hhistory, removedSincePoll_append] at hmem
    rcases List.mem_append.mp hmem with hnew | hold
    · obtain ⟨o, ho⟩ := hwaits hp
      obtain ⟨o', ho', heq⟩ := howner p o ho
      obtain ⟨o'', ho'', hw⟩ := hremoved p hnew
      obtain rfl := Option.some.inj (ho'.symm.trans ho'')
      exact hW p hp o ho (heq ▸ hw)
    · exact h.spared p hp hold
  · intro p hp o' ho' hmem
    rw [hactive] at hp
    obtain ⟨o, ho⟩ := hwaits hp
    obtain ⟨o'', ho'', heq⟩ := howner p o ho
    obtain rfl := Option.some.inj (ho'.symm.trans ho'')
    rw [heq] at hmem
    rcases hcondemned _ hmem with hw | hold
    · exact hW p hp o ho hw
    · exact h.safe p hp o ho hold
  · intro p
    rw [hhistory, whenever_append]
    · exact h.noStale p
    · intro e he
      obtain ⟨q, -, rfl⟩ := List.mem_map.mp he
      simp

/-- Some of what is left to be done has been done. -/
lemma withFrames (h : s.DispatchInv) {frames : List OwnerFrame}
    (hcurrent : (frames.flatMap OwnerFrame.current).Sublist (s.frames.flatMap OwnerFrame.current))
    (hcondemned : ∀ w ∈ frames.flatMap OwnerFrame.condemned,
      w ∈ s.frames.flatMap OwnerFrame.condemned) :
    DispatchInv { s with frames := frames } := by
  obtain ⟨owner, hnodup, howners⟩ := h.owners
  have hsub : ({ s with frames := frames } : OwnerLoop).batch.Sublist s.batch :=
    hcurrent.append_right _
  refine ⟨h.shape.congr rfl rfl rfl rfl h.shape.unborn, h.active, ⟨owner, ?_, ?_⟩, h.spared, ?_,
    h.noStale⟩
  · exact hnodup.sublist (hsub.map owner)
  · exact fun p hp => howners p (hsub.subset hp)
  · exact fun p hp o ho hmem => h.safe p hp o ho (hcondemned _ hmem)

/-- The member function on top is taken from the stack. -/
lemma pop (h : s.DispatchInv) {f : OwnerFrame} {rest : List OwnerFrame}
    (hframes : s.frames = f :: rest) :
    DispatchInv { s with frames := rest } := by
  refine h.withFrames ?_ fun w hw => ?_
  · rw [hframes, List.flatMap_cons]
    exact List.sublist_append_right _ _
  · rw [hframes, List.flatMap_cons]
    exact List.mem_append_right _ hw

/-- Only what has happened to the channels and in the loop matters. -/
lemma congr (h : s.DispatchInv) (hshape : s.Shape → s'.Shape) (hobjects : s'.objects = s.objects)
    (hactive : s'.activeChannels_ = s.activeChannels_)
    (hpc : s'.pc ≠ .handlers → s.activeChannels_ = []) (hframes : s'.frames = s.frames)
    (hhistory : s'.history = s.history) : s'.DispatchInv := by
  have hbatch : s'.batch = s.batch := by rw [batch, batch, hframes, hactive]
  refine ⟨hshape h.shape, ?_, ?_, ?_, ?_, ?_⟩
  · rw [hactive]
    exact hpc
  · rw [hbatch, hobjects]
    exact h.owners
  · rw [hactive, hhistory]
    exact h.spared
  · rw [hactive, hobjects, hframes]
    exact h.safe
  · rw [NoStaleDispatch, hhistory]
    exact h.noStale

/-- A member function returns, or ends the process. -/
lemma outcome (h : s.DispatchInv) {r : Except OwnerHalt OwnerLoop}
    (hr : ∀ t, r = .ok t → t.DispatchInv) (hstep : s.outcome r = some s') : s'.DispatchInv := by
  cases r with
  | ok t =>
    obtain rfl := Option.some.inj hstep
    exact hr t rfl
  | error halt =>
    cases halt with
    | fault f =>
      obtain rfl := Option.some.inj hstep
      refine h.congr (fun hs => hs.congr rfl rfl rfl rfl hs.unborn) rfl rfl h.active rfl rfl
    | impossible => cases hstep

/-! ## The loop -/

/-- `handleEvent` is called on the next channel, which nobody has removed. -/
lemma dispatch (h : s.DispatchInv) {p : ChannelPtr} {rest : List ChannelPtr}
    (hactive : s.activeChannels_ = p :: rest) (hpc : s.pc = .handlers) (hframes : s.frames = []) :
    DispatchInv ({ s with
      activeChannels_ := rest
      history := .handleEvent p :: s.history }.push (.handleEvent p)) := by
  obtain ⟨hshape, -, ⟨owner, hnodup, howners⟩, hspared, hsafe, hnoStale⟩ := h
  rw [hactive] at hspared hsafe
  have hbatch : s.batch = p :: rest := by rw [batch, hframes, hactive]; rfl
  have hbatch' : ({ s with
      activeChannels_ := rest
      history := .handleEvent p :: s.history }.push (.handleEvent p)).batch = p :: rest := by
    simp [batch, push, hframes, OwnerFrame.current]
  refine ⟨hshape.congr rfl rfl rfl rfl hshape.unborn, fun hne => absurd hpc hne, ⟨owner, ?_, ?_⟩,
    ?_, ?_, ?_⟩
  · rw [hbatch', ← hbatch]
    exact hnodup
  · rw [hbatch', ← hbatch]
    exact howners
  · exact fun q hq => hspared q (List.mem_cons_of_mem p hq)
  · intro q _ o _
    simp [push, hframes, OwnerFrame.condemned]
  · intro q
    refine whenever_cons.mpr ⟨fun heq => ?_, hnoStale q⟩
    obtain rfl := DispatchEffect.handleEvent.inj heq
    exact hspared p List.mem_cons_self

/-- What `fillActiveChannels` does when it returns: it sets `revents_`, and appends the channels
that are ready, which are alive. -/
lemma fillActiveChannels_ok {ready : List (Fd × EventMask)}
    (hok : fillActiveChannels ready s = .ok s') :
    ∃ objects ps, s' = { s with objects := objects, activeChannels_ := s.activeChannels_ ++ ps } ∧
      (∀ p, s.objects p = none → objects p = none) ∧
      (∀ p o, s.objects p = some o → ∃ revents, objects p =
        some { o with channel := { o.channel with revents_ := revents } }) ∧
      ps = (ready.map Prod.fst).filterMap
        (fun fd => (s.poller.interest fd).map EpollEvent.data) ∧
      ∀ p ∈ ps, ∃ o, s.objects p = some o ∧ o.live = true := by
  induction ready generalizing s with
  | nil =>
    obtain rfl := Except.ok.inj hok
    exact ⟨s.objects, [], by simp, fun _ => id, fun p o ho => ⟨o.channel.revents_, ho⟩, rfl,
      by simp⟩
  | cons first ready ih =>
    obtain ⟨fd, revents⟩ := first
    unfold fillActiveChannels at hok
    split at hok
    · cases hok
    · rename_i event hevent
      split at hok
      · cases hok
      · rename_i o ho
        split at hok
        · rename_i hlive
          obtain ⟨objects, ps, rfl, hnone, hsome, hps, hall⟩ := ih hok
          have hupdate {p : ChannelPtr} (hne : p ≠ event.data) :
              Function.update s.objects event.data (some { o with
                channel := { o.channel with revents_ := revents } }) p = s.objects p :=
            Function.update_of_ne hne _ _
          refine ⟨objects, event.data :: ps, by simp, ?_, ?_, ?_, ?_⟩
          · intro p hp
            have hne : p ≠ event.data := by
              rintro rfl
              rw [ho] at hp
              cases hp
            exact hnone p ((hupdate hne).trans hp)
          · intro p o' ho'
            by_cases hp : p = event.data
            · subst hp
              obtain rfl := Option.some.inj (ho.symm.trans ho')
              exact hsome event.data { o with channel := { o.channel with revents_ := revents } }
                (Function.update_self ..)
            · exact hsome p o' ((hupdate hp).trans ho')
          · simp [hps, hevent]
          · intro p hp
            rcases List.mem_cons.mp hp with rfl | hp
            · exact ⟨o, ho, hlive⟩
            · obtain ⟨o', ho', hlive'⟩ := hall p hp
              by_cases hne : p = event.data
              · subst hne
                exact ⟨o, ho, hlive⟩
              · exact ⟨o', (hupdate hne).symm.trans ho', hlive'⟩
        · cases hok

/-- `poll` fills `activeChannels_` with the channels of different owners. -/
lemma poll (h : s.DispatchInv) {ready : List (Fd × EventMask)} (hframes : s.frames = [])
    (hready : (ready.map Prod.fst).Nodup) (hok : s.poll ready = .ok s') : s'.DispatchInv := by
  obtain ⟨t, hfill, hok⟩ := bind_eq_ok.mp hok
  obtain rfl := Except.ok.inj hok
  obtain ⟨objects, ps, rfl, hnone, hsome, hps, hlive⟩ := fillActiveChannels_ok hfill
  have hkept {p : ChannelPtr} {o : ChannelObject} (ho : s.objects p = some o) :
      ∃ o', objects p = some o' ∧ o'.owner = o.owner := by
    obtain ⟨revents, ho'⟩ := hsome p o ho
    exact ⟨_, ho', rfl⟩
  refine ⟨(h.shape.withRevents hnone hsome).congr rfl rfl rfl rfl
    (h.shape.withRevents hnone hsome).unborn, fun hne => absurd rfl hne, ?_, ?_, ?_, ?_⟩
  · refine ⟨fun p => ((s.objects p).map ChannelObject.owner).getD .eventLoop, ?_, ?_⟩
    · change ((s.frames.flatMap OwnerFrame.current ++ ps).map _).Nodup
      rw [hframes]
      have hnodup : ps.Nodup := by
        rw [hps]
        refine hready.filterMap fun fd fd' p hp hp' => ?_
        obtain ⟨event, hevent, rfl⟩ := Option.map_eq_some_iff.mp hp
        obtain ⟨event', hevent', hdata⟩ := Option.map_eq_some_iff.mp hp'
        obtain ⟨o, ho, hfd, -⟩ := h.shape.interest fd event hevent
        obtain ⟨o', ho', hfd', -⟩ := h.shape.interest fd' event' hevent'
        rw [hdata] at ho'
        obtain rfl := Option.some.inj (ho.symm.trans ho')
        exact hfd.symm.trans hfd'
      refine hnodup.map_on fun p hp q hq heq => ?_
      obtain ⟨o, ho, hol⟩ := hlive p hp
      obtain ⟨o', ho', hol'⟩ := hlive q hq
      change s.objects p = some o at ho
      change s.objects q = some o' at ho'
      simp only [ho, ho', Option.map_some, Option.getD_some] at heq
      have hp' := h.shape.owns p o ho hol
      rw [heq, h.shape.owns q o' ho' hol'] at hp'
      exact (Option.some.inj hp').symm
    · intro p hp
      change p ∈ s.frames.flatMap OwnerFrame.current ++ ps at hp
      rw [hframes] at hp
      obtain ⟨o, ho, -⟩ := hlive p hp
      change s.objects p = some o at ho
      obtain ⟨o', ho', heq⟩ := hkept ho
      exact ⟨o', ho', by simp [ho, heq]⟩
  · exact fun p _ => List.not_mem_nil
  · intro p _ o _
    simp [hframes]
  · intro p
    exact ⟨fun heq => (by cases heq), h.noStale p⟩

/-- The guard of `tie_` has been taken. -/
lemma handleEvent (h : s.DispatchInv) {p : ChannelPtr} {rest : List OwnerFrame}
    (hframes : s.frames = .handleEvent p :: rest)
    (hok : { s with frames := rest }.handleEvent p = .ok s') : s'.DispatchInv := by
  obtain ⟨o, -, -, hok⟩ := useChannel_ok hok
  split at hok
  · obtain rfl := Except.ok.inj hok
    exact h.pop hframes
  · obtain rfl := Except.ok.inj hok
    refine h.withFrames ?_ fun w hw => ?_
    · rw [hframes]
      simp [OwnerFrame.current]
    · rw [hframes]
      exact hw

/-- A callback of the channel that is being handled, which is not one that waits. -/
lemma callback (h : s.DispatchInv) {p : ChannelPtr} {guard : Option ℕ} {callback : ChannelCallback}
    {rest : List ChannelCallback} {frames : List OwnerFrame} {answers : CallbackAnswers}
    (hframes : s.frames = .handleEventWithGuard p guard (callback :: rest) :: frames)
    (hok : { s with frames := .handleEventWithGuard p guard rest :: frames }.useChannel p
      (fun o => { s with frames := .handleEventWithGuard p guard rest :: frames }.callCallback
        answers o.owner callback) = .ok s') : s'.DispatchInv := by
  obtain ⟨o, ho, -, hok⟩ := useChannel_ok hok
  have hleft : DispatchInv { s with frames := .handleEventWithGuard p guard rest :: frames } := by
    refine h.withFrames ?_ fun w hw => ?_
    · rw [hframes]
      exact List.Sublist.refl _
    · rw [hframes]
      exact hw
  refine hleft.calm (Calm.callCallback hok) fun q hq o' ho' heq => ?_
  obtain ⟨owner, hnodup, howners⟩ := h.owners
  have hbatch : s.batch = p :: (frames.flatMap OwnerFrame.current ++ s.activeChannels_) := by
    rw [batch, hframes]
    rfl
  have hq' : q ∈ frames.flatMap OwnerFrame.current ++ s.activeChannels_ :=
    List.mem_append_right _ hq
  rw [hbatch] at hnodup howners
  obtain ⟨o₁, ho₁, hp⟩ := howners p List.mem_cons_self
  obtain ⟨o₂, ho₂, hq₂⟩ := howners q (List.mem_cons_of_mem p hq')
  obtain rfl := Option.some.inj (ho.symm.trans ho₁)
  obtain rfl := Option.some.inj (ho'.symm.trans ho₂)
  -- the channels of the batch have different owners
  have hnot := (List.nodup_cons.mp hnodup).1
  refine hnot (List.mem_map.mpr ⟨q, hq', ?_⟩)
  rw [← hp, ← hq₂, heq]

end DispatchInv

/-! ## Runs -/

/-- Every step keeps the invariant when user code spares the channels that wait. -/
lemma DispatchInv.stepThread (h : s.DispatchInv) {e : OwnerLoopEvent} (hspares : s.SparesActive e)
    (hstep : s.stepThread e = some s') : s'.DispatchInv := by
  cases e with
  | call u =>
    obtain ⟨-, hstep⟩ := Option.ite_none_right_eq_some.mp hstep
    refine h.outcome (fun t hok => h.calm (Calm.callApi hok) fun p hp o ho hw => ?_) hstep
    exact hspares _ hw p hp (by rw [ho, Option.map_some])
  | «return» =>
    simp only [OwnerLoop.stepThread] at hstep
    split at hstep
    · rename_i conn rest hframes
      obtain rfl := Option.some.inj hstep
      exact h.pop hframes
    · cases hstep
  | resume attempts =>
    simp only [OwnerLoop.stepThread] at hstep
    split at hstep
    · rename_i f rest hframes
      refine h.outcome (fun t hok => ?_) hstep
      by_cases hf : ∃ p, f = .handleEvent p
      · obtain ⟨p, rfl⟩ := hf
        exact h.handleEvent hframes hok
      · refine (h.pop hframes).calm (Calm.resumeFrame hok fun p hp => hf ⟨p, hp⟩)
          fun p hp o ho hw =>
          h.safe p hp o ho ?_
        rw [hframes, List.flatMap_cons]
        exact List.mem_append_left _ hw
    · cases hstep
  | callback answers =>
    simp only [OwnerLoop.stepThread] at hstep
    split at hstep
    · rename_i p guard callback rest frames hframes
      exact h.outcome (fun t hok => h.callback hframes hok) hstep
    · cases hstep
  | poll ready =>
    obtain ⟨⟨-, hframes, hready⟩, hstep⟩ := Option.ite_none_right_eq_some.mp hstep
    exact h.outcome (fun t hok => h.poll hframes hready hok) hstep
  | dispatch =>
    simp only [OwnerLoop.stepThread] at hstep
    split at hstep
    · rename_i p rest hactive
      obtain ⟨⟨hpc, hframes⟩, hstep⟩ := Option.ite_none_right_eq_some.mp hstep
      obtain rfl := Option.some.inj hstep
      exact h.dispatch hactive hpc hframes
    · cases hstep
  | timer =>
    obtain ⟨-, hstep⟩ := Option.ite_none_right_eq_some.mp hstep
    obtain rfl := Option.some.inj hstep
    exact h.calm (W := fun _ => False) (.callUser s none) fun _ _ _ _ => id
  | swap =>
    obtain ⟨⟨-, -, hactive⟩, hstep⟩ := Option.ite_none_right_eq_some.mp hstep
    obtain rfl := Option.some.inj hstep
    exact h.congr (fun hs => hs.congr rfl rfl rfl rfl hs.unborn) rfl rfl (fun _ => hactive) rfl rfl
  | functor attempts =>
    simp only [OwnerLoop.stepThread] at hstep
    split at hstep
    · rename_i f rest hfunctors
      obtain ⟨⟨hpc, hframes⟩, hstep⟩ := Option.ite_none_right_eq_some.mp hstep
      have hactive : s.activeChannels_ = [] := h.active (by simp [hpc])
      have hcalled : DispatchInv { s with functors := rest, called := f :: s.called } :=
        h.congr (fun hs => hs.congr rfl rfl rfl rfl hs.unborn) rfl rfl h.active rfl rfl
      refine h.outcome (fun t hok => hcalled.calm (Calm.callFunctor hok) fun p hp => ?_) hstep
      change p ∈ s.activeChannels_ at hp
      rw [hactive] at hp
      cases hp
    · cases hstep
  | endIteration =>
    obtain ⟨⟨hpc, -⟩, hstep⟩ := Option.ite_none_right_eq_some.mp hstep
    obtain rfl := Option.some.inj hstep
    refine h.congr (fun hs => hs.congr rfl rfl rfl rfl hs.unborn) rfl rfl ?_ rfl rfl
    exact fun _ => h.active (by simp [hpc])
  | release c => cases hstep

/-- A connection may also be destroyed between the steps. -/
lemma DispatchInv.step (h : s.DispatchInv) {e : OwnerLoopEvent} (hspares : s.SparesActive e)
    (hstep : s.step e = some s') : s'.DispatchInv := by
  unfold OwnerLoop.step at hstep
  obtain ⟨-, hstep⟩ := Option.ite_none_left_eq_some.mp hstep
  cases e with
  | release c =>
    simp only at hstep
    split at hstep
    · rename_i conn _
      obtain ⟨-, hstep⟩ := Option.ite_none_right_eq_some.mp hstep
      obtain rfl := Option.some.inj hstep
      exact h.calm (W := fun _ => False) (.destroyConnection s c conn) fun _ _ _ _ => id
    · cases hstep
  | _ =>
    obtain ⟨-, hstep⟩ := Option.ite_none_right_eq_some.mp hstep
    exact h.stepThread hspares hstep

end OwnerLoop

namespace OwnerLoop

/-- A read callback that finds data, and an acceptor to which the kernel hands the descriptor. -/
def answers (accepted : Option Fd) : CallbackAnswers :=
  ⟨.data, false, false, accepted, ⟨0, false, []⟩⟩

/-- The loop is created while the standard streams are open.  A server on descriptor 5 accepts a
connection on descriptor 7, to which user code keeps a pointer, and the datagram socket 6 is
started. -/
def serving : List OwnerLoopEvent :=
  [.call (.createServer 5), .call (.startServer 1), .call .createUdp, .call (.startUdp 2 6),
    .poll [(5, EPOLLIN)], .dispatch, .resume [], .callback (answers (some 7)), .call (.hold 3),
    .return, .resume [], .swap, .endIteration]

end OwnerLoop

open OwnerLoop

end SimpleMuduo
