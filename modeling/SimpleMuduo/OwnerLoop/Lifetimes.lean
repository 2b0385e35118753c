import SimpleMuduo.OwnerLoop.Dispatch
import SimpleMuduo.OwnerLoop.Registration

/-!
# Runs in which no registration outlives its channel

A `UdpSocket` never removes its channel, a `TcpClient` that is destroyed does not stop its
connector, a connection whose client has been destroyed may be open when the last pointer to it is
gone, and `handleWrite` registers a channel again that has been removed before.  `Deregisters`
excludes these steps, and all others keep `RegistrationInv`.
-/

namespace SimpleMuduo

namespace OwnerLoop

variable {s s' : OwnerLoop} {c k : ℕ} {c? k? : Option ℕ}

/-- The callback that comes next is `handleWrite` of a channel that has been removed, and it is
going to disable writing. -/
def reregisters (s : OwnerLoop) (answers : CallbackAnswers) : Bool :=
  match s.frames with
  | .handleEventWithGuard p _ (.write :: _) :: _ =>
    answers.drained && (s.objects p).any fun o => o.channel.isWriting && o.channel.index_ = .kNew
  | _ => false

/-- The channel of an object that is destroyed has been removed or is going to be. -/
def Deregisters (s : OwnerLoop) : OwnerLoopEvent → Prop
  | .call (.startUdp u _) | .call (.destroyUdp u) => s.channel_ (.udpSocket u) = none
  | .call (.destroyClient k) =>
    ∀ client ∈ s.clients k, client.connector_.state_ ≠ .kConnecting
  | .callback answers => s.reregisters answers = false
  | .release c =>
    ∀ conn ∈ s.connections c, conn.closeCallback_ = .detached → ConnectionObject.active conn = false
  | _ => True

instance (s : OwnerLoop) (e : OwnerLoopEvent) : Decidable (s.Deregisters e) :=
  match e with
  | .call (.startUdp _ _) | .call (.destroyUdp _) => inferInstanceAs (Decidable (_ = none))
  | .call (.destroyClient k) => inferInstanceAs (Decidable (∀ client ∈ s.clients k, _ ≠ _))
  | .callback _ => inferInstanceAs (Decidable (_ = false))
  | .release c =>
    inferInstanceAs (Decidable
      (∀ conn ∈ s.connections c, conn.closeCallback_ = .detached → _ = false))
  | .call .createUdp | .call (.createAcceptor _) | .call (.listen _) | .call (.destroyAcceptor _)
  | .call (.createServer _) | .call (.startServer _) | .call (.destroyServer _ _)
  | .call .createClient | .call (.enableRetry _) | .call (.connect _ _) | .call (.disconnect _)
  | .call (.stop _) | .call (.shutdown _) | .call (.forceClose _) | .call (.send _ _ _)
  | .call (.hold _) | .call (.drop _) | .call .queueInLoop | .return | .resume _ | .poll _
  | .dispatch | .timer | .swap | .functor _ | .endIteration => isTrue trivial

/-- A connection without references is not going to be removed by anybody. -/
lemma notMem_closing_of_refs (hrefs : s.refs c = 0) : c ∉ s.closing := by
  have hframe : ∀ f : OwnerFrame, c ∈ f.closes → c ∈ f.holds := by
    intro f hf
    cases f with
    | handleClose | connectDestroyed | destroyServer => exact hf
    | user | handleEvent | handleEventWithGuard => cases hf
  simp only [refs, Nat.add_eq_zero_iff, List.count_eq_zero] at hrefs
  obtain ⟨⟨⟨-, hframes⟩, hfunctors⟩, -⟩ := hrefs
  intro hclosing
  rcases mem_closing.mp hclosing with ⟨f, hf, hc⟩ | ⟨f, hf, hc⟩
  · exact hframes (List.mem_flatMap.mpr ⟨f, hf, hframe f hc⟩)
  · refine hfunctors (List.mem_filterMap.mpr ⟨f, ?_, ?_⟩)
    · unfold waiting at hf
      unfold allFunctors
      split at hf
      · exact List.mem_append_left _ hf
      · rw [List.append_nil] at hf
        exact List.mem_append_left _ (List.mem_append_left _ hf)
    · cases f with
      | connectDestroyed d => exact hc
      | user | callback | forceCloseInLoop | stopInLoop | resetChannel => cases hc

lemma ownerRefs_of_refs {conn : ConnectionObject} (hconn : s.connections c = some conn)
    (hrefs : s.refs c = 0) : s.ownerRefs c conn.closeCallback_ = 0 := by
  simp only [refs, Nat.add_eq_zero_iff, hconn, Option.elim_some] at hrefs
  exact hrefs.1.1.1

namespace RegistrationInv

lemma new (wakeupFd : Fd) (descriptors : Fd → Bool) :
    RegistrationInv none none (.new wakeupFd descriptors) where
  shape := .new wakeupFd descriptors
  dead := by
    intro p o ho hlive
    simp only [OwnerLoop.new, Function.update_apply] at ho
    split_ifs at ho
    obtain rfl := Option.some.inj ho
    cases hlive
  connectors := fun k client hk => by cases hk
  kept := fun c conn hc => by cases hc
  destroyed := fun c hc => absurd hc List.not_mem_nil
  named := fun k hk => absurd hk List.not_mem_nil

/-- The record of a new client, whose connector has no channel. -/
lemma bornClient (h : s.RegistrationInv c? k?) {client : ClientObject}
    (hstate : client.connector_.state_ ≠ .kConnecting) (hnone : client.connection_ = none)
    (hshape : Shape { s.setClient s.nextObject client with nextObject := s.nextObject + 1 }) :
    RegistrationInv c? k?
      { s.setClient s.nextObject client with nextObject := s.nextObject + 1 } := by
  obtain ⟨-, -, -, hunborn, -, hchannel⟩ := h.shape.unborn s.nextObject le_rfl
  refine ⟨hshape, h.dead, ?_, ?_, ?_, ?_⟩
  · intro j client₁ hj hne
    change Function.update s.clients s.nextObject (some client) j = some client₁ at hj
    by_cases hjn : j = s.nextObject
    · subst hjn
      obtain rfl := eq_of_update_self hj
      refine ⟨?_, fun c hc => ?_⟩
      · rw [if_neg hstate]
        refine .inl ⟨List.count_eq_zero.mpr fun hmem => ?_, hchannel (.connector s.nextObject) rfl⟩
        exact absurd (h.named _ hmem) (lt_irrefl _)
      · rw [hnone] at hc
        cases hc
    · rw [Function.update_of_ne hjn] at hj
      exact (h.connectors j client₁ hj hne).congr rfl rfl id rfl
  · intro d conn hd hne hopen
    refine (h.kept d conn hd hne hopen).imp_right fun howner => ?_
    split at howner
    · exact howner
    · obtain ⟨hactive, client₁, hj, hconnection⟩ := howner
      refine ⟨hactive, client₁, (Function.update_of_ne ?_ _ _).trans hj, hconnection⟩
      rintro rfl
      rw [hunborn] at hj
      cases hj
    · exact howner
  · intro d hd
    obtain ⟨hlt, hnot⟩ := h.destroyed d hd
    exact ⟨hlt.trans (Nat.lt_succ_self _), hnot⟩
  · exact fun j hj => (h.named j hj).trans (Nat.lt_succ_self _)

/-- Everything that user code calls. -/
theorem callApi (h : s.RegistrationInv none none) {u : UserCall} (hok : s.callApi u = .ok s')
    (hderegisters : s.Deregisters (.call u)) : s'.RegistrationInv none none := by
  have hshape := (Calm.callApi hok).shape
  cases u with
  | createUdp =>
    obtain rfl := Except.ok.inj hok
    exact h.congr hshape rfl rfl rfl rfl rfl rfl rfl (Nat.le_succ _)
  | startUdp u fd => exact h.startUdp hok hderegisters
  | destroyUdp u => exact absurd hok (destroyUdp_ne_ok hderegisters)
  | createAcceptor fd => exact h.createAcceptor hok
  | listen a => exact h.listen (callAcceptor_ok hok)
  | destroyAcceptor a => exact h.destroyAcceptor (callAcceptor_ok hok)
  | createServer fd => exact h.createServer hok
  | startServer v => exact h.startServer hok
  | destroyServer v order => exact h.destroyServer hok
  | createClient =>
    obtain rfl := Except.ok.inj hok
    exact h.bornClient (by simp) rfl (hshape h.shape)
  | enableRetry k =>
    obtain ⟨client, hclient, hok⟩ := useClient_ok hok
    obtain rfl := Except.ok.inj hok
    exact h.setFlags hclient { client with retry_ := true } rfl rfl
  | connect k attempts => exact h.connectClient hok
  | disconnect k => exact h.disconnect hok
  | stop k => exact h.stop hok
  | destroyClient k => exact h.destroyClient hok hderegisters
  | shutdown c => exact h.shutdown (callConnection_ok hok).2
  | forceClose c => exact h.forceClose (callConnection_ok hok).2
  | send c leftOver queued => exact h.send (callConnection_ok hok).2
  | hold c =>
    obtain rfl := Except.ok.inj (callConnection_ok hok).2
    exact h.congr hshape rfl rfl rfl rfl rfl rfl rfl le_rfl
  | drop c =>
    change (if c ∈ s.userRefs then _ else _) = _ at hok
    split at hok
    · obtain rfl := Except.ok.inj hok
      exact h.congr hshape rfl rfl rfl rfl rfl rfl rfl le_rfl
    · cases hok
  | queueInLoop =>
    obtain rfl := Except.ok.inj hok
    exact h.queueInLoop fun j hj => (by cases hj)

/-! ## The callbacks of the channels -/

/-- The callbacks of a channel; only `handleWrite` may register it. -/
theorem callCallback (h : s.RegistrationInv none none) {answers : CallbackAnswers}
    {w : ChannelOwner} {callback : ChannelCallback}
    (hok : s.callCallback answers w callback = .ok s')
    (hwrite : ∀ c, w = .connection c → callback = .write → answers.drained →
      (s.channel? w).any Channel.isWriting → ¬ s.Idle w) : s'.RegistrationInv none none := by
  unfold OwnerLoop.callCallback at hok
  split at hok
  · obtain rfl := Except.ok.inj hok
    exact h.callUser none
  · exact h.acceptorHandleRead hok
  · exact h.connectorHandleError hok
  · exact h.connectorHandleWrite hok
  · exact (h.holdConnection _).handleClose hok
  · cases hok
  · rename_i c
    cases hread : answers.read with
    | data =>
      rw [hread] at hok
      obtain ⟨conn, -, hok⟩ := useConnection_ok hok
      obtain rfl := Except.ok.inj hok
      exact h.callUser _
    | endOfFile =>
      rw [hread] at hok
      exact (h.holdConnection c).handleClose hok
    | error =>
      rw [hread] at hok
      cases hok
  · rename_i c
    exact h.handleWrite hok fun hdrained hwriting => hwrite c rfl rfl hdrained hwriting
  · obtain rfl := Except.ok.inj hok
    exact h

/-- `closeCallback_` of the connection in hand. -/
lemma callClose (h : s.RegistrationInv (some c) none) {attempts : List ConnectAttempt}
    (hok : s.callClose c attempts = .ok s') : s'.RegistrationInv none none := by
  obtain ⟨conn, -, hok⟩ := useConnection_ok hok
  split at hok
  · exact h.removeServerConnection hok
  · exact h.removeClientConnection hok
  · obtain rfl := Except.ok.inj hok
    refine (h.queueInLoop fun j hj => (by cases hj)).settle fun _ _ _ => .inl ?_
    exact mem_closing_queueInLoop.mpr (.inl rfl)

/-- A member function has been taken from the stack, and the one that has taken its place does not
leave anything out but what is in hand. -/
lemma dropFrame (h : s.RegistrationInv none none) {f : OwnerFrame} {rest frames : List OwnerFrame}
    (hframes : s.frames = f :: rest) (hrest : ∀ g ∈ rest, g ∈ frames)
    (hclose : ∀ d ∈ f.closes, c? = some d ∨ ∃ g ∈ frames, d ∈ g.closes)
    (hnew : ∀ d, .connectDestroyed d ∈ frames → .connectDestroyed d ∈ s.frames) :
    RegistrationInv c? none { s with frames := frames } := by
  refine (h.hold c? none).of_records (fun hs => hs.congr rfl rfl rfl rfl hs.unborn) rfl rfl rfl rfl
    (fun _ _ => rfl) ?_ (fun d hd => .inl (hnew d hd)) (fun _ => .inl) le_rfl
  intro d conn hne hkept
  refine Or.imp_left (fun hclosing => ?_) hkept
  rcases mem_closing.mp hclosing with ⟨g, hg, hd⟩ | hwaiting
  · rw [hframes] at hg
    rcases List.mem_cons.mp hg with rfl | hg
    · exact mem_closing.mpr (.inl ((hclose d hd).resolve_left hne))
    · exact mem_closing.mpr (.inl ⟨g, hrest g hg, hd⟩)
  · exact mem_closing.mpr (.inr hwaiting)

/-- A member function that has no connection to remove has been taken from the stack. -/
lemma popFrame (h : s.RegistrationInv none none) {f : OwnerFrame} {rest : List OwnerFrame}
    (hframes : s.frames = f :: rest) (hcloses : ∀ d ∈ f.closes, c? = some d) :
    RegistrationInv c? none { s with frames := rest } :=
  h.dropFrame hframes (fun _ hg => hg) (fun d hd => .inl (hcloses d hd)) fun _ hd =>
    hframes ▸ List.mem_cons_of_mem f hd

/-- The member function on top goes on. -/
theorem resumeFrame (h : s.RegistrationInv none none) {attempts : List ConnectAttempt}
    {f : OwnerFrame} {rest : List OwnerFrame} (hframes : s.frames = f :: rest)
    (hok : { s with frames := rest }.resumeFrame attempts f = .ok s') :
    s'.RegistrationInv none none := by
  unfold OwnerLoop.resumeFrame at hok
  split at hok
  · cases hok
  · have hpopped : RegistrationInv none none { s with frames := rest } :=
      h.popFrame hframes fun d hd => (by cases hd)
    obtain ⟨o, -, -, hok⟩ := useChannel_ok hok
    split at hok
    · obtain rfl := Except.ok.inj hok
      exact hpopped
    · obtain rfl := Except.ok.inj hok
      exact hpopped.push fun d hd => (by cases hd)
  · obtain rfl := Except.ok.inj hok
    exact h.popFrame hframes fun d hd => (by cases hd)
  · cases hok
  · rename_i c
    exact (h.popFrame hframes fun d hd => congrArg some (List.mem_singleton.mp hd).symm).callClose
      hok
  · rename_i c
    have hpopped : RegistrationInv (some c) none { s with frames := rest } :=
      h.popFrame hframes fun d hd => congrArg some (List.mem_singleton.mp hd).symm
    obtain ⟨conn, hconn, hok⟩ := useConnection_ok hok
    have hran := hpopped.run hok rfl
    have hidle := idle_remove hok
    obtain ⟨p, o, channel, poller, -, -, -, rfl⟩ := run_cases hok
    refine hran.settle fun conn₁ hconn₁ hopen => ?_
    have hmem : .connectDestroyed c ∈ s.frames := hframes ▸ List.mem_cons_self
    exact absurd hidle (hopen.resolve_right ((h.destroyed c hmem).2 conn₁ hconn₁))
  · exact (h.popFrame hframes fun d hd => (by cases hd)).destroyAcceptor hok
  · rename_i a c waiting
    refine connectDestroyed ?_ hok
    refine h.dropFrame hframes (fun g hg => List.mem_cons_of_mem _ hg) (fun d hd => ?_)
      fun d hd => ?_
    · rcases List.mem_cons.mp hd with rfl | hd
      · exact .inl rfl
      · exact .inr ⟨_, List.mem_cons_self, hd⟩
    · rw [hframes]
      rcases List.mem_cons.mp hd with heq | hd
      · cases heq
      · exact List.mem_cons_of_mem _ hd

/-! ## The functors -/

/-- A functor has been taken, and what it is going to do is in hand. -/
lemma takeFunctor (h : s.RegistrationInv none none) {f : OwnerFunctor} {rest : List OwnerFunctor}
    (hpc : s.pc = .functors) (hfunctors : s.functors = f :: rest)
    (hcloses : ∀ d, f.closes = some d → c? = some d)
    (hreset : ∀ j, f = .resetChannel j → k? = some j) :
    RegistrationInv c? k? { s with functors := rest, called := f :: s.called } := by
  have hwaiting : s.waiting = s.pendingFunctors_ ++ f :: rest := by
    rw [waiting, if_pos hpc, hfunctors]
  have htaken : waiting { s with functors := rest, called := f :: s.called } =
      s.pendingFunctors_ ++ rest := by
    change s.pendingFunctors_ ++ (if s.pc = .functors then rest else []) = _
    rw [if_pos hpc]
  refine (h.hold c? k?).of_records (fun hs => hs.congr rfl rfl rfl rfl hs.unborn) rfl rfl rfl rfl
    ?_ ?_ (fun _ => .inl) ?_ le_rfl
  · intro j hj
    have hne : f ≠ .resetChannel j := fun heq => hj (hreset j heq)
    rw [resets, resets, htaken, hwaiting, List.count_append, List.count_append,
      List.count_cons_of_ne hne]
  · intro d conn hne hkept
    refine Or.imp_left (fun hclosing => ?_) hkept
    rw [mem_closing, htaken]
    rw [mem_closing, hwaiting] at hclosing
    refine hclosing.imp_right ?_
    rintro ⟨g, hg, hd⟩
    refine ⟨g, ?_, hd⟩
    rcases List.mem_append.mp hg with hg | hg
    · exact List.mem_append_left _ hg
    · rcases List.mem_cons.mp hg with rfl | hg
      · exact absurd (hcloses d hd) hne
      · exact List.mem_append_right _ hg
  · intro j hj
    rw [htaken] at hj
    rw [hwaiting]
    refine .inl ((List.mem_append.mp hj).elim (List.mem_append_left _) fun hj => ?_)
    exact List.mem_append_right _ (List.mem_cons_of_mem f hj)

/-- The functors. -/
theorem callFunctor (h : s.RegistrationInv none none) {attempts : List ConnectAttempt}
    {f : OwnerFunctor} {rest : List OwnerFunctor} (hpc : s.pc = .functors)
    (hfunctors : s.functors = f :: rest)
    (hok : { s with functors := rest, called := f :: s.called }.callFunctor attempts f = .ok s') :
    s'.RegistrationInv none none := by
  cases f with
  | user =>
    obtain rfl := Except.ok.inj hok
    exact (h.takeFunctor hpc hfunctors (fun d hd => (by cases hd)) fun j hj =>
      (by cases hj)).callUser none
  | callback c =>
    obtain ⟨conn, -, hok⟩ := useConnection_ok hok
    obtain rfl := Except.ok.inj hok
    exact (h.takeFunctor hpc hfunctors (fun d hd => (by cases hd)) fun j hj =>
      (by cases hj)).callUser _
  | connectDestroyed c =>
    exact (h.takeFunctor hpc hfunctors (fun _ => id) fun j hj => (by cases hj)).connectDestroyed
      hok
  | forceCloseInLoop c =>
    exact (h.takeFunctor hpc hfunctors (fun d hd => (by cases hd)) fun j hj =>
      (by cases hj)).forceCloseInLoop hok
  | stopInLoop k =>
    exact (h.takeFunctor hpc hfunctors (fun d hd => (by cases hd)) fun j hj =>
      (by cases hj)).stopInLoop hok
  | resetChannel k =>
    have htaken : RegistrationInv none (some k)
        { s with functors := rest, called := .resetChannel k :: s.called } :=
      h.takeFunctor hpc hfunctors (fun d hd => (by cases hd)) fun j hj =>
        congrArg some (OwnerFunctor.resetChannel.inj hj)
    have hresets : s.resets k =
        resets { s with functors := rest, called := .resetChannel k :: s.called } k + 1 := by
      change List.count _ (s.pendingFunctors_ ++ if s.pc = .functors then s.functors else []) =
        List.count _ (s.pendingFunctors_ ++ if s.pc = .functors then rest else []) + 1
      rw [if_pos hpc, if_pos hpc, hfunctors, List.count_append, List.count_append,
        List.count_cons_self, Nat.add_assoc]
    obtain ⟨client, hclient, -⟩ := useClient_ok hok
    obtain ⟨hchannel, hconnection⟩ := h.connectors k client hclient (by simp)
    have hstate : client.connector_.state_ ≠ .kConnecting := by
      intro hstate
      rw [if_pos hstate, hresets] at hchannel
      cases hchannel
    rw [if_neg hstate, Resting, hresets] at hchannel
    obtain ⟨hone, -, hidle⟩ := hchannel.resolve_left fun hzero => (by cases hzero.1)
    refine htaken.resetChannel hok hidle (Nat.succ.inj hone) fun client₁ hclient₁ => ?_
    obtain rfl := Option.some.inj (hclient.symm.trans hclient₁)
    exact ⟨hstate, hconnection⟩

/-! ## The loop -/

/-- `poll` only changes `revents_`. -/
lemma poll (h : s.RegistrationInv c? k?) {ready : List (Fd × EventMask)} (hpc : s.pc = .outside)
    (hok : s.poll ready = .ok s') : s'.RegistrationInv c? k? := by
  obtain ⟨t, hfill, hok⟩ := bind_eq_ok.mp hok
  obtain rfl := Except.ok.inj hok
  obtain ⟨objects, ps, rfl, hnone, hsome, -⟩ := DispatchInv.fillActiveChannels_ok hfill
  have hcases {p : ChannelPtr} {o' : ChannelObject} (ho' : objects p = some o') :
      ∃ o, s.objects p = some o ∧ o'.channel.index_ = o.channel.index_ ∧ o'.live = o.live := by
    cases ho : s.objects p with
    | none =>
      rw [hnone p ho] at ho'
      cases ho'
    | some o =>
      obtain ⟨revents, heq⟩ := hsome p o ho
      obtain rfl := Option.some.inj (heq.symm.trans ho')
      exact ⟨o, rfl, rfl, rfl⟩
  have hshape := h.shape.withRevents hnone hsome
  refine h.of_channel (fun _ => hshape.congr rfl rfl rfl rfl hshape.unborn) ?_ (fun _ _ => rfl) ?_
    rfl rfl rfl rfl ?_ rfl
  · intro p o' ho' hlive
    obtain ⟨o, ho, hindex, hsame⟩ := hcases ho'
    rw [hindex]
    exact h.dead p o ho (hsame.symm.trans hlive)
  · intro w _ hidle p o' hp ho'
    obtain ⟨o, ho, hindex, -⟩ := hcases ho'
    rw [hindex]
    exact hidle p o hp ho
  · change _ = s.pendingFunctors_ ++ if s.pc = .functors then s.functors else []
    rw [hpc]
    rfl

/-- The callback that comes next is called. -/
lemma callback (h : s.RegistrationInv none none) {p : ChannelPtr} {guard : Option ℕ}
    {callback : ChannelCallback} {rest : List ChannelCallback} {frames : List OwnerFrame}
    {answers : CallbackAnswers}
    (hframes : s.frames = .handleEventWithGuard p guard (callback :: rest) :: frames)
    (hreregisters : s.reregisters answers = false)
    (hok : { s with frames := .handleEventWithGuard p guard rest :: frames }.useChannel p
      (fun o => { s with frames := .handleEventWithGuard p guard rest :: frames }.callCallback
        answers o.owner callback) = .ok s') : s'.RegistrationInv none none := by
  obtain ⟨o, ho, hlive, hok⟩ := useChannel_ok hok
  have hleft : RegistrationInv none none
      { s with frames := .handleEventWithGuard p guard rest :: frames } := by
    refine h.dropFrame hframes (fun _ => List.mem_cons_of_mem _) (fun d hd => (by cases hd)) ?_
    intro d hd
    rw [hframes]
    rcases List.mem_cons.mp hd with heq | hd
    · cases heq
    · exact List.mem_cons_of_mem _ hd
  refine hleft.callCallback hok fun c _ hwrite hdrained hwriting hidle => ?_
  subst hwrite
  change s.objects p = some o at ho
  have hchannel := h.shape.owns p o ho hlive
  have hsame : channel? { s with frames := .handleEventWithGuard p guard rest :: frames } o.owner =
      some o.channel := by
    change (s.channel_ o.owner).bind _ = _
    rw [hchannel, Option.bind_some, ho, Option.map_some]
  rw [hsame, Option.any_some] at hwriting
  have hindex : o.channel.index_ = .kNew := hidle p o hchannel ho
  simp [reregisters, hframes, hdrained, ho, hwriting, hindex] at hreregisters

/-- A member function returns, or ends the process. -/
lemma outcome (h : s.RegistrationInv none none) {r : Except OwnerHalt OwnerLoop}
    (hr : ∀ t, r = .ok t → t.RegistrationInv none none) (hstep : s.outcome r = some s') :
    s'.RegistrationInv none none := by
  cases r with
  | ok t =>
    obtain rfl := Option.some.inj hstep
    exact hr t rfl
  | error halt =>
    cases halt with
    | fault f =>
      obtain rfl := Option.some.inj hstep
      exact h.congr (fun hs => hs.congr rfl rfl rfl rfl hs.unborn) rfl rfl rfl rfl rfl rfl
        rfl le_rfl
    | impossible => cases hstep

/-- A connection is destroyed that nobody has to remove. -/
lemma destroyConnection (h : s.RegistrationInv none none) {conn : ConnectionObject}
    (hconn : s.connections c = some conn) (hrefs : s.refs c = 0)
    (hclosed : conn.closeCallback_ = .detached → ConnectionObject.active conn = false) :
    (s.destroyConnection c conn).RegistrationInv none none := by
  have howner := ownerRefs_of_refs hconn hrefs
  have hidle : s.Idle (.connection c) := by
    by_contra hnot
    rcases h.kept c conn hconn (by simp) (.inl hnot) with hclosing | howned
    · exact notMem_closing_of_refs hrefs hclosing
    · split at howned
      · rename_i v hcallback
        obtain ⟨server, hserver, hmem⟩ := howned
        rw [hcallback, ownerRefs, hserver, Option.elim_some, List.count_eq_zero] at howner
        exact howner hmem
      · rename_i j hcallback
        obtain ⟨-, client, hclient, hconnection⟩ := howned
        rw [hcallback, ownerRefs, hclient, Option.bind_some, if_pos hconnection] at howner
        cases howner
      · rename_i hcallback
        rw [hclosed hcallback] at howned
        cases howned
  have hshape := (Calm.destroyConnection (W := fun _ => True) s c conn).shape
  have hgone := (h.detach hidle fun j hj => (by cases hj)).close conn.socket_
  refine hgone.removeConnection (hshape h.shape) fun j client hj _ hconnection => ?_
  have hclients : (s.detach (.connection c)).clients = s.clients := by
    unfold OwnerLoop.detach
    split <;> rfl
  change (s.detach (.connection c)).clients j = some client at hj
  rw [hclients] at hj
  obtain ⟨-, conn₁, hconn₁, hcallback⟩ :=
    (h.connectors j client hj (by simp)).connection c hconnection
  obtain rfl := Option.some.inj (hconn.symm.trans hconn₁)
  rw [hcallback, ownerRefs, hj, Option.bind_some, if_pos hconnection] at howner
  cases howner

end RegistrationInv

/-- Every step keeps the invariant when no channel is left behind. -/
lemma RegistrationInv.stepThread (h : s.RegistrationInv none none) {e : OwnerLoopEvent}
    (hderegisters : s.Deregisters e) (hstep : s.stepThread e = some s') :
    s'.RegistrationInv none none := by
  cases e with
  | call u =>
    obtain ⟨-, hstep⟩ := Option.ite_none_right_eq_some.mp hstep
    exact h.outcome (fun t hok => h.callApi hok hderegisters) hstep
  | «return» =>
    simp only [OwnerLoop.stepThread] at hstep
    split at hstep
    · rename_i conn rest hframes
      obtain rfl := Option.some.inj hstep
      exact h.popFrame hframes fun d hd => (by cases hd)
    · cases hstep
  | resume attempts =>
    simp only [OwnerLoop.stepThread] at hstep
    split at hstep
    · rename_i f rest hframes
      exact h.outcome (fun t hok => h.resumeFrame hframes hok) hstep
    · cases hstep
  | callback answers =>
    simp only [OwnerLoop.stepThread] at hstep
    split at hstep
    · rename_i p guard callback rest frames hframes
      exact h.outcome (fun t hok => h.callback hframes hderegisters hok) hstep
    · cases hstep
  | poll ready =>
    obtain ⟨⟨hpc, -⟩, hstep⟩ := Option.ite_none_right_eq_some.mp hstep
    exact h.outcome (fun t hok => h.poll hpc hok) hstep
  | dispatch =>
    simp only [OwnerLoop.stepThread] at hstep
    split at hstep
    · rename_i p rest hactive
      obtain ⟨-, hstep⟩ := Option.ite_none_right_eq_some.mp hstep
      obtain rfl := Option.some.inj hstep
      have hactive' : RegistrationInv none none { s with
          activeChannels_ := rest
          history := .handleEvent p :: s.history } :=
        h.congr (fun hs => hs.congr rfl rfl rfl rfl hs.unborn) rfl rfl rfl rfl rfl rfl rfl le_rfl
      exact hactive'.push fun d hd => (by cases hd)
    · cases hstep
  | timer =>
    obtain ⟨-, hstep⟩ := Option.ite_none_right_eq_some.mp hstep
    obtain rfl := Option.some.inj hstep
    exact h.callUser none
  | swap =>
    obtain ⟨⟨hpc, -⟩, hstep⟩ := Option.ite_none_right_eq_some.mp hstep
    obtain rfl := Option.some.inj hstep
    refine h.congr (fun hs => hs.congr rfl rfl rfl rfl hs.unborn) rfl rfl rfl rfl rfl rfl ?_ le_rfl
    change s.pendingFunctors_ = s.pendingFunctors_ ++ if s.pc = .functors then s.functors else []
    rw [hpc, if_neg (by simp), List.append_nil]
  | functor attempts =>
    simp only [OwnerLoop.stepThread] at hstep
    split at hstep
    · rename_i f rest hfunctors
      obtain ⟨⟨hpc, -⟩, hstep⟩ := Option.ite_none_right_eq_some.mp hstep
      exact h.outcome (fun t hok => h.callFunctor hpc hfunctors hok) hstep
    · cases hstep
  | endIteration =>
    obtain ⟨⟨-, -, hfunctors⟩, hstep⟩ := Option.ite_none_right_eq_some.mp hstep
    obtain rfl := Option.some.inj hstep
    refine h.congr (fun hs => hs.congr rfl rfl rfl rfl hs.unborn) rfl rfl rfl rfl rfl rfl ?_ le_rfl
    change s.pendingFunctors_ ++ [] =
      s.pendingFunctors_ ++ if s.pc = .functors then s.functors else []
    rw [hfunctors, ite_self]
  | release c => cases hstep

/-- A connection may also be destroyed between the steps. -/
lemma RegistrationInv.step (h : s.RegistrationInv none none) {e : OwnerLoopEvent}
    (hderegisters : s.Deregisters e) (hstep : s.step e = some s') :
    s'.RegistrationInv none none := by
  unfold OwnerLoop.step at hstep
  obtain ⟨-, hstep⟩ := Option.ite_none_left_eq_some.mp hstep
  cases e with
  | release c =>
    simp only at hstep
    split at hstep
    · rename_i conn hconn
      obtain ⟨hrefs, hstep⟩ := Option.ite_none_right_eq_some.mp hstep
      obtain rfl := Option.some.inj hstep
      exact h.destroyConnection hconn hrefs (hderegisters conn hconn)
    · cases hstep
  | _ =>
    obtain ⟨-, hstep⟩ := Option.ite_none_right_eq_some.mp hstep
    exact h.stepThread hderegisters hstep

end OwnerLoop

open OwnerLoop

end SimpleMuduo
