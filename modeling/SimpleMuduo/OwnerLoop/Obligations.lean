import SimpleMuduo.OwnerLoop.Members

/-!
# Who is going to remove a channel

A channel that the poller knows has to be removed before it is destroyed.  For a connection this is
done by `connectDestroyed`, which is called from a functor or from the destructor of the server; for
a connector it is done by `removeAndResetChannel`, before the functor that destroys the channel.

`RegistrationInv` says that for each channel somebody is going to do this.  A member function takes
over the obligation for one connection or for one client while it runs: these are in hand, and
nothing is said about them until they are settled.
-/

namespace SimpleMuduo

/-- The connections that a member function is going to close or to remove. -/
def OwnerFrame.closes : OwnerFrame → List ℕ
  | .handleClose c | .connectDestroyed c => [c]
  | .destroyServer _ rest => rest
  | _ => []

/-- The connection that a functor is going to remove. -/
def OwnerFunctor.closes : OwnerFunctor → Option ℕ
  | .connectDestroyed c => some c
  | _ => none

namespace OwnerLoop

variable {s s' : OwnerLoop} {w v : ChannelOwner} {c k : ℕ} {c? k? : Option ℕ}

/-! ## What has to be done -/

/-- The poller does not know the channel of the object. -/
def Idle (s : OwnerLoop) (w : ChannelOwner) : Prop :=
  ∀ p o, s.channel_ w = some p → s.objects p = some o → o.channel.index_ = .kNew

/-- The functors that have not been called. -/
def waiting (s : OwnerLoop) : List OwnerFunctor :=
  s.pendingFunctors_ ++ if s.pc = .functors then s.functors else []

/-- The connections that are going to be removed. -/
def closing (s : OwnerLoop) : List ℕ :=
  s.frames.flatMap OwnerFrame.closes ++ s.waiting.filterMap OwnerFunctor.closes

/-- How often the channel of the connector is going to be destroyed. -/
def resets (s : OwnerLoop) (k : ℕ) : ℕ := s.waiting.count (.resetChannel k)

/-- The connector has no channel, or one that has been removed and is going to be destroyed. -/
def Resting (s : OwnerLoop) (k : ℕ) : Prop :=
  s.resets k = 0 ∧ s.channel_ (.connector k) = none ∨
    s.resets k = 1 ∧ s.channel_ (.connector k) ≠ none ∧ s.Idle (.connector k)

/-- The connector rests unless it is connecting, and a client that has a connection is its owner. -/
structure ConnectorOk (s : OwnerLoop) (k : ℕ) (client : ClientObject) : Prop where
  channel : if client.connector_.state_ = .kConnecting then s.resets k = 0 else s.Resting k
  connection : ∀ c, client.connection_ = some c → client.connector_.state_ = .kConnected ∧
    ∃ conn, s.connections c = some conn ∧ conn.closeCallback_ = .client k

/-- The connection is going to be removed, or somebody has it who will see to that: the server, the
client, or, when the client has been destroyed, nobody but the connection itself while it is open.
-/
def Kept (s : OwnerLoop) (c : ℕ) (conn : ConnectionObject) : Prop :=
  c ∈ s.closing ∨
    match conn.closeCallback_ with
    | .server v => ∃ server, s.servers v = some server ∧ c ∈ server.connections_
    | .client k => ConnectionObject.active conn = true ∧
        ∃ client, s.clients k = some client ∧ client.connection_ = some c
    | .detached => ConnectionObject.active conn = true

/-- Nothing is said about the channel of the object. -/
def InHand (c? k? : Option ℕ) : ChannelOwner → Prop
  | .connection c => c? = some c
  | .connector k => k? = some k
  | _ => True

/-- Destroyed channels are unknown to the poller, and somebody is going to remove the others, where
nothing is said about the connection `c?` and the client `k?`, which are in hand. -/
structure RegistrationInv (c? k? : Option ℕ) (s : OwnerLoop) : Prop where
  shape : s.Shape
  dead : ∀ p o, s.objects p = some o → o.live = false → o.channel.index_ = .kNew
  connectors : ∀ k client, s.clients k = some client → k? ≠ some k → s.ConnectorOk k client
  kept : ∀ c conn, s.connections c = some conn → c? ≠ some c →
    ¬ s.Idle (.connection c) ∨ conn.state_ = .kConnected → s.Kept c conn
  destroyed : ∀ c, .connectDestroyed c ∈ s.frames →
    c < s.nextObject ∧ ∀ conn, s.connections c = some conn → conn.state_ ≠ .kConnected
  named : ∀ k, .resetChannel k ∈ s.waiting → k < s.nextObject

/-! ## What is going to be removed -/

/-- What waits after a push. -/
lemma mem_waiting_queueInLoop {f g : OwnerFunctor} :
    g ∈ (s.queueInLoop f).waiting ↔ g = f ∨ g ∈ s.waiting := by
  simp only [waiting, queueInLoop, List.mem_append, List.mem_singleton]
  tauto

/-- How many `resetChannel` wait after a push. -/
lemma resets_queueInLoop (s : OwnerLoop) (f : OwnerFunctor) (k : ℕ) :
    (s.queueInLoop f).resets k = s.resets k + if f = .resetChannel k then 1 else 0 := by
  change ((s.pendingFunctors_ ++ [f]) ++ if s.pc = .functors then s.functors else []).count _ = _
  simp only [resets, waiting, List.count_append, List.count_singleton, beq_iff_eq]
  omega

/-- The connections that are going to be closed are those of frames and of functors. -/
lemma mem_closing : c ∈ s.closing ↔
    (∃ f ∈ s.frames, c ∈ f.closes) ∨ ∃ f ∈ s.waiting, f.closes = some c := by
  simp only [closing, List.mem_append, List.mem_flatMap, List.mem_filterMap]

/-- What is going to be closed when a frame is pushed. -/
lemma mem_closing_push {f : OwnerFrame} :
    c ∈ (s.push f).closing ↔ c ∈ f.closes ∨ c ∈ s.closing := by
  change c ∈ (f :: s.frames).flatMap OwnerFrame.closes ++ _ ↔ _
  rw [List.flatMap_cons, List.append_assoc, List.mem_append]
  rfl

/-- What is going to be closed when a functor is queued. -/
lemma mem_closing_queueInLoop {f : OwnerFunctor} :
    c ∈ (s.queueInLoop f).closing ↔ f.closes = some c ∨ c ∈ s.closing := by
  simp only [mem_closing, mem_waiting_queueInLoop, exists_eq_or_imp]
  exact or_left_comm

/-! ## Channels that are idle -/

/-- A calm step keeps the shape. -/
lemma Calm.shape {W : ChannelOwner → Prop} (h : Calm W s s') (hs : s.Shape) : s'.Shape :=
    (h hs).shape

/-- The channel of a resting connector is not registered. -/
lemma Resting.idle (h : s.Resting k) : s.Idle (.connector k) := by
  rcases h with ⟨-, hnone⟩ | ⟨-, -, hidle⟩
  · intro p o hp
    rw [hnone] at hp
    cases hp
  · exact hidle

/-- An owner without a channel is idle. -/
lemma idle_of_none (hw : s.channel_ w = none) : s.Idle w := by
  intro p o hp
  rw [hw] at hp
  cases hp

namespace Shape

/-- The poller gets to know no channel but the one whose member function is called. -/
lemma idle_run (hs : s.Shape) {op : ChannelOp} (hok : s.run w op = .ok s') (hne : v ≠ w)
    (hidle : s.Idle v) : s'.Idle v := by
  obtain ⟨p, o, channel, poller, hp, ho, -, rfl⟩ := run_cases hok
  intro q o' hq ho'
  change s.channel_ v = some q at hq
  change Function.update s.objects p _ q = some o' at ho'
  have hqp : q ≠ p := by
    rintro rfl
    obtain ⟨o₁, ho₁, hv, -⟩ := hs.owned v q hq
    obtain ⟨o₂, ho₂, hw, -⟩ := hs.owned w q hp
    obtain rfl := Option.some.inj (ho₁.symm.trans ho₂)
    exact hne (hv.symm.trans hw)
  rw [Function.update_of_ne hqp] at ho'
  exact hidle q o' hq ho'

/-- A new channel is not registered. -/
lemma idle_attach (hs : s.Shape) (fd : Fd) (hidle : s.Idle v) : (s.attach w fd).Idle v := by
  intro q o hq ho
  change Function.update s.channel_ w _ v = some q at hq
  change Function.update s.objects s.nextChannel _ q = some o at ho
  by_cases hvw : v = w
  · rw [hvw, Function.update_self] at hq
    obtain rfl := Option.some.inj hq
    obtain rfl := eq_of_update_self ho
    rfl
  · rw [Function.update_of_ne hvw] at hq
    have hne : q ≠ s.nextChannel := by
      rintro rfl
      obtain ⟨o', ho', -⟩ := hs.owned v _ hq
      rw [hs.fresh _ le_rfl] at ho'
      cases ho'
    rw [Function.update_of_ne hne] at ho
    exact hidle q o hq ho

end Shape

/-- A channel that has been removed is not known to the poller. -/
lemma idle_remove (hok : s.run w .remove = .ok s') : s'.Idle w := by
  obtain ⟨p, o, channel, poller, hp, -, hran, rfl⟩ := run_cases hok
  intro q o' hq ho'
  obtain rfl := Option.some.inj (hp.symm.trans hq)
  obtain rfl := eq_of_update_self ho'
  exact hran.index.mpr rfl

/-- The channels that exist after one has been destroyed have existed before. -/
lemma detach_cases {p : ChannelPtr} {o : ChannelObject} (ho : (s.detach w).objects p = some o) :
    ∃ o', s.objects p = some o' ∧ o.channel = o'.channel ∧
      (o.live = o'.live ∨ s.channel_ w = some p) := by
  unfold detach at ho
  split at ho
  · exact ⟨o, ho, rfl, .inl rfl⟩
  · rename_i q hq
    change Function.update s.objects q _ p = some o at ho
    by_cases hpq : p = q
    · subst hpq
      rw [Function.update_self] at ho
      obtain ⟨o', ho', rfl⟩ := Option.map_eq_some_iff.mp ho
      exact ⟨o', ho', rfl, .inr hq⟩
    · rw [Function.update_of_ne hpq] at ho
      exact ⟨o, ho, rfl, .inl rfl⟩

/-- Only the given owner loses its channel. -/
lemma detach_channel (s : OwnerLoop) (w : ChannelOwner) :
    (s.detach w).channel_ = Function.update s.channel_ w none := by
  unfold detach
  split
  · rename_i hw
    exact (Function.update_eq_self_iff.mpr hw.symm).symm
  · rfl

/-- No functor is lost with a channel. -/
@[simp] lemma detach_waiting (s : OwnerLoop) (w : ChannelOwner) :
    (s.detach w).waiting = s.waiting := by
  unfold detach
  split <;> rfl

/-- An owner that loses its channel is idle. -/
lemma idle_detach (hidle : s.Idle v) : (s.detach w).Idle v := by
  intro q o hq ho
  obtain ⟨o', ho', hchannel, -⟩ := detach_cases ho
  rw [detach_channel, Function.update_apply] at hq
  split_ifs at hq
  rw [hchannel]
  exact hidle q o' hq ho'

/-! ## What keeps the invariant -/

/-- The server or the client that has the connection still has it, or it is going to be removed. -/
lemma Kept.imp {conn : ConnectionObject} (h : s.Kept c conn)
    (hclosing : c ∈ s.closing → c ∈ s'.closing)
    (hservers : ∀ v server, s.servers v = some server → c ∈ server.connections_ →
      c ∈ s'.closing ∨ ∃ server', s'.servers v = some server' ∧ c ∈ server'.connections_)
    (hclients : ∀ k client, conn.closeCallback_ = .client k → s.clients k = some client →
      client.connection_ = some c →
      c ∈ s'.closing ∨ ∃ client', s'.clients k = some client' ∧ client'.connection_ = some c) :
    s'.Kept c conn := by
  rcases h with hold | howner
  · exact .inl (hclosing hold)
  · unfold Kept
    split at howner
    · obtain ⟨server, hv, hmem⟩ := howner
      exact hservers _ server hv hmem
    · rename_i k hcallback
      obtain ⟨hactive, client, hk, hconnection⟩ := howner
      exact (hclients k client hcallback hk hconnection).imp_right fun hhas => ⟨hactive, hhas⟩
    · exact .inr howner

/-- Nothing that speaks for the connection has been given up. -/
lemma Kept.mono {conn : ConnectionObject} (h : s.Kept c conn)
    (hclosing : c ∈ s.closing → c ∈ s'.closing)
    (hservers : s'.servers = s.servers) (hclients : s'.clients = s.clients) : s'.Kept c conn := by
  refine h.imp hclosing (fun v server hv hmem => .inr ⟨server, ?_, hmem⟩)
    fun k client _ hk hconnection => .inr ⟨client, ?_, hconnection⟩
  · rwa [hservers]
  · rwa [hclients]

/-- Only the channel and the queued `resetChannel` of a connector matter. -/
lemma ConnectorOk.congr {client : ClientObject} (h : s.ConnectorOk k client)
    (hresets : s'.resets k = s.resets k)
    (hchannel : s'.channel_ (.connector k) = s.channel_ (.connector k))
    (hidle : s.Idle (.connector k) → s'.Idle (.connector k))
    (hconnections : s'.connections = s.connections) : s'.ConnectorOk k client := by
  refine ⟨?_, by rw [hconnections]; exact h.connection⟩
  have hrest : s.Resting k → s'.Resting k := by
    unfold Resting
    rw [hresets, hchannel]
    exact Or.imp_right (And.imp_right (And.imp_right hidle))
  have hok := h.channel
  split_ifs at hok ⊢
  · rw [hresets]
    exact hok
  · exact hrest hok

namespace RegistrationInv

/-- A connection and a client are taken in hand. -/
lemma hold (h : s.RegistrationInv none none) (c? k? : Option ℕ) : s.RegistrationInv c? k? :=
  ⟨h.shape, h.dead, fun j client hj _ => h.connectors j client hj (by simp),
    fun d conn hd _ => h.kept d conn hd (by simp), h.destroyed, h.named⟩

/-- A connection is taken in hand. -/
lemma holdConnection (h : s.RegistrationInv none k?) (c : ℕ) : s.RegistrationInv (some c) k? :=
  ⟨h.shape, h.dead, h.connectors, fun d conn hd _ => h.kept d conn hd (by simp), h.destroyed,
    h.named⟩

/-- A client is taken in hand. -/
lemma holdClient (h : s.RegistrationInv c? none) (k : ℕ) : s.RegistrationInv c? (some k) :=
  ⟨h.shape, h.dead, fun j client hj _ => h.connectors j client hj (by simp), h.kept, h.destroyed,
    h.named⟩

/-- The connection in hand is settled. -/
lemma settle (h : s.RegistrationInv (some c) k?) (hkept : ∀ conn, s.connections c = some conn →
    ¬ s.Idle (.connection c) ∨ conn.state_ = .kConnected → s.Kept c conn) :
    s.RegistrationInv none k? := by
  refine ⟨h.shape, h.dead, h.connectors, fun d conn hd _ => ?_, h.destroyed, h.named⟩
  by_cases hdc : d = c
  · subst hdc
    exact hkept conn hd
  · exact h.kept d conn hd (by simpa using Ne.symm hdc)

/-- The client in hand is settled. -/
lemma settleClient (h : s.RegistrationInv c? (some k))
    (hok : ∀ client, s.clients k = some client → s.ConnectorOk k client) :
    s.RegistrationInv c? none := by
  refine ⟨h.shape, h.dead, fun j client hj _ => ?_, h.kept, h.destroyed, h.named⟩
  by_cases hjk : j = k
  · subst hjk
    exact hok client hj
  · exact h.connectors j client hj (by simpa using Ne.symm hjk)

/-- Only the records of the servers have changed, and what is left to be done. -/
lemma of_records (h : s.RegistrationInv c? k?) (hshape : s.Shape → s'.Shape)
    (hobjects : s'.objects = s.objects) (hchannel : s'.channel_ = s.channel_)
    (hclients : s'.clients = s.clients) (hconnections : s'.connections = s.connections)
    (hresets : ∀ k, k? ≠ some k → s'.resets k = s.resets k)
    (hkept : ∀ c conn, c? ≠ some c → s.Kept c conn → s'.Kept c conn)
    (hdestroyed : ∀ c, .connectDestroyed c ∈ s'.frames → .connectDestroyed c ∈ s.frames ∨
      c < s.nextObject ∧ ∀ conn, s.connections c = some conn → conn.state_ ≠ .kConnected)
    (hnamed : ∀ k, .resetChannel k ∈ s'.waiting → .resetChannel k ∈ s.waiting ∨ k < s.nextObject)
    (hle : s.nextObject ≤ s'.nextObject) : s'.RegistrationInv c? k? := by
  have hidle : ∀ w, s'.Idle w ↔ s.Idle w := fun w => by rw [Idle, Idle, hobjects, hchannel]
  refine ⟨hshape h.shape, by rw [hobjects]; exact h.dead, ?_, ?_, ?_, ?_⟩
  · intro k client hk hne
    rw [hclients] at hk
    exact (h.connectors k client hk hne).congr (hresets k hne) (by rw [hchannel]) (hidle _).mpr
      hconnections
  · intro c conn hc hne hopen
    rw [hconnections] at hc
    rw [hidle] at hopen
    exact hkept c conn hne (h.kept c conn hc hne hopen)
  · intro c hc
    rw [hconnections]
    rcases hdestroyed c hc with hold | ⟨hlt, hstate⟩
    · obtain ⟨hlt, hstate⟩ := h.destroyed c hold
      exact ⟨hlt.trans_le hle, hstate⟩
    · exact ⟨hlt.trans_le hle, hstate⟩
  · intro k hk
    rcases hnamed k hk with hold | hlt
    · exact (h.named k hold).trans_le hle
    · exact hlt.trans_le hle

/-- Nothing has changed that matters. -/
lemma congr (h : s.RegistrationInv c? k?) (hshape : s.Shape → s'.Shape)
    (hobjects : s'.objects = s.objects) (hchannel : s'.channel_ = s.channel_)
    (hclients : s'.clients = s.clients) (hservers : s'.servers = s.servers)
    (hconnections : s'.connections = s.connections) (hframes : s'.frames = s.frames)
    (hwaiting : s'.waiting = s.waiting) (hle : s.nextObject ≤ s'.nextObject) :
    s'.RegistrationInv c? k? := by
  have hclosing : s'.closing = s.closing := by rw [closing, closing, hframes, hwaiting]
  refine h.of_records hshape hobjects hchannel hclients hconnections (fun k _ => ?_)
    (fun c conn _ hk => hk.mono (by rw [hclosing]; exact id) hservers hclients) (fun c hc => ?_)
    (fun k hk => ?_) hle
  · rw [resets, resets, hwaiting]
  · rw [hframes] at hc
    exact .inl hc
  · rw [hwaiting] at hk
    exact .inl hk

/-- Only a channel in hand, or one that does not matter, has changed. -/
lemma of_channel (h : s.RegistrationInv c? k?) (hshape : s.Shape → s'.Shape)
    (hdead : ∀ p o, s'.objects p = some o → o.live = false → o.channel.index_ = .kNew)
    (hchannel : ∀ k, k? ≠ some k → s'.channel_ (.connector k) = s.channel_ (.connector k))
    (hidle : ∀ w, ¬ InHand c? k? w → s.Idle w → s'.Idle w)
    (hclients : s'.clients = s.clients) (hservers : s'.servers = s.servers)
    (hconnections : s'.connections = s.connections) (hframes : s'.frames = s.frames)
    (hwaiting : s'.waiting = s.waiting) (hnext : s'.nextObject = s.nextObject) :
    s'.RegistrationInv c? k? := by
  have hclosing : s'.closing = s.closing := by rw [closing, closing, hframes, hwaiting]
  refine ⟨hshape h.shape, hdead, ?_, ?_, ?_, ?_⟩
  · intro k client hk hne
    rw [hclients] at hk
    exact (h.connectors k client hk hne).congr (by rw [resets, resets, hwaiting]) (hchannel k hne)
      (hidle _ hne) hconnections
  · intro c conn hc hne hopen
    rw [hconnections] at hc
    exact (h.kept c conn hc hne (hopen.imp_left fun hnot hold => hnot (hidle _ hne hold))).mono
      (by rw [hclosing]; exact id) hservers hclients
  · rw [hframes, hconnections, hnext]
    exact h.destroyed
  · rw [hwaiting, hnext]
    exact h.named

/-! ## The operations of which the member functions consist -/

/-- A channel of an owner that is in hand is changed. -/
lemma run (h : s.RegistrationInv c? k?) {op : ChannelOp} (hok : s.run w op = .ok s')
    (hw : InHand c? k? w) : s'.RegistrationInv c? k? := by
  have hshape := (Calm.run (W := fun _ => True) hok fun _ => trivial).shape
  have hidle : ∀ v, ¬ InHand c? k? v → s.Idle v → s'.Idle v := fun v hv =>
    h.shape.idle_run hok fun heq => hv (heq ▸ hw)
  obtain ⟨p, o, channel, poller, hp, ho, -, rfl⟩ := run_cases hok
  refine h.of_channel hshape ?_ (fun _ _ => rfl) hidle rfl rfl rfl rfl rfl rfl
  intro q o' ho' hlive
  change Function.update s.objects p _ q = some o' at ho'
  by_cases hqp : q = p
  · -- the channel of an object that is used has not been destroyed
    subst hqp
    obtain rfl := eq_of_update_self ho'
    obtain ⟨o₁, ho₁, -, hlive₁⟩ := h.shape.owned w q hp
    obtain rfl := Option.some.inj (ho.symm.trans ho₁)
    exact absurd (hlive.symm.trans hlive₁) (by simp)
  · rw [Function.update_of_ne hqp] at ho'
    exact h.dead q o' ho' hlive

/-- An owner gets its first channel. -/
lemma attach (h : s.RegistrationInv c? k?) (hfree : s.channel_ w = none)
    (hborn : ∀ n ∈ w.number, n < s.nextObject) (hw : ∀ k, w = .connector k → k? = some k)
    (fd : Fd) :
    (s.attach w fd).RegistrationInv c? k? := by
  refine h.of_channel (Calm.attach (W := fun _ => True) hfree hborn fd).shape ?_ ?_
    (fun v _ => h.shape.idle_attach fd) rfl rfl rfl rfl rfl rfl
  · intro q o ho hlive
    change Function.update s.objects s.nextChannel _ q = some o at ho
    rw [Function.update_apply] at ho
    split_ifs at ho
    · obtain rfl := Option.some.inj ho
      cases hlive
    · exact h.dead q o ho hlive
  · intro k hk
    refine Function.update_of_ne ?_ _ _
    rintro rfl
    exact hk (hw k rfl)

/-- Only an idle channel may be destroyed. -/
lemma detach (h : s.RegistrationInv c? k?) (hidle : s.Idle w)
    (hw : ∀ k, w = .connector k → k? = some k) : (s.detach w).RegistrationInv c? k? := by
  refine h.of_channel (Calm.detach (W := fun _ => True) s w).shape ?_ ?_ (fun v _ => idle_detach)
    (detach_clients s w) (detach_servers s w) (detach_connections s w) (detach_frames s w)
    (detach_waiting s w) (detach_nextObject s w)
  · intro q o ho hlive
    obtain ⟨o', ho', hchannel, hcases⟩ := detach_cases ho
    rw [hchannel]
    rcases hcases with hsame | hq
    · exact h.dead q o' ho' (hsame.symm.trans hlive)
    · exact hidle q o' hq ho'
  · intro k hk
    rw [detach_channel]
    refine Function.update_of_ne ?_ _ _
    rintro rfl
    exact hk (hw k rfl)

/-- A descriptor is closed. -/
lemma close (h : s.RegistrationInv c? k?) (fd : Fd) : (s.close fd).RegistrationInv c? k? :=
  h.congr (Calm.close (W := fun _ => True) s fd).shape rfl rfl rfl rfl rfl rfl rfl le_rfl

/-- A descriptor is opened. -/
lemma openFd (h : s.RegistrationInv c? k?) {fd : Fd} (hok : s.openFd fd = .ok s') :
    s'.RegistrationInv c? k? := by
  have hshape := (Calm.openFd (W := fun _ => True) hok).shape
  unfold OwnerLoop.openFd at hok
  split_ifs at hok
  obtain rfl := Except.ok.inj hok
  exact h.congr hshape rfl rfl rfl rfl rfl rfl rfl le_rfl

/-- A socket is created. -/
lemma createNonblocking (h : s.RegistrationInv c? k?) {fd : Fd}
    (hok : s.createNonblocking fd = .ok s') : s'.RegistrationInv c? k? := by
  unfold OwnerLoop.createNonblocking at hok
  split_ifs at hok
  exact h.openFd hok

/-- The record of the connection in hand changes. -/
lemma setConnection (h : s.RegistrationInv (some c) k?) {conn : ConnectionObject}
    (hconn : s.connections c = some conn) (conn' : ConnectionObject)
    (hclose : ∀ k, k? ≠ some k → conn.closeCallback_ = .client k → conn'.closeCallback_ = .client k)
    (hstate : conn'.state_ = .kConnected → .connectDestroyed c ∉ s.frames) :
    (s.setConnection c conn').RegistrationInv (some c) k? := by
  refine ⟨(Calm.setConnection (W := fun _ => True) hconn conn').shape h.shape, h.dead, ?_, ?_, ?_,
    h.named⟩
  · intro k client hk hne
    obtain ⟨hchannel, hconnection⟩ := h.connectors k client hk hne
    refine ⟨hchannel, fun d hd => ?_⟩
    obtain ⟨hconnected, conn₁, hd₁, hcallback⟩ := hconnection d hd
    refine ⟨hconnected, ?_⟩
    by_cases hdc : d = c
    · subst hdc
      obtain rfl := Option.some.inj (hconn.symm.trans hd₁)
      exact ⟨conn', Function.update_self .., hclose k hne hcallback⟩
    · exact ⟨conn₁, (Function.update_of_ne hdc _ _).trans hd₁, hcallback⟩
  · intro d conn₁ hd hne hopen
    have hdc : d ≠ c := fun heq => hne (congrArg some heq.symm)
    exact h.kept d conn₁ ((Function.update_of_ne hdc _ _).symm.trans hd) hne hopen
  · intro d hd
    obtain ⟨hlt, hnot⟩ := h.destroyed d hd
    refine ⟨hlt, fun conn₁ hconn₁ hconnected => ?_⟩
    by_cases hdc : d = c
    · subst hdc
      obtain rfl := eq_of_update_self hconn₁
      exact hstate hconnected hd
    · exact hnot conn₁ ((Function.update_of_ne hdc _ _).symm.trans hconn₁) hconnected

/-- The record of the client in hand changes, and its connection is not given up. -/
lemma setClient (h : s.RegistrationInv c? (some k)) {client : ClientObject}
    (hclient : s.clients k = some client) (client' : ClientObject)
    (hconnection : ∀ c, client.connection_ = some c → c? ≠ some c →
      client'.connection_ = some c ∨ c ∈ s.closing) :
    (s.setClient k client').RegistrationInv c? (some k) := by
  refine ⟨(Calm.setClient (W := fun _ => True) hclient client').shape h.shape, h.dead, ?_, ?_,
    h.destroyed, h.named⟩
  · intro j client₁ hj hne
    have hjk : j ≠ k := fun heq => hne (congrArg some heq.symm)
    have hok := h.connectors j client₁ ((Function.update_of_ne hjk _ _).symm.trans hj) hne
    exact hok.congr rfl rfl id rfl
  · intro c conn hc hne hopen
    refine (h.kept c conn hc hne hopen).imp id (fun v server hv hmem => .inr ⟨server, hv, hmem⟩) ?_
    intro j client₁ _ hj hconn
    by_cases hjk : j = k
    · subst hjk
      obtain rfl := Option.some.inj (hclient.symm.trans hj)
      refine (hconnection c hconn hne).symm.imp id fun hsame => ?_
      exact ⟨client', Function.update_self .., hsame⟩
    · exact .inr ⟨client₁, (Function.update_of_ne hjk _ _).trans hj, hconn⟩

/-- The client in hand is destroyed, and nobody relies on it. -/
lemma removeClient (h : s.RegistrationInv c? (some k)) {clients : ℕ → Option ClientObject}
    (hclients : clients = Function.update s.clients k none)
    (hshape : Shape { s with clients := clients })
    (hnone : ∀ c conn, s.connections c = some conn → conn.closeCallback_ = .client k →
      ∀ client, s.clients k = some client → client.connection_ ≠ some c) :
    RegistrationInv c? none { s with clients := clients } := by
  subst hclients
  refine ⟨hshape, h.dead, ?_, ?_, h.destroyed, h.named⟩
  · intro j client hj _
    change Function.update s.clients k none j = some client at hj
    rw [Function.update_apply] at hj
    split_ifs at hj with hjk
    exact (h.connectors j client hj (by simpa using Ne.symm hjk)).congr rfl rfl id rfl
  · intro c conn hc hne hopen
    refine (h.kept c conn hc hne hopen).imp id (fun v server hv hmem => .inr ⟨server, hv, hmem⟩) ?_
    intro j client hcallback hj hconnection
    have hjk : j ≠ k := by
      rintro rfl
      exact hnone c conn hc hcallback client hj hconnection
    exact .inr ⟨client, (Function.update_of_ne hjk _ _).trans hj, hconnection⟩

/-- A connection is destroyed that is not the connection of a client. -/
lemma removeConnection (h : s.RegistrationInv c? k?)
    (hshape : Shape { s with connections := Function.update s.connections c none })
    (hnone : ∀ k client, s.clients k = some client → k? ≠ some k → client.connection_ ≠ some c) :
    RegistrationInv c? k? { s with connections := Function.update s.connections c none } := by
  have hold {d : ℕ} {conn : ConnectionObject}
      (hd : Function.update s.connections c none d = some conn) : s.connections d = some conn := by
    rw [Function.update_apply] at hd
    split_ifs at hd
    exact hd
  refine ⟨hshape, h.dead, ?_, fun d conn hd hne hopen => h.kept d conn (hold hd) hne hopen, ?_,
    h.named⟩
  · intro j client hj hne
    obtain ⟨hchannel, hconnection⟩ := h.connectors j client hj hne
    refine ⟨hchannel, fun d hd => ?_⟩
    obtain ⟨hconnected, conn, hconn, hcallback⟩ := hconnection d hd
    have hdc : d ≠ c := by
      rintro rfl
      exact hnone j client hj hne hd
    exact ⟨hconnected, conn, (Function.update_of_ne hdc _ _).trans hconn, hcallback⟩
  · intro d hd
    obtain ⟨hlt, hstate⟩ := h.destroyed d hd
    exact ⟨hlt, fun conn hconn => hstate conn (hold hconn)⟩

/-- A functor is queued. -/
lemma queueInLoop (h : s.RegistrationInv c? k?) {f : OwnerFunctor}
    (hf : ∀ k, f = .resetChannel k → k? = some k ∧ k < s.nextObject) :
    (s.queueInLoop f).RegistrationInv c? k? := by
  refine h.of_records (Calm.queueInLoop (W := fun _ => True) s f).shape rfl rfl rfl rfl ?_ ?_
    (fun c => .inl) ?_ le_rfl
  · intro k hk
    have hne : f ≠ .resetChannel k := fun heq => hk (hf k heq).1
    rw [resets_queueInLoop, if_neg hne, Nat.add_zero]
  · intro c conn _ hkept
    exact hkept.mono (fun hmem => mem_closing_queueInLoop.mpr (.inr hmem)) rfl rfl
  · intro k hk
    rcases mem_waiting_queueInLoop.mp hk with rfl | hk
    · exact .inr (hf k rfl).2
    · exact .inl hk

/-- A frame is pushed. -/
lemma push (h : s.RegistrationInv c? k?) {f : OwnerFrame} (hf : ∀ c, f = .connectDestroyed c →
      c < s.nextObject ∧ ∀ conn, s.connections c = some conn → conn.state_ ≠ .kConnected) :
    (s.push f).RegistrationInv c? k? := by
  refine h.of_records (fun hs => hs.congr rfl rfl rfl rfl hs.unborn) rfl rfl rfl rfl
    (fun _ _ => rfl) ?_ ?_ (fun _ => .inl) le_rfl
  · intro c conn _ hkept
    exact hkept.mono (fun hmem => mem_closing_push.mpr (.inr hmem)) rfl rfl
  · intro c hc
    rcases List.mem_cons.mp hc with rfl | hc
    · exact .inr (hf c rfl)
    · exact .inl hc

/-- User code is called. -/
lemma callUser (h : s.RegistrationInv c? k?) (conn : Option ℕ) :
    (s.callUser conn).RegistrationInv c? k? := h.push fun c hc => (by cases hc)

end RegistrationInv

end OwnerLoop

end SimpleMuduo
