import SimpleMuduo.Peers.State

/-!
# From `sendInLoop` to the application at the other end

What the application has retrieved, what its `inputBuffer_` holds, what is on the wire and what the
sender's `outputBuffer_` holds are together, and in this order, what the sender passed to
`sendInLoop`.  The law holds in both directions and in every state of every run, whatever the
kernels accept and deliver and whichever ends close or die; a sender that dies in a `::write` only
loses the bytes of that call.
-/

namespace SimpleMuduo

namespace World

variable {w w' : World} {e : Event}

/-- What has been accepted in the end is what had been accepted before and what was accepted on
the way. -/
lemma acceptedBytes_append_accepts (h : w.history <:+ w'.history) :
    acceptedBytes w.history ++ w.accepts w' = acceptedBytes w'.history := by
  obtain ⟨es, heq⟩ := h
  have hsplit : acceptedBytes w'.history =
      acceptedBytes w.history ++ collect Effect.accepted es := by
    rw [← heq]
    exact collect_append es w.history
  rw [accepts, hsplit, List.drop_left]

/-- Where nothing more has been accepted, the step accepts nothing. -/
lemma accepts_eq_nil (h : acceptedBytes w'.history = acceptedBytes w.history) :
    w.accepts w' = [] := by
  rw [accepts, h]
  exact List.drop_length

/-- The kernel has accepted a prefix of what was passed to `sendInLoop`, and the rest is in
`outputBuffer_` unless a fault has happened. -/
structure OutputIntact (w : World) : Prop where
  accepted : acceptedBytes w.history <+: passedBytes w.history
  stream : w.fault = none → StreamInv w

namespace OutputIntact

/-- The output of a connection that keeps its stream is intact. -/
lemma of_streamInv (hw : StreamInv w) : OutputIntact w :=
  ⟨hw.stream ▸ List.prefix_append _ _, fun _ => hw⟩

/-- The output of a new connection is intact. -/
lemma established (cfg : Config) : OutputIntact cfg.established :=
  of_streamInv (StreamInv.established cfg)

/-- A `sendInLoop` that aborts has accepted nothing of what was passed to it. -/
lemma sendInLoop {call : ℕ} {data : StdString} {k : Kernel} (hw : StreamInv w)
    (hfault : w.fault = none) (h : SendInLoop w call data k w') : OutputIntact w' := by
  rcases h.streamInv hw with ⟨hinv, -⟩ | ⟨habort, -⟩
  · exact of_streamInv hinv
  · cases h with
    | fatal errno =>
      have hfront := (of_streamInv hw).accepted.trans (List.prefix_append _ data.data)
      refine ⟨?_, fun hnone => by simp at hnone⟩
      simpa [Effect.accepted, Effect.passed] using hfront
    | whole | partly | nothing | noData | buffered => simp [hfault] at habort

/-- No step accepts a byte that was not passed to `sendInLoop` before. -/
theorem step (hw : OutputIntact w) (h : w.step e = some w') : OutputIntact w' := by
  obtain ⟨hfault, hstep⟩ := step_eq_some h
  have hstream := hw.stream hfault
  by_cases hfault' : w'.fault = none
  · exact of_streamInv (hstream.step hstep.outputStep hfault')
  · cases hstep.outputStep with
    | untouched h => exact of_streamInv (hstream.untouched h)
    | loopSend connected branch fault => exact absurd fault hfault'
    | @loopSendFault buf k _ connected branch fault =>
      have hcalled := hstream.untouched (.of_log w (.sendCalled w.sendCalls buf.data) rfl (by simp))
      have hcall : StreamInv (w.callSend buf.data) := ⟨hcalled.stream, hcalled.completed⟩
      exact sendInLoop hcall hfault branch
    | loopShutdown =>
      have hcalled := hstream.untouched (.of_log w .shutdownCalled rfl (by simp))
      exact of_streamInv (streamInv_shutdownInLoop (hcalled.untouched (.of_kDisconnecting _)) _)
    | @handleWrite rest k _ todo branch =>
      have hrest : StreamInv (w.setTodo rest) := ⟨hstream.stream, hstream.completed⟩
      exact of_streamInv (branch.streamInv hrest)
    | @sendInLoop call buf len rest k _ functors branch =>
      have hrest : StreamInv (w.setFunctors rest) := ⟨hstream.stream, hstream.completed⟩
      exact sendInLoop hrest hfault branch
    | @shutdownInLoop rest k functors =>
      have hrest : StreamInv (w.setFunctors rest) := ⟨hstream.stream, hstream.completed⟩
      exact of_streamInv (streamInv_shutdownInLoop hrest k)

/-- What the application retrieves does not concern the output. -/
lemma setInput (hw : OutputIntact w) (inputBuffer : Buffer) :
    OutputIntact (w.setInput inputBuffer) :=
  ⟨hw.accepted, fun hfault => ⟨(hw.stream hfault).stream, (hw.stream hfault).completed⟩⟩

end OutputIntact

end World

namespace Peers

variable {s s' : Peers} {p : Peer} {e : Event} {w' : World} {ev : PeerEvent}

/-! ## The effect of the steps on one direction -/

/-- A step of one side changes its connection. -/
@[simp] lemma after_conn_self : (s.after p e w').conn p = w' := Function.update_self _ _ _

/-- ... and not that of the other side. -/
@[simp] lemma after_conn_other : (s.after p e w').conn p.other = s.conn p.other :=
  Function.update_of_ne p.other_ne _ _

/-- What it accepts goes on its wire. -/
@[simp] lemma after_wire_self : (s.after p e w').wire p =
    ⟨(s.wire p).unread ++ (s.conn p).accepts w', (s.wire p).finished || w'.sentFin⟩ := if_pos rfl

/-- What it reads is taken from the wire of the other side. -/
@[simp] lemma after_wire_other : (s.after p e w').wire p.other =
    ⟨(s.wire p.other).unread.drop ((s.conn p).delivered e).length, (s.wire p.other).finished⟩ :=
  if_neg p.other_ne

/-- It may see the end of the stream. -/
@[simp] lemma after_sawEnd_self :
    (s.after p e w').sawEnd p = (s.sawEnd p || (s.conn p).readsEnd e) := Function.update_self _ _ _

/-- The other side sees nothing by that. -/
@[simp] lemma after_sawEnd_other : (s.after p e w').sawEnd p.other = s.sawEnd p.other :=
  Function.update_of_ne p.other_ne _ _

/-- `retrieve` concerns the input buffer. -/
@[simp] lemma afterRetrieve_conn_self (len : ℕ) : (s.afterRetrieve p len).conn p =
    (s.conn p).setInput ((s.conn p).inputBuffer_.retrieve len) := Function.update_self _ _ _

/-- ... and not the other side. -/
@[simp] lemma afterRetrieve_conn_other (len : ℕ) :
    (s.afterRetrieve p len).conn p.other = s.conn p.other := Function.update_of_ne p.other_ne _ _

/-- What has been retrieved is kept. -/
@[simp] lemma afterRetrieve_retrieved_self (len : ℕ) : (s.afterRetrieve p len).retrieved p =
    s.retrieved p ++ (s.conn p).inputBuffer_.readable.take len := Function.update_self _ _ _

/-- The other side has retrieved nothing by that. -/
@[simp] lemma afterRetrieve_retrieved_other (len : ℕ) :
    (s.afterRetrieve p len).retrieved p.other = s.retrieved p.other :=
  Function.update_of_ne p.other_ne _ _

/-- Retrieving changes nothing but an `inputBuffer_`. -/
lemma exists_afterRetrieve_conn (s : Peers) (q : Peer) (len : ℕ) (p : Peer) :
    ∃ inputBuffer, (s.afterRetrieve q len).conn p = (s.conn p).setInput inputBuffer := by
  rcases q.eq_or_eq_other p with rfl | rfl
  · exact ⟨_, afterRetrieve_conn_self len⟩
  · exact ⟨_, afterRetrieve_conn_other len⟩

/-- Closing takes nothing from the wires. -/
@[simp] lemma afterClose_wire_unread (q : Peer) :
    ((s.afterClose p).wire q).unread = (s.wire q).unread := by
  rcases p.eq_or_eq_other q with rfl | rfl <;> simp [afterClose]

/-- What is delivered comes from the front of the wire. -/
lemma Consistent.delivered_prefix (h : s.Consistent p e w') :
    (s.conn p).delivered e <+: (s.wire p.other).unread := by
  unfold World.delivered
  split
  · rename_i arrived hread
    exact (List.take_prefix _ _).trans (h.1 _ hread).1
  · exact List.nil_prefix

/-- A property of the connection of each end that its own steps keep and that does not depend on
`inputBuffer_` holds in every state of the system. -/
theorem conn_invariant {I : Peer → World → Prop}
    (hstep : ∀ p w e w', I p w → w.step e = some w' → I p w')
    (hinput : ∀ p w inputBuffer, I p w → I p (w.setInput inputBuffer)) {cfg : Peer → Config}
    (hcfg : ∀ p, I p (cfg p).established) {evs : List PeerEvent}
    (hrun : exec step (established cfg) evs = some s) (p : Peer) : I p (s.conn p) := by
  have hpreserved : ∀ (u : Peers) (ev : PeerEvent) (v : Peers), (∀ p, I p (u.conn p)) →
      u.step ev = some v → ∀ p, I p (v.conn p) := by
    intro u ev v hu h q
    cases step_eq_some h with
    | @step p e w' alive hw' =>
      rcases p.eq_or_eq_other q with rfl | rfl
      · rw [after_conn_self]
        exact hstep _ _ _ _ (hu q) hw'
      · rw [after_conn_other]
        exact hu p.other
    | @retrieve p len =>
      obtain ⟨inputBuffer, heq⟩ := u.exists_afterRetrieve_conn p len q
      rw [heq]
      exact hinput _ _ _ (hu q)
    | close => exact hu q
  exact invariant_of_exec hpreserved hcfg hrun p

/-- What has arrived at the application, in its `inputBuffer_` and on the wire is what the kernel
has accepted at the other end. -/
def Conserves (s : Peers) (p : Peer) : Prop :=
  s.retrieved p.other ++ (s.conn p.other).inputBuffer_.readable ++ (s.wire p).unread =
    acceptedBytes (s.conn p).history

/-- A step of `p` puts what it writes on its wire. -/
lemma Conserves.after_self (hs : s.Conserves p) (h : (s.conn p).step e = some w') :
    (s.after p e w').Conserves p := by
  have hgrown := World.acceptedBytes_append_accepts (World.step_eq_some h).2.suffix
  unfold Conserves at hs ⊢
  rw [after_conn_other, after_conn_self, after_wire_self, ← hgrown, ← hs]
  simp [after]

/-- A step of `p` takes what it reads from the wire of the other end. -/
lemma Conserves.after_other (hs : s.Conserves p.other) (h : (s.conn p).step e = some w')
    (hconsistent : s.Consistent p e w') : (s.after p e w').Conserves p.other := by
  obtain ⟨rest, hrest⟩ := hconsistent.delivered_prefix
  have hread := World.readable_inputBuffer_of_step h
  unfold Conserves at hs ⊢
  rw [Peer.other_other] at hs ⊢
  rw [after_conn_self, after_conn_other, after_wire_other, ← hs, hread, ← hrest]
  simp [after]

/-- What the application retrieves it takes from the front of `inputBuffer_`. -/
lemma Conserves.afterRetrieve (hs : s.Conserves p) (q : Peer) (len : ℕ) :
    (s.afterRetrieve q len).Conserves p := by
  unfold Conserves at hs ⊢
  rcases q.eq_or_eq_other p with rfl | rfl
  · rw [afterRetrieve_retrieved_other, afterRetrieve_conn_other, afterRetrieve_conn_self]
    exact hs
  · rw [Peer.other_other] at hs ⊢
    rw [afterRetrieve_retrieved_self, afterRetrieve_conn_self, afterRetrieve_conn_other, ← hs,
      World.setInput_inputBuffer_, Buffer.readable_retrieve, List.append_assoc (s.retrieved q),
      List.take_append_drop]
    rfl

/-- Closing a descriptor leaves what is on the wires. -/
lemma Conserves.afterClose (hs : s.Conserves p) (q : Peer) : (s.afterClose q).Conserves p := by
  unfold Conserves at hs ⊢
  rw [afterClose_wire_unread]
  exact hs

/-- Every step keeps the bytes of a direction. -/
theorem Conserves.step (hs : s.Conserves p) (h : s.step ev = some s') : s'.Conserves p := by
  cases step_eq_some h with
  | @step q e w' alive hw' consistent =>
    rcases q.eq_or_eq_other p with rfl | rfl
    · exact hs.after_self hw'
    · exact hs.after_other hw' consistent
  | retrieve => exact hs.afterRetrieve _ _
  | close => exact hs.afterClose _

/-- Nothing has been sent yet. -/
lemma conserves_established (cfg : Peer → Config) (p : Peer) : (established cfg).Conserves p := by
  have hempty : (cfg p.other).established.inputBuffer_.readable = [] :=
    Buffer.readable_new kInitialSize
  unfold Conserves
  simp only [established, hempty]
  rfl

/-- The bytes of a direction are kept in every state. -/
theorem conserves_of_exec {cfg : Peer → Config} {evs : List PeerEvent}
    (hrun : exec Peers.step (established cfg) evs = some s) (p : Peer) : s.Conserves p :=
  invariant_of_exec (fun _ _ _ hs h => Conserves.step hs h) (conserves_established cfg p) hrun

/-- The output of both ends is intact in every state. -/
theorem outputIntact_of_exec {cfg : Peer → Config} {evs : List PeerEvent}
    (hrun : exec Peers.step (established cfg) evs = some s) (p : Peer) :
    (s.conn p).OutputIntact :=
  conn_invariant (I := fun _ w => w.OutputIntact) (fun _ _ _ _ hw h => hw.step h)
    (fun _ _ b hw => hw.setInput b) (fun p => World.OutputIntact.established (cfg p)) hrun p

/-- The wires know of the half-closes. -/
structure KnowsFin (s : Peers) : Prop where
  sent : ∀ p, (s.conn p).sentFin = true → (s.wire p).finished = true
  finished : ∀ p, (s.wire p).finished = true → s.gone p = true ∨ (s.conn p).HalfClosed

/-- Every step keeps it. -/
theorem KnowsFin.step (hs : s.KnowsFin) (h : s.step ev = some s') : s'.KnowsFin := by
  refine ⟨fun p hsent => ?_, fun p hfinished => ?_⟩
  · cases step_eq_some h with
    | @step q e w' =>
      rcases q.eq_or_eq_other p with rfl | rfl
      · rw [after_conn_self] at hsent
        simp [hsent]
      · rw [after_conn_other] at hsent
        simpa using hs.sent _ hsent
    | @retrieve q len =>
      obtain ⟨inputBuffer, heq⟩ := s.exists_afterRetrieve_conn q len p
      rw [heq] at hsent
      exact hs.sent p hsent
    | @close q =>
      rcases q.eq_or_eq_other p with rfl | rfl
      · simp [afterClose]
      · simpa [afterClose] using hs.sent _ hsent
  · cases step_eq_some h with
    | @step q e w' alive hw' =>
      rcases q.eq_or_eq_other p with rfl | rfl
      · rw [after_conn_self]
        rcases Bool.or_eq_true_iff.mp (by simpa using hfinished) with hold | hnew
        · have hsuffix := (World.step_eq_some hw').2.suffix
          exact (hs.finished _ hold).imp_right fun ⟨d, hd, hfin⟩ => ⟨d, hsuffix.subset hd, hfin⟩
        · exact .inr (by simp [World.sentFin] at hnew; exact hnew.1)
      · rw [after_conn_other]
        exact hs.finished _ (by simpa using hfinished)
    | @retrieve q len =>
      obtain ⟨inputBuffer, heq⟩ := s.exists_afterRetrieve_conn q len p
      rw [heq]
      exact hs.finished p hfinished
    | @close q =>
      rcases q.eq_or_eq_other p with rfl | rfl
      · exact .inl (by simp [afterClose])
      · simpa [afterClose] using hs.finished _ (by simpa [afterClose] using hfinished)

/-- It holds at the start. -/
lemma knowsFin_established (cfg : Peer → Config) : (established cfg).KnowsFin := by
  refine ⟨fun p hsent => ?_, fun p hfinished => by simp [established] at hfinished⟩
  have hopen : ¬ (cfg p).established.HalfClosed := by
    simp [World.HalfClosed, (cfg p).established_history, Effect.isShutdownWrite]
  simp [established, World.sentFin, hopen] at hsent

/-- It holds in every reachable state. -/
theorem knowsFin_of_exec {cfg : Peer → Config} {evs : List PeerEvent}
    (hrun : exec Peers.step (established cfg) evs = some s) : s.KnowsFin :=
  invariant_of_exec (fun _ _ _ hs h => hs.step h) (knowsFin_established cfg) hrun

end Peers

/-- In every state of every run, what the application at one end has retrieved, its
`inputBuffer_` and the wire hold a prefix of the bytes that were passed to `sendInLoop` at the
other end, in their order; and unless that end has died they hold, with its `outputBuffer_`, all
of them. -/
theorem stream_end_to_end {cfg : Peer → Config} {evs : List PeerEvent} {s : Peers}
    (hrun : exec Peers.step (Peers.established cfg) evs = some s) (p : Peer) :
    s.retrieved p.other ++ (s.conn p.other).inputBuffer_.readable ++ (s.wire p).unread <+:
        passedBytes (s.conn p).history ∧
      ((s.conn p).fault = none →
        s.retrieved p.other ++ (s.conn p.other).inputBuffer_.readable ++ (s.wire p).unread ++
          (s.conn p).outputBuffer_.readable = passedBytes (s.conn p).history) := by
  have hconserves : s.Conserves p := Peers.conserves_of_exec hrun p
  have hintact := Peers.outputIntact_of_exec hrun p
  unfold Peers.Conserves at hconserves
  rw [hconserves]
  exact ⟨hintact.accepted, fun hfault => (hintact.stream hfault).stream⟩

/-- The client sends two bytes, of which its kernel takes one; the server reads it. -/
theorem stream_end_to_end_partly_written :
    ∃ s, exec Peers.step (Peers.established fun _ => Config.single)
        [.step .client (.loopSend ⟨[104, 105], by decide⟩ ⟨.ok 1, .ok [], none⟩),
          .step .server (.poll EPOLLIN), .step .server .handleEvent,
          .step .server (.runCall (.ready [104]))] = some s ∧
      (s.conn .client).fault = none ∧ (s.conn .client).outputBuffer_.readable = [105] ∧
      s.retrieved .server ++ (s.conn .server).inputBuffer_.readable ++ (s.wire .client).unread ++
        (s.conn .client).outputBuffer_.readable = passedBytes (s.conn .client).history := by
  have hrun : ∃ s, exec Peers.step (Peers.established fun _ => Config.single)
      [.step .client (.loopSend ⟨[104, 105], by decide⟩ ⟨.ok 1, .ok [], none⟩),
        .step .server (.poll EPOLLIN), .step .server .handleEvent,
        .step .server (.runCall (.ready [104]))] = some s ∧
      ((s.conn .client).fault = none ∧ (s.conn .client).outputBuffer_.readable = [105]) :=
    exists_exec_of_any (by decide +kernel)
  obtain ⟨s, hrun, hfault, hleft⟩ := hrun
  exact ⟨s, hrun, hfault, hleft, (stream_end_to_end hrun .client).2 hfault⟩

end SimpleMuduo
