import SimpleMuduo.Foundation.ReliableStream
import SimpleMuduo.Peers.Stream
import SimpleMuduo.TcpConnection.FinOrder

/-!
# The end of the stream

`shutdown` promises that the other end reads everything that was sent before it reads the end of
the stream.  This is so when the sender half-closes its socket in turn, with no `send` outstanding
and, once it is closed, with nothing left in `outputBuffer_`, and when its descriptor is closed
only after the kernel has accepted everything.  Then the direction from this sender is a reliable
stream: every run is matched by a run of `ReliableStream`, in which the receiver is the
`inputBuffer_` at the other end together with what the application has retrieved from it.
-/

namespace SimpleMuduo

namespace World

variable {w w' : World} {e : Event}

/-- If the step half-closes the socket, no `send` is outstanding, and a closed connection has
nothing left to write. -/
def FinishesInTurn (w : World) (e : Event) : Prop :=
  w.HalfCloses e → ¬ w.SendsOutstanding ∧
    (w.Closed → w.channel_.isWriting = false → w.outputBuffer_.readableBytes = 0)

/-- On a half-closed socket nothing is accepted or passed to `sendInLoop` any more. -/
lemma HalfCloseInv.leavesBytes (hw : HalfCloseInv w) (h : Step w e w') (hfin : w.HalfClosed) :
    Extends (fun d => d.accepted = [] ∧ d.passed = []) w.history w'.history := by
  obtain ⟨hidle, hstate, hnone⟩ := hw.idle hfin
  cases h.outputStep with
  | untouched h =>
    refine h.history.mono fun d hd => ⟨?_, ?_⟩
    · cases d <;> simp_all [Effect.movesOutput, Effect.accepted]
    · cases d <;> simp_all [Effect.movesOutput, Effect.passed]
  | loopSend connected | loopSendFault connected | loopShutdown connected =>
    exact absurd connected hstate
  | @handleWrite rest k _ todo branch =>
    have hrest : (w.setTodo rest).channel_.isWriting = false := hidle
    cases branch with
    | notWriting => exact .refl _
    | stuck _ writing | partly _ writing | drain writing | drainShutdown writing =>
      exact absurd (hrest.symm.trans writing) Bool.false_ne_true
  | sendInLoop functors => exact absurd ⟨_, _, _, captured_of_functors functors⟩ hnone
  | shutdownInLoop functors =>
    unfold World.shutdownInLoop
    split_ifs
    · exact .refl _
    · exact .cons ⟨rfl, rfl⟩

/-- A socket that is half-closed in turn leaves nothing behind in `outputBuffer_`. -/
lemma HalfCloseInv.readable_eq_nil (hw : HalfCloseInv w) (h : Step w e w')
    (hok : w.FinishesInTurn e) (hfin : ¬ w.HalfClosed) (hfin' : w'.HalfClosed) :
    w'.outputBuffer_.readable = [] := by
  have hempty (hidle : w.channel_.isWriting = false)
      (hclosed : w.Closed → w.channel_.isWriting = false → w.outputBuffer_.readableBytes = 0) :
      w.outputBuffer_.readable = [] := by
    refine Buffer.readableBytes_eq_zero.mp ?_
    by_cases hopen : w.Closed
    · exact hclosed hopen hidle
    · by_contra hne
      exact absurd ((hw.asks hopen).mpr hne) (by simp [hidle])
  have hstep := h.outputStep.halfCloseStep
  have hcloses : w.HalfCloses e :=
    hstep.keeps_or_halfCloses.resolve_left fun h => hfin (halfClosed_of_keepsFin h hfin')
  obtain ⟨-, hclosed⟩ := hok hcloses
  cases hstep with
  | keeps hkeeps => exact absurd (halfClosed_of_keepsFin hkeeps hfin') hfin
  | loopShutdown connected idle => exact hempty idle hclosed
  | drained => exact Buffer.readableBytes_eq_zero.mp (by simp [drained])
  | shutdownInLoop functors idle => exact hempty idle hclosed

lemma HalfCloseInv.setInput (hw : HalfCloseInv w) (inputBuffer : Buffer) :
    HalfCloseInv (w.setInput inputBuffer) :=
  ⟨⟨hw.connected.1, hw.connected.2, hw.connected.3⟩, hw.asks, hw.closing, hw.never, hw.idle⟩

end World

namespace Peers

variable {s s' : Peers} {p : Peer} {ev : PeerEvent}

/-- The direction from `p` as a stream. -/
def stream (s : Peers) (p : Peer) : ReliableStream UInt8 where
  sent := passedBytes (s.conn p).history
  received := s.retrieved p.other ++ (s.conn p.other).inputBuffer_.readable
  finished := (s.wire p).finished
  ended := s.sawEnd p.other

/-- `p` half-closes its socket in turn, and closes its descriptor only when the kernel has
accepted everything. -/
def EndsInTurn (p : Peer) (s : Peers) : PeerEvent → Prop
  | .step q e => q = p → (s.conn p).FinishesInTurn e
  | .retrieve _ _ => True
  | .close q => q = p → acceptedBytes (s.conn p).history = passedBytes (s.conn p).history

/-- What holds of the direction from `p` as long as it ends in turn. -/
structure EndInv (p : Peer) (s : Peers) : Prop where
  halfClose : (s.conn p).HalfCloseInv
  intact : (s.conn p).OutputIntact
  conserves : s.Conserves p
  knows : s.KnowsFin
  /-- Everything comes before the FIN. -/
  finished : (s.wire p).finished = true →
    acceptedBytes (s.conn p).history = passedBytes (s.conn p).history

namespace EndInv

variable {q : Peer} {e : Event} {w' : World}

/-- After a step of `p` itself, everything still comes before the FIN. -/
lemma finished_after_self (hs : EndInv p s) (alive : s.gone p = false)
    (h : (s.conn p).step e = some w') (hok : (s.conn p).FinishesInTurn e)
    (hfinished : ((s.wire p).finished || w'.sentFin) = true) :
    acceptedBytes w'.history = passedBytes w'.history := by
  obtain ⟨hfault, hstep⟩ := World.step_eq_some h
  cases hbefore : (s.wire p).finished with
  | true =>
    -- `p` is alive, so the FIN was a half-close
    rcases hs.knows.finished p hbefore with hgone | hfin
    · simp [alive] at hgone
    · have hleaves := hs.halfClose.leavesBytes hstep hfin
      rw [acceptedBytes, hleaves.collect_eq fun _ hd => hd.1, passedBytes,
        hleaves.collect_eq fun _ hd => hd.2]
      exact hs.finished hbefore
  | false =>
    have hsent : w'.sentFin = true := by simpa [hbefore] using hfinished
    obtain ⟨hfin', hfault'⟩ : w'.HalfClosed ∧ w'.fault = none := by
      simpa [World.sentFin] using hsent
    have hfin : ¬ (s.conn p).HalfClosed := by
      intro hfin
      have hsent : (s.conn p).sentFin = true := by simp [World.sentFin, hfin, hfault]
      simp [hs.knows.sent p hsent] at hbefore
    have hempty := hs.halfClose.readable_eq_nil hstep hok hfin hfin'
    exact ((hs.intact.step h).stream hfault').accepted_eq hempty

/-- Every step that ends in turn keeps the invariant. -/
theorem step (hs : EndInv p s) (hok : EndsInTurn p s ev) (h : s.step ev = some s') :
    EndInv p s' := by
  have hconserves := hs.conserves.step h
  have hknows := hs.knows.step h
  cases step_eq_some h with
  | @step q e w' alive hw' consistent =>
    rcases q.eq_or_eq_other p with rfl | rfl
    · refine ⟨?_, ?_, hconserves, hknows, ?_⟩ <;> rw [after_conn_self]
      · exact hs.halfClose.step (World.step_eq_some hw').2 fun hcloses => (hok rfl hcloses).1
      · exact hs.intact.step hw'
      · rw [after_wire_self]
        exact hs.finished_after_self alive hw' (hok rfl)
    · refine ⟨?_, ?_, hconserves, hknows, ?_⟩ <;> rw [after_conn_other]
      · exact hs.halfClose
      · exact hs.intact
      · rw [after_wire_other]
        exact hs.finished
  | @retrieve q len =>
    obtain ⟨inputBuffer, heq⟩ := s.exists_afterRetrieve_conn q len p
    refine ⟨?_, ?_, hconserves, hknows, ?_⟩ <;> rw [heq]
    · exact hs.halfClose.setInput _
    · exact hs.intact.setInput _
    · exact hs.finished
  | @close q =>
    refine ⟨hs.halfClose, hs.intact, hconserves, hknows, fun hfin => ?_⟩
    rcases q.eq_or_eq_other p with rfl | rfl
    · exact hok rfl
    · exact hs.finished (by simpa [afterClose] using hfin)

lemma established (cfg : Peer → Config) (p : Peer) : EndInv p (Peers.established cfg) where
  halfClose := World.HalfCloseInv.established (cfg p)
  intact := World.OutputIntact.established (cfg p)
  conserves := conserves_established cfg p
  knows := knowsFin_established cfg
  finished hfin := by simp [Peers.established] at hfin

end EndInv

/-! ## Senders on the loop thread -/

end Peers

end SimpleMuduo
