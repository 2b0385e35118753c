import SimpleMuduo.TcpConnection.InputSteps
import SimpleMuduo.TcpConnection.OutputStream
import SimpleMuduo.TcpConnection.HalfClose

/-!
# Two connections that talk to each other

The two ends of a TCP connection, each of them a `TcpConnection` of this library with its loop,
its other threads and its application.  Between them are the socket buffers and the network, seen
as two wires: a wire holds the bytes that `::write` has accepted at one end and `::readv` has not
delivered at the other, and whether the FIN has been sent behind them.  The system calls of the
two ends answer as the wires have it; how many bytes are accepted, how many have arrived and
whether a call fails is up to the kernels.

An end leaves when its process has died or its last `TcpConnectionPtr` is gone: the descriptor is
closed, which sends the FIN too.
-/

namespace SimpleMuduo

/-- An end of the connection. -/
inductive Peer
  | client
  | server
  deriving DecidableEq, Repr

/-- The end at the other side. -/
def Peer.other : Peer → Peer
  | .client => .server
  | .server => .client

@[simp] lemma Peer.other_other (p : Peer) : p.other.other = p := by cases p <;> rfl

@[simp] lemma Peer.other_ne (p : Peer) : p.other ≠ p := by cases p <;> decide

@[simp] lemma Peer.ne_other (p : Peer) : p ≠ p.other := by cases p <;> decide

lemma Peer.eq_or_eq_other (p q : Peer) : q = p ∨ q = p.other := by
  cases p <;> cases q <;> decide

/-- One direction of the connection, from `::write` at one end to `::readv` at the other. -/
structure Wire where
  /-- The bytes that have been accepted and not been delivered. -/
  unread : Bytes
  /-- The FIN has been sent. -/
  finished : Bool

/-- What `::readv` may answer at the end of the wire: some of the bytes under way, the end of the
stream when nothing is under way before the FIN, or an error. -/
def Wire.Answers (wire : Wire) : Except Errno Bytes → Prop
  | .ok arrived => arrived <+: wire.unread ∧
      (arrived = [] → wire.unread = [] ∧ wire.finished = true)
  | .error _ => True

instance (wire : Wire) (answer : Except Errno Bytes) : Decidable (wire.Answers answer) :=
  match answer with
  | .ok _ => inferInstanceAs (Decidable (_ ∧ _))
  | .error _ => inferInstanceAs (Decidable True)

/-- The two ends and what is between them. -/
structure Peers where
  conn : Peer → World
  /-- `wire p` carries what `p` writes. -/
  wire : Peer → Wire
  /-- What the application has retrieved from `inputBuffer_`. -/
  retrieved : Peer → Bytes
  /-- `handleRead` has read the end of the stream. -/
  sawEnd : Peer → Bool
  /-- The descriptor of this end has been closed. -/
  gone : Peer → Bool

/-- The steps of the two ends. -/
inductive PeerEvent
  /-- A step of the connection of `p`, its loop or one of its threads. -/
  | step (p : Peer) (e : Event)
  /-- The application of `p` calls `inputBuffer_.retrieve(len)`. -/
  | retrieve (p : Peer) (len : ℕ)
  /-- `close` of the descriptor of `p`. -/
  | close (p : Peer)

namespace World

/-- The bytes that the kernel has accepted on the way from `w` to `w'`. -/
def accepts (w w' : World) : Bytes :=
  (acceptedBytes w'.history).drop (acceptedBytes w.history).length

/-- The step reads the end of the stream. -/
def readsEnd (w : World) (e : Event) : Bool :=
  match w.readvIn e with
  | some (.ok []) => true
  | _ => false

/-- The socket has been half-closed, and the process has gone on. -/
def sentFin (w : World) : Bool := w.HalfClosed && w.fault.isNone

end World

namespace Peers

/-- The kernels answer as the wires have it: `::readv` delivers what is under way to `p`, and
`::write` takes nothing after the FIN. -/
def Consistent (s : Peers) (p : Peer) (e : Event) (w' : World) : Prop :=
  (∀ answer, (s.conn p).readvIn e = some answer → (s.wire p.other).Answers answer) ∧
    ((s.wire p).finished = true → (s.conn p).accepts w' = [])

instance (s : Peers) (p : Peer) (e : Event) (w' : World) : Decidable (s.Consistent p e w') :=
  have : Decidable (∀ answer, (s.conn p).readvIn e = some answer →
      (s.wire p.other).Answers answer) :=
    match h : (s.conn p).readvIn e with
    | none => isTrue (by simp)
    | some answer => decidable_of_iff ((s.wire p.other).Answers answer) (by simp)
  inferInstanceAs (Decidable (_ ∧ _))

/-- The system after the connection of `p` has gone to `w'`: what the kernel accepted is on the
wire of `p`, and what it delivered is no longer on the other one. -/
def after (s : Peers) (p : Peer) (e : Event) (w' : World) : Peers where
  conn := Function.update s.conn p w'
  wire q :=
    if q = p then
      ⟨(s.wire p).unread ++ (s.conn p).accepts w', (s.wire p).finished || w'.sentFin⟩
    else ⟨(s.wire q).unread.drop ((s.conn p).delivered e).length, (s.wire q).finished⟩
  retrieved := s.retrieved
  sawEnd := Function.update s.sawEnd p (s.sawEnd p || (s.conn p).readsEnd e)
  gone := s.gone

/-- `inputBuffer_.retrieve(len)` by the application of `p`. -/
def afterRetrieve (s : Peers) (p : Peer) (len : ℕ) : Peers :=
  let inputBuffer := (s.conn p).inputBuffer_
  { s with
    conn := Function.update s.conn p ((s.conn p).setInput (inputBuffer.retrieve len))
    retrieved := Function.update s.retrieved p (s.retrieved p ++ inputBuffer.readable.take len) }

/-- `close` of the descriptor of `p`. -/
def afterClose (s : Peers) (p : Peer) : Peers :=
  { s with
    wire := Function.update s.wire p ⟨(s.wire p).unread, true⟩
    gone := Function.update s.gone p true }

/-- The descriptor of `p` may be closed: the process has died, or `connectDestroyed` has returned
to the loop. -/
def MayClose (s : Peers) (p : Peer) : Prop :=
  (s.conn p).fault ≠ none ∨
    .connectDestroyedReturned ∈ (s.conn p).history ∧ (s.conn p).todo = []

instance (s : Peers) (p : Peer) : Decidable (s.MayClose p) := inferInstanceAs (Decidable (_ ∨ _))

/-- One step of the system.  An end that is gone does nothing any more. -/
def step (s : Peers) : PeerEvent → Option Peers
  | .step p e =>
    if s.gone p then none
    else ((s.conn p).step e).bind fun w' =>
      if s.Consistent p e w' then some (s.after p e w') else none
  | .retrieve p len =>
    if s.gone p ∨ (s.conn p).fault ≠ none then none else some (s.afterRetrieve p len)
  | .close p => if s.gone p = false ∧ s.MayClose p then some (s.afterClose p) else none

/-- The two connections after `connectEstablished`, with nothing sent yet. -/
def established (cfg : Peer → Config) : Peers where
  conn p := (cfg p).established
  wire _ := ⟨[], false⟩
  retrieved _ := []
  sawEnd _ := false
  gone _ := false

/-! ## What a step can do -/

/-- Everything that a step can do. -/
inductive Steps (s : Peers) : PeerEvent → Peers → Prop
  | step {p e w'} (alive : s.gone p = false) (step : (s.conn p).step e = some w')
      (consistent : s.Consistent p e w') : Steps s (.step p e) (s.after p e w')
  | retrieve {p len} (alive : s.gone p = false) (fault : (s.conn p).fault = none) :
      Steps s (.retrieve p len) (s.afterRetrieve p len)
  | close {p} (alive : s.gone p = false) (closes : s.MayClose p) :
      Steps s (.close p) (s.afterClose p)

/-- Every step is in the list. -/
theorem step_eq_some {s s' : Peers} {ev : PeerEvent} (h : s.step ev = some s') :
    s.Steps ev s' := by
  cases ev with
  | step p e =>
    simp only [step, Option.ite_none_left_eq_some, Option.bind_eq_some_iff] at h
    obtain ⟨halive, w', hw', h⟩ := h
    obtain ⟨hconsistent, rfl⟩ := by simpa using h
    exact .step (by simpa using halive) hw' hconsistent
  | retrieve p len =>
    simp only [step, Option.ite_none_left_eq_some, Option.some.injEq, not_or, not_not] at h
    obtain ⟨⟨halive, hfault⟩, rfl⟩ := h
    exact .retrieve (by simpa using halive) hfault
  | close p =>
    simp only [step, Option.ite_none_right_eq_some, Option.some.injEq] at h
    obtain ⟨⟨halive, hcloses⟩, rfl⟩ := h
    exact .close halive hcloses

end Peers

end SimpleMuduo
