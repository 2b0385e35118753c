import SimpleMuduo.Foundation.TransitionSystem

/-!
# Reliable streams

What a one-way reliable stream with an end promises, as a transition system of its own: the sender
sends elements and finishes, the receiver receives them and sees the end.  Elements are received
in the order in which they were sent, and the end is seen only after all of them.  A system that
carries a stream is shown to refine this one, and inherits what is proved about it here.
-/

namespace SimpleMuduo

/-- What has happened on the stream. -/
structure ReliableStream (α : Type*) where
  /-- What the sender has sent. -/
  sent : List α
  /-- What the receiver has received. -/
  received : List α
  /-- The sender sends nothing more. -/
  finished : Bool
  /-- The receiver has seen the end. -/
  ended : Bool

/-- The steps of the sender and of the receiver. -/
inductive StreamEvent (α : Type*)
  | send (xs : List α)
  | finish
  | receive (xs : List α)
  | atEnd

namespace ReliableStream

variable {α : Type*}

/-- Nothing has happened yet. -/
def empty : ReliableStream α := ⟨[], [], false, false⟩

/-- What the stream allows: sending before it is finished, receiving what has been sent, and
seeing the end when everything has been received from a sender that has finished. -/
def step [DecidableEq α] (s : ReliableStream α) : StreamEvent α → Option (ReliableStream α)
  | .send xs => if s.finished = false then some { s with sent := s.sent ++ xs } else none
  | .finish => some { s with finished := true }
  | .receive xs =>
    if s.received ++ xs <+: s.sent then some { s with received := s.received ++ xs } else none
  | .atEnd =>
    if s.finished = true ∧ s.received = s.sent then some { s with ended := true } else none

/-- The receiver has a prefix of what was sent, and everything once it has seen the end. -/
structure Faithful (s : ReliableStream α) : Prop where
  prefix_sent : s.received <+: s.sent
  complete : s.ended = true → s.finished = true ∧ s.received = s.sent

variable [DecidableEq α] {s t : ReliableStream α}

/-- Every step keeps the stream faithful. -/
theorem Faithful.step {e : StreamEvent α} (hs : s.Faithful) (h : s.step e = some t) :
    t.Faithful := by
  cases e with
  | send xs =>
    simp only [ReliableStream.step, Option.ite_none_right_eq_some, Option.some.injEq] at h
    obtain ⟨hopen, rfl⟩ := h
    refine ⟨hs.prefix_sent.trans (List.prefix_append _ _), fun hended => ?_⟩
    -- the end has not been seen, because the sender has not finished
    exact absurd (hs.complete hended).1 (by simp [hopen])
  | finish =>
    obtain rfl := Option.some.inj h
    exact ⟨hs.prefix_sent, fun hended => ⟨rfl, (hs.complete hended).2⟩⟩
  | receive xs =>
    simp only [ReliableStream.step, Option.ite_none_right_eq_some, Option.some.injEq] at h
    obtain ⟨hfront, rfl⟩ := h
    refine ⟨hfront, fun hended => ?_⟩
    obtain ⟨hfinished, hall⟩ := hs.complete hended
    refine ⟨hfinished, ?_⟩
    have hle := hfront.length_le
    rw [hall, List.length_append] at hle
    have hnil : xs = [] := List.eq_nil_of_length_eq_zero (by omega)
    simpa [hnil] using hall
  | atEnd =>
    simp only [ReliableStream.step, Option.ite_none_right_eq_some, Option.some.injEq] at h
    obtain ⟨hend, rfl⟩ := h
    exact ⟨hs.prefix_sent, fun _ => hend⟩

end ReliableStream

end SimpleMuduo
