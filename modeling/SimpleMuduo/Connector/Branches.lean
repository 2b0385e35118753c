import SimpleMuduo.Connector.State

/-!
# The branches of `connect`

What `connect()` comes to depends on what `::socket` and `::connect` answer, and on whether a
channel is in the way.  This file lists the branches once, each with the condition under which it is
taken, so that a property of `startInLoop` is proved by induction on the attempts and by going
through the list.
-/

namespace SimpleMuduo

namespace Connector

variable {υ : Type*}

/-- What `connect()` may come to, where `again` is the `startInLoop` that a retry calls. -/
inductive ConnectBranch (again : Connector υ → Except ConnectorHalt (Connector υ))
    (attempt : ConnectAttempt) (c : Connector υ) : Except ConnectorHalt (Connector υ) → Prop
  /-- `::socket` failed. -/
  | noSocket (failed : attempt.sockfd < 0) : ConnectBranch again attempt c (.error (.fault .abort))
  /-- `::socket` does not return a descriptor that is in use. -/
  | inUse (used : c.descriptors attempt.sockfd ≠ none) :
      ConnectBranch again attempt c (.error .impossible)
  /-- The socket gets a channel. -/
  | connecting (created : 0 ≤ attempt.sockfd) (free : c.descriptors attempt.sockfd = none)
      (errno : connectCase attempt.savedErrno = .connecting) (empty : c.channel_ = none) :
      ConnectBranch again attempt c
        (.ok (((c.openSocket attempt.sockfd).setState .kConnecting).newChannel attempt.sockfd))
  /-- The assertion of `connecting` failed. -/
  | channelInUse (created : 0 ≤ attempt.sockfd) (free : c.descriptors attempt.sockfd = none)
      (errno : connectCase attempt.savedErrno = .connecting) (full : c.channel_ ≠ none) :
      ConnectBranch again attempt c (.error (.fault .channelInUse))
  /-- The error is one after which `connect` retries. -/
  | retry {result : Except ConnectorHalt (Connector υ)} (created : 0 ≤ attempt.sockfd)
      (free : c.descriptors attempt.sockfd = none)
      (errno : connectCase attempt.savedErrno = .retry)
      (next : (c.openSocket attempt.sockfd).retry again attempt.sockfd = result) :
      ConnectBranch again attempt c result
  /-- The socket is closed. -/
  | close (created : 0 ≤ attempt.sockfd) (free : c.descriptors attempt.sockfd = none)
      (errno : connectCase attempt.savedErrno = .close) :
      ConnectBranch again attempt c
        (.ok ((c.openSocket attempt.sockfd).close attempt.sockfd))

variable {again : Connector υ → Except ConnectorHalt (Connector υ)} {attempt : ConnectAttempt}
  {c : Connector υ} {result : Except ConnectorHalt (Connector υ)}

/-- `connect()` takes one of its branches. -/
theorem branch_of_connect (h : connect again attempt c = result) :
    ConnectBranch again attempt c result := by
  subst h
  rw [connect, createNonblockingOrDie]
  by_cases hneg : attempt.sockfd < 0
  · rw [if_pos hneg]
    exact .noSocket hneg
  · rw [if_neg hneg]
    have hpos : 0 ≤ attempt.sockfd := Int.not_lt.mp hneg
    by_cases hfree : c.descriptors attempt.sockfd = none
    · rw [if_pos hfree, Except.bind]
      cases hcase : connectCase attempt.savedErrno with
      | connecting =>
        simp only [Connector.connecting]
        split_ifs with hchannel
        · exact .connecting hpos hfree hcase hchannel
        · exact .channelInUse hpos hfree hcase hchannel
      | retry => exact .retry hpos hfree hcase rfl
      | close => exact .close hpos hfree hcase
    · rw [if_neg hfree]
      exact .inUse hfree

end Connector

end SimpleMuduo
