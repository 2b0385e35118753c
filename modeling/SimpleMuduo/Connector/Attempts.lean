import Mathlib.Data.Stream.Init
import SimpleMuduo.Connector.State

/-!
# How many attempts one call makes

`retry` calls `runInLoop`, which on the loop's thread calls `startInLoop` at once, which calls
`connect`, which calls `retry`.  Nothing in this cycle counts, and `retryDelayMs_` is not used, so
what ends it can only come from outside: an answer of the kernel after which `connect` does not
retry, or another thread that stores `connect_ = false`.

A call is followed through an endless supply of such decisions, one `Round` for each attempt.  It
returns when some number of rounds is enough for it.  Each attempt is nested in the one before it,
but how many stack frames the thread has room for is not modelled.
-/

namespace SimpleMuduo

namespace Connector

variable {υ : Type*}

/-- What is decided outside of the loop's thread during one attempt. -/
structure Round where
  /-- `connect_` when `startInLoop` tests it. -/
  connectAtStart : Bool
  attempt : ConnectAttempt
  /-- `connect_` when `retry` tests it. -/
  connectAtRetry : Bool
  deriving DecidableEq, Repr

/-- What another thread has stored in `connect_`. -/
def storeConnect (c : Connector υ) (b : Bool) : Connector υ := { c with connect_ := b }

/-- `startInLoop()` while other threads store `connect_`, for at most as many attempts as there are
rounds. -/
def startInLoopDuring : List Round → Connector υ → Except ConnectorHalt (Connector υ)
  | [], _ => .error .impossible
  | round :: rest, c =>
    beforeConnect
      (fun c => connect (startInLoopDuring rest) round.attempt
        (c.storeConnect round.connectAtRetry))
      (c.storeConnect round.connectAtStart)

/-- The call makes finitely many attempts and returns. -/
def ReturnsDuring (rounds : Stream' Round) (c : Connector υ) : Prop :=
  ∃ n c', startInLoopDuring (rounds.take n) c = .ok c'

namespace Round

/-- The attempt fails with an error after which `connect` retries, and the retry is the next
attempt. -/
def GoesOn (r : Round) : Prop :=
  r.connectAtStart = true ∧ 0 ≤ r.attempt.sockfd ∧
    connectCase r.attempt.savedErrno = .retry ∧ r.connectAtRetry = true

/-- The attempt is made and is the last one, when `channel_` is `channel`. -/
def Returns (channel : Option ConnectorChannel) (r : Round) : Prop :=
  r.connectAtStart = true ∧ 0 ≤ r.attempt.sockfd ∧
    (connectCase r.attempt.savedErrno = .connecting ∧ channel = none ∨
      connectCase r.attempt.savedErrno = .retry ∧ r.connectAtRetry = false ∨
        connectCase r.attempt.savedErrno = .close)

instance (r : Round) : Decidable r.GoesOn := by
  unfold GoesOn
  infer_instance

instance (channel : Option ConnectorChannel) (r : Round) : Decidable (r.Returns channel) := by
  unfold Returns
  infer_instance

/-- The socket of the attempt is an error, or a descriptor that is not in use. -/
def Answerable (descriptors : Fd → Option OpenFile) (r : Round) : Prop :=
  0 ≤ r.attempt.sockfd → descriptors r.attempt.sockfd = none

end Round

variable {c c' : Connector υ} {r : Round} {rest : List Round}

/-! ## One attempt -/

/-- The connector after an attempt that goes on. -/
def afterRetry (c : Connector υ) (r : Round) : Connector υ :=
  (((c.storeConnect r.connectAtRetry).openSocket r.attempt.sockfd).close
    r.attempt.sockfd).setState .kDisconnected

/-- The socket of the failed attempt has been closed again. -/
lemma descriptors_afterRetry (hfree : c.descriptors r.attempt.sockfd = none) :
    (c.afterRetry r).descriptors = c.descriptors := by
  funext fd
  by_cases hfd : fd = r.attempt.sockfd
  · subst hfd
    simp [afterRetry, setState, close, hfree]
  · simp [afterRetry, setState, close, openSocket, storeConnect, hfd]

lemma startInLoopDuring_cons (r : Round) (rest : List Round) (c : Connector υ) :
    startInLoopDuring (r :: rest) c =
      if c.state_ = .kDisconnected then
        if r.connectAtStart = true then
          connect (startInLoopDuring rest) r.attempt (c.storeConnect r.connectAtRetry)
        else .error (.fault .abort)
      else .error (.fault .startNotDisconnected) := rfl

/-- What becomes of an attempt that has got its socket. -/
lemma connect_of_free {startInLoop : Connector υ → Except ConnectorHalt (Connector υ)}
    {attempt : ConnectAttempt} (hpos : 0 ≤ attempt.sockfd)
    (hfree : c.descriptors attempt.sockfd = none) :
    connect startInLoop attempt c =
      match connectCase attempt.savedErrno with
      | .connecting => (c.openSocket attempt.sockfd).connecting attempt.sockfd
      | .retry => (c.openSocket attempt.sockfd).retry startInLoop attempt.sockfd
      | .close => .ok ((c.openSocket attempt.sockfd).close attempt.sockfd) := by
  rw [connect, createNonblockingOrDie, if_neg (Int.not_lt.mpr hpos), if_pos hfree]
  rfl

/-- Outside of the state `kDisconnected` the assertion fails. -/
lemma startInLoopDuring_of_ne {rounds : List Round} (h : c.state_ ≠ .kDisconnected) :
    ∀ c', startInLoopDuring rounds c ≠ .ok c' := by
  intro c' hok
  cases rounds with
  | nil => cases hok
  | cons r rest =>
    rw [startInLoopDuring_cons, if_neg h] at hok
    cases hok

/-- An attempt that goes on leaves the rest of the rounds to the next one. -/
lemma startInLoopDuring_of_goesOn (hstate : c.state_ = .kDisconnected)
    (hanswer : r.Answerable c.descriptors) (h : r.GoesOn) :
    startInLoopDuring (r :: rest) c = startInLoopDuring rest (c.afterRetry r) := by
  obtain ⟨hstart, hpos, hcase, hretry⟩ := h
  have hfree' : (c.storeConnect r.connectAtRetry).descriptors r.attempt.sockfd = none :=
    hanswer hpos
  rw [startInLoopDuring_cons, if_pos hstate, if_pos hstart, connect_of_free hpos hfree', hcase]
  exact if_pos hretry

/-- Every other attempt is the last one, and it returns exactly when nothing aborts in it. -/
lemma returns_of_not_goesOn (hstate : c.state_ = .kDisconnected)
    (hanswer : r.Answerable c.descriptors) (h : ¬ r.GoesOn) :
    (∃ c', startInLoopDuring (r :: rest) c = .ok c') ↔ r.Returns c.channel_ := by
  unfold Round.GoesOn at h
  unfold Round.Returns
  rw [startInLoopDuring_cons, if_pos hstate]
  by_cases hstart : r.connectAtStart = true
  · rw [if_pos hstart]
    by_cases hpos : 0 ≤ r.attempt.sockfd
    · have hfree : (c.storeConnect r.connectAtRetry).descriptors r.attempt.sockfd = none :=
        hanswer hpos
      rw [connect_of_free hpos hfree]
      cases hcase : connectCase r.attempt.savedErrno with
      | connecting =>
        by_cases hchannel : c.channel_ = none
        · simp [hstart, hpos, hchannel, connecting, setState, openSocket, storeConnect]
        · simp [hchannel, connecting, setState, openSocket, storeConnect]
      | retry =>
        have hstop : r.connectAtRetry = false := by simpa [hstart, hpos, hcase] using h
        simp [hstart, hpos, hstop, retry, openSocket, setState, close, storeConnect]
      | close => simp [hstart, hpos]
    · rw [connect, createNonblockingOrDie, if_pos (Int.not_le.mp hpos)]
      simp [hpos, Except.bind]
  · simp [hstart]

/-! ## A whole call -/

/-- As long as the attempts go on, the call creates one socket after the other. -/
lemma exists_of_goesOn {rounds : Stream' Round} {n : ℕ} (hstate : c.state_ = .kDisconnected)
    (hanswer : ∀ k, (rounds.get k).Answerable c.descriptors)
    (h : ∀ k < n, (rounds.get k).GoesOn) :
    ∃ c' : Connector υ, c'.state_ = .kDisconnected ∧ c'.descriptors = c.descriptors ∧
      c'.channel_ = c.channel_ ∧ c'.sockets = c.sockets + n ∧
      ∀ rest, startInLoopDuring (rounds.take n ++ rest) c = startInLoopDuring rest c' := by
  induction n generalizing c rounds with
  | zero => exact ⟨c, hstate, rfl, rfl, rfl, fun rest => rfl⟩
  | succ n ih =>
    have hhead := h 0 (Nat.succ_pos n)
    have hsame := descriptors_afterRetry (hanswer 0 hhead.2.1)
    have htail : ∀ k, (rounds.tail.get k).Answerable (c.afterRetry (rounds.get 0)).descriptors := by
      intro k
      rw [hsame]
      exact hanswer (k + 1)
    obtain ⟨c', hstate', hdesc, hchannel, hsockets, hrest⟩ :=
      ih (c := c.afterRetry (rounds.get 0)) rfl htail
        fun k hk => h (k + 1) (Nat.succ_lt_succ hk)
    refine ⟨c', hstate', hdesc.trans hsame, hchannel, ?_, fun rest => ?_⟩
    · rw [hsockets]
      change c.sockets + 1 + n = _
      omega
    · rw [← hrest rest, Stream'.take_succ, List.cons_append]
      exact startInLoopDuring_of_goesOn hstate (hanswer 0) hhead

/-- A call that returns has come to an attempt that does not go on. -/
lemma exists_returns_of_ok {rounds : Stream' Round} {n : ℕ} (hstate : c.state_ = .kDisconnected)
    (hanswer : ∀ k, (rounds.get k).Answerable c.descriptors)
    (hok : startInLoopDuring (rounds.take n) c = .ok c') :
    ∃ m, (∀ k < m, (rounds.get k).GoesOn) ∧ (rounds.get m).Returns c.channel_ := by
  induction n generalizing c rounds with
  | zero => cases hok
  | succ n ih =>
    rw [Stream'.take_succ] at hok
    by_cases hhead : (rounds.get 0).GoesOn
    · have hsame := descriptors_afterRetry (hanswer 0 hhead.2.1)
      have hnext : startInLoopDuring (rounds.tail.take n) (c.afterRetry (rounds.get 0)) = .ok c' :=
        (startInLoopDuring_of_goesOn hstate (hanswer 0) hhead).symm.trans hok
      obtain ⟨m, hgo, hreturns⟩ := ih rfl (fun k => by rw [hsame]; exact hanswer (k + 1)) hnext
      refine ⟨m + 1, fun k hk => ?_, hreturns⟩
      cases k with
      | zero => exact hhead
      | succ k => exact hgo k (Nat.lt_of_succ_lt_succ hk)
    · have hreturns := (returns_of_not_goesOn hstate (hanswer 0) hhead).mp ⟨c', hok⟩
      exact ⟨0, fun k hk => absurd hk (Nat.not_lt_zero k), hreturns⟩

/-- An attempt that returns does not go on. -/
lemma Round.Returns.not_goesOn {channel : Option ConnectorChannel} (h : r.Returns channel) :
    ¬ r.GoesOn := by
  rintro ⟨-, -, hcase, hretry⟩
  obtain ⟨-, -, ⟨hconnecting, -⟩ | ⟨-, hstop⟩ | hclose⟩ := h
  · rw [hcase] at hconnecting
    cases hconnecting
  · rw [hretry] at hstop
    cases hstop
  · rw [hcase] at hclose
    cases hclose

/-- Whatever the kernel answers and whatever other threads store in `connect_`, a call of
`startInLoop` makes finitely many attempts and returns exactly when it is made in the state
`kDisconnected` and one of its attempts is the last: the kernel lets it get as far as `connecting`,
with `channel_` empty, or fails it with an error after which `connect` does not retry, or `retry`
finds that `connect_` has been reset. -/
theorem returnsDuring_iff {rounds : Stream' Round} {c : Connector υ}
    (hanswer : ∀ k, (rounds.get k).Answerable c.descriptors) :
    c.ReturnsDuring rounds ↔
      c.state_ = .kDisconnected ∧
        ∃ n, (∀ k < n, (rounds.get k).GoesOn) ∧ (rounds.get n).Returns c.channel_ := by
  constructor
  · rintro ⟨n, c', hok⟩
    have hstate : c.state_ = .kDisconnected := by
      by_contra hne
      exact startInLoopDuring_of_ne hne c' hok
    exact ⟨hstate, exists_returns_of_ok hstate hanswer hok⟩
  · rintro ⟨hstate, n, hgo, hreturns⟩
    obtain ⟨d, hdstate, hdesc, hchannel, -, hrest⟩ := exists_of_goesOn hstate hanswer hgo
    have hlast : (rounds.get n).Returns d.channel_ := by rwa [hchannel]
    have hanswer' : (rounds.get n).Answerable d.descriptors := by
      rw [hdesc]
      exact hanswer n
    obtain ⟨c', hok⟩ : ∃ c', startInLoopDuring [rounds.get n] d = .ok c' :=
      (returns_of_not_goesOn hdstate hanswer' hreturns.not_goesOn).mpr hlast
    refine ⟨n + 1, c', ?_⟩
    rw [Stream'.take_succ', hrest]
    exact hok

/-- The first connection is refused, the second one is in progress. -/
theorem returnsDuring_second_attempt :
    ReturnsDuring (fun k => ⟨true, ⟨5, if k = 0 then ECONNREFUSED else EINPROGRESS⟩, true⟩)
      ((new ()).storeConnect true) :=
  (returnsDuring_iff fun _ _ => rfl).mpr ⟨rfl, 1, by decide, by decide⟩

/-- The kernel refuses every connection: the call does not return, and it creates one socket after
the other. -/
theorem not_returnsDuring_refused :
    ¬ ReturnsDuring (Stream'.const ⟨true, ⟨5, ECONNREFUSED⟩, true⟩)
        ((new ()).storeConnect true) ∧
      ∀ n, ∃ c' : Connector Unit, c'.sockets = n ∧ ∀ rest,
        startInLoopDuring ((Stream'.const ⟨true, ⟨5, ECONNREFUSED⟩, true⟩).take n ++ rest)
          ((new ()).storeConnect true) = startInLoopDuring rest c' := by
  have hgo : Round.GoesOn ⟨true, ⟨5, ECONNREFUSED⟩, true⟩ := by decide
  constructor
  · rintro ⟨n, c', hok⟩
    obtain ⟨m, -, hreturns⟩ := exists_returns_of_ok rfl (fun _ _ => rfl) hok
    exact hreturns.not_goesOn hgo
  · intro n
    obtain ⟨c', -, -, -, hsockets, hrest⟩ :=
      exists_of_goesOn (n := n) (c := (new ()).storeConnect true) rfl (fun _ _ => rfl)
        fun _ _ => hgo
    exact ⟨c', hsockets.trans (Nat.zero_add n), hrest⟩

end Connector

end SimpleMuduo
