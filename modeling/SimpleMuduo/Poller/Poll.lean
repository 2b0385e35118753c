import Mathlib.Data.Finset.Card
import SimpleMuduo.Kernel
import SimpleMuduo.Poller.Bookkeeping

/-!
# `EPollPoller::poll`

`poll` waits for events of the registered channels, and `fillActiveChannels` tells the channels
about them and hands the channels to the loop.  `events_` limits how many channels are reported at
once; it is doubled when it was full.  Which of the ready descriptors the kernel reports when there
are more, and in which order it reports them, is its own choice.  Descriptors may be closed and
reused while the loop runs, so a channel may get a descriptor that another channel had before it.
-/

namespace SimpleMuduo

/-- `EPollPoller::kInitEventListSize`. -/
def kInitEventListSize : ℕ := 16

/-- The largest number of events that the kernel accepts in a call of `epoll_wait`: as many of
twelve bytes as an `int` can count bytes. -/
def EP_MAX_EVENTS : ℕ := (2 ^ 31 - 1) / 12

/-- `static_cast<int>` of an unsigned number. -/
def toCInt (n : ℕ) : ℤ := (BitVec.ofNat 32 n).toInt

lemma toCInt_of_lt {n : ℕ} (h : n < 2 ^ 31) : toCInt n = n := by
  rw [toCInt, BitVec.toInt_ofNat']
  exact Int.bmod_eq_of_le_mul_two (by omega) (by omega)

/-- The channels of a loop, its poller, and what the kernel keeps for the poller. -/
structure PollLoop where
  /-- The objects of type `Channel` by their addresses, and the poller. -/
  table : ChannelTable ChannelPtr
  /-- `events_.size()`. -/
  eventsSize : ℕ
  /-- The channels of `activeChannels_` that the loop has still to handle. -/
  activeChannels_ : List ChannelPtr
  /-- What has happened on each descriptor. -/
  happened : Fd → EventMask
  /-- The registered descriptors with an event to report. -/
  ready : Finset Fd
  /-- The channels that the loop has handled, the last one first. -/
  handled : List ChannelPtr

/-- What can happen to the loop. -/
inductive PollEvent
  /-- `Channel(loop, fd)` at the address `p`. -/
  | construct (p : ChannelPtr) (fd : Fd)
  /-- A member function of the channel `p` that reaches the poller. -/
  | operate (p : ChannelPtr) (op : ChannelOp)
  /-- Something happens on the descriptor. -/
  | happen (fd : Fd) (events : EventMask)
  /-- `activeChannels_.clear()` and `poll`, where the kernel reports the descriptors in this order
  or a signal interrupts the call. -/
  | poll (reported : Option (List Fd))
  /-- The `handleEvent` of the next active channel. -/
  | handle

namespace PollLoop

/-- A loop without channels. -/
def new : PollLoop where
  table := { channels := fun p => Channel.new p 0, poller := EPollPoller.new }
  eventsSize := kInitEventListSize
  activeChannels_ := []
  happened := fun _ => 0#32
  ready := ∅
  handled := []

/-! ## The kernel -/

/-- The events that are reported for a descriptor: those asked for, and errors and hang-ups in any
case. -/
def report (s : PollLoop) (fd : Fd) : EventMask :=
  match s.table.poller.interest fd with
  | none => 0#32
  | some e => s.happened fd &&& (e.events ||| EPOLLERR ||| EPOLLHUP)

/-- The address of the channel that is registered with a descriptor. -/
def dataPtr (s : PollLoop) (fd : Fd) : Option ChannelPtr :=
  (s.table.poller.interest fd).map EpollEvent.data

/-- The item of the list that `epoll_wait` returns. -/
def item (s : PollLoop) (fd : Fd) : Option EpollEvent :=
  (s.dataPtr fd).map fun p => ⟨s.report fd, p⟩

/-- The kernel may report these descriptors: each once and with an event to report, and as many as
there are or as fit into `events_`. -/
def MayReport (s : PollLoop) (fds : List Fd) : Prop :=
  fds.Nodup ∧ (∀ fd ∈ fds, fd ∈ s.ready) ∧ fds.length = min s.eventsSize s.ready.card

instance (s : PollLoop) (fds : List Fd) : Decidable (s.MayReport fds) :=
  inferInstanceAs (Decidable (_ ∧ _ ∧ _))

/-- `epoll_wait`, with the descriptors that the kernel reports unless a signal interrupts it. -/
def epoll_wait (s : PollLoop) (maxevents : ℤ) (reported : Option (List Fd)) :
    Except Errno (List EpollEvent) :=
  if maxevents ≤ 0 ∨ (EP_MAX_EVENTS : ℤ) < maxevents then .error EINVAL
  else
    match reported with
    | none => .error EINTR
    | some fds => .ok (fds.filterMap s.item)

/-- Whether the descriptor has an event to report after a change that concerns it. -/
def updateReady (s : PollLoop) (fd : Fd) : PollLoop :=
  { s with ready := if s.report fd = 0#32 then s.ready.erase fd else insert fd s.ready }

/-! ## The poller -/

/-- `set_revents(int revt)` on the channel at the address. -/
def set_revents (s : PollLoop) (p : ChannelPtr) (revents : EventMask) : PollLoop :=
  let c := { s.table.channels p with revents_ := revents }
  { s with table.channels := Function.update s.table.channels p c }

/-- `fillActiveChannels(int numEvents, ChannelList* activeChannels)`. -/
def fillActiveChannels : List EpollEvent → PollLoop → PollLoop
  | [], s => s
  | e :: es, s =>
    let s := s.set_revents e.data e.events
    fillActiveChannels es { s with activeChannels_ := s.activeChannels_ ++ [e.data] }

/-- `poll(int timeoutMs, ChannelList* activeChannels)`; `none` is the `abort()` in `LOG_ERROR`. -/
def poll (s : PollLoop) (reported : Option (List Fd)) : Option PollLoop :=
  match s.epoll_wait (toCInt s.eventsSize) reported with
  | .ok events =>
    if 0 < events.length then
      let s := fillActiveChannels events s
      if events.length = s.eventsSize then some { s with eventsSize := s.eventsSize * 2 }
      else some s
    else some s
  | .error savedErrno => if savedErrno ≠ EINTR then none else some s

/-- One event.  The loop polls again when all active channels have been handled. -/
def step (s : PollLoop) : PollEvent → Option PollLoop
  | .construct p fd => some
      { s with table.channels := Function.update s.table.channels p (Channel.new p fd) }
  | .operate p op =>
    (s.table.step (p, op)).map fun table => { s with table }.updateReady (s.table.channels p).fd_
  | .happen fd events =>
    some ({ s with happened := Function.update s.happened fd events }.updateReady fd)
  | .poll reported =>
    if s.activeChannels_ = [] ∧ ∀ fds ∈ reported, s.MayReport fds then s.poll reported else none
  | .handle =>
    match s.activeChannels_ with
    | [] => none
    | p :: rest => some { s with activeChannels_ := rest, handled := p :: s.handled }

/-- What the rest of the program and the system see to: a channel is destroyed after it has been
removed, and not while the loop has still to handle it; channels that are known to the poller have
different descriptors; and there are less than `2 ^ 27` descriptors with an event to report. -/
def Allowed (s : PollLoop) : PollEvent → Prop
  | .construct p _ => (s.table.channels p).index_ = .kNew ∧ p ∉ s.activeChannels_
  | .operate p _ => ∀ q ∈ s.table.poller.channels_ (s.table.channels p).fd_, q = p
  | .poll _ => s.ready.card < 2 ^ 27
  | .happen _ _ | .handle => True

instance (s : PollLoop) (e : PollEvent) : Decidable (s.Allowed e) :=
  match e with
  | .construct _ _ => inferInstanceAs (Decidable (_ ∧ _))
  | .operate p _ =>
    inferInstanceAs (Decidable (∀ q ∈ s.table.poller.channels_ (s.table.channels p).fd_, q = p))
  | .poll _ => inferInstanceAs (Decidable (s.ready.card < 2 ^ 27))
  | .happen _ _ | .handle => inferInstanceAs (Decidable True)

end PollLoop

/-! ## What the poller knows of the channels -/

/-- The poller knows the channels that have been added to it, and no others. -/
structure Kept (s : ChannelTable ChannelPtr) : Prop where
  self : ∀ p, (s.channels p).self = p
  agrees : ∀ p, (s.channels p).index_ ≠ .kNew → Agrees (s.channels p) s.poller
  known : ∀ fd p, s.poller.channels_ fd = some p →
    (s.channels p).fd_ = fd ∧ (s.channels p).index_ ≠ .kNew
  registered : ∀ fd e, s.poller.interest fd = some e → s.poller.channels_ fd = some e.data

namespace Kept

variable {s t : ChannelTable ChannelPtr} {p : ChannelPtr} {fd : Fd} {e : EpollEvent}

lemma new : Kept PollLoop.new.table where
  self := fun _ => rfl
  agrees := fun _ h => absurd rfl h
  known := fun _ _ h => by cases h
  registered := fun _ _ h => by cases h

/-- An entry of the interest set is the one of the channel that its pointer points to. -/
lemma of_interest (hs : Kept s) (h : s.poller.interest fd = some e) :
    (s.channels e.data).fd_ = fd ∧ (s.channels e.data).index_ = .kAdded ∧
      e.events = (s.channels e.data).events_ := by
  obtain ⟨hfd, hknown⟩ := hs.known fd e.data (hs.registered fd e h)
  have hset := (hs.agrees e.data hknown).2
  rw [hfd, h] at hset
  split at hset
  · rename_i hadded
    exact ⟨hfd, hadded, congrArg EpollEvent.events (Option.some.inj hset)⟩
  · cases hset

/-- A registered channel has its entry in the interest set. -/
lemma interest_of_added (hs : Kept s) (h : (s.channels p).index_ = .kAdded) :
    s.poller.interest (s.channels p).fd_ = some ⟨(s.channels p).events_, p⟩ := by
  have hset := (hs.agrees p (by simp [h])).2
  rwa [if_pos h, hs.self] at hset

/-- A channel agrees with the poller when no other channel with its descriptor is known. -/
lemma agrees_of_unshared (hs : Kept s)
    (hshare : ∀ q, s.poller.channels_ (s.channels p).fd_ = some q → q = p) :
    Agrees (s.channels p) s.poller := by
  by_cases hnew : (s.channels p).index_ = .kNew
  · have hmap : s.poller.channels_ (s.channels p).fd_ = none := by
      rw [Option.eq_none_iff_forall_ne_some]
      intro q hq
      obtain rfl := hshare q hq
      exact (hs.known _ q hq).2 hnew
    have hset : s.poller.interest (s.channels p).fd_ = none := by
      rw [Option.eq_none_iff_forall_ne_some]
      intro e he
      have hknown := hs.registered _ e he
      rw [hmap] at hknown
      cases hknown
    rw [Agrees, hmap, hset, hnew]
    exact ⟨rfl, rfl⟩
  · exact hs.agrees p hnew

/-- The operations of a channel succeed, and concern neither other channels nor other
descriptors. -/
lemma operate (hs : Kept s) (op : ChannelOp)
    (hshare : ∀ q, s.poller.channels_ (s.channels p).fd_ = some q → q = p) :
    ∃ t, s.step (p, op) = some t ∧ Kept t ∧
      SameExcept (s.channels p).fd_ s.poller t.poller ∧
      (t.channels p).fd_ = (s.channels p).fd_ ∧ ∀ q, q ≠ p → t.channels q = s.channels q := by
  obtain ⟨c', p', hrun, hagrees, hsame, hfd, hself⟩ := op.run_agrees (hs.agrees_of_unshared hshare)
  obtain ⟨hmap, hset⟩ := hagrees
  rw [hfd, hself, hs.self] at hmap
  rw [hfd] at hset
  have hother : ∀ q, q ≠ p → Function.update s.channels p c' q = s.channels q :=
    fun q hq => Function.update_of_ne hq c' s.channels
  refine ⟨⟨Function.update s.channels p c', p'⟩, by simp [ChannelTable.step, hrun], ?_, hsame,
    by simp [hfd], hother⟩
  refine { self := fun q => ?_, agrees := fun q hq => ?_, known := fun fd q hq => ?_,
           registered := fun fd e he => ?_ }
  · by_cases hqp : q = p
    · subst hqp
      simpa [hself] using hs.self q
    · simpa [hqp] using hs.self q
  · by_cases hqp : q = p
    · subst hqp
      simp only [Function.update_self]
      rw [Agrees, hfd, hself, hs.self]
      exact ⟨hmap, by simpa [hself, hs.self] using hset⟩
    · simp only [hother q hqp] at hq ⊢
      have hagrees := hs.agrees q hq
      -- two known channels do not share a descriptor
      have hne : (s.channels q).fd_ ≠ (s.channels p).fd_ := by
        intro heq
        have hmapped := hagrees.1
        rw [if_neg hq, heq, hs.self] at hmapped
        exact hqp (hshare q hmapped)
      exact hsame.agrees hne hagrees
  · by_cases hfdp : fd = (s.channels p).fd_
    · subst hfdp
      simp only [hmap] at hq
      split at hq
      · cases hq
      · obtain rfl := Option.some.inj hq
        simp only [Function.update_self]
        exact ⟨hfd, ‹_›⟩
    · rw [(hsame fd hfdp).1] at hq
      obtain ⟨hqfd, hqnew⟩ := hs.known fd q hq
      have hqp : q ≠ p := fun heq => hfdp (by rw [← hqfd, heq])
      simp only [hother q hqp]
      exact ⟨hqfd, hqnew⟩
  · by_cases hfdp : fd = (s.channels p).fd_
    · subst hfdp
      simp only [hset] at he
      split at he
      · rename_i hadded
        obtain rfl := Option.some.inj he
        simp only [hmap, hself, hs.self]
        rw [if_neg (by simp [hadded])]
      · cases he
    · rw [(hsame fd hfdp).2] at he
      rw [(hsame fd hfdp).1]
      exact hs.registered fd e he

/-- A channel that is constructed where a channel was that the poller does not know. -/
lemma construct (hs : Kept s) (hnew : (s.channels p).index_ = .kNew) (fd : Fd) :
    Kept { s with channels := Function.update s.channels p (Channel.new p fd) } := by
  have hother : ∀ q, q ≠ p → Function.update s.channels p (Channel.new p fd) q = s.channels q :=
    fun q hq => Function.update_of_ne hq _ s.channels
  refine { self := fun q => ?_, agrees := fun q hq => ?_, known := fun fd' q hq => ?_,
           registered := hs.registered }
  · by_cases hqp : q = p
    · subst hqp
      simp [Channel.new]
    · simpa [hqp] using hs.self q
  · by_cases hqp : q = p
    · subst hqp
      simp [Channel.new] at hq
    · simp only [hother q hqp] at hq ⊢
      exact hs.agrees q hq
  · obtain ⟨hfd, hknown⟩ := hs.known fd' q hq
    have hqp : q ≠ p := fun heq => hknown (heq ▸ hnew)
    simp only [hother q hqp]
    exact ⟨hfd, hknown⟩

/-- The poller does not look at `revents_`. -/
lemma congr (hs : Kept s) {channels : ChannelPtr → Channel}
    (h : ∀ p, ∃ revents, channels p = { s.channels p with revents_ := revents }) :
    Kept { s with channels } := by
  refine { self := fun q => ?_, agrees := fun q hq => ?_, known := fun fd q hq => ?_,
           registered := hs.registered }
  · obtain ⟨revents, hq⟩ := h q
    simpa [hq] using hs.self q
  · obtain ⟨revents, heq⟩ := h q
    simp only [heq] at hq ⊢
    exact hs.agrees q hq
  · obtain ⟨revents, heq⟩ := h q
    simpa [heq] using hs.known fd q hq

end Kept

end SimpleMuduo
