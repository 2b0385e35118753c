import SimpleMuduo.Foundation.TransitionSystem
import SimpleMuduo.Poller

/-!
# The bookkeeping of a poller with many channels

A poller serves all channels of its loop.  Channels with different descriptors do not get in each
other's way: an operation on one of them leaves the map and the interest set as they are at every
other descriptor.  So the agreement of `index_`, `channels_` and the interest set, which
`updateChannel` and `removeChannel` keep for the channel they are called with, is kept for all
channels, and no `epoll_ctl` ever fails.
-/

namespace SimpleMuduo

/-! ## The operations of a channel -/

namespace Channel

/-- `Channel(EventLoop* loop, int fd)`, allocated at `self`. -/
def new (self : ChannelPtr) (fd : Fd) : Channel := ⟨self, fd, kNoneEvent, kNoneEvent, .kNew⟩

/-- `update()`, which calls the poller of the loop. -/
def update (c : Channel) (p : EPollPoller) : Option (Channel × EPollPoller) := p.updateChannel c

/-- `enableReading()`. -/
def enableReading (c : Channel) (p : EPollPoller) : Option (Channel × EPollPoller) :=
  { c with events_ := c.events_ ||| kReadEvent }.update p

/-- `disableReading()`. -/
def disableReading (c : Channel) (p : EPollPoller) : Option (Channel × EPollPoller) :=
  { c with events_ := c.events_ &&& ~~~kReadEvent }.update p

/-- `enableWriting()`. -/
def enableWriting (c : Channel) (p : EPollPoller) : Option (Channel × EPollPoller) :=
  { c with events_ := c.events_ ||| kWriteEvent }.update p

/-- `disableWriting()`. -/
def disableWriting (c : Channel) (p : EPollPoller) : Option (Channel × EPollPoller) :=
  { c with events_ := c.events_ &&& ~~~kWriteEvent }.update p

/-- `disableAll()`. -/
def disableAll (c : Channel) (p : EPollPoller) : Option (Channel × EPollPoller) :=
  { c with events_ := kNoneEvent }.update p

/-- `remove()`. -/
def remove (c : Channel) (p : EPollPoller) : Option (Channel × EPollPoller) := p.removeChannel c

end Channel

/-- `Poller::hasChannel(Channel* channel)`. -/
def EPollPoller.hasChannel (p : EPollPoller) (c : Channel) : Bool :=
  p.channels_ c.fd_ = some c.self

/-- A poller that has just been constructed. -/
def EPollPoller.new : EPollPoller := ⟨fun _ => none, fun _ => none⟩

/-- The member functions of a channel that reach the poller. -/
inductive ChannelOp
  | enableReading
  | disableReading
  | enableWriting
  | disableWriting
  | disableAll
  | remove
  deriving DecidableEq, Repr

/-- The call of the member function; `none` is a failing `epoll_ctl`. -/
def ChannelOp.run : ChannelOp → Channel → EPollPoller → Option (Channel × EPollPoller)
  | .enableReading => Channel.enableReading
  | .disableReading => Channel.disableReading
  | .enableWriting => Channel.enableWriting
  | .disableWriting => Channel.disableWriting
  | .disableAll => Channel.disableAll
  | .remove => Channel.remove

/-! ## One channel -/

/-- `index_`, the map of the poller and the interest set say the same about the channel. -/
structure Bookkept (c : Channel) (p : EPollPoller) : Prop where
  added : c.index_ = .kAdded ↔ (p.interest c.fd_).isSome
  registered : c.index_ = .kAdded → p.interest c.fd_ = some ⟨c.events_, c.self⟩
  new : c.index_ = .kNew ↔ p.channels_ c.fd_ = none
  deleted : c.index_ = .kDeleted ↔ p.channels_ c.fd_ = some c.self ∧ p.interest c.fd_ = none
  has : p.hasChannel c = true ↔ c.index_ ≠ .kNew

lemma Agrees.bookkept {c : Channel} {p : EPollPoller} (h : Agrees c p) : Bookkept c p := by
  obtain ⟨hmap, hset⟩ := h
  constructor
  · rw [hset]
    cases c.index_ <;> simp
  · intro hadded
    rw [hset, if_pos hadded]
  · rw [hmap]
    cases c.index_ <;> simp
  · rw [hmap, hset]
    cases c.index_ <;> simp
  · rw [EPollPoller.hasChannel, hmap]
    cases c.index_ <;> simp

/-- The two states of a poller are the same except at the descriptor `fd`. -/
def SameExcept (fd : Fd) (p p' : EPollPoller) : Prop :=
  ∀ other, other ≠ fd → p'.channels_ other = p.channels_ other ∧
    p'.interest other = p.interest other

/-- `epoll_ctl` touches the entry of its descriptor only. -/
lemma epoll_ctl_of_ne {set set' : InterestSet} {op : EpollOp} {fd other : Fd} {event : EpollEvent}
    (h : epoll_ctl set op fd event = some set') (hne : other ≠ fd) : set' other = set other := by
  have hupdate (value : Option EpollEvent) : Function.update set fd value other = set other :=
    Function.update_of_ne hne value set
  unfold epoll_ctl at h
  split at h
  · obtain rfl := Option.some.inj h
    exact hupdate _
  · obtain rfl := Option.some.inj h
    exact hupdate _
  · obtain rfl := Option.some.inj h
    exact hupdate _
  · cases h

namespace SameExcept

variable {p p' : EPollPoller} {c c' : Channel} {op : EpollOp}

/-- An update of the poller after its map may have changed at the descriptor of the channel. -/
lemma of_update {v : Option ChannelPtr}
    (h : { p with channels_ := Function.update p.channels_ c.fd_ v }.update op c = some p') :
    SameExcept c.fd_ p p' := by
  intro other hne
  simp only [EPollPoller.update, Option.map_eq_some_iff] at h
  obtain ⟨set, hset, rfl⟩ := h
  exact ⟨Function.update_of_ne hne v p.channels_, epoll_ctl_of_ne hset hne⟩

lemma of_update_interest (h : p.update op c = some p') : SameExcept c.fd_ p p' := by
  intro other hne
  simp only [EPollPoller.update, Option.map_eq_some_iff] at h
  obtain ⟨set, hset, rfl⟩ := h
  exact ⟨rfl, epoll_ctl_of_ne hset hne⟩

lemma of_updateChannel (h : p.updateChannel c = some (c', p')) : SameExcept c.fd_ p p' := by
  unfold EPollPoller.updateChannel at h
  cases hidx : c.index_ with
  | kNew =>
    simp only [hidx, Option.map_eq_some_iff, Prod.mk.injEq] at h
    obtain ⟨q, hq, -, rfl⟩ := h
    have hfd : ({ c with index_ := .kAdded } : Channel).fd_ = c.fd_ := rfl
    exact hfd ▸ of_update (c := { c with index_ := .kAdded }) hq
  | kDeleted =>
    simp only [hidx, Option.map_eq_some_iff, Prod.mk.injEq] at h
    obtain ⟨q, hq, -, rfl⟩ := h
    exact of_update_interest (c := { c with index_ := .kAdded }) hq
  | kAdded =>
    simp only [hidx] at h
    split at h
    · simp only [Option.map_eq_some_iff, Prod.mk.injEq] at h
      obtain ⟨q, hq, -, rfl⟩ := h
      exact of_update_interest hq
    · simp only [Option.map_eq_some_iff, Prod.mk.injEq] at h
      obtain ⟨q, hq, -, rfl⟩ := h
      exact of_update_interest hq

lemma of_removeChannel (h : p.removeChannel c = some (c', p')) : SameExcept c.fd_ p p' := by
  simp only [EPollPoller.removeChannel, Option.map_eq_some_iff, Prod.mk.injEq] at h
  obtain ⟨q, hq, -, rfl⟩ := h
  cases hidx : c.index_ with
  | kAdded =>
    rw [hidx] at hq
    exact of_update hq
  | kNew | kDeleted =>
    rw [hidx] at hq
    obtain rfl := Option.some.inj hq
    intro other hne
    exact ⟨Function.update_of_ne hne none p.channels_, rfl⟩

/-- The registration of a channel with another descriptor is untouched. -/
lemma agrees {d : Channel} {fd : Fd} (h : SameExcept fd p p') (hne : d.fd_ ≠ fd)
    (hd : Agrees d p) : Agrees d p' := by
  obtain ⟨hmap, hset⟩ := h d.fd_ hne
  rw [Agrees, hmap, hset]
  exact hd

end SameExcept

/-- An operation on a channel that agrees with the poller never fails; the channel agrees with the
poller again, it is still the same channel, and no other descriptor is concerned. -/
theorem ChannelOp.run_agrees (op : ChannelOp) {c : Channel} {p : EPollPoller} (h : Agrees c p) :
    ∃ c' p', op.run c p = some (c', p') ∧ Agrees c' p' ∧ SameExcept c.fd_ p p' ∧
      c'.fd_ = c.fd_ ∧ c'.self = c.self := by
  have hupdate (events : EventMask) : ∃ c' p',
      Channel.update { c with events_ := events } p = some (c', p') ∧ Agrees c' p' ∧
        SameExcept c.fd_ p p' ∧ c'.fd_ = c.fd_ ∧ c'.self = c.self := by
    obtain ⟨p', hp, hagrees⟩ := EPollPoller.updateChannel_agrees h events
    have hsame := SameExcept.of_updateChannel hp
    exact ⟨_, p', hp, hagrees, hsame, rfl, rfl⟩
  cases op with
  | enableReading => exact hupdate (c.events_ ||| kReadEvent)
  | disableReading => exact hupdate (c.events_ &&& ~~~kReadEvent)
  | enableWriting => exact hupdate (c.events_ ||| kWriteEvent)
  | disableWriting => exact hupdate (c.events_ &&& ~~~kWriteEvent)
  | disableAll => exact hupdate kNoneEvent
  | remove =>
    obtain ⟨p', hp, hagrees⟩ := EPollPoller.removeChannel_agrees h
    exact ⟨_, p', hp, hagrees, SameExcept.of_removeChannel hp, rfl, rfl⟩

/-! ## All channels of a loop -/

/-- The channels of a loop and their poller. -/
structure ChannelTable (ι : Type*) where
  channels : ι → Channel
  poller : EPollPoller

namespace ChannelTable

variable {ι : Type*} [DecidableEq ι]

/-- New channels with the given addresses and descriptors, on a new poller. -/
def new (ptr : ι → ChannelPtr) (fd : ι → Fd) : ChannelTable ι where
  channels := fun i => Channel.new (ptr i) (fd i)
  poller := EPollPoller.new

/-- An operation on one of the channels. -/
def step (s : ChannelTable ι) (e : ι × ChannelOp) : Option (ChannelTable ι) :=
  (e.2.run (s.channels e.1) s.poller).map fun r =>
    { channels := Function.update s.channels e.1 r.1
      poller := r.2 }

/-- Every channel agrees with the poller, and is still the one it was. -/
structure TableInv (ptr : ι → ChannelPtr) (fd : ι → Fd) (s : ChannelTable ι) : Prop where
  agrees : ∀ i, Agrees (s.channels i) s.poller
  fd : ∀ i, (s.channels i).fd_ = fd i
  self : ∀ i, (s.channels i).self = ptr i

variable {ptr : ι → ChannelPtr} {fd : ι → Fd} {s : ChannelTable ι}

omit [DecidableEq ι] in
lemma TableInv.new : TableInv ptr fd (new ptr fd) := by
  refine ⟨?_, fun _ => rfl, fun _ => rfl⟩
  intro i
  exact ⟨rfl, rfl⟩

/-- An operation on one channel succeeds and keeps all of them in order. -/
theorem TableInv.step (hfd : Function.Injective fd) (hs : TableInv ptr fd s)
    (e : ι × ChannelOp) : ∃ s', s.step e = some s' ∧ TableInv ptr fd s' := by
  obtain ⟨i, op⟩ := e
  obtain ⟨c', p', hrun, hagrees, hsame, hfd', hself'⟩ := op.run_agrees (hs.agrees i)
  refine ⟨⟨Function.update s.channels i c', p'⟩, by simp [ChannelTable.step, hrun], ?_⟩
  constructor
  · intro j
    by_cases hij : j = i
    · subst hij
      simpa using hagrees
    · have hne : (s.channels j).fd_ ≠ (s.channels i).fd_ := by
        rw [hs.fd, hs.fd]
        exact hfd.ne hij
      simpa [hij] using hsame.agrees hne (hs.agrees j)
  · intro j
    by_cases hij : j = i
    · subst hij
      simpa [hfd'] using hs.fd j
    · simpa [hij] using hs.fd j
  · intro j
    by_cases hij : j = i
    · subst hij
      simpa [hself'] using hs.self j
    · simpa [hij] using hs.self j

end ChannelTable

/-- For any number of channels with pairwise distinct descriptors, every sequence of operations is
carried out without a failing `epoll_ctl`, and after it `index_`, the map of the poller and the
interest set say the same about every channel. -/
theorem poller_bookkeeping {ι : Type*} [DecidableEq ι] (ptr : ι → ChannelPtr) (fd : ι → Fd)
    (hfd : Function.Injective fd) (es : List (ι × ChannelOp)) :
    ∃ s, exec ChannelTable.step (ChannelTable.new ptr fd) es = some s ∧
      ∀ i, Bookkept (s.channels i) s.poller ∧ (s.channels i).fd_ = fd i ∧
        (s.channels i).self = ptr i := by
  have hrun : ∀ s : ChannelTable ι, ChannelTable.TableInv ptr fd s →
      ∃ s', exec ChannelTable.step s es = some s' ∧ ChannelTable.TableInv ptr fd s' := by
    induction es with
    | nil => exact fun s hs => ⟨s, rfl, hs⟩
    | cons e es ih =>
      intro s hs
      obtain ⟨t, ht, hinv⟩ := hs.step hfd e
      obtain ⟨s', hs', hinv'⟩ := ih t hinv
      exact ⟨s', exec_cons_eq_some.mpr ⟨t, ht, hs'⟩, hinv'⟩
  obtain ⟨s, hs, hinv⟩ := hrun _ ChannelTable.TableInv.new
  exact ⟨s, hs, fun i => ⟨(hinv.agrees i).bookkept, hinv.fd i, hinv.self i⟩⟩

/-- Two channels, one of which is switched off and registered again before it is removed. -/
theorem poller_bookkeeping_two :
    ∃ s, exec ChannelTable.step (ChannelTable.new (id : ℕ → ChannelPtr) (Nat.cast : ℕ → Fd))
        [(0, .enableReading), (1, .enableWriting), (0, .disableAll), (0, .enableReading),
          (0, .remove)] = some s ∧ Bookkept (s.channels 1) s.poller := by
  obtain ⟨s, hrun, hkept⟩ := poller_bookkeeping (id : ℕ → ChannelPtr) (Nat.cast : ℕ → Fd)
    (fun _ _ h => Int.ofNat.inj h) [(0, .enableReading), (1, .enableWriting), (0, .disableAll),
      (0, .enableReading), (0, .remove)]
  exact ⟨s, hrun, (hkept 1).1⟩

end SimpleMuduo
