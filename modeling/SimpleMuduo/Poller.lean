import Mathlib.Logic.Function.Basic
import Mathlib.Data.Int.Init
import Mathlib.Tactic.Lemma

/-!
# Channels and the epoll poller

`Channel` and `EPollPoller`, together with the interest set that the kernel keeps for `epollfd_`.
The registration of a channel is stored three times: in `index_`, in the poller's `channels_` map
and in the kernel.  `Agrees` says that the three copies tell the same story, and
`updateChannel_agrees` and `removeChannel_agrees` say that the two poller operations keep it so
and never make `epoll_ctl` fail.

`PolledChannel` is a channel bundled with its poller and the proof that they agree.  Its
operations are the operations of `Channel`; none of them can reach the `abort()` in
`EPollPoller::update`.
-/

namespace SimpleMuduo

/-- A file descriptor. -/
abbrev Fd := ℤ

/-- The address of a `Channel` object. -/
abbrev ChannelPtr := ℕ

/-- A set of epoll events. -/
abbrev EventMask := BitVec 32

def EPOLLIN : EventMask := 0x001#32
def EPOLLPRI : EventMask := 0x002#32
def EPOLLOUT : EventMask := 0x004#32
def EPOLLERR : EventMask := 0x008#32
def EPOLLHUP : EventMask := 0x010#32

/-- `Channel::kNoneEvent`. -/
def kNoneEvent : EventMask := 0#32

/-- `Channel::kReadEvent`. -/
def kReadEvent : EventMask := EPOLLIN ||| EPOLLPRI

/-- `Channel::kWriteEvent`. -/
def kWriteEvent : EventMask := EPOLLOUT

/-- What `Channel::index_` records about the registration of the channel. -/
inductive ChannelIndex
  | kNew
  | kAdded
  | kDeleted
  deriving DecidableEq, Repr

/-- `simple_muduo::Channel`: the fields its own methods and the poller use. -/
structure Channel where
  /-- The address of the channel. -/
  self : ChannelPtr
  fd_ : Fd
  events_ : EventMask
  revents_ : EventMask
  index_ : ChannelIndex

/-- `isWriting()`. -/
def Channel.isWriting (c : Channel) : Bool := c.events_ &&& kWriteEvent != 0#32

/-- `isNoneEvent()`. -/
def Channel.isNoneEvent (c : Channel) : Bool := c.events_ == kNoneEvent

/-! ## The kernel's interest set -/

/-- An entry of the interest set: the events asked for and the data pointer. -/
structure EpollEvent where
  events : EventMask
  data : ChannelPtr
  deriving DecidableEq

/-- The operations of `epoll_ctl`. -/
inductive EpollOp
  | EPOLL_CTL_ADD
  | EPOLL_CTL_MOD
  | EPOLL_CTL_DEL
  deriving DecidableEq, Repr

/-- The interest set of an epoll instance. -/
abbrev InterestSet := Fd → Option EpollEvent

/-- `epoll_ctl`: an addition fails when the descriptor is registered, a modification or a
deletion when it is not. -/
def epoll_ctl (set : InterestSet) (op : EpollOp) (fd : Fd) (event : EpollEvent) :
    Option InterestSet :=
  match op, set fd with
  | .EPOLL_CTL_ADD, none => some (Function.update set fd (some event))
  | .EPOLL_CTL_MOD, some _ => some (Function.update set fd (some event))
  | .EPOLL_CTL_DEL, some _ => some (Function.update set fd none)
  | _, _ => none

/-! ## The poller -/

/-- `simple_muduo::EPollPoller` with the interest set of its `epollfd_`. -/
structure EPollPoller where
  /-- The channel map. -/
  channels_ : Fd → Option ChannelPtr
  /-- The interest set in the kernel. -/
  interest : InterestSet

namespace EPollPoller

/-- `update(int operation, Channel* channel)`; `none` is the `abort()` inside `LOG_ERROR`. -/
def update (p : EPollPoller) (operation : EpollOp) (c : Channel) : Option EPollPoller :=
  (epoll_ctl p.interest operation c.fd_ ⟨c.events_, c.self⟩).map
    fun set => { p with interest := set }

/-- `updateChannel(Channel* channel)`. -/
def updateChannel (p : EPollPoller) (c : Channel) : Option (Channel × EPollPoller) :=
  match c.index_ with
  | .kNew =>
    let p := { p with channels_ := Function.update p.channels_ c.fd_ (some c.self) }
    let c := { c with index_ := .kAdded }
    (p.update .EPOLL_CTL_ADD c).map fun p => (c, p)
  | .kDeleted =>
    let c := { c with index_ := .kAdded }
    (p.update .EPOLL_CTL_ADD c).map fun p => (c, p)
  | .kAdded =>
    if c.isNoneEvent then
      (p.update .EPOLL_CTL_DEL c).map fun p => ({ c with index_ := .kDeleted }, p)
    else
      (p.update .EPOLL_CTL_MOD c).map fun p => (c, p)

/-- `removeChannel(Channel* channel)`. -/
def removeChannel (p : EPollPoller) (c : Channel) : Option (Channel × EPollPoller) :=
  let p := { p with channels_ := Function.update p.channels_ c.fd_ none }
  let erased :=
    match c.index_ with
    | .kAdded => p.update .EPOLL_CTL_DEL c
    | _ => some p
  erased.map fun p => ({ c with index_ := .kNew }, p)

end EPollPoller

/-- The three copies of the registration of a channel agree. -/
def Agrees (c : Channel) (p : EPollPoller) : Prop :=
  p.channels_ c.fd_ = (if c.index_ = .kNew then none else some c.self) ∧
    p.interest c.fd_ = if c.index_ = .kAdded then some ⟨c.events_, c.self⟩ else none

/-- The channel after `updateChannel`: it is registered unless it was and asks for nothing. -/
def Channel.updated (c : Channel) : Channel :=
  { c with index_ := if c.index_ = .kAdded ∧ c.isNoneEvent then .kDeleted else .kAdded }

/-- Changing the events of a channel that agrees with the poller and updating it succeeds, and
the channel agrees with the poller again. -/
theorem EPollPoller.updateChannel_agrees {c : Channel} {p : EPollPoller} (h : Agrees c p)
    (events : EventMask) :
    ∃ p', p.updateChannel { c with events_ := events } =
        some ({ c with events_ := events }.updated, p') ∧
      Agrees ({ c with events_ := events }.updated) p' := by
  obtain ⟨hmap, hset⟩ := h
  cases hidx : c.index_ with
  | kNew =>
    rw [hidx, if_neg (by decide)] at hset
    refine ⟨⟨Function.update p.channels_ c.fd_ (some c.self),
      Function.update p.interest c.fd_ (some ⟨events, c.self⟩)⟩, ?_, ?_⟩
    · simp [updateChannel, update, epoll_ctl, hset, Channel.updated]
    · simp [Agrees, Channel.updated]
  | kDeleted =>
    rw [hidx, if_neg (by decide)] at hmap hset
    refine ⟨⟨p.channels_, Function.update p.interest c.fd_ (some ⟨events, c.self⟩)⟩, ?_, ?_⟩
    · simp [updateChannel, update, epoll_ctl, hset, Channel.updated]
    · simp [Agrees, Channel.updated, hmap]
  | kAdded =>
    rw [hidx, if_neg (by decide)] at hmap
    rw [hidx, if_pos rfl] at hset
    by_cases hnone : events = kNoneEvent
    · refine ⟨⟨p.channels_, Function.update p.interest c.fd_ none⟩, ?_, ?_⟩
      · simp [updateChannel, Channel.isNoneEvent, hnone, update, epoll_ctl, hset, Channel.updated]
      · simp [Agrees, Channel.isNoneEvent, Channel.updated, hnone, hmap]
    · refine ⟨⟨p.channels_, Function.update p.interest c.fd_ (some ⟨events, c.self⟩)⟩, ?_, ?_⟩
      · simp [updateChannel, Channel.isNoneEvent, hnone, update, epoll_ctl, hset, Channel.updated]
      · simp [Agrees, Channel.isNoneEvent, Channel.updated, hnone, hmap]

/-- Removing a channel that agrees with the poller succeeds, and the channel agrees with the
poller again. -/
theorem EPollPoller.removeChannel_agrees {c : Channel} {p : EPollPoller} (h : Agrees c p) :
    ∃ p', p.removeChannel c = some ({ c with index_ := .kNew }, p') ∧
      Agrees { c with index_ := .kNew } p' := by
  obtain ⟨-, hset⟩ := h
  cases hidx : c.index_ with
  | kAdded =>
    rw [hidx, if_pos rfl] at hset
    refine ⟨⟨Function.update p.channels_ c.fd_ none, Function.update p.interest c.fd_ none⟩,
      ?_, ?_⟩
    · simp [removeChannel, hidx, update, epoll_ctl, hset]
    · simp [Agrees]
  | kNew | kDeleted =>
    rw [hidx, if_neg (by decide)] at hset
    refine ⟨⟨Function.update p.channels_ c.fd_ none, p.interest⟩, ?_, ?_⟩
    · simp [removeChannel, hidx]
    · simp [Agrees, hset]

/-! ## A channel with its poller -/

/-- A channel and the poller of its loop, which agree about its registration. -/
structure PolledChannel where
  channel : Channel
  poller : EPollPoller
  agrees : Agrees channel poller

namespace PolledChannel

/-- Set `events_` and call `Channel::update`. -/
def setEvents (pc : PolledChannel) (events : EventMask) : PolledChannel :=
  let updated := pc.poller.updateChannel { pc.channel with events_ := events }
  have hsome : updated.isSome := by
    obtain ⟨p', hp, -⟩ := EPollPoller.updateChannel_agrees pc.agrees events
    simp [updated, hp]
  { channel := (updated.get hsome).1
    poller := (updated.get hsome).2
    agrees := by
      obtain ⟨p', hp, hagrees⟩ := EPollPoller.updateChannel_agrees pc.agrees events
      simpa only [updated, hp, Option.get_some] using hagrees }

/-- `Channel::remove`. -/
def remove (pc : PolledChannel) : PolledChannel :=
  let removed := pc.poller.removeChannel pc.channel
  have hsome : removed.isSome := by
    obtain ⟨p', hp, -⟩ := EPollPoller.removeChannel_agrees pc.agrees
    simp [removed, hp]
  { channel := (removed.get hsome).1
    poller := (removed.get hsome).2
    agrees := by
      obtain ⟨p', hp, hagrees⟩ := EPollPoller.removeChannel_agrees pc.agrees
      simpa only [removed, hp, Option.get_some] using hagrees }

/-- `enableReading()`. -/
def enableReading (pc : PolledChannel) : PolledChannel :=
  pc.setEvents (pc.channel.events_ ||| kReadEvent)

/-- `enableWriting()`. -/
def enableWriting (pc : PolledChannel) : PolledChannel :=
  pc.setEvents (pc.channel.events_ ||| kWriteEvent)

/-- `disableWriting()`. -/
def disableWriting (pc : PolledChannel) : PolledChannel :=
  pc.setEvents (pc.channel.events_ &&& ~~~kWriteEvent)

/-- `disableAll()`. -/
def disableAll (pc : PolledChannel) : PolledChannel := pc.setEvents kNoneEvent

/-- `set_revents(int revt)`. -/
def set_revents (pc : PolledChannel) (revents : EventMask) : PolledChannel where
  channel := { pc.channel with revents_ := revents }
  poller := pc.poller
  agrees := pc.agrees

/-- `isWriting()`. -/
def isWriting (pc : PolledChannel) : Bool := pc.channel.isWriting

/-- The channel is in the poller's map or in the interest set. -/
def Registered (pc : PolledChannel) : Prop :=
  pc.poller.channels_ pc.channel.fd_ = some pc.channel.self ∨
    (pc.poller.interest pc.channel.fd_).isSome

/-- The channel after `update`. -/
@[simp] theorem setEvents_channel (pc : PolledChannel) (events : EventMask) :
    (pc.setEvents events).channel = { pc.channel with events_ := events }.updated := by
  obtain ⟨p', hp, -⟩ := EPollPoller.updateChannel_agrees pc.agrees events
  simp only [setEvents, hp, Option.get_some]

/-- The channel after `remove`. -/
@[simp] theorem remove_channel (pc : PolledChannel) :
    pc.remove.channel = { pc.channel with index_ := .kNew } := by
  obtain ⟨p', hp, -⟩ := EPollPoller.removeChannel_agrees pc.agrees
  simp only [remove, hp, Option.get_some]

/-- A channel is registered exactly when its index is not `kNew`. -/
theorem registered_iff (pc : PolledChannel) : pc.Registered ↔ pc.channel.index_ ≠ .kNew := by
  obtain ⟨hmap, hset⟩ := pc.agrees
  rw [Registered, hmap, hset]
  cases pc.channel.index_ <;> simp

/-- `update` registers the channel or at least keeps it in the poller's map. -/
lemma setEvents_index_ne (pc : PolledChannel) (events : EventMask) :
    (pc.setEvents events).channel.index_ ≠ .kNew := by
  rw [setEvents_channel, Channel.updated]
  dsimp only
  split <;> simp

/-! ### Interest in writing -/

/-- Whether a mask asks for `EPOLLOUT` is its bit 2. -/
lemma and_kWriteEvent_ne (events : EventMask) :
    (events &&& kWriteEvent != 0#32) = events.getLsbD 2 := by
  have hbit : kWriteEvent = BitVec.twoPow 32 2 := by decide
  rw [hbit, BitVec.and_twoPow]
  cases events.getLsbD 2
  · rfl
  · decide

@[simp] lemma isWriting_enableReading (pc : PolledChannel) :
    pc.enableReading.isWriting = pc.isWriting := by
  simp only [enableReading, isWriting, setEvents_channel, Channel.isWriting, Channel.updated,
    and_kWriteEvent_ne, BitVec.getLsbD_or]
  rw [show kReadEvent.getLsbD 2 = false by decide, Bool.or_false]

@[simp] lemma isWriting_enableWriting (pc : PolledChannel) : pc.enableWriting.isWriting = true := by
  simp only [enableWriting, isWriting, setEvents_channel, Channel.isWriting, Channel.updated,
    and_kWriteEvent_ne, BitVec.getLsbD_or]
  rw [show kWriteEvent.getLsbD 2 = true by decide, Bool.or_true]

@[simp] lemma isWriting_disableWriting (pc : PolledChannel) :
    pc.disableWriting.isWriting = false := by
  simp only [disableWriting, isWriting, setEvents_channel, Channel.isWriting, Channel.updated,
    and_kWriteEvent_ne, BitVec.getLsbD_and]
  rw [show (~~~kWriteEvent).getLsbD 2 = false by decide, Bool.and_false]

@[simp] lemma isWriting_disableAll (pc : PolledChannel) : pc.disableAll.isWriting = false := by
  simp only [disableAll, isWriting, setEvents_channel, Channel.isWriting, Channel.updated]
  decide

@[simp] lemma isWriting_remove (pc : PolledChannel) : pc.remove.isWriting = pc.isWriting := by
  simp [isWriting, Channel.isWriting]

@[simp] lemma isWriting_set_revents (pc : PolledChannel) (revents : EventMask) :
    (pc.set_revents revents).isWriting = pc.isWriting := rfl

end PolledChannel

end SimpleMuduo
