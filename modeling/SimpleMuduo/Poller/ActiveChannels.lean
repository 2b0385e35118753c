import SimpleMuduo.Foundation.TransitionSystem
import SimpleMuduo.Poller.Poll
import Mathlib.Algebra.Order.BigOperators.Group.Finset
import Mathlib.Data.Finset.Option
import Mathlib.Data.List.Nodup

/-!
# The channels that a poll reports

A poll hands the loop the channels that the kernel reports, each of them once and with what happened
to it in `revents_`.  The invariant behind this says that the descriptors with an event to report
are those of the registered channels with one, and that `events_` has not grown beyond what the
kernel accepts.
-/

namespace SimpleMuduo

namespace PollLoop

variable {s t : PollLoop} {p : ChannelPtr} {fd : Fd} {fds : List Fd} {e : PollEvent}

/-- The channels with an event to report. -/
def readyChannels (s : PollLoop) : Finset ChannelPtr :=
  s.ready.biUnion fun fd => (s.dataPtr fd).toFinset

/-! ## `fillActiveChannels` -/

/-- The channels after `set_revents` has been called for each of the events. -/
def reventsSet (channels : ChannelPtr → Channel) (events : List EpollEvent) :
    ChannelPtr → Channel :=
  events.foldl (fun channels e =>
    Function.update channels e.data { channels e.data with revents_ := e.events }) channels

/-- All that `fillActiveChannels` changes. -/
lemma fillActiveChannels_eq (events : List EpollEvent) (s : PollLoop) :
    fillActiveChannels events s =
      { s with
        table := { s.table with channels := reventsSet s.table.channels events }
        activeChannels_ := s.activeChannels_ ++ events.map EpollEvent.data } := by
  induction events generalizing s with
  | nil => simp [fillActiveChannels, reventsSet]
  | cons e es ih =>
    rw [fillActiveChannels, ih]
    simp [set_revents, reventsSet]

/-- A channel without an event keeps its `revents_`. -/
lemma reventsSet_of_notMem {channels : ChannelPtr → Channel} {events : List EpollEvent}
    (h : p ∉ events.map EpollEvent.data) : reventsSet channels events p = channels p := by
  induction events generalizing channels with
  | nil => rfl
  | cons e es ih =>
    obtain ⟨hhead, htail⟩ := not_or.mp (mt List.mem_cons.mpr h)
    exact (ih htail).trans (Function.update_of_ne hhead _ _)

/-- A channel with an event gets it. -/
lemma reventsSet_of_mem {channels : ChannelPtr → Channel} {events : List EpollEvent}
    {d : EpollEvent} (hnodup : (events.map EpollEvent.data).Nodup) (hd : d ∈ events) :
    reventsSet channels events d.data = { channels d.data with revents_ := d.events } := by
  induction events generalizing channels with
  | nil => cases hd
  | cons e es ih =>
    obtain ⟨hhead, htail⟩ := List.nodup_cons.mp hnodup
    obtain rfl | hmem := List.mem_cons.mp hd
    · exact (reventsSet_of_notMem hhead).trans (Function.update_self _ _ _)
    · have hne : d.data ≠ e.data := fun heq => hhead (heq ▸ List.mem_map_of_mem hmem)
      refine (ih htail hmem).trans ?_
      simp [hne]

/-- `set_revents` changes nothing but `revents_`. -/
lemma reventsSet_eq (channels : ChannelPtr → Channel) (events : List EpollEvent)
    (p : ChannelPtr) :
    ∃ revents, reventsSet channels events p = { channels p with revents_ := revents } := by
  induction events generalizing channels with
  | nil => exact ⟨(channels p).revents_, rfl⟩
  | cons e es ih =>
    obtain ⟨revents, h⟩ :=
      ih (Function.update channels e.data { channels e.data with revents_ := e.events })
    refine ⟨revents, h.trans ?_⟩
    by_cases hp : p = e.data
    · subst hp
      simp
    · simp [hp]

/-! ## The descriptors with an event to report -/

/-- `ready` has every descriptor with an event to report. -/
def ReadyInv (s : PollLoop) : Prop := ∀ fd, fd ∈ s.ready ↔ s.report fd ≠ 0#32

/-- What is reported does not depend on `ready`. -/
@[simp] lemma report_updateReady (s : PollLoop) (fd other : Fd) :
    (s.updateReady fd).report other = s.report other := rfl

/-- A change that concerns one descriptor. -/
lemma ReadyInv.updateReady
    (hmem : ∀ other, other ≠ fd → (other ∈ s.ready ↔ s.report other ≠ 0#32)) :
    ReadyInv (s.updateReady fd) := by
  intro other
  rw [report_updateReady]
  by_cases hnone : s.report fd = 0#32
  · have hready : (s.updateReady fd).ready = s.ready.erase fd := if_pos hnone
    rw [hready, Finset.mem_erase]
    by_cases hother : other = fd
    · subst hother
      simp [hnone]
    · simpa [hother] using hmem other hother
  · have hready : (s.updateReady fd).ready = insert fd s.ready := if_neg hnone
    rw [hready, Finset.mem_insert]
    by_cases hother : other = fd
    · subst hother
      simpa using hnone
    · simpa [hother] using hmem other hother

/-! ## The invariant -/

/-- What holds in every state that can be reached. -/
structure PollInv (s : PollLoop) : Prop where
  kept : Kept s.table
  ready : ReadyInv s
  size : ∃ k ≤ 23, s.eventsSize = kInitEventListSize * 2 ^ k

/-- It holds of a loop without channels. -/
lemma PollInv.new : PollInv PollLoop.new where
  kept := Kept.new
  ready := fun fd => by simp [PollLoop.new, report, EPollPoller.new]
  size := ⟨0, by omega, rfl⟩

/-- A descriptor with an event to report belongs to a registered channel. -/
lemma PollInv.of_ready (hs : PollInv s) (hfd : fd ∈ s.ready) :
    ∃ p, s.dataPtr fd = some p ∧ (s.table.channels p).fd_ = fd ∧
      (s.table.channels p).index_ = .kAdded := by
  have hreport := (hs.ready fd).mp hfd
  cases hset : s.table.poller.interest fd with
  | none => simp [report, hset] at hreport
  | some e =>
    obtain ⟨hefd, hadded, -⟩ := hs.kept.of_interest hset
    exact ⟨e.data, by simp [dataPtr, hset], hefd, hadded⟩

/-- The descriptor of a channel determines the channel. -/
lemma PollInv.dataPtr_eq_some (hs : PollInv s) :
    s.dataPtr fd = some p ↔
      (s.table.channels p).index_ = .kAdded ∧ (s.table.channels p).fd_ = fd := by
  constructor
  · intro hptr
    obtain ⟨e, hset, rfl⟩ := Option.map_eq_some_iff.mp hptr
    obtain ⟨hfd, hadded, -⟩ := hs.kept.of_interest hset
    exact ⟨hadded, hfd⟩
  · rintro ⟨hadded, rfl⟩
    simp [dataPtr, hs.kept.interest_of_added hadded]

/-- What is reported of a registered channel. -/
lemma PollInv.report_eq (hs : PollInv s) (hadded : (s.table.channels p).index_ = .kAdded) :
    s.report (s.table.channels p).fd_ = s.happened (s.table.channels p).fd_ &&&
      ((s.table.channels p).events_ ||| EPOLLERR ||| EPOLLHUP) := by
  simp [report, hs.kept.interest_of_added hadded]

/-- The channels with an event are the registered ones with something to report. -/
lemma PollInv.mem_readyChannels (hs : PollInv s) :
    p ∈ s.readyChannels ↔ (s.table.channels p).index_ = .kAdded ∧
      s.report (s.table.channels p).fd_ ≠ 0#32 := by
  simp only [readyChannels, Finset.mem_biUnion, Option.mem_toFinset, Option.mem_def]
  constructor
  · rintro ⟨fd, hready, hptr⟩
    obtain ⟨hadded, rfl⟩ := hs.dataPtr_eq_some.mp hptr
    exact ⟨hadded, (hs.ready _).mp hready⟩
  · rintro ⟨hadded, hreport⟩
    exact ⟨_, (hs.ready _).mpr hreport, hs.dataPtr_eq_some.mpr ⟨hadded, rfl⟩⟩

/-- Different descriptors belong to different channels. -/
lemma PollInv.nodup_filterMap (hs : PollInv s) (hnodup : fds.Nodup) :
    (fds.filterMap s.dataPtr).Nodup := by
  refine List.Nodup.filterMap (fun fd fd' q hfd hfd' => ?_) hnodup
  obtain ⟨-, rfl⟩ := hs.dataPtr_eq_some.mp hfd
  exact (hs.dataPtr_eq_some.mp hfd').2

/-- There are as many channels with an event to report as there are such descriptors. -/
lemma PollInv.card_readyChannels (hs : PollInv s) : s.readyChannels.card = s.ready.card := by
  have hone (fd : Fd) (hfd : fd ∈ s.ready) : (s.dataPtr fd).toFinset.card = 1 := by
    obtain ⟨p, hp, -⟩ := hs.of_ready hfd
    rw [hp, Option.toFinset_some, Finset.card_singleton]
  rw [readyChannels, Finset.card_biUnion, Finset.sum_congr rfl hone, Finset.card_eq_sum_ones]
  intro fd _ fd' _ hne
  refine Finset.disjoint_left.mpr ?_
  intro p hp hp'
  rw [Option.mem_toFinset, Option.mem_def, hs.dataPtr_eq_some] at hp hp'
  exact hne (hp.2.symm.trans hp'.2)

/-- Every reported descriptor has its channel. -/
lemma PollInv.length_filterMap (hs : PollInv s) (hfds : ∀ fd ∈ fds, fd ∈ s.ready) :
    (fds.filterMap s.dataPtr).length = fds.length := by
  induction fds with
  | nil => rfl
  | cons fd fds ih =>
    obtain ⟨p, hp, -⟩ := hs.of_ready (hfds fd List.mem_cons_self)
    rw [List.filterMap_cons_some hp, List.length_cons, List.length_cons,
      ih fun other hother => hfds other (List.mem_cons_of_mem fd hother)]

/-- The number of events fits into `int`, and the kernel accepts it. -/
lemma PollInv.size_le (hs : PollInv s) : 0 < s.eventsSize ∧ s.eventsSize ≤ EP_MAX_EVENTS ∧
    toCInt s.eventsSize = s.eventsSize := by
  obtain ⟨k, hk, hsize⟩ := hs.size
  have hpow : 2 ^ k ≤ 2 ^ 23 := Nat.pow_le_pow_right (by omega) hk
  have hpos : 0 < 2 ^ k := Nat.two_pow_pos k
  have hle : s.eventsSize ≤ 2 ^ 27 := by
    rw [hsize, kInitEventListSize]
    omega
  refine ⟨by rw [hsize, kInitEventListSize]; omega, ?_, toCInt_of_lt (by omega)⟩
  rw [EP_MAX_EVENTS]
  omega

/-! ## One poll -/

/-- The events that a poll reports when the kernel reports these descriptors. -/
def reported (s : PollLoop) (fds : List Fd) : List EpollEvent := fds.filterMap s.item

/-- The channels that such a poll hands to the loop. -/
def reportedChannels (s : PollLoop) (fds : List Fd) : List ChannelPtr := fds.filterMap s.dataPtr

/-- The pointers in the events are those of the channels. -/
lemma map_data_reported (s : PollLoop) (fds : List Fd) :
    (s.reported fds).map EpollEvent.data = s.reportedChannels fds := by
  rw [reported, reportedChannels, List.map_filterMap]
  refine List.filterMap_congr fun fd _ => ?_
  cases h : s.dataPtr fd <;> simp [item, h]

/-- The state after a poll that is not interrupted. -/
def afterPoll (s : PollLoop) (fds : List Fd) : PollLoop where
  table := { s.table with channels := reventsSet s.table.channels (s.reported fds) }
  eventsSize := if (s.reported fds).length = s.eventsSize then s.eventsSize * 2 else s.eventsSize
  activeChannels_ := s.activeChannels_ ++ s.reportedChannels fds
  happened := s.happened
  ready := s.ready
  handled := s.handled

/-- A poll that a signal interrupts changes nothing. -/
lemma PollInv.poll_interrupted (hs : PollInv s) : s.poll none = some s := by
  obtain ⟨hpos, hmax, hint⟩ := hs.size_le
  have hwait : s.epoll_wait (toCInt s.eventsSize) none = .error EINTR := by
    simp [epoll_wait, hint, hpos.ne', hmax]
  rw [poll, hwait]
  simp

/-- All that a poll can do. -/
lemma PollInv.poll_eq (hs : PollInv s) (fds : List Fd) :
    s.poll (some fds) = some (s.afterPoll fds) := by
  obtain ⟨hpos, hmax, hint⟩ := hs.size_le
  have hwait : s.epoll_wait (toCInt s.eventsSize) (some fds) = .ok (s.reported fds) := by
    simp [epoll_wait, hint, hpos.ne', hmax, reported]
  rw [poll, hwait]
  by_cases hsome : 0 < (s.reported fds).length
  · simp only [hsome, if_true, fillActiveChannels_eq, map_data_reported]
    split <;> simp [afterPoll, *]
  · -- nothing happened
    have hnil : s.reported fds = [] := List.eq_nil_of_length_eq_zero (by omega)
    have hnone : s.reportedChannels fds = [] := by rw [← map_data_reported, hnil, List.map_nil]
    simp [afterPoll, hnil, hnone, reventsSet, hpos.ne]

/-- As many channels are reported as fit. -/
lemma PollInv.length_reportedChannels (hs : PollInv s) (hfds : s.MayReport fds) :
    (s.reportedChannels fds).length = min s.eventsSize s.readyChannels.card := by
  rw [reportedChannels, hs.length_filterMap hfds.2.1, hfds.2.2, hs.card_readyChannels]

/-- No channel is reported twice. -/
lemma PollInv.nodup_reportedChannels (hs : PollInv s) (hfds : s.MayReport fds) :
    (s.reportedChannels fds).Nodup :=
  hs.nodup_filterMap hfds.1

/-- Only channels with an event to report are reported. -/
lemma PollInv.mem_of_reported (hs : PollInv s) (hfds : s.MayReport fds)
    (hp : p ∈ s.reportedChannels fds) : p ∈ s.readyChannels := by
  obtain ⟨fd, hfd, hptr⟩ := List.mem_filterMap.mp hp
  obtain ⟨hadded, rfl⟩ := hs.dataPtr_eq_some.mp hptr
  exact hs.mem_readyChannels.mpr ⟨hadded, (hs.ready _).mp (hfds.2.1 _ hfd)⟩

/-- The batch is full exactly when there are that many channels. -/
lemma PollInv.afterPoll_eventsSize (hs : PollInv s) (hfds : s.MayReport fds) :
    (s.afterPoll fds).eventsSize =
      if s.eventsSize ≤ s.readyChannels.card then s.eventsSize * 2 else s.eventsSize := by
  have hfull : (s.reported fds).length = s.eventsSize ↔ s.eventsSize ≤ s.readyChannels.card := by
    rw [← List.length_map EpollEvent.data, map_data_reported, hs.length_reportedChannels hfds,
      min_eq_left_iff]
  simp only [afterPoll, hfull]

/-- The events that happened to a channel are set, and those of other channels stay. -/
lemma PollInv.afterPoll_channels (hs : PollInv s) (hfds : s.MayReport fds) (p : ChannelPtr) :
    (s.afterPoll fds).table.channels p =
      if p ∈ s.reportedChannels fds then
        { s.table.channels p with revents_ := s.report (s.table.channels p).fd_ }
      else s.table.channels p := by
  change reventsSet s.table.channels (s.reported fds) p = _
  rw [← map_data_reported]
  split
  · rename_i hmem
    obtain ⟨d, hd, rfl⟩ := List.mem_map.mp hmem
    have hnodup : ((s.reported fds).map EpollEvent.data).Nodup := by
      rw [map_data_reported]
      exact hs.nodup_reportedChannels hfds
    rw [reventsSet_of_mem hnodup hd]
    obtain ⟨fd, -, hitem⟩ := List.mem_filterMap.mp hd
    obtain ⟨q, hq, rfl⟩ := Option.map_eq_some_iff.mp hitem
    obtain ⟨-, rfl⟩ := hs.dataPtr_eq_some.mp hq
    rfl
  · exact reventsSet_of_notMem ‹_›

/-! ## The steps -/

/-- A poll keeps it. -/
lemma PollInv.afterPoll (hs : PollInv s) (hfds : s.MayReport fds) (hlt : s.ready.card < 2 ^ 27) :
    PollInv (s.afterPoll fds) := by
  refine ⟨hs.kept.congr (reventsSet_eq s.table.channels (s.reported fds)), hs.ready, ?_⟩
  obtain ⟨k, hk, hsize⟩ := hs.size
  rw [hs.afterPoll_eventsSize hfds]
  split
  · refine ⟨k + 1, ?_, by rw [hsize, pow_succ, mul_assoc]⟩
    -- the list has been full with less than `2 ^ 27` events
    by_contra hbig
    obtain rfl : k = 23 := by omega
    have hfull : s.eventsSize = 2 ^ 27 := by rw [hsize, kInitEventListSize]; omega
    rw [hs.card_readyChannels] at *
    omega
  · exact ⟨k, hk, hsize⟩

/-- The operations of a channel succeed and keep it. -/
lemma PollInv.operate (hs : PollInv s) {op : ChannelOp} (hok : s.Allowed (.operate p op)) :
    ∃ t, s.step (.operate p op) = some t ∧ PollInv t := by
  obtain ⟨table, htable, hkept, hsame, -⟩ := hs.kept.operate op hok
  refine ⟨{ s with table }.updateReady (s.table.channels p).fd_,
    by rw [step, htable, Option.map_some], hkept, ?_, hs.size⟩
  refine ReadyInv.updateReady fun other hother => ?_
  have hset := (hsame other hother).2
  rw [hs.ready, report, report, hset]

/-- What a poll can lead to. -/
lemma PollInv.poll_cases (hs : PollInv s) {reported : Option (List Fd)}
    (h : s.step (.poll reported) = some t) :
    reported = none ∧ t = s ∨
      ∃ fds, reported = some fds ∧ s.activeChannels_ = [] ∧ s.MayReport fds ∧
        t = s.afterPoll fds := by
  obtain ⟨⟨hidle, hmay⟩, hpoll⟩ := Option.ite_none_right_eq_some.mp h
  cases reported with
  | none => exact .inl ⟨rfl, (Option.some.inj (hs.poll_interrupted.symm.trans hpoll)).symm⟩
  | some fds =>
    exact .inr ⟨fds, rfl, hidle, hmay fds rfl,
      (Option.some.inj ((hs.poll_eq fds).symm.trans hpoll)).symm⟩

/-- Every step keeps it. -/
lemma PollInv.step (hs : PollInv s) (hok : s.Allowed e) (h : s.step e = some t) : PollInv t := by
  cases e with
  | construct p fd =>
    obtain rfl := Option.some.inj h
    exact ⟨hs.kept.construct hok.1 fd, hs.ready, hs.size⟩
  | operate p op =>
    obtain ⟨u, hu, hinv⟩ := hs.operate hok
    obtain rfl : u = t := Option.some.inj (hu.symm.trans h)
    exact hinv
  | happen fd events =>
    obtain rfl := Option.some.inj h
    refine ⟨hs.kept, ReadyInv.updateReady fun other hother => ?_, hs.size⟩
    rw [hs.ready, report, report]
    simp [hother]
  | poll reported =>
    obtain ⟨-, rfl⟩ | ⟨fds, -, -, hfds, rfl⟩ := hs.poll_cases h
    · exact hs
    · exact hs.afterPoll hfds hok
  | handle =>
    rw [PollLoop.step] at h
    split at h
    · cases h
    · obtain rfl := Option.some.inj h
      exact ⟨hs.kept, hs.ready, hs.size⟩

/-- It holds in every state that can be reached. -/
lemma pollInv_of_exec {es : List PollEvent} (hmeets : Meets step Allowed PollLoop.new es)
    (hrun : exec step PollLoop.new es = some s) : PollInv s :=
  invariant_of_meets (fun _ _ _ hs hok h => hs.step hok h) PollInv.new hmeets hrun

/-! ## From a poll to the next one -/

/-- The operations of a channel do not concern `revents_`. -/
lemma run_revents {op : ChannelOp} {c c' : Channel} {q q' : EPollPoller}
    (h : op.run c q = some (c', q')) : c'.revents_ = c.revents_ := by
  have hpair {d : Channel} {o : Option EPollPoller} (h : (o.map fun r => (d, r)) = some (c', q')) :
      c' = d := by
    obtain ⟨_, _, heq⟩ := Option.map_eq_some_iff.mp h
    exact (congrArg Prod.fst heq).symm
  have hupdate {d : Channel} (h : q.updateChannel d = some (c', q')) :
      c'.revents_ = d.revents_ := by
    unfold EPollPoller.updateChannel at h
    split at h
    · rw [hpair h]
    · rw [hpair h]
    · split at h
      · rw [hpair h]
      · rw [hpair h]
  cases op with
  | remove => rw [hpair h]
  | enableReading | disableReading | enableWriting | disableWriting | disableAll =>
    exact (hupdate h).trans rfl

/-- Between two polls the loop handles the channels in their order, and what was reported of a
channel stays in its `revents_` until it is handled. -/
structure Handles (s t : PollLoop) : Prop where
  order : ∃ done, s.activeChannels_ = done ++ t.activeChannels_ ∧
    t.handled = done.reverse ++ s.handled
  revents : ∀ p ∈ t.activeChannels_,
    (t.table.channels p).revents_ = (s.table.channels p).revents_

/-- Nothing has been handled. -/
lemma Handles.refl (s : PollLoop) : Handles s s := ⟨⟨[], rfl, rfl⟩, fun _ _ => rfl⟩

/-- What is handled in two parts of a run. -/
lemma Handles.trans {u : PollLoop} (hst : Handles s t) (htu : Handles t u) : Handles s u := by
  obtain ⟨done, hactive, hhandled⟩ := hst.order
  obtain ⟨done', hactive', hhandled'⟩ := htu.order
  refine ⟨⟨done ++ done', ?_, ?_⟩, fun p hp => ?_⟩
  · rw [hactive, hactive', List.append_assoc]
  · rw [hhandled', hhandled, List.reverse_append, List.append_assoc]
  · rw [htu.revents p hp, hst.revents p (hactive' ▸ List.mem_append_right _ hp)]

/-- Every step but a poll. -/
lemma Handles.of_step (hok : s.Allowed e) (he : ∀ b, e ≠ .poll b) (h : s.step e = some t) :
    Handles s t := by
  cases e with
  | construct p fd =>
    obtain rfl := Option.some.inj h
    refine ⟨⟨[], rfl, rfl⟩, fun q hq => ?_⟩
    have hqp : q ≠ p := fun heq => hok.2 (heq ▸ hq)
    simp [hqp]
  | operate p op =>
    obtain ⟨table, htable, rfl⟩ := Option.map_eq_some_iff.mp h
    obtain ⟨⟨c', q'⟩, hrun, rfl⟩ := Option.map_eq_some_iff.mp htable
    refine ⟨⟨[], rfl, rfl⟩, fun q _ => ?_⟩
    by_cases hqp : q = p
    · subst hqp
      simpa [updateReady] using run_revents hrun
    · simp [updateReady, hqp]
  | happen fd events =>
    obtain rfl := Option.some.inj h
    exact ⟨⟨[], rfl, rfl⟩, fun _ _ => rfl⟩
  | poll reported => exact absurd rfl (he reported)
  | handle =>
    rw [PollLoop.step] at h
    split at h
    · cases h
    · rename_i p rest hactive
      obtain rfl := Option.some.inj h
      exact ⟨⟨[p], hactive, rfl⟩, fun _ _ => rfl⟩

/-- By induction on the run. -/
lemma Handles.of_exec {es : List PollEvent} (hmeets : Meets step Allowed s es)
    (hes : ∀ b, .poll b ∉ es) (hrun : exec step s es = some t) : Handles s t := by
  induction es generalizing s with
  | nil =>
    obtain rfl : s = t := Option.some.inj hrun
    exact Handles.refl s
  | cons e es ih =>
    obtain ⟨u, hu, hrest⟩ := exec_cons_eq_some.mp hrun
    obtain ⟨hok, hmeets'⟩ := hmeets u hu
    have he : ∀ b, e ≠ .poll b := fun b heq => hes b (heq ▸ List.mem_cons_self)
    have hes' : ∀ b, .poll b ∉ es := fun b hmem => hes b (List.mem_cons_of_mem e hmem)
    exact (Handles.of_step hok he hu).trans (ih hmeets' hes' hrest)

/-- The kernel can report something in every state. -/
lemma exists_mayReport (s : PollLoop) : ∃ fds, s.MayReport fds := by
  refine ⟨s.ready.toList.take s.eventsSize, ?_, fun fd hfd => ?_, ?_⟩
  · exact s.ready.nodup_toList.sublist (List.take_sublist _ _)
  · exact Finset.mem_toList.mp (List.mem_of_mem_take hfd)
  · rw [List.length_take, Finset.length_toList]

/-- A poll in any state that can be reached, and what happens until the next one.  It succeeds
whatever the kernel reports; it hands the loop `events_.size()` of the registered channels with an
event to report, or all of them when there are fewer, in the order of the kernel, each of them once
and with the events that happened to it, and leaves the other channels alone; and the loop then
handles them in this order, each with these events, whatever other channels are registered, changed,
removed or constructed meanwhile. -/
theorem poll_reports {es : List PollEvent} (hmeets : Meets step Allowed PollLoop.new es)
    (hrun : exec step PollLoop.new es = some s) (hidle : s.activeChannels_ = []) :
    (∀ p, p ∈ s.readyChannels ↔ (s.table.channels p).index_ = .kAdded ∧
      s.happened (s.table.channels p).fd_ &&&
        ((s.table.channels p).events_ ||| EPOLLERR ||| EPOLLHUP) ≠ 0#32) ∧
    (∃ fds, s.MayReport fds) ∧
    ∀ fds, s.MayReport fds → ∃ t, s.step (.poll (some fds)) = some t ∧
      t.activeChannels_ = fds.filterMap s.dataPtr ∧ t.activeChannels_.Nodup ∧
      (∀ p ∈ t.activeChannels_, p ∈ s.readyChannels) ∧
      t.activeChannels_.length = min s.eventsSize s.readyChannels.card ∧
      (∀ p ∈ t.activeChannels_, t.table.channels p = { s.table.channels p with
        revents_ := s.happened (s.table.channels p).fd_ &&&
          ((s.table.channels p).events_ ||| EPOLLERR ||| EPOLLHUP) }) ∧
      (∀ p, p ∉ t.activeChannels_ → t.table.channels p = s.table.channels p) ∧
      ∀ fs u, Meets step Allowed t fs → (∀ b, .poll b ∉ fs) → exec step t fs = some u →
        Handles t u := by
  have hs := pollInv_of_exec hmeets hrun
  refine ⟨fun p => ?_, exists_mayReport s, fun fds hfds => ?_⟩
  · rw [hs.mem_readyChannels]
    exact and_congr_right fun hadded => by rw [hs.report_eq hadded]
  · have hactive : (s.afterPoll fds).activeChannels_ = s.reportedChannels fds := by
      simp [PollLoop.afterPoll, hidle]
    refine ⟨s.afterPoll fds, ?_, hactive, ?_, fun p hp => ?_, ?_, fun p hp => ?_, fun p hp => ?_,
      fun fs u hmeets' hfs hrun' => Handles.of_exec hmeets' hfs hrun'⟩
    · rw [step, if_pos ⟨hidle, by simpa using hfds⟩, hs.poll_eq]
    · rw [hactive]
      exact hs.nodup_reportedChannels hfds
    · rw [hactive] at hp
      exact hs.mem_of_reported hfds hp
    · rw [hactive]
      exact hs.length_reportedChannels hfds
    · rw [hactive] at hp
      have hadded := (hs.mem_readyChannels.mp (hs.mem_of_reported hfds hp)).1
      rw [hs.afterPoll_channels hfds, if_pos hp, hs.report_eq hadded]
    · rw [hactive] at hp
      rw [hs.afterPoll_channels hfds, if_neg hp]

/-- Two channels with an event, one of which has got the descriptor of a removed channel; the kernel
reports the one with the smaller descriptor last. -/
theorem poll_reports_reused_descriptor :
    ∃ s t, exec step PollLoop.new
        [.construct 0 5, .operate 0 .enableReading, .operate 0 .remove, .construct 1 5,
          .operate 1 .enableWriting, .construct 2 6, .operate 2 .enableReading,
          .happen 5 EPOLLOUT, .happen 6 EPOLLHUP] = some s ∧
      s.step (.poll (some [6, 5])) = some t ∧ t.activeChannels_ = [2, 1] := by
  have hrun : ((exec step PollLoop.new
      [.construct 0 5, .operate 0 .enableReading, .operate 0 .remove, .construct 1 5,
        .operate 1 .enableWriting, .construct 2 6, .operate 2 .enableReading,
        .happen 5 EPOLLOUT, .happen 6 EPOLLHUP]).any fun s =>
      decide (s.activeChannels_ = [] ∧ s.MayReport [6, 5] ∧
        [6, 5].filterMap s.dataPtr = [2, 1])) = true := by
    decide +kernel
  obtain ⟨s, hs, hidle, hmay, hchannels⟩ := exists_exec_of_any hrun
  obtain ⟨-, -, hpoll⟩ := poll_reports (by decide +kernel) hs hidle
  obtain ⟨t, ht, hactive, -⟩ := hpoll _ hmay
  exact ⟨s, t, hs, ht, hactive.trans hchannels⟩

end PollLoop

end SimpleMuduo
