import SimpleMuduo.Poller.ActiveChannels

/-!
# The size of `events_`

`epoll_wait` reports no more than `events_.size()` channels at once, and which of them it reports
when there are more is up to the kernel.  But `events_` is doubled by every poll that fills it, so a
busy loop does not starve any of its channels: the number of polls that leave out a channel with an
event to report is logarithmic in the number of channels that have one at the same time.
-/

namespace SimpleMuduo

/-- A poll that is not interrupted. -/
def PollEvent.isPoll : PollEvent → Bool
  | .poll (some _) => true
  | _ => false

namespace PollLoop

variable {s t : PollLoop} {p : ChannelPtr} {fds : List Fd} {e : PollEvent} {es : List PollEvent}
  {n : ℕ}

/-! ## How `events_` grows -/

/-- Nothing but a poll changes the size. -/
lemma eventsSize_eq (he : ∀ b, e ≠ .poll b) (h : s.step e = some t) :
    t.eventsSize = s.eventsSize := by
  cases e with
  | construct q fd | happen fd events =>
    obtain rfl := Option.some.inj h
    rfl
  | operate q op =>
    obtain ⟨table, -, rfl⟩ := Option.map_eq_some_iff.mp h
    rfl
  | poll reported => exact absurd rfl (he reported)
  | handle =>
    rw [step] at h
    split at h
    · cases h
    · obtain rfl := Option.some.inj h
      rfl

/-- The list of events is doubled by a poll that fills it; nothing else changes its size. -/
lemma PollInv.eventsSize_step (hs : PollInv s) (h : s.step e = some t) :
    t.eventsSize = s.eventsSize ∨
      s.eventsSize ≤ s.readyChannels.card ∧ t.eventsSize = s.eventsSize * 2 := by
  by_cases he : ∀ b, e ≠ .poll b
  · exact .inl (eventsSize_eq he h)
  · obtain ⟨b, rfl⟩ := not_forall_not.mp he
    obtain ⟨-, rfl⟩ | ⟨fds, -, -, hfds, rfl⟩ := hs.poll_cases h
    · exact .inl rfl
    · rw [hs.afterPoll_eventsSize hfds]
      split
      · exact .inr ⟨‹_›, rfl⟩
      · exact .inl rfl

lemma PollInv.eventsSize_mono (hs : PollInv s) (h : s.step e = some t) :
    s.eventsSize ≤ t.eventsSize := by
  obtain heq | ⟨-, hdouble⟩ := hs.eventsSize_step h
  · exact heq.ge
  · rw [hdouble]
    exact Nat.le_mul_of_pos_right _ Nat.two_pos

/-- `events_` never gets more than twice as large as the number of channels with an event to
report. -/
lemma PollInv.eventsSize_le (hs : PollInv s) (hmeets : Meets PollLoop.step Allowed s es)
    (hmost : Always PollLoop.step (fun u => u.readyChannels.card ≤ n) s es)
    (hrun : exec PollLoop.step s es = some t) : t.eventsSize ≤ max s.eventsSize (2 * n) := by
  refine (invariant_of_meets
    (I := fun u => PollInv u ∧ u.eventsSize ≤ max s.eventsSize (2 * n)) ?_
    ⟨hs, le_max_left _ _⟩ (hmeets.and hmost.meets) hrun).2
  rintro u e v ⟨hinv, hsize⟩ ⟨hok, hcard, -⟩ h
  refine ⟨hinv.step hok h, ?_⟩
  obtain heq | ⟨hfull, hdouble⟩ := hinv.eventsSize_step h
  · rw [heq]
    exact hsize
  · rw [hdouble, Nat.mul_comm]
    exact le_max_of_le_right (Nat.mul_le_mul_left 2 (hfull.trans hcard))

/-! ## Polls that leave out a channel -/

/-- The poll leaves out a channel with an event to report. -/
def LeavesOut (s : PollLoop) (e : PollEvent) : Prop :=
  e.isPoll = true ∧ s.eventsSize < s.readyChannels.card

instance (s : PollLoop) (e : PollEvent) : Decidable (s.LeavesOut e) :=
  inferInstanceAs (Decidable (_ ∧ _))

/-- Such a poll doubles `events_`. -/
lemma PollInv.double_of_leavesOut (hs : PollInv s) (hleaves : s.LeavesOut e)
    (h : s.step e = some t) : s.eventsSize * 2 ≤ t.eventsSize := by
  obtain ⟨hpoll, hmore⟩ := hleaves
  cases e with
  | poll reported =>
    obtain ⟨rfl, -⟩ | ⟨fds, -, -, hfds, rfl⟩ := hs.poll_cases h
    · cases hpoll
    · rw [hs.afterPoll_eventsSize hfds, if_pos hmore.le]
  | _ => cases hpoll

/-- When there are never more than `n` channels with an event to report, then all the polls of a run
but a logarithmic number of them report every channel with an event. -/
theorem leavesOut_rarely {es : List PollEvent} {n : ℕ}
    (hmeets : Meets step Allowed PollLoop.new es)
    (hmost : Always step (fun u => u.readyChannels.card ≤ n) PollLoop.new es)
    (hrun : exec step PollLoop.new es = some s) :
    kInitEventListSize * 2 ^ tally step LeavesOut PollLoop.new es ≤
      max kInitEventListSize (2 * n) := by
  refine (mul_two_pow_tally_le (f := eventsSize) (I := PollInv) ?_ PollInv.new hmeets hrun).trans
    (PollInv.new.eventsSize_le hmeets hmost hrun)
  intro u e v hu hok h
  exact ⟨hu.step hok h, hu.eventsSize_mono h, fun hleaves => hu.double_of_leavesOut hleaves h⟩

/-- The events that make `n` channels have something to read. -/
def allReadable (n : ℕ) : List PollEvent :=
  (List.range n).flatMap fun p =>
    [.construct p p, .operate p .enableReading, .happen p EPOLLIN]

/-- Two polls and the handlers after them, with sixteen and with seventeen channels to report. -/
def twoPolls : List PollEvent :=
  .poll (some (List.range 16)) :: List.replicate 16 .handle ++
    .poll (some (List.range 17)) :: List.replicate 17 .handle

/-- One of two polls leaves out a channel when there are seventeen. -/
theorem leavesOut_rarely_seventeen :
    kInitEventListSize * 2 ^ tally step LeavesOut PollLoop.new (allReadable 17 ++ twoPolls) ≤
      max kInitEventListSize (2 * 17) := by
  have hany : ((exec step PollLoop.new (allReadable 17 ++ twoPolls)).any fun _ =>
      decide True) = true := by decide +kernel
  obtain ⟨s, hs, -⟩ := exists_exec_of_any hany
  exact leavesOut_rarely (by decide +kernel) (by decide +kernel) hs

/-! ## Polls that leave out a certain channel -/

/-- The kernel reports other channels than `p`. -/
def Misses (p : ChannelPtr) (s : PollLoop) : PollEvent → Prop
  | .poll (some fds) => p ∉ fds.filterMap s.dataPtr
  | _ => False

instance (p : ChannelPtr) (s : PollLoop) (e : PollEvent) : Decidable (Misses p s e) :=
  match e with
  | .poll (some fds) => inferInstanceAs (Decidable (p ∉ fds.filterMap s.dataPtr))
  | .poll none | .construct _ _ | .operate _ _ | .happen _ _ | .handle =>
    inferInstanceAs (Decidable False)

/-- A poll that misses a channel with an event to report leaves it out. -/
lemma PollInv.leavesOut_of_misses (hs : PollInv s) (hp : p ∈ s.readyChannels)
    (hmiss : Misses p s e) (h : s.step e = some t) : s.LeavesOut e := by
  cases e with
  | poll reported =>
    obtain ⟨rfl, -⟩ | ⟨fds, rfl, -, hfds, -⟩ := hs.poll_cases h
    · exact hmiss.elim
    · refine ⟨rfl, not_le.mp fun hfew => hmiss ?_⟩
      -- all the channels with an event would be reported
      have hsubset : (s.reportedChannels fds).toFinset ⊆ s.readyChannels :=
        fun q hq => hs.mem_of_reported hfds (List.mem_toFinset.mp hq)
      have hcard : s.readyChannels.card ≤ (s.reportedChannels fds).toFinset.card := by
        rw [List.toFinset_card_of_nodup (hs.nodup_reportedChannels hfds),
          hs.length_reportedChannels hfds, min_eq_right hfew]
      rw [← Finset.eq_of_subset_of_card_le hsubset hcard] at hp
      exact List.mem_toFinset.mp hp
  | _ => exact hmiss.elim

/-- How often the loop has got hold of the channel. -/
def got (s : PollLoop) (p : ChannelPtr) : ℕ := (s.activeChannels_ ++ s.handled).count p

/-- A poll gets hold of the channel unless it misses it. -/
lemma PollInv.got_step (hs : PollInv s) (p : ChannelPtr) (h : s.step e = some t) :
    s.got p + (if e.isPoll = true then 1 else 0) ≤
      t.got p + (if Misses p s e then 1 else 0) := by
  cases e with
  | construct q fd | happen fd events =>
    obtain rfl := Option.some.inj h
    exact le_rfl
  | operate q op =>
    obtain ⟨table, -, rfl⟩ := Option.map_eq_some_iff.mp h
    exact le_rfl
  | handle =>
    rw [PollLoop.step] at h
    split at h
    · cases h
    · rename_i q rest hactive
      obtain rfl := Option.some.inj h
      have hperm : (rest ++ q :: s.handled).Perm (q :: rest ++ s.handled) := List.perm_middle
      simp [got, hactive, hperm.count_eq, PollEvent.isPoll, Misses]
  | poll reported =>
    obtain ⟨rfl, rfl⟩ | ⟨fds, rfl, hidle, -, rfl⟩ := hs.poll_cases h
    · exact le_rfl
    · have hgot : (s.afterPoll fds).got p = (s.reportedChannels fds).count p + s.got p := by
        simp [got, PollLoop.afterPoll, hidle]
      rw [hgot]
      by_cases hmiss : p ∈ s.reportedChannels fds
      · have hcount : 0 < (s.reportedChannels fds).count p := List.count_pos_iff.mpr hmiss
        simp only [PollEvent.isPoll, if_true]
        omega
      · have hmisses : Misses p s (.poll (some fds)) := hmiss
        simp only [PollEvent.isPoll, if_true, if_pos hmisses]
        omega

/-- Every poll of a run gets hold of the channel unless it misses it. -/
lemma PollInv.got_run (hs : PollInv s) (p : ChannelPtr)
    (hmeets : Meets PollLoop.step Allowed s es) (hrun : exec PollLoop.step s es = some t) :
    s.got p + es.countP PollEvent.isPoll ≤ t.got p + tally PollLoop.step (Misses p) s es := by
  induction es generalizing s with
  | nil =>
    obtain rfl : s = t := Option.some.inj hrun
    simp [tally]
  | cons e es ih =>
    obtain ⟨u, hu, hrest⟩ := exec_cons_eq_some.mp hrun
    obtain ⟨hok, hmeets'⟩ := hmeets u hu
    have hhead := hs.got_step p hu
    have htail := ih (hs.step hok hu) hmeets' hrest
    simp only [tally, hu, Option.elim_some, List.countP_cons]
    omega

/-- No channel starves, whichever channels the kernel prefers.  From any state that can be reached,
a channel that has an event to report all the time is handled after all the polls that are not
interrupted but a number that is logarithmic in the number of channels with an event. -/
theorem handled_by_most_polls {es fs : List PollEvent} {n : ℕ}
    (hmeets : Meets step Allowed PollLoop.new es) (hrun : exec step PollLoop.new es = some s)
    (hmeets' : Meets step Allowed s fs) (hrun' : exec step s fs = some t)
    (hready : Always step (fun u => p ∈ u.readyChannels) s fs)
    (hmost : Always step (fun u => u.readyChannels.card ≤ n) s fs)
    (hdone : t.activeChannels_ = []) :
    ∃ k, s.eventsSize * 2 ^ k ≤ max s.eventsSize (2 * n) ∧
      s.handled.count p + fs.countP PollEvent.isPoll ≤ t.handled.count p + k := by
  have hs := pollInv_of_exec hmeets hrun
  refine ⟨tally step (Misses p) s fs, ?_, ?_⟩
  · refine (mul_two_pow_tally_le (f := eventsSize) (I := PollInv) ?_ hs
      (hmeets'.and hready.meets) hrun').trans (hs.eventsSize_le hmeets' hmost hrun')
    rintro u e v hu ⟨hok, hp, -⟩ h
    exact ⟨hu.step hok h, hu.eventsSize_mono h, fun hmiss =>
      hu.double_of_leavesOut (hu.leavesOut_of_misses hp hmiss h) h⟩
  · have hgot := hs.got_run p hmeets' hrun'
    have hbefore : s.handled.count p ≤ s.got p := by
      rw [got, List.count_append]
      exact Nat.le_add_left _ _
    have hafter : t.got p = t.handled.count p := by
      rw [got, hdone, List.nil_append]
    omega

/-- The last of seventeen channels, which the first of two polls leaves out. -/
theorem handled_by_most_polls_seventeen :
    ∃ s t, exec step PollLoop.new (allReadable 17) = some s ∧ exec step s twoPolls = some t ∧
      ∃ k, s.eventsSize * 2 ^ k ≤ max s.eventsSize (2 * 17) ∧
        s.handled.count 16 + 2 ≤ t.handled.count 16 + k := by
  have hany : ((exec step PollLoop.new (allReadable 17)).any fun s =>
      decide (Meets step Allowed s twoPolls ∧
        Always step (fun u => 16 ∈ u.readyChannels) s twoPolls ∧
        Always step (fun u => u.readyChannels.card ≤ 17) s twoPolls ∧
        (exec step s twoPolls).any fun t => decide (t.activeChannels_ = []))) = true := by
    decide +kernel
  obtain ⟨s, hs, hmeets, hready, hmost, hend⟩ := exists_exec_of_any hany
  obtain ⟨t, ht, hdone⟩ := exists_exec_of_any hend
  exact ⟨s, t, hs, ht,
    handled_by_most_polls (by decide +kernel) hs hmeets ht hready hmost hdone⟩

end PollLoop

end SimpleMuduo
