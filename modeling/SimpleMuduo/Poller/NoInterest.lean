import SimpleMuduo.Poller.Bookkeeping

/-!
# Channels that ask for nothing

`updateChannel` deletes a channel that asks for nothing from the interest set, but only when
`index_` is `kAdded`.  With any other index it adds the channel, whatever the channel asks for, and
then `EPOLLERR` and `EPOLLHUP` are reported for it.  So a channel that asks for nothing stays out of
the interest set as long as nothing is disabled that is not registered.
-/

namespace SimpleMuduo

/-- What `events_` becomes. -/
def ChannelOp.newEvents (op : ChannelOp) (events : EventMask) : EventMask :=
  match op with
  | .enableReading => events ||| kReadEvent
  | .disableReading => events &&& ~~~kReadEvent
  | .enableWriting => events ||| kWriteEvent
  | .disableWriting => events &&& ~~~kWriteEvent
  | .disableAll => kNoneEvent
  | .remove => events

/-- The operation updates a channel that is not registered and then asks for nothing. -/
def ChannelOp.RegistersNothing (op : ChannelOp) (c : Channel) : Prop :=
  op ≠ .remove ∧ c.index_ ≠ .kAdded ∧ op.newEvents c.events_ = kNoneEvent

instance (op : ChannelOp) (c : Channel) : Decidable (op.RegistersNothing c) :=
  inferInstanceAs (Decidable (_ ∧ _ ∧ _))

/-- Every operation but `remove` sets `events_` and updates the channel. -/
lemma ChannelOp.run_eq_update {op : ChannelOp} (hop : op ≠ .remove) (c : Channel)
    (p : EPollPoller) :
    op.run c p = Channel.update { c with events_ := op.newEvents c.events_ } p := by
  cases op with
  | remove => exact absurd rfl hop
  | _ => rfl

namespace ChannelTable

variable {ι : Type*}

/-- Every channel that asks for nothing is outside of the interest set. -/
def NoneUnregistered (s : ChannelTable ι) : Prop :=
  ∀ i, (s.channels i).events_ = kNoneEvent → s.poller.interest (s.channels i).fd_ = none

variable [DecidableEq ι]

/-- `disableAll` on a channel that is new, removed or disabled leaves the interest set as it is. -/
def DisablesIdempotently (s : ChannelTable ι) (e : ι × ChannelOp) : Prop :=
  e.2 = .disableAll → (s.channels e.1).index_ ≠ .kAdded →
    ∀ s', s.step e = some s' → s'.poller.interest = s.poller.interest

variable {ptr : ι → ChannelPtr} {fd : ι → Fd} {s s' : ChannelTable ι} {i : ι} {op : ChannelOp}

omit [DecidableEq ι] in
/-- A channel is in the interest set exactly when its index is `kAdded`. -/
lemma TableInv.interest_eq_none (hs : TableInv ptr fd s) (i : ι) :
    s.poller.interest (s.channels i).fd_ = none ↔ (s.channels i).index_ ≠ .kAdded := by
  rw [(hs.agrees i).2]
  split <;> simp [*]

/-- What an operation does to its channel; the other channels are as they were. -/
lemma TableInv.step_cases (hs : TableInv ptr fd s) (hstep : s.step (i, op) = some s') :
    (∀ j, j ≠ i → s'.channels j = s.channels j) ∧
      (op = .remove ∧ s'.channels i = { s.channels i with index_ := .kNew } ∨
        op ≠ .remove ∧ s'.channels i =
          { s.channels i with events_ := op.newEvents (s.channels i).events_ }.updated) := by
  obtain ⟨⟨c', p'⟩, hrun, rfl⟩ := Option.map_eq_some_iff.mp hstep
  have hother : ∀ j, j ≠ i → Function.update s.channels i c' j = s.channels j :=
    fun j hj => Function.update_of_ne hj c' s.channels
  refine ⟨hother, ?_⟩
  simp only [Function.update_self]
  by_cases hop : op = .remove
  · subst hop
    obtain ⟨q, hq, -⟩ := EPollPoller.removeChannel_agrees (hs.agrees i)
    have hpair := Option.some.inj (hrun.symm.trans hq)
    exact .inl ⟨rfl, congrArg Prod.fst hpair⟩
  · obtain ⟨q, hq, -⟩ := EPollPoller.updateChannel_agrees (hs.agrees i)
      (op.newEvents (s.channels i).events_)
    have hpair := Option.some.inj (((op.run_eq_update hop _ _).symm.trans hrun).symm.trans hq)
    exact .inr ⟨hop, congrArg Prod.fst hpair⟩

/-- What holds as long as nothing is registered that asks for nothing. -/
structure NoneInv (ptr : ι → ChannelPtr) (fd : ι → Fd) (s : ChannelTable ι) : Prop where
  table : TableInv ptr fd s
  none : ∀ i, (s.channels i).events_ = kNoneEvent → (s.channels i).index_ ≠ .kAdded

omit [DecidableEq ι] in
lemma NoneInv.new : NoneInv ptr fd (new ptr fd) :=
  ⟨.new, fun _ _ => by simp [ChannelTable.new, Channel.new]⟩

omit [DecidableEq ι] in
lemma NoneInv.noneUnregistered (hs : NoneInv ptr fd s) : s.NoneUnregistered :=
  fun i hnone => (hs.table.interest_eq_none i).mpr (hs.none i hnone)

/-- The other operations leave a channel registered exactly when it asks for something. -/
lemma NoneInv.step (hfd : Function.Injective fd) (hs : NoneInv ptr fd s)
    (hop : ¬ op.RegistersNothing (s.channels i)) (hstep : s.step (i, op) = some s') :
    NoneInv ptr fd s' := by
  obtain ⟨s'', hs'', htable⟩ := hs.table.step hfd (i, op)
  obtain rfl : s'' = s' := Option.some.inj (hs''.symm.trans hstep)
  refine ⟨htable, fun j hnone => ?_⟩
  obtain ⟨hother, hself⟩ := hs.table.step_cases hstep
  by_cases hji : j = i
  · subst hji
    obtain ⟨-, hchannel⟩ | ⟨hne, hchannel⟩ := hself
    · rw [hchannel]
      simp
    · rw [hchannel] at hnone ⊢
      have hevents : op.newEvents (s.channels j).events_ = kNoneEvent := hnone
      have hadded : (s.channels j).index_ = .kAdded := by
        by_contra hindex
        exact hop ⟨hne, hindex, hevents⟩
      -- a registered channel that asks for nothing is deleted
      have hdeleted : Channel.isNoneEvent
          { s.channels j with events_ := op.newEvents (s.channels j).events_ } = true :=
        beq_iff_eq.mpr hevents
      have hindex : (Channel.updated
          { s.channels j with events_ := op.newEvents (s.channels j).events_ }).index_ =
          .kDeleted := if_pos ⟨hadded, hdeleted⟩
      rw [hindex]
      simp
  · rw [hother j hji] at hnone ⊢
    exact hs.none j hnone

/-- A channel that is registered although it asks for nothing. -/
lemma TableInv.not_noneUnregistered (hs : TableInv ptr fd s) (hs' : TableInv ptr fd s')
    (hop : op.RegistersNothing (s.channels i)) (hstep : s.step (i, op) = some s') :
    ¬ s'.NoneUnregistered := by
  obtain ⟨hne, hindex, hevents⟩ := hop
  obtain ⟨-, ⟨heq, -⟩ | ⟨-, hchannel⟩⟩ := hs.step_cases hstep
  · exact absurd heq hne
  · intro hunregistered
    have hnone : (s'.channels i).events_ = kNoneEvent := by
      rw [hchannel]
      exact hevents
    have hadded : (s'.channels i).index_ = .kAdded := by
      rw [hchannel]
      simp [Channel.updated, hindex]
    exact (hs'.interest_eq_none i).mp (hunregistered i hnone) hadded

end ChannelTable

/-- For any number of channels with pairwise distinct descriptors and every sequence of operations:
a channel that asks for nothing is never in the interest set, and `disableAll` on a channel that is
not registered leaves the interest set as it is, exactly when no operation updates a channel that is
not registered and then asks for nothing. -/
theorem noneUnregistered_iff {ι : Type*} [DecidableEq ι] {ptr : ι → ChannelPtr} {fd : ι → Fd}
    (hfd : Function.Injective fd) (es : List (ι × ChannelOp)) :
    Always ChannelTable.step ChannelTable.NoneUnregistered (ChannelTable.new ptr fd) es ∧
        Meets ChannelTable.step ChannelTable.DisablesIdempotently (ChannelTable.new ptr fd) es ↔
      Meets ChannelTable.step (fun s e => ¬ e.2.RegistersNothing (s.channels e.1))
        (ChannelTable.new ptr fd) es := by
  have halways : Always ChannelTable.step ChannelTable.NoneUnregistered
        (ChannelTable.new ptr fd) es ↔
      Meets ChannelTable.step (fun s e => ¬ e.2.RegistersNothing (s.channels e.1))
        (ChannelTable.new ptr fd) es := by
    refine always_iff_meets (I := ChannelTable.NoneInv ptr fd) ?_ ?_ ?_ .new
    · rintro s ⟨i, op⟩ s' hs hop hstep
      exact hs.step hfd hop hstep
    · exact fun s hs => hs.noneUnregistered
    · rintro s ⟨i, op⟩ s' hs hop hstep
      obtain ⟨s'', hs'', htable⟩ := hs.table.step hfd (i, op)
      obtain rfl : s'' = s' := Option.some.inj (hs''.symm.trans hstep)
      exact hs.table.not_noneUnregistered htable (not_not.mp hop) hstep
  refine ⟨fun h => halways.mp h.1, fun hmeets => ⟨halways.mpr hmeets, ?_⟩⟩
  refine hmeets.imp_of_invariant (I := fun _ => True) (fun _ _ _ _ _ _ => trivial) ?_ trivial
  rintro s ⟨i, op⟩ - hop rfl hindex
  exact absurd ⟨by simp, hindex, rfl⟩ hop

/-- Two channels, one of which is switched off once. -/
theorem noneUnregistered_disable_once :
    Always ChannelTable.step ChannelTable.NoneUnregistered
      (ChannelTable.new (id : ℕ → ChannelPtr) (Nat.cast : ℕ → Fd))
      [(0, .enableReading), (1, .enableWriting), (0, .disableAll)] :=
  ((noneUnregistered_iff (fun _ _ h => Int.ofNat.inj h) _).mpr (by decide +kernel)).1

/-- A channel that is switched off twice is in the interest set again, with an empty mask. -/
theorem not_noneUnregistered_disable_twice :
    ∃ s, exec ChannelTable.step (ChannelTable.new (id : ℕ → ChannelPtr) (Nat.cast : ℕ → Fd))
        [(0, .enableReading), (0, .disableAll), (0, .disableAll)] = some s ∧
      (s.channels 0).events_ = kNoneEvent ∧ s.poller.interest 0 = some ⟨kNoneEvent, 0⟩ ∧
      ¬ s.NoneUnregistered := by
  have hany : ((exec ChannelTable.step
      (ChannelTable.new (id : ℕ → ChannelPtr) (Nat.cast : ℕ → Fd))
      [(0, .enableReading), (0, .disableAll), (0, .disableAll)]).any fun s =>
        decide ((s.channels 0).events_ = kNoneEvent ∧ (s.channels 0).fd_ = 0 ∧
          s.poller.interest 0 = some ⟨kNoneEvent, 0⟩)) = true := by decide +kernel
  obtain ⟨s, hrun, hevents, hfd, hinterest⟩ := exists_exec_of_any hany
  refine ⟨s, hrun, hevents, hinterest, fun h => ?_⟩
  have hnone := h 0 hevents
  rw [hfd, hinterest] at hnone
  cases hnone

end SimpleMuduo
