import SimpleMuduo.TcpConnection.Connected

/-!
# Removal from the poller

`updateChannel` registers any channel whose index is `kNew`, a removed one included, so whatever
updates the channel after `connectDestroyed` has returned puts it back into the poller.
`registered_after_step_iff` lists the steps that do: a functor or a callback that closes the
connection once more, a `sendInLoop` functor that asks for `EPOLLOUT`, and a `handleWrite` that no
longer does.  The runs in which removal is final are exactly the runs without these steps after
`connectDestroyed`.
-/

namespace SimpleMuduo

namespace World

/-- The channel is not registered once `connectDestroyed` has returned. -/
def Removed (w : World) : Prop :=
  .connectDestroyedReturned ∈ w.history → ¬ w.channel_.Registered

/-- `sendInLoop` is left with bytes to buffer: `::write` does not take them all, or is not called
because other bytes are waiting. -/
def LeavesBytes (w : World) (data : StdString) (k : Kernel) : Prop :=
  if w.outputBuffer_.readableBytes = 0 then ∃ n < data.size, Took (sysWrite k.write data.size) n
  else data.data ≠ []

/-- The step updates the channel of a connection that is not in the state `kConnected`. -/
def UpdatesChannel (w : World) : Event → Prop
  | .runCall k => match w.todo.head? with
    | some .handleClose => True
    | some .handleRead => k.readv = .ok []
    | some .handleWrite => w.channel_.isWriting = true ∧ w.Drains k
    | _ => False
  | .runFunctor k => match w.functors.head? with
    | some (.sendInLoop _ buf len) =>
      w.channel_.isWriting = false ∧ w.LeavesBytes ((w.strings buf).take len) k
    | some .forceCloseInLoop => w.state_ = .kConnected ∨ w.state_ = .kDisconnecting
    | _ => False
  | _ => False

/-- A removed channel is not updated. -/
def LeavesRemoved (w : World) (e : Event) : Prop :=
  .connectDestroyedReturned ∈ w.history → ¬ w.UpdatesChannel e

section Update

variable {w w' : World} {k : Kernel}

/-- `sendInLoop` registers a removed channel when it starts to ask for `EPOLLOUT`. -/
lemma SendInLoop.index_ne_iff {call : ℕ} {data : StdString} (h : SendInLoop w call data k w')
    (hnew : w.channel_.channel.index_ = .kNew) :
    w'.channel_.channel.index_ ≠ .kNew ↔ w.channel_.isWriting = false ∧ w.LeavesBytes data k := by
  have hupdated (events : EventMask) := w.channel_.setEvents_index_ne events
  cases h with
  | fatal errno idle result hard =>
    have htook : sysWrite k.write data.size = .error errno := by
      rw [result]
      rfl
    refine iff_of_false (by simp [hnew]) fun ⟨_, hleaves⟩ => ?_
    rw [LeavesBytes, if_pos idle.2, htook] at hleaves
    obtain ⟨n, -, hok | ⟨herror, -⟩⟩ := hleaves
    · simp at hok
    · exact hard (Except.error.inj herror)
  | whole idle result =>
    refine iff_of_false (by simp [hnew]) fun ⟨_, hleaves⟩ => ?_
    rw [LeavesBytes, if_pos idle.2, result] at hleaves
    obtain ⟨n, hlt, hok | ⟨herror, -⟩⟩ := hleaves
    · exact Nat.ne_of_lt hlt (Except.ok.inj hok).symm
    · simp at herror
  | partly n result idle took lt write =>
    refine iff_of_true ?_ ⟨idle.1, ?_⟩
    · rw [bufferOutput_channel_, log_channel_, log_channel_, idle.1]
      exact hupdated _
    · rw [LeavesBytes, if_pos idle.2, write]
      exact ⟨n, lt, took⟩
  | nothing idle empty =>
    refine iff_of_false (by simp [hnew]) fun ⟨_, hleaves⟩ => ?_
    rw [LeavesBytes, if_pos idle.2] at hleaves
    obtain ⟨n, hlt, -⟩ := hleaves
    simp [StdString.size, empty] at hlt
  | noData busy empty =>
    refine iff_of_false (by simp [hnew]) fun ⟨hwriting, hleaves⟩ => ?_
    have hbytes : w.outputBuffer_.readableBytes ≠ 0 := fun hnone => busy ⟨hwriting, hnone⟩
    rw [LeavesBytes, if_neg hbytes] at hleaves
    exact hleaves empty
  | buffered busy nonempty =>
    by_cases hwriting : w.channel_.isWriting = true
    · exact iff_of_false (by simp [bufferOutput, hwriting, hnew]) (by simp [hwriting])
    · have hidle : w.channel_.isWriting = false := by simpa using hwriting
      have hbytes : w.outputBuffer_.readableBytes ≠ 0 := fun hnone => busy ⟨hidle, hnone⟩
      refine iff_of_true ?_ ⟨hidle, ?_⟩
      · rw [bufferOutput_channel_, log_channel_, hidle]
        exact hupdated _
      · rw [LeavesBytes, if_neg hbytes]
        exact nonempty

/-- `handleWrite` registers a removed channel when it drains the buffer. -/
lemma HandleWrite.index_ne_iff (h : HandleWrite w k w')
    (hnew : w.channel_.channel.index_ = .kNew) :
    w'.channel_.channel.index_ ≠ .kNew ↔ w.channel_.isWriting = true ∧ w.Drains k := by
  have hupdated (events : EventMask) := w.channel_.setEvents_index_ne events
  cases h with
  | notWriting idle => exact iff_of_false (by simp [hnew]) (by simp [idle])
  | stuck result writing took write =>
    refine iff_of_false (by simp [hnew]) fun ⟨_, hpos, hall⟩ => ?_
    obtain ⟨n, hn⟩ := Nat.exists_eq_succ_of_ne_zero (Nat.ne_of_gt hpos)
    rw [write, hn] at hall
    exact took n hall
  | partly n writing pos lt write =>
    refine iff_of_false (by simp [hnew]) fun ⟨_, _, hall⟩ => ?_
    exact Nat.ne_of_lt lt (Except.ok.inj (write.symm.trans hall))
  | drain writing drains => exact iff_of_true (hupdated _) ⟨writing, drains⟩
  | drainShutdown writing drains => exact iff_of_true (hupdated _) ⟨writing, drains⟩

/-- After a step of a connection that is no longer established, a channel that was removed is back
in the poller exactly if the step updates it. -/
theorem index_ne_iff {e : Event} (h : Step w e w') (hstate : w.state_ ≠ .kConnected)
    (hnew : w.channel_.channel.index_ = .kNew) :
    w'.channel_.channel.index_ ≠ .kNew ↔ w.UpdatesChannel e := by
  have hclose (v : World) : v.handleClose.channel_.channel.index_ ≠ .kNew :=
    v.channel_.setEvents_index_ne kNoneEvent
  have hremove (v : World) : v.removeChannel.channel_.channel.index_ = .kNew := by
    simp [removeChannel]
  have hserver (v : World) : v.closeCallback.channel_ = v.channel_ := by
    simp only [closeCallback]
    split_ifs <;> rfl
  cases h with
  | refused refuses =>
    refine iff_of_false (not_not.mpr hnew) fun hupdates => ?_
    cases e <;> first | exact refuses | exact hupdates
  | sendLoad | shutdownLoad | loopSend | loopSendFault | loopShutdown => contradiction
  | sendPush | shutdownStore | shutdownPush | forceCloseLoad | forceCloseStore | forceClosePush
  | assign | loopForceClose | poll | handleEvent | swap | removeConnectionInLoop
  | removeConnectionFault => exact iff_of_false (not_not.mpr hnew) not_false
  | destroyServer =>
    refine iff_of_false (not_not.mpr ?_) not_false
    simp only [destroyServer]
    split_ifs <;> exact hnew
  | @runCall c rest k _ todo branch =>
    simp only [UpdatesChannel, todo, List.head?_cons]
    cases branch with
    | handleClose => exact iff_of_true (hclose _) trivial
    | handleError => exact iff_of_false (not_not.mpr hnew) not_false
    | handleRead branch =>
      cases branch with
      | failed errno result => exact iff_of_false (not_not.mpr hnew) (by simp [result])
      | message inputBuffer result =>
        obtain ⟨bytes, hreadv, hne⟩ := result
        exact iff_of_false (not_not.mpr hnew) (by simpa [hreadv] using hne)
      | closed inputBuffer result => exact iff_of_true (hclose _) result
    | handleWrite branch => exact branch.index_ne_iff hnew
    | closeCallback =>
      rw [hserver]
      exact iff_of_false (not_not.mpr hnew) not_false
    | connectDestroyed =>
      have hne : (w.setTodo rest).state_ ≠ .kConnected := hstate
      rw [connectDestroyed_of_ne hne]
      exact iff_of_false (not_not.mpr (hremove _)) not_false
    | removeChannel => exact iff_of_false (not_not.mpr (hremove _)) not_false
  | @runFunctor f rest k _ todo functors branch =>
    simp only [UpdatesChannel, functors, List.head?_cons]
    cases branch with
    | sendInLoop branch => exact branch.index_ne_iff hnew
    | shutdownInLoop =>
      refine iff_of_false (not_not.mpr ?_) not_false
      unfold shutdownInLoop
      split_ifs <;> exact hnew
    | forceCloseInLoop =>
      unfold forceCloseInLoop
      split_ifs with hopen
      · exact iff_of_true (hclose _) hopen
      · exact iff_of_false (not_not.mpr hnew) hopen
    | connectDestroyed =>
      have hne : (w.setFunctors rest).state_ ≠ .kConnected := hstate
      rw [connectDestroyed_of_ne hne]
      exact iff_of_false (not_not.mpr (hremove _)) not_false
    | userCallback callback =>
      refine iff_of_false (not_not.mpr hnew) ?_
      cases f <;> simp_all [Functor.isUserCallback]

/-- `connectDestroyed` returns with the channel removed. -/
lemma returned_of_step {e : Event} (h : Step w e w')
    (hreturned : .connectDestroyedReturned ∈ w'.history) :
    .connectDestroyedReturned ∈ w.history ∨ w'.channel_.channel.index_ = .kNew := by
  have hremove (v : World) : v.removeChannel.channel_.channel.index_ = .kNew := by
    simp [removeChannel]
  cases h.lifecycleStep with
  | routine h => exact .inl ((h.mem_history rfl).mp hreturned)
  | threadStore => exact .inl (by simpa using hreturned)
  | loopStore open_ before after =>
    have hstored := (after.mem_history rfl).mp hreturned
    exact .inl ((before.mem_history rfl).mp (by simpa using hstored))
  | pollClose closes before | forceClose open_ before =>
    exact .inl ((before.mem_history rfl).mp (by simpa [World.handleClose] using hreturned))
  | @connectDestroyed e v destroys before =>
    by_cases hstate : v.state_ = .kConnected
    · rw [connectDestroyed_of_connected hstate] at hreturned
      exact .inl ((before.mem_history rfl).mp (by simpa using hreturned))
    · rw [connectDestroyed_of_ne hstate]
      exact .inr (hremove _)
  | removeChannel => exact .inr (hremove _)
  | closeCallback =>
    have hlogged := ((routine_closeCallback _).mem_history rfl).mp hreturned
    exact .inl (by simpa using hlogged)

end Update

/-- Once `connectDestroyed` has returned the channel is new again. -/
structure RemovalInv (w : World) : Prop where
  connected : ConnectedInv w
  index : .connectDestroyedReturned ∈ w.history → w.channel_.channel.index_ = .kNew

namespace RemovalInv

variable {w w' : World}

lemma removed (hw : RemovalInv w) : w.Removed := by
  intro hreturned
  rw [PolledChannel.registered_iff]
  exact not_not.mpr (hw.index hreturned)

lemma not_connected (hw : RemovalInv w) (hreturned : .connectDestroyedReturned ∈ w.history) :
    w.state_ ≠ .kConnected := by
  intro hstate
  have hend := hw.connected.not_ended hstate _ hreturned
  simp [Effect.isEnd] at hend

/-- Every step that meets the condition keeps the invariant. -/
theorem step {e : Event} (hw : RemovalInv w) (h : Step w e w') (hok : w.LeavesRemoved e) :
    RemovalInv w' := by
  refine ⟨hw.connected.step h, fun hreturned' => ?_⟩
  rcases returned_of_step h hreturned' with hreturned | hindex
  · have hiff := index_ne_iff h (hw.not_connected hreturned) (hw.index hreturned)
    exact not_not.mp (hiff.not.mpr (hok hreturned))
  · exact hindex

/-- A step that does not meet the condition registers a removed channel. -/
theorem not_removed {e : Event} (hw : RemovalInv w) (h : Step w e w')
    (hnot : ¬ w.LeavesRemoved e) : ¬ w'.Removed := by
  have hboth : .connectDestroyedReturned ∈ w.history ∧ w.UpdatesChannel e := by
    by_contra hcon
    exact hnot fun hreturned hupdates => hcon ⟨hreturned, hupdates⟩
  obtain ⟨hreturned, hupdates⟩ := hboth
  have hindex := (index_ne_iff h (hw.not_connected hreturned) (hw.index hreturned)).mpr hupdates
  have hreturned' : .connectDestroyedReturned ∈ w'.history := h.suffix.subset hreturned
  rw [Removed, PolledChannel.registered_iff]
  exact fun hremoved => hremoved hreturned' hindex

lemma established (cfg : Config) : RemovalInv cfg.established := by
  exact ⟨ConnectedInv.established cfg, by simp [cfg.established_history]⟩

end RemovalInv

end World

/-- The runs in which the channel is never registered again after `connectDestroyed` has returned
are the runs in which no step updates it then. -/
theorem removal_final_iff (cfg : Config) (es : List Event) :
    Always World.step World.Removed cfg.established es ↔
      Meets World.step World.LeavesRemoved cfg.established es :=
  always_iff_meets
    (fun _ _ _ hw hok he => hw.step (World.step_eq_some he).2 hok)
    (fun _ hw => hw.removed)
    (fun _ _ _ hw hnot he => hw.not_removed (World.step_eq_some he).2 hnot)
    (World.RemovalInv.established cfg)

/-- The server is destroyed while `forceCloseInLoop` is pending: it finds `kDisconnecting`, closes
the removed connection, and `disableAll` registers its channel again. -/
theorem not_removal_final :
    ¬ ∀ (cfg : Config) (es : List Event) (w : World), Runs cfg es w → w.Removed := by
  have hrun : ∃ w, exec World.step Config.single.established
      [.loopForceClose, .destroyServer, .runCall (.ready []), .swap, .runFunctor (.ready [])] =
        some w ∧
      (.connectDestroyedReturned ∈ w.history ∧ w.channel_.channel.index_ ≠ .kNew) :=
    exists_exec_of_any (by decide +kernel)
  obtain ⟨w, hrun, hreturned, hindex⟩ := hrun
  exact fun h => h _ _ w hrun hreturned ((PolledChannel.registered_iff _).mpr hindex)

end SimpleMuduo
