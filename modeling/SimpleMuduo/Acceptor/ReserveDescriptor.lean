import SimpleMuduo.Acceptor.State

/-!
# Running out of descriptors

The handler gets out of an exhaustion as long as it holds a descriptor in reserve: it keeps one from
each round to the next.  But the constructor opens `dev/null`, a path relative to the working
directory.  Where there is no such file, there is no reserve, and in the first round the second
`accept` fails like the first one.
-/

namespace SimpleMuduo

open SlotTable

namespace Acceptor

variable {a a' : Acceptor} {n : ℕ} {env : HandlerEnv}

/-- `idleFd_` holds an open descriptor for `/dev/null`. -/
def HasReserve (a : Acceptor) : Prop :=
  ∃ n : ℕ, a.idleFd_ = n ∧ a.descriptors[n]? = some (some .devNull)

/-- One connection has left the listen queue, there is a reserve again, and the number of open
descriptors is what it was, less what other threads have closed. -/
structure Recovered (a a' : Acceptor) (env : HandlerEnv) : Prop where
  removed : a'.pending + 1 = a.pending + env.arrivals
  reserve : a'.HasReserve
  unchanged : used a'.descriptors + a'.othersClosed = used a.descriptors + a.othersClosed

/-- When `accept` fails with `EMFILE` the handler recovers. -/
def SurvivesExhaustion (a : Acceptor) : AcceptorEvent → Prop
  | .handleRead env =>
    (a.accept env.first).1 = .error EMFILE → Recovered a (a.handleRead env) env
  | _ => True

/-- When no descriptor is free in `handleRead`, `reserved` holds, there is a connection for the
second `accept`, and nothing else makes it fail. -/
def CanRecover (reserved : Prop) (a : Acceptor) : AcceptorEvent → Prop
  | .handleRead env =>
    firstFree a.descriptors = none →
      reserved ∧ env.second = none ∧ 0 < a.pending + env.arrivals
  | _ => True

instance (reserved : Prop) [Decidable reserved] (a : Acceptor) (e : AcceptorEvent) :
    Decidable (CanRecover reserved a e) := by
  cases e <;> dsimp only [CanRecover] <;> infer_instance

/-! ## System calls -/

/-- `accept` fails when no descriptor is free. -/
lemma accept_of_full (h : firstFree a.descriptors = none) (failure : Option OtherErrno) :
    a.accept failure = (.error EMFILE, a) := by
  simp only [accept, h]

/-- What `accept` can do when a descriptor is free. -/
lemma accept_of_free (h : firstFree a.descriptors = some n) (failure : Option OtherErrno) :
    (∃ e, e ≠ EMFILE ∧ a.accept failure = (.error e, a) ∧
        ¬ (failure = none ∧ 0 < a.pending)) ∨
      ∃ pending, a.pending = pending + 1 ∧ failure = none ∧
        a.accept failure = (.ok n, { a with
          descriptors := a.descriptors.set n (some .connection)
          pending := pending }) := by
  cases failure with
  | some e => exact .inl ⟨e, e.2, by simp only [accept, h], by simp⟩
  | none =>
    cases hpending : a.pending with
    | zero => exact .inl ⟨EWOULDBLOCK, by decide, by simp only [accept, h, hpending], by simp⟩
    | succ pending => exact .inr ⟨pending, rfl, rfl, by simp only [accept, h, hpending]⟩

/-- `accept` fails with `EMFILE` when no descriptor is free. -/
lemma accept_eq_emfile_iff (failure : Option OtherErrno) :
    (a.accept failure).1 = .error EMFILE ↔ firstFree a.descriptors = none := by
  cases hfree : firstFree a.descriptors with
  | none => simp [accept_of_full hfree]
  | some n =>
    rcases accept_of_free hfree failure with ⟨e, he, heq, -⟩ | ⟨pending, -, -, heq⟩
    · simp [heq, he]
    · simp [heq]

/-- The handler itself has neither opened nor closed a descriptor in the end. -/
def total (a : Acceptor) : ℕ := used a.descriptors + a.othersClosed

/-- A descriptor is free when it has been closed. -/
lemma close_natCast (a : Acceptor) (n : ℕ) :
    a.close n = { a with descriptors := a.descriptors.set n none } := rfl

/-- Closing -1 does nothing. -/
lemma close_neg_one (a : Acceptor) : a.close (-1) = a := rfl

/-! ## The other parts of the program -/

/-- What other threads leave alone when they close descriptors. -/
structure OthersOnly (a a' : Acceptor) : Prop where
  idle : a'.idleFd_ = a.idleFd_
  pending : a'.pending = a.pending
  total : a'.total = a.total
  own : ∀ n : ℕ, a.idleFd_ = n → a'.descriptors[n]? = a.descriptors[n]?
  free : ∀ n, FreeAt a.descriptors n → FreeAt a'.descriptors n

/-- Nothing happens. -/
lemma OthersOnly.refl (a : Acceptor) : OthersOnly a a :=
  ⟨rfl, rfl, rfl, fun _ _ => rfl, fun _ => id⟩

/-- Others close descriptors twice. -/
lemma OthersOnly.trans {a'' : Acceptor} (h : OthersOnly a a') (h' : OthersOnly a' a'') :
    OthersOnly a a'' := by
  refine ⟨h'.idle.trans h.idle, h'.pending.trans h.pending, h'.total.trans h.total, ?_,
    fun n hn => h'.free n (h.free n hn)⟩
  intro n hn
  exact (h'.own n (h.idle.trans hn)).trans (h.own n hn)

/-- Others close a descriptor. -/
lemma othersOnly_closeOther (a : Acceptor) (n : ℕ) : OthersOnly a (a.closeOther n) := by
  unfold closeOther
  split_ifs with hother
  · obtain ⟨hfile, hidle⟩ := hother
    obtain ⟨file, hfile⟩ : ∃ file, a.descriptors[n]? = some (some file) := by
      rcases hfile with hfile | hfile
      · exact ⟨_, hfile⟩
      · exact ⟨_, hfile⟩
    have hused := used_release hfile
    refine ⟨rfl, rfl, ?_, ?_, ?_⟩
    · simp only [Acceptor.total]
      omega
    · intro m hm
      have hne : n ≠ m := by
        rintro rfl
        exact hidle hm.symm
      exact List.getElem?_set_ne hne
    · intro m hm
      have hne : n ≠ m := by
        rintro rfl
        rw [FreeAt, hfile] at hm
        cases hm
      exact (List.getElem?_set_ne hne).trans hm
  · exact .refl a

/-- Others close some descriptors. -/
lemma othersOnly_closeOthers (a : Acceptor) (ns : List ℕ) : OthersOnly a (a.closeOthers ns) := by
  induction ns generalizing a with
  | nil => exact .refl a
  | cons n ns ih => exact (othersOnly_closeOther a n).trans (ih (a.closeOther n))

/-! ## A round -/

/-- `idleFd_ = ::open("/dev/null", ...)`. -/
def openReserve (a : Acceptor) : Acceptor := { a.openDevNull.2 with idleFd_ := a.openDevNull.1 }

/-- The handler up to the second `accept`. -/
def giveUpReserve (a : Acceptor) (env : HandlerEnv) : Acceptor :=
  ((a.closeOthers env.beforeClose).close (a.closeOthers env.beforeClose).idleFd_
    |>.closeOthers env.beforeAccept).connect env.arrivals

/-- The handler from the second `accept` on. -/
def renewReserve (a : Acceptor) (env : HandlerEnv) : Acceptor :=
  ((a.closeOthers env.beforeCloseAgain).close (a.closeOthers env.beforeCloseAgain).idleFd_
    |>.closeOthers env.beforeOpen).openReserve

/-- The three parts of the branch for `EMFILE`. -/
lemma handleExhaustion_eq (a : Acceptor) (env : HandlerEnv) :
    a.handleExhaustion env =
      ({ ((a.giveUpReserve env).accept env.second).2 with
        idleFd_ := toFd ((a.giveUpReserve env).accept env.second).1 }).renewReserve env := rfl

/-- When a descriptor is free there is a reserve again. -/
lemma openReserve_of_free (h : FreeAt a.descriptors n) :
    a.openReserve.HasReserve ∧ a.openReserve.total = a.total + 1 := by
  obtain ⟨m, hfirst, hfree⟩ := exists_firstFree h
  have hopen : a.openReserve = { a with
      idleFd_ := m
      descriptors := a.descriptors.set m (some .devNull) } := by
    simp only [openReserve, openDevNull, hfirst]
  rw [hopen]
  refine ⟨⟨m, rfl, List.getElem?_set_self hfree.lt⟩, ?_⟩
  have hused := used_put hfree .devNull
  simp only [total]
  omega

/-- Opening the reserve accepts nobody. -/
@[simp] lemma openReserve_pending (a : Acceptor) : a.openReserve.pending = a.pending := by
  unfold openReserve openDevNull
  split <;> rfl

/-- Closing a descriptor accepts nobody. -/
@[simp] lemma close_pending (a : Acceptor) (fd : ℤ) : (a.close fd).pending = a.pending := by
  cases fd <;> rfl

/-- The file of `idleFd_` is closed, while other threads close theirs: its descriptor is free. -/
lemma freeAt_closeIdle {file : DescriptorFile} (h : a.idleFd_ = n)
    (hfile : a.descriptors[n]? = some (some file)) (ns ns' : List ℕ) :
    FreeAt (((a.closeOthers ns).close (a.closeOthers ns).idleFd_).closeOthers ns').descriptors n ∧
      (((a.closeOthers ns).close (a.closeOthers ns).idleFd_).closeOthers ns').total + 1 =
        a.total := by
  have hfirst := othersOnly_closeOthers a ns
  have hkept := (hfirst.own n h).trans hfile
  have hthen := othersOnly_closeOthers ((a.closeOthers ns).close n) ns'
  have hfree : FreeAt ((a.closeOthers ns).close n).descriptors n :=
    List.getElem?_set_self (List.getElem?_eq_some_iff.mp hkept).1
  have hused := used_release hkept
  have htotal : ((a.closeOthers ns).close n).total + 1 = (a.closeOthers ns).total := by
    simp only [close_natCast, total]
    omega
  rw [hfirst.idle, h]
  refine ⟨hthen.free n hfree, ?_⟩
  rw [hthen.total, htotal, hfirst.total]

/-- There is nothing to close. -/
lemma othersOnly_closeIdle (h : a.idleFd_ = -1) (ns ns' : List ℕ) :
    OthersOnly a
      (((a.closeOthers ns).close (a.closeOthers ns).idleFd_).closeOthers ns') := by
  have hfirst := othersOnly_closeOthers a ns
  rw [hfirst.idle, h, close_neg_one]
  exact hfirst.trans (othersOnly_closeOthers (a.closeOthers ns) ns')

/-- Giving up the reserve accepts nobody. -/
lemma pending_closeIdle (a : Acceptor) (ns ns' : List ℕ) :
    (((a.closeOthers ns).close (a.closeOthers ns).idleFd_).closeOthers ns').pending =
      a.pending := by
  rw [(othersOnly_closeOthers _ ns').pending, close_pending, (othersOnly_closeOthers a ns).pending]

/-- The reserve is given up: a descriptor is free. -/
lemma giveUpReserve_of_hasReserve (h : a.HasReserve) (env : HandlerEnv) :
    (∃ n, FreeAt (a.giveUpReserve env).descriptors n) ∧
      (a.giveUpReserve env).total + 1 = a.total := by
  obtain ⟨n, hidle, hfile⟩ := h
  obtain ⟨hfree, htotal⟩ := freeAt_closeIdle hidle hfile env.beforeClose env.beforeAccept
  exact ⟨⟨n, hfree⟩, htotal⟩

/-- There is none to give up. -/
lemma giveUpReserve_of_none (h : a.idleFd_ = -1) (env : HandlerEnv) :
    (a.giveUpReserve env).total = a.total :=
  (othersOnly_closeIdle h env.beforeClose env.beforeAccept).total

/-- Clients may arrive while the reserve is given up. -/
lemma giveUpReserve_pending (a : Acceptor) (env : HandlerEnv) :
    (a.giveUpReserve env).pending = a.pending + env.arrivals := by
  unfold giveUpReserve connect
  rw [pending_closeIdle]

/-- Renewing the reserve accepts nobody. -/
lemma renewReserve_pending (a : Acceptor) (env : HandlerEnv) :
    (a.renewReserve env).pending = a.pending := by
  unfold renewReserve
  rw [openReserve_pending, pending_closeIdle]

/-- After a failed `accept` the free descriptor becomes the reserve. -/
lemma renewReserve_of_none (h : a.idleFd_ = -1) (hfree : FreeAt a.descriptors n)
    (env : HandlerEnv) : (a.renewReserve env).HasReserve := by
  have hothers := othersOnly_closeIdle h env.beforeCloseAgain env.beforeOpen
  exact (openReserve_of_free (hothers.free n hfree)).1

/-- The descriptor of the connection is closed, and there is a reserve instead. -/
lemma renewReserve_of_connection (h : a.idleFd_ = n)
    (hfile : a.descriptors[n]? = some (some .connection)) (env : HandlerEnv) :
    (a.renewReserve env).HasReserve ∧ (a.renewReserve env).total = a.total := by
  obtain ⟨hfree, htotal⟩ := freeAt_closeIdle h hfile env.beforeCloseAgain env.beforeOpen
  obtain ⟨hreserve, hopened⟩ := openReserve_of_free hfree
  exact ⟨hreserve, hopened.trans htotal⟩

/-- The same after an `accept` that has put the connection at a free descriptor. -/
lemma renewReserve_of_accepted (hfree : FreeAt a.descriptors n) (pending : ℕ) (env : HandlerEnv) :
    (renewReserve { a with
        descriptors := a.descriptors.set n (some .connection)
        pending := pending
        idleFd_ := n } env).HasReserve ∧
      (renewReserve { a with
        descriptors := a.descriptors.set n (some .connection)
        pending := pending
        idleFd_ := n } env).total = a.total + 1 := by
  obtain ⟨hreserve, htotal⟩ := renewReserve_of_connection (n := n) (a := { a with
    descriptors := a.descriptors.set n (some .connection)
    pending := pending
    idleFd_ := n }) rfl (List.getElem?_set_self hfree.lt) env
  have hused := used_put hfree .connection
  refine ⟨hreserve, htotal.trans ?_⟩
  simp only [total]
  omega

/-- With a reserve the handler has one again in the end, and it recovers when the second `accept`
returns a connection. -/
lemma handleExhaustion_of_hasReserve (h : a.HasReserve) (env : HandlerEnv) :
    (a.handleExhaustion env).HasReserve ∧
      (Recovered a (a.handleExhaustion env) env ↔
        env.second = none ∧ 0 < a.pending + env.arrivals) := by
  obtain ⟨⟨n, hfree⟩, htotal⟩ := giveUpReserve_of_hasReserve h env
  obtain ⟨m, hfirst, hm⟩ := exists_firstFree hfree
  have hpending := giveUpReserve_pending a env
  rw [handleExhaustion_eq]
  rcases accept_of_free hfirst env.second with ⟨e, -, heq, hnot⟩ | ⟨pending, hsucc, hsecond, heq⟩
  · rw [heq]
    have hreserve := renewReserve_of_none (a := { a.giveUpReserve env with idleFd_ := -1 }) rfl
      hfree env
    refine ⟨hreserve, fun hrecovered => ?_, fun hpossible => ?_⟩
    · -- no connection has left the queue
      have hremoved := hrecovered.removed
      rw [renewReserve_pending, hpending] at hremoved
      omega
    · rw [hpending] at hnot
      exact absurd hpossible hnot
  · rw [heq]
    obtain ⟨hreserve, hrenewed⟩ := renewReserve_of_accepted hm pending env
    refine ⟨hreserve, fun _ => ⟨hsecond, by omega⟩, fun _ => ⟨?_, hreserve, ?_⟩⟩
    · rw [renewReserve_pending, ← hpending, hsucc]
    · exact hrenewed.trans htotal

/-- Without one it does not recover. -/
lemma not_recovered_of_none (h : a.idleFd_ = -1) (env : HandlerEnv) :
    ¬ Recovered a (a.handleExhaustion env) env := by
  have htotal := giveUpReserve_of_none h env
  have hpending := giveUpReserve_pending a env
  rw [handleExhaustion_eq]
  intro hrecovered
  have hremoved := hrecovered.removed
  rw [renewReserve_pending] at hremoved
  cases hfirst : firstFree (a.giveUpReserve env).descriptors with
  | none =>
    rw [accept_of_full hfirst] at hremoved
    simp only [hpending] at hremoved
    omega
  | some m =>
    rcases accept_of_free hfirst env.second with ⟨e, -, heq, -⟩ | ⟨pending, -, -, heq⟩
    · rw [heq] at hremoved
      simp only [hpending] at hremoved
      omega
    · -- another thread has closed a descriptor, and the acceptor has taken it
      have hm := freeAt_of_firstFree hfirst
      obtain ⟨-, hrenewed⟩ := renewReserve_of_accepted hm pending env
      have hunchanged := hrecovered.unchanged
      rw [heq] at hunchanged
      have hmore : (a.giveUpReserve env).total + 1 = a.total := hrenewed.symm.trans hunchanged
      rw [htotal] at hmore
      exact absurd hmore (Nat.succ_ne_self _)

/-! ## Runs -/

/-- The acceptor has a reserve if the constructor has opened one, and none otherwise. -/
structure ReserveInv (reserved : Prop) (a : Acceptor) : Prop where
  held : reserved → a.HasReserve
  missing : ¬ reserved → a.idleFd_ = -1

variable {reserved : Prop}

/-- The reserve is left alone. -/
lemma ReserveInv.frame (h : ReserveInv reserved a) (hidle : a'.idleFd_ = a.idleFd_)
    (hfile : ∀ n : ℕ, a.idleFd_ = n → a.descriptors[n]? = some (some .devNull) →
      a'.descriptors[n]? = some (some .devNull)) : ReserveInv reserved a' := by
  refine ⟨fun hreserved => ?_, fun hnot => hidle.trans (h.missing hnot)⟩
  obtain ⟨n, hn, hopen⟩ := h.held hreserved
  exact ⟨n, hidle.trans hn, hfile n hn hopen⟩

/-- A slot that was free is not that of the reserve. -/
lemma getElem?_set_of_free {t : List (Option DescriptorFile)} {m : ℕ} {o : Option DescriptorFile}
    (hfree : FreeAt t n) (hfile : t[m]? = some (some .devNull)) :
    (t.set n o)[m]? = some (some .devNull) := by
  have hne : n ≠ m := by
    rintro rfl
    rw [FreeAt, hfile] at hfree
    cases hfree
  exact (List.getElem?_set_ne hne).trans hfile

/-- A call of `handleRead` for which a descriptor is free. -/
lemma ReserveInv.handleRead (h : ReserveInv reserved a) (hfirst : firstFree a.descriptors = some n)
    (env : HandlerEnv) : ReserveInv reserved (a.handleRead env) := by
  have hfree := freeAt_of_firstFree hfirst
  unfold Acceptor.handleRead
  rcases accept_of_free hfirst env.first with ⟨e, he, heq, -⟩ | ⟨pending, -, -, heq⟩
  · rw [heq]
    simp only [if_neg he]
    exact h
  · rw [heq]
    simp only
    split_ifs
    · exact h.frame rfl fun m _ hfile => getElem?_set_of_free hfree hfile
    · refine h.frame rfl fun m _ hfile => ?_
      simp only [close_natCast, List.set_set]
      exact getElem?_set_of_free hfree hfile

/-- `handleRead` goes to the branch for `EMFILE` when no descriptor is free. -/
lemma handleRead_of_full (h : firstFree a.descriptors = none) (env : HandlerEnv) :
    a.handleRead env = a.handleExhaustion env := by
  rw [Acceptor.handleRead, accept_of_full h]
  exact if_pos rfl

/-- The step lemma. -/
lemma ReserveInv.step (h : ReserveInv reserved a) {e : AcceptorEvent}
    (hcan : CanRecover reserved a e) (hstep : a.step e = some a') : ReserveInv reserved a' := by
  cases e with
  | handleRead env =>
    obtain rfl := Option.some.inj hstep
    cases hfirst : firstFree a.descriptors with
    | none =>
      have hreserved := (hcan hfirst).1
      rw [handleRead_of_full hfirst]
      refine ⟨fun _ => ?_, fun hnot => absurd hreserved hnot⟩
      exact (handleExhaustion_of_hasReserve (h.held hreserved) env).1
    | some n => exact h.handleRead hfirst env
  | openOther =>
    obtain ⟨n, hfirst, rfl⟩ := Option.map_eq_some_iff.mp hstep
    exact h.frame rfl fun m _ hfile => getElem?_set_of_free (freeAt_of_firstFree hfirst) hfile
  | closeOther n =>
    obtain rfl := Option.some.inj hstep
    have hothers := othersOnly_closeOther a n
    exact h.frame hothers.idle fun m hm hfile => (hothers.own m hm).trans hfile
  | connect =>
    obtain rfl := Option.some.inj hstep
    exact h.frame rfl fun _ _ hfile => hfile

/-- Under the invariant a call of `handleRead` recovers exactly when it can. -/
lemma ReserveInv.survives_iff (h : ReserveInv reserved a) (e : AcceptorEvent) :
    SurvivesExhaustion a e ↔ CanRecover reserved a e := by
  cases e with
  | handleRead env =>
    change ((a.accept env.first).1 = .error EMFILE → Recovered a (a.handleRead env) env) ↔
      (firstFree a.descriptors = none → _)
    rw [accept_eq_emfile_iff]
    refine imp_congr_right fun hfull => ?_
    rw [handleRead_of_full hfull]
    by_cases hreserved : reserved
    · rw [(handleExhaustion_of_hasReserve (h.held hreserved) env).2]
      exact (and_iff_right hreserved).symm
    · refine ⟨fun hrecovered => ?_, fun hpossible => absurd hpossible.1 hreserved⟩
      exact absurd hrecovered (not_recovered_of_none (h.missing hreserved) env)
  | _ => exact Iff.rfl

/-- What the constructor leaves behind. -/
lemma reserveInv_of_new {descriptors : List (Option DescriptorFile)}
    {devNullHere newConnectionCallback : Bool}
    (hnew : Acceptor.new descriptors devNullHere newConnectionCallback = some a) :
    ReserveInv (devNullHere = true ∧ used descriptors + 2 ≤ descriptors.length) a := by
  obtain ⟨n, hfirst, rfl⟩ := Option.map_eq_some_iff.mp hnew
  have hused := used_put (freeAt_of_firstFree hfirst) DescriptorFile.listening
  cases devNullHere with
  | false => exact ⟨fun hreserved => absurd hreserved.1 Bool.false_ne_true, fun _ => rfl⟩
  | true =>
    cases hsecond : firstFree (descriptors.set n (some .listening)) with
    | none =>
      have hfull := firstFree_eq_none_iff.mp hsecond
      rw [List.length_set] at hfull
      refine ⟨fun hreserved => ?_, fun _ => ?_⟩
      · have henough := hreserved.2
        omega
      · simp only [openDevNull, hsecond, if_true]
    | some m =>
      have hfree := freeAt_of_firstFree hsecond
      refine ⟨fun _ => ?_, fun hnot => ?_⟩
      · exact (openReserve_of_free (a := { newConnectionCallback := newConnectionCallback
                                           idleFd_ := -1
                                           descriptors := descriptors.set n (some .listening)
                                           pending := 0
                                           othersClosed := 0 }) hfree).1
      · refine absurd ⟨rfl, ?_⟩ hnot
        have hlt := used_lt hfree
        rw [List.length_set] at hlt
        omega

/-- In every run of an acceptor, the handler recovers whenever `accept` fails with `EMFILE`, if and
only if whenever no descriptor is free in it, the constructor has found `dev/null` in the working
directory and a descriptor for it, and the second `accept` has a connection to return and does not
fail for another reason. -/
theorem survivesExhaustion_iff {descriptors : List (Option DescriptorFile)}
    {devNullHere newConnectionCallback : Bool}
    (hnew : Acceptor.new descriptors devNullHere newConnectionCallback = some a)
    (es : List AcceptorEvent) :
    Meets step SurvivesExhaustion a es ↔
      Meets step (CanRecover (devNullHere = true ∧ used descriptors + 2 ≤ descriptors.length))
        a es := by
  refine meets_congr_of_invariant (I := ReserveInv _) ?_ ?_ (reserveInv_of_new hnew)
  · intro a e a' h hsurvives hstep
    exact h.step ((h.survives_iff e).mp hsurvives) hstep
  · exact fun a e h => h.survives_iff e

/-- Nothing else happens while the handler runs. -/
def quiet : HandlerEnv where
  first := none
  second := none
  beforeClose := []
  beforeAccept := []
  beforeCloseAgain := []
  beforeOpen := []
  arrivals := 0

/-- Two rounds of a process with five descriptors, started in the root directory. -/
theorem survivesExhaustion_root_directory :
    ∃ a a', Acceptor.new [some .other, some .other, some .other, none, none] true true = some a ∧
      exec step a [.connect] = some a' ∧ (a'.accept none).1 = .error EMFILE ∧
      Meets step SurvivesExhaustion a
        [.connect, .handleRead quiet, .connect, .handleRead quiet] := by
  have hnew : Acceptor.new [some .other, some .other, some .other, none, none] true true =
      some ⟨true, 4, [some .other, some .other, some .other, some .listening, some .devNull], 0, 0⟩
    := rfl
  exact ⟨_, _, hnew, rfl, rfl, (survivesExhaustion_iff hnew _).mpr (by decide)⟩

/-- The same process, started in a directory without `dev/null`: when its descriptors are used up,
the connection stays in the listen queue, and there is no reserve. -/
theorem not_survivesExhaustion_other_directory :
    ∃ a a', Acceptor.new [some .other, some .other, some .other, none, none] false true = some a ∧
      exec step a [.openOther, .connect] = some a' ∧ (a'.accept none).1 = .error EMFILE ∧
      (a'.handleRead quiet).pending = a'.pending ∧ (a'.handleRead quiet).idleFd_ = -1 ∧
      ¬ Meets step SurvivesExhaustion a [.openOther, .connect, .handleRead quiet] := by
  refine ⟨_, _, rfl, rfl, rfl, rfl, rfl, fun h => ?_⟩
  have hopened := (h _ rfl).2
  have hconnected := (hopened _ rfl).2
  have hrecovered := (hconnected _ rfl).1 rfl
  exact absurd hrecovered.removed (by decide)

end Acceptor

end SimpleMuduo
