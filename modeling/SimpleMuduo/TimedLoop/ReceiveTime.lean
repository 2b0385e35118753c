import SimpleMuduo.Poller
import SimpleMuduo.TimedLoop.Deadlines

/-!
# The receive time of the read handlers

`loop()` gives every handler its local variable `now`, from which `TcpConnection::handleRead` and
the message callback take their receive time; what `poll` returns is not used.  As `now` is only
read from the clock in an iteration that begins with a valid nearest deadline, the handlers of the
other iterations get the reading of an earlier one, or the initial 0.
-/

namespace SimpleMuduo

/-- A call of a read handler. -/
structure Reception where
  receiveTime : Timestamp
  /-- The clock at the start of the iteration. -/
  started : ℕ
  deriving DecidableEq

/-- `handleEvent` calls `readCallback_`: the object that the channel is tied to, if it is, still
exists, and `revents_` has one of the bits for reading. -/
def CallsRead (alive : Bool) (revents : EventMask) : Prop :=
  alive = true ∧ revents &&& (EPOLLIN ||| EPOLLPRI) ≠ 0#32

instance (alive : Bool) (revents : EventMask) : Decidable (CallsRead alive revents) :=
  inferInstanceAs (Decidable (_ ∧ _))

/-- The loop with its timers and the calls of its read handlers, the newest first.  Not in the
source: the clock at the start of the iteration, the time since `loop()` has last read the clock, if
it has, and what that time was at the start of the iteration. -/
structure ReceivingLoop where
  loop : TimedLoop
  started : ℕ
  sinceRead : Option ℕ
  idleFor : Option ℕ
  receptions : List Reception

/-- What happens next. -/
inductive ReceiveEvent
  /-- A step of the loop and its timers. -/
  | loop (e : TimedEvent)
  /-- `channel->handleEvent(now)`. -/
  | handleEvent (alive : Bool) (revents : EventMask)
  deriving DecidableEq

namespace ReceivingLoop

/-- A loop whose timer queue has an uninitialised `atomic_`. -/
def new (atomic_ : BitVec 32) (clock : ℕ) : ReceivingLoop where
  loop := .new atomic_ clock
  started := 0
  sinceRead := none
  idleFor := none
  receptions := []

/-- The loop has taken a step to the state `l`. -/
def loopStep (s : ReceivingLoop) (e : TimedEvent) (l : TimedLoop) : ReceivingLoop :=
  match e with
  | .tick microseconds => { s with loop := l, sinceRead := s.sinceRead.map (· + microseconds) }
  | .enter => { s with loop := l, sinceRead := none }
  | .beginIteration =>
    { s with
      loop := l
      started := s.loop.clock
      sinceRead := if s.loop.queue.getNearestExpiration.valid then some 0 else s.sinceRead
      idleFor := s.sinceRead }
  | _ => { s with loop := l }

/-- `handleEvent(now)`, which passes `now` on to `readCallback_`. -/
def handleEvent (s : ReceivingLoop) (alive : Bool) (revents : EventMask) : ReceivingLoop :=
  if CallsRead alive revents then
    { s with receptions := ⟨s.loop.now, s.started⟩ :: s.receptions }
  else s

/-- One step. -/
def step (s : ReceivingLoop) : ReceiveEvent → Option ReceivingLoop
  | .loop e => (s.loop.step e).map (s.loopStep e)
  | .handleEvent alive revents =>
    if s.loop.queue.fault = none ∧ s.loop.pc = .handlers then some (s.handleEvent alive revents)
    else none

/-- No read handler has been given a time before the start of its iteration, so that all the times
are valid and do not decrease. -/
structure ReceivesPollTime (s : ReceivingLoop) : Prop where
  notEarlier : ∀ r ∈ s.receptions, (r.started : ℤ) ≤ r.receiveTime
  valid : ∀ r ∈ s.receptions, r.receiveTime.valid
  sorted : s.receptions.Pairwise fun later earlier => earlier.receiveTime ≤ later.receiveTime

/-- A read handler is called in an iteration that began with a valid nearest deadline, or when no
time had passed since the loop last read the clock. -/
def TimeRefreshed (s : ReceivingLoop) : ReceiveEvent → Prop
  | .loop _ => True
  | .handleEvent alive revents =>
    CallsRead alive revents → s.loop.nextExpired.valid ∨ s.idleFor = some 0

instance (s : ReceivingLoop) (e : ReceiveEvent) : Decidable (s.TimeRefreshed e) := by
  cases e <;> dsimp only [TimeRefreshed] <;> infer_instance

/-! ## What `now` shows -/

/-- `now` is what the clock showed some time before `clock`, or the initial value if it has not been
read. -/
def Shows (now : Timestamp) (elapsed : Option ℕ) (clock : ℕ) : Prop :=
  elapsed = none ∧ now = Timestamp.invalid ∨ ∃ n : ℕ, elapsed = some n ∧ now + n = clock

lemma Shows.tick {now : Timestamp} {elapsed : Option ℕ} {clock : ℕ} (h : Shows now elapsed clock)
    (microseconds : ℕ) : Shows now (elapsed.map (· + microseconds)) (clock + microseconds) := by
  rcases h with ⟨rfl, hnow⟩ | ⟨n, rfl, hclock⟩
  · exact .inl ⟨rfl, hnow⟩
  · refine .inr ⟨n + microseconds, rfl, ?_⟩
    push_cast
    rw [← hclock, add_assoc]

/-- What `now` is while the handlers are called, and what they have been given so far, where the
condition has been met. -/
structure TimeInv (s : ReceivingLoop) : Prop where
  positive : 0 < s.loop.clock
  started_le : s.started ≤ s.loop.clock
  shows : Shows s.loop.now s.sinceRead s.loop.clock
  handlers : s.loop.pc = .handlers → 0 < s.started ∧
    (s.loop.nextExpired.valid → s.loop.now = s.started) ∧
    (¬ s.loop.nextExpired.valid → Shows s.loop.now s.idleFor s.started)
  given : ∀ r ∈ s.receptions, r.receiveTime = r.started ∧ 0 < r.started ∧ r.started ≤ s.started
  sorted : s.receptions.Pairwise fun later earlier => earlier.receiveTime ≤ later.receiveTime

variable {s s' : ReceivingLoop} {l l' : TimedLoop}

/-- The steps of the loop apart from those that have to do with the clock. -/
lemma clock_of_step {e : TimedEvent} (hstep : l.step e = some l')
    (htick : ∀ microseconds, e ≠ .tick microseconds) (henter : e ≠ .enter)
    (hbegin : e ≠ .beginIteration) :
    l'.clock = l.clock ∧ l'.now = l.now ∧ l'.nextExpired = l.nextExpired ∧
      (l'.pc = .handlers → l.pc = .handlers) := by
  unfold TimedLoop.step at hstep
  obtain ⟨-, hstep⟩ := Option.ite_none_left_eq_some.mp hstep
  cases e with
  | tick microseconds => exact absurd rfl (htick microseconds)
  | enter => exact absurd rfl henter
  | beginIteration => exact absurd rfl hbegin
  | leave =>
    obtain ⟨-, hstep⟩ := Option.ite_none_right_eq_some.mp hstep
    obtain rfl := Option.some.inj hstep
    exact ⟨rfl, rfl, rfl, nofun⟩
  | runTimer =>
    obtain ⟨hpc, hstep⟩ := Option.ite_none_right_eq_some.mp hstep
    obtain ⟨q, -, rfl⟩ := Option.map_eq_some_iff.mp hstep
    exact ⟨rfl, rfl, rfl, fun _ => hpc⟩
  | queue e =>
    obtain ⟨-, hstep⟩ := Option.ite_none_right_eq_some.mp hstep
    obtain ⟨q, -, rfl⟩ := Option.map_eq_some_iff.mp hstep
    exact ⟨rfl, rfl, rfl, TimedLoop.pcAfter_eq_handlers⟩
  | endIteration =>
    obtain ⟨-, hstep⟩ := Option.ite_none_right_eq_some.mp hstep
    obtain rfl := Option.some.inj hstep
    exact ⟨rfl, rfl, rfl, nofun⟩

namespace TimeInv

lemma new (atomic_ : BitVec 32) {clock : ℕ} (hclock : 0 < clock) :
    (ReceivingLoop.new atomic_ clock).TimeInv :=
  ⟨hclock, Nat.zero_le _, .inl ⟨rfl, rfl⟩, nofun, nofun, List.Pairwise.nil⟩

lemma receivesPollTime (h : s.TimeInv) : s.ReceivesPollTime := by
  refine ⟨fun r hr => (h.given r hr).1.ge, fun r hr => ?_, h.sorted⟩
  obtain ⟨htime, hpositive, -⟩ := h.given r hr
  rw [Timestamp.valid, htime]
  exact Int.natCast_pos.mpr hpositive

/-- The steps of the loop that do not touch the clock. -/
lemma frame (h : s.TimeInv) (hclock : l.clock = s.loop.clock) (hnow : l.now = s.loop.now)
    (hnext : l.nextExpired = s.loop.nextExpired)
    (hpc : l.pc = .handlers → s.loop.pc = .handlers) : ({ s with loop := l }).TimeInv := by
  refine ⟨?_, ?_, ?_, fun hhandlers => ?_, h.given, h.sorted⟩
  · change 0 < l.clock
    rw [hclock]
    exact h.positive
  · change s.started ≤ l.clock
    rw [hclock]
    exact h.started_le
  · change Shows l.now s.sinceRead l.clock
    rw [hnow, hclock]
    exact h.shows
  · change 0 < s.started ∧ (l.nextExpired.valid → l.now = s.started) ∧
      (¬ l.nextExpired.valid → Shows l.now s.idleFor s.started)
    rw [hnow, hnext]
    exact h.handlers (hpc hhandlers)

/-- A step of the loop. -/
lemma loopStep (h : s.TimeInv) {e : TimedEvent} (hstep : s.loop.step e = some l) :
    (s.loopStep e l).TimeInv := by
  cases e with
  | tick microseconds =>
    obtain ⟨-, hstep⟩ := Option.ite_none_left_eq_some.mp hstep
    obtain rfl := Option.some.inj hstep
    exact ⟨Nat.add_pos_left h.positive _, h.started_le.trans (Nat.le_add_right _ _),
      h.shows.tick microseconds, h.handlers, h.given, h.sorted⟩
  | enter =>
    obtain ⟨-, hstep⟩ := Option.ite_none_left_eq_some.mp hstep
    obtain ⟨-, hstep⟩ := Option.ite_none_right_eq_some.mp hstep
    obtain rfl := Option.some.inj hstep
    exact ⟨h.positive, h.started_le, .inl ⟨rfl, rfl⟩, nofun, h.given, h.sorted⟩
  | beginIteration =>
    obtain ⟨-, hstep⟩ := Option.ite_none_left_eq_some.mp hstep
    obtain ⟨-, hstep⟩ := Option.ite_none_right_eq_some.mp hstep
    obtain rfl := Option.some.inj hstep
    refine ⟨h.positive, le_rfl, ?_, fun _ => ⟨h.positive, ?_, ?_⟩, ?_, h.sorted⟩
    · simp only [ReceivingLoop.loopStep, TimedLoop.beginIteration]
      split_ifs with hvalid
      · exact .inr ⟨0, rfl, by simp⟩
      · exact h.shows
    · exact fun hvalid => if_pos hvalid
    · intro hvalid
      have hnow : s.loop.beginIteration.now = s.loop.now := if_neg hvalid
      change Shows s.loop.beginIteration.now s.sinceRead s.loop.clock
      rw [hnow]
      exact h.shows
    · intro r hr
      obtain ⟨htime, hpositive, hle⟩ := h.given r hr
      exact ⟨htime, hpositive, hle.trans h.started_le⟩
  | leave | runTimer | queue | endIteration =>
    obtain ⟨hclock, hnow, hnext, hpc⟩ := clock_of_step hstep nofun nofun nofun
    exact h.frame hclock hnow hnext hpc

/-- A read handler is given the start of the iteration where the condition is met. -/
lemma now_eq (h : s.TimeInv) (hpc : s.loop.pc = .handlers)
    (hrefreshed : s.loop.nextExpired.valid ∨ s.idleFor = some 0) : s.loop.now = s.started := by
  obtain ⟨-, hread, hleft⟩ := h.handlers hpc
  by_cases hvalid : s.loop.nextExpired.valid
  · exact hread hvalid
  · have hidle := hrefreshed.resolve_left hvalid
    rcases hleft hvalid with ⟨hnone, -⟩ | ⟨n, hsome, hnow⟩
    · rw [hidle] at hnone
      cases hnone
    · rw [hidle, Option.some.injEq] at hsome
      subst hsome
      simpa using hnow

/-- The step lemma. -/
lemma step (h : s.TimeInv) {e : ReceiveEvent} (hok : s.TimeRefreshed e)
    (hstep : s.step e = some s') : s'.TimeInv := by
  cases e with
  | loop e =>
    obtain ⟨l, hl, rfl⟩ := Option.map_eq_some_iff.mp hstep
    exact h.loopStep hl
  | handleEvent alive revents =>
    obtain ⟨⟨-, hpc⟩, hstep⟩ := Option.ite_none_right_eq_some.mp hstep
    obtain rfl := Option.some.inj hstep
    unfold ReceivingLoop.handleEvent
    split_ifs with hreads
    · have hnow := h.now_eq hpc (hok hreads)
      have hpositive := (h.handlers hpc).1
      refine ⟨h.positive, h.started_le, h.shows, h.handlers, ?_, ?_⟩
      · intro r hr
        rcases List.mem_cons.mp hr with rfl | hr
        · exact ⟨hnow, hpositive, le_rfl⟩
        · exact h.given r hr
      · refine List.Pairwise.cons (fun r hr => ?_) h.sorted
        obtain ⟨htime, -, hle⟩ := h.given r hr
        change r.receiveTime ≤ s.loop.now
        rw [htime, hnow]
        exact Int.ofNat_le.mpr hle
    · exact h

/-- A read handler that is called with a `now` that is left over gets a time that is too early, or
not valid. -/
lemma not_receivesPollTime (h : s.TimeInv) {e : ReceiveEvent} (hnot : ¬ s.TimeRefreshed e)
    (hstep : s.step e = some s') : ¬ s'.ReceivesPollTime := by
  cases e with
  | loop e => exact absurd trivial hnot
  | handleEvent alive revents =>
    obtain ⟨⟨-, hpc⟩, hstep⟩ := Option.ite_none_right_eq_some.mp hstep
    obtain rfl := Option.some.inj hstep
    obtain ⟨hreads, hstale⟩ := Classical.not_imp.mp hnot
    obtain ⟨hinvalid, hidle⟩ := not_or.mp hstale
    intro hreceives
    have hmem :
        (⟨s.loop.now, s.started⟩ : Reception) ∈ (s.handleEvent alive revents).receptions := by
      rw [ReceivingLoop.handleEvent, if_pos hreads]
      exact List.mem_cons_self
    rcases (h.handlers hpc).2.2 hinvalid with ⟨-, hnever⟩ | ⟨n, helapsed, hnow⟩
    · have hvalid := hreceives.valid _ hmem
      rw [Timestamp.valid, hnever] at hvalid
      exact absurd hvalid (lt_irrefl 0)
    · have hle : (s.started : ℤ) ≤ s.loop.now := hreceives.notEarlier _ hmem
      rw [← hnow] at hle
      have hn : (n : ℤ) ≤ 0 := by simpa using hle
      have hzero : n = 0 := Nat.le_zero.mp (Int.ofNat_le.mp hn)
      exact hidle (by rw [helapsed, hzero])

end TimeInv

end ReceivingLoop

/-- In every run of the loop with a clock that does not go back, with any timers added and cancelled
at any point, the read handlers are given times that are not before the start of their iteration,
if and only if each of them is called in an iteration that began with a valid nearest deadline, or
when no time had passed since the clock was last read. -/
theorem receivesPollTime_iff (atomic_ : BitVec 32) {clock : ℕ} (hclock : 0 < clock)
    (es : List ReceiveEvent) :
    Always ReceivingLoop.step ReceivingLoop.ReceivesPollTime (.new atomic_ clock) es ↔
      Meets ReceivingLoop.step ReceivingLoop.TimeRefreshed (.new atomic_ clock) es := by
  refine always_iff_meets (I := ReceivingLoop.TimeInv) ?_ ?_ ?_ (.new atomic_ hclock)
  · exact fun s e s' h hok hstep => h.step hok hstep
  · exact fun s h => h.receivesPollTime
  · exact fun s e s' h hnot hstep => h.not_receivesPollTime hnot hstep

/-- A handler in an iteration that begins with a timer, and one in the next iteration, which begins
without one but at the same time. -/
theorem receivesPollTime_same_time :
    ∃ s, exec ReceivingLoop.step (.new 0 5) [.loop (.queue (.addTimer 100 4 0)), .loop .enter,
        .loop .beginIteration, .handleEvent true EPOLLIN, .loop .runTimer,
        .loop (.queue .trigger), .loop (.queue .triggered), .loop (.queue .restart),
        .loop (.queue .finish), .loop (.queue .swap), .loop .endIteration, .loop .beginIteration,
        .handleEvent true EPOLLIN] = some s ∧
      s.receptions = [⟨5, 5⟩, ⟨5, 5⟩] ∧ s.ReceivesPollTime := by
  have hrun : ∃ s, exec ReceivingLoop.step (.new 0 5) [.loop (.queue (.addTimer 100 4 0)),
        .loop .enter, .loop .beginIteration, .handleEvent true EPOLLIN, .loop .runTimer,
        .loop (.queue .trigger), .loop (.queue .triggered), .loop (.queue .restart),
        .loop (.queue .finish), .loop (.queue .swap), .loop .endIteration, .loop .beginIteration,
        .handleEvent true EPOLLIN] = some s ∧
      s.receptions = [⟨5, 5⟩, ⟨5, 5⟩] := exists_exec_of_any (by decide +kernel)
  obtain ⟨s, hrun, hreceptions⟩ := hrun
  refine ⟨s, hrun, hreceptions, Always.of_exec ((receivesPollTime_iff 0 ?_ _).mpr ?_) hrun⟩
  · decide
  · decide +kernel

/-- The handler of the first iteration of a loop that has no timers is given the initial value of
`now`, which is not valid. -/
theorem not_receivesPollTime_no_timers :
    ∃ s, exec ReceivingLoop.step (.new 0 1000000) [.loop .enter, .loop .beginIteration,
        .loop (.tick 500000), .handleEvent true EPOLLIN] = some s ∧
      s.receptions = [⟨Timestamp.invalid, 1000000⟩] ∧ ¬ s.ReceivesPollTime := by
  have hrun : ∃ s, exec ReceivingLoop.step (.new 0 1000000) [.loop .enter, .loop .beginIteration,
        .loop (.tick 500000), .handleEvent true EPOLLIN] = some s ∧
      s.receptions = [⟨Timestamp.invalid, 1000000⟩] := exists_exec_of_any (by decide +kernel)
  obtain ⟨s, hrun, hreceptions⟩ := hrun
  refine ⟨s, hrun, hreceptions, fun h => ?_⟩
  have hmem : (⟨Timestamp.invalid, 1000000⟩ : Reception) ∈ s.receptions := by
    rw [hreceptions]
    exact List.mem_cons_self
  exact absurd (h.valid _ hmem) (lt_irrefl 0)

end SimpleMuduo
