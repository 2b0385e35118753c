import Mathlib.Algebra.Order.Ring.Int
import Mathlib.Data.List.Basic
import Mathlib.Tactic.Lemma

/-!
# Runs of a transition system

A transition system is given by its step function `step : σ → ε → Option σ`: the state after an
event, or `none` where the event cannot happen.  A run is a list of events executed one after
the other.

Two predicates on runs are used throughout.  `Meets step ok s es` says that every step of the
run from `s` satisfies the condition `ok` on the state before the step and the event, and
`Always step P s es` says that every state of the run satisfies `P`.  The invariant rules below
turn a statement about one step into a statement about every run, and `always_iff_meets`
identifies the runs in which a property never fails with the runs whose steps all meet a
condition.
-/

namespace SimpleMuduo

variable {σ τ ε δ : Type*}

/-- The state reached from `s` by the events of the list, in order, or `none` as soon as one of
them cannot happen. -/
def exec (step : σ → ε → Option σ) : σ → List ε → Option σ
  | s, [] => some s
  | s, e :: es => (step s e).bind fun t => exec step t es

/-- Every step of the run from `s` satisfies `ok` in the state before it. -/
def Meets (step : σ → ε → Option σ) (ok : σ → ε → Prop) : σ → List ε → Prop
  | _, [] => True
  | s, e :: es => ∀ t, step s e = some t → ok s e ∧ Meets step ok t es

/-- Every state of the run from `s`, the first one included, satisfies `P`. -/
def Always (step : σ → ε → Option σ) (P : σ → Prop) : σ → List ε → Prop
  | s, [] => P s
  | s, e :: es => P s ∧ ∀ t, step s e = some t → Always step P t es

section Exec

variable {step : σ → ε → Option σ}

/-- The empty run stays where it is. -/
@[simp] lemma exec_nil (s : σ) : exec step s [] = some s := rfl

/-- A nonempty run takes its first step and goes on from there. -/
@[simp] lemma exec_cons (s : σ) (e : ε) (es : List ε) :
    exec step s (e :: es) = (step s e).bind fun t => exec step t es := rfl

/-- A run that takes a first step and then reaches `u` splits at the state in between. -/
lemma exec_cons_eq_some {s u : σ} {e : ε} {es : List ε} :
    exec step s (e :: es) = some u ↔ ∃ t, step s e = some t ∧ exec step t es = some u := by
  simp [Option.bind_eq_some_iff]

/-- Running two lists of events one after the other is running their concatenation. -/
lemma exec_append (s : σ) (es fs : List ε) :
    exec step s (es ++ fs) = (exec step s es).bind fun t => exec step t fs := by
  induction es generalizing s with
  | nil => rfl
  | cons e es ih =>
    simp only [List.cons_append, exec_cons, Option.bind_assoc]
    exact congrArg _ (funext fun t => ih t)

/-- Two runs, one after the other. -/
lemma exec_append_of_eq_some {s t u : σ} {es fs : List ε} (hes : exec step s es = some t)
    (hfs : exec step t fs = some u) : exec step s (es ++ fs) = some u := by
  rw [exec_append, hes, Option.bind_some, hfs]

/-- A run at whose beginning a property holds and at whose end it does not has a step that loses
it. -/
lemma exists_step_of_exec {P : σ → Prop} {s t : σ} {es : List ε} (hrun : exec step s es = some t)
    (hs : P s) (ht : ¬ P t) :
    ∃ es₁ e es₂ u v, es = es₁ ++ e :: es₂ ∧ exec step s es₁ = some u ∧ step u e = some v ∧
      exec step v es₂ = some t ∧ P u ∧ ¬ P v := by
  induction es generalizing s with
  | nil =>
    obtain rfl : s = t := by simpa using hrun
    exact absurd hs ht
  | cons e es ih =>
    obtain ⟨u, hu, hrest⟩ := exec_cons_eq_some.mp hrun
    by_cases hPu : P u
    · obtain ⟨es₁, d, es₂, v, v', rfl, hes₁, hd, hes₂, hv, hv'⟩ := ih hrest hPu
      refine ⟨e :: es₁, d, es₂, v, v', rfl, ?_, hd, hes₂, hv, hv'⟩
      exact exec_cons_eq_some.mpr ⟨u, hu, hes₁⟩
    · exact ⟨[], e, es, s, u, rfl, rfl, hu, hrest, hs, hPu⟩

/-- A run that is executed, and whose last state satisfies a decidable property. -/
lemma exists_exec_of_any {P : σ → Prop} [DecidablePred P] {s : σ} {es : List ε}
    (h : (exec step s es).any (fun t => decide (P t)) = true) :
    ∃ t, exec step s es = some t ∧ P t := by
  obtain ⟨t, ht, hP⟩ := Option.any_eq_true _ _ |>.mp h
  exact ⟨t, ht, of_decide_eq_true hP⟩

end Exec

/-- The number of steps of the run that satisfy `p` in the state before them. -/
def tally (step : σ → ε → Option σ) (p : σ → ε → Prop) [∀ s e, Decidable (p s e)] :
    σ → List ε → ℕ
  | _, [] => 0
  | s, e :: es => (if p s e then 1 else 0) + (step s e).elim 0 fun t => tally step p t es

/-! ## Invariant rules -/

section Invariants

variable {step : σ → ε → Option σ} {ok : σ → ε → Prop} {I P : σ → Prop}

/-- What holds at the start and is preserved by every step that meets the condition holds at the
end of every run whose steps all meet it. -/
theorem invariant_of_meets
    (hstep : ∀ s e t, I s → ok s e → step s e = some t → I t)
    {s t : σ} {es : List ε} (hs : I s) (hmeets : Meets step ok s es)
    (hrun : exec step s es = some t) : I t := by
  induction es generalizing s with
  | nil =>
    obtain rfl : s = t := by simpa using hrun
    exact hs
  | cons e es ih =>
    obtain ⟨u, hu, hrun⟩ := exec_cons_eq_some.mp hrun
    obtain ⟨hok, hrest⟩ := hmeets u hu
    exact ih (hstep s e u hs hok hu) hrest hrun

/-- Every run meets the trivial condition. -/
lemma meets_true (s : σ) (es : List ε) : Meets step (fun _ _ => True) s es := by
  induction es generalizing s with
  | nil => trivial
  | cons e es ih => exact fun t _ => ⟨trivial, ih t⟩

/-- What holds at the start and is preserved by every step holds at the end of every run. -/
theorem invariant_of_exec (hstep : ∀ s e t, I s → step s e = some t → I t)
    {s t : σ} {es : List ε} (hs : I s) (hrun : exec step s es = some t) : I t :=
  invariant_of_meets (fun s e t hI _ he => hstep s e t hI he) hs
    (meets_true s es) hrun

/-- A step that meets the condition, followed by a run that does. -/
lemma Meets.cons {s t : σ} {e : ε} {es : List ε} (h : step s e = some t) (hok : ok s e)
    (hrest : Meets step ok t es) : Meets step ok s (e :: es) := by
  intro u hu
  obtain rfl : t = u := Option.some.inj (h.symm.trans hu)
  exact ⟨hok, hrest⟩

/-- A run that meets a condition meets every other one that follows from it under an invariant. -/
lemma Meets.imp_of_invariant {ok' : σ → ε → Prop}
    (hstep : ∀ s e t, I s → ok s e → step s e = some t → I t)
    (hok : ∀ s e, I s → ok s e → ok' s e) {s : σ} {es : List ε} (hs : I s)
    (hmeets : Meets step ok s es) : Meets step ok' s es := by
  induction es generalizing s with
  | nil => trivial
  | cons e es ih =>
    intro t ht
    obtain ⟨he, hrest⟩ := hmeets t ht
    exact ⟨hok s e hs he, ih (hstep s e t hs he ht) hrest⟩

/-- Two conditions that are equivalent under an invariant are met by the same runs. -/
theorem meets_congr_of_invariant {ok' : σ → ε → Prop}
    (hstep : ∀ s e t, I s → ok s e → step s e = some t → I t)
    (hok : ∀ s e, I s → (ok s e ↔ ok' s e)) {s : σ} {es : List ε} (hs : I s) :
    Meets step ok s es ↔ Meets step ok' s es := by
  constructor
  · exact fun h => h.imp_of_invariant hstep (fun s e hI => (hok s e hI).mp) hs
  · refine fun h => h.imp_of_invariant (fun s e t hI he => ?_) (fun s e hI => (hok s e hI).mpr) hs
    exact hstep s e t hI ((hok s e hI).mpr he)

/-- A condition on the events alone is met when all of them satisfy it. -/
lemma Meets.of_forall {p : ε → Prop} (s : σ) {es : List ε} (h : ∀ e ∈ es, p e) :
    Meets step (fun _ e => p e) s es := by
  induction es generalizing s with
  | nil => trivial
  | cons e es ih =>
    exact fun t _ => ⟨h e List.mem_cons_self, ih t fun d hd => h d (List.mem_cons_of_mem e hd)⟩

lemma Meets.and {ok' : σ → ε → Prop} {s : σ} {es : List ε} (h : Meets step ok s es)
    (h' : Meets step ok' s es) : Meets step (fun s e => ok s e ∧ ok' s e) s es := by
  induction es generalizing s with
  | nil => trivial
  | cons e es ih => exact fun t ht => ⟨⟨(h t ht).1, (h' t ht).1⟩, ih (h t ht).2 (h' t ht).2⟩

/-- Whether a run meets a decidable condition is found out by executing it. -/
instance Meets.decidable [∀ s e, Decidable (ok s e)] : ∀ s es, Decidable (Meets step ok s es)
  | _, [] => isTrue trivial
  | s, e :: es =>
    match h : step s e with
    | none => isTrue fun t ht => by simp [h] at ht
    | some t =>
      have : Decidable (Meets step ok t es) := Meets.decidable t es
      decidable_of_iff (ok s e ∧ Meets step ok t es)
        ⟨fun hok => Meets.cons h hok.1 hok.2, fun hmeets => hmeets t h⟩

/-- A property of every state of a run holds at its end. -/
lemma Always.of_exec {s t : σ} {es : List ε} (h : Always step P s es)
    (hrun : exec step s es = some t) : P t := by
  induction es generalizing s with
  | nil =>
    obtain rfl : s = t := by simpa using hrun
    exact h
  | cons e es ih =>
    obtain ⟨u, hu, hrest⟩ := exec_cons_eq_some.mp hrun
    exact ih (h.2 u hu) hrest

/-- A property of every state of a run holds at its beginning. -/
lemma Always.of_start {s : σ} {es : List ε} (h : Always step P s es) : P s := by
  cases es with
  | nil => exact h
  | cons e es => exact h.1

/-- A property of every state of a run holds before and after each of its steps. -/
lemma Always.meets {s : σ} {es : List ε} (h : Always step P s es) :
    Meets step (fun s e => P s ∧ ∀ t, step s e = some t → P t) s es := by
  induction es generalizing s with
  | nil => trivial
  | cons e es ih =>
    exact fun t ht => ⟨⟨h.1, fun u hu => (h.2 u hu).of_start⟩, ih (h.2 t ht)⟩

/-- Whether a decidable property holds in every state of a run is found out by executing it. -/
instance Always.decidable [DecidablePred P] : ∀ s es, Decidable (Always step P s es)
  | s, [] => inferInstanceAs (Decidable (P s))
  | s, e :: es =>
    match h : step s e with
    | none => decidable_of_iff (P s) ⟨fun hP => ⟨hP, fun t ht => by simp [h] at ht⟩, And.left⟩
    | some t =>
      have : Decidable (Always step P t es) := Always.decidable t es
      decidable_of_iff (P s ∧ Always step P t es)
        ⟨fun hP => ⟨hP.1, fun u hu => Option.some.inj (h.symm.trans hu) ▸ hP.2⟩,
          fun hP => ⟨hP.1, hP.2 t h⟩⟩

/-- What no step lowers, and every step with `p` doubles. -/
theorem mul_two_pow_tally_le {p : σ → ε → Prop} [∀ s e, Decidable (p s e)] {f : σ → ℕ}
    (hstep : ∀ s e t, I s → ok s e → step s e = some t →
      I t ∧ f s ≤ f t ∧ (p s e → f s * 2 ≤ f t))
    {s t : σ} {es : List ε} (hs : I s) (hmeets : Meets step ok s es)
    (hrun : exec step s es = some t) : f s * 2 ^ tally step p s es ≤ f t := by
  induction es generalizing s with
  | nil =>
    obtain rfl : s = t := by simpa using hrun
    simp [tally]
  | cons e es ih =>
    obtain ⟨u, hu, hrun⟩ := exec_cons_eq_some.mp hrun
    obtain ⟨hok, hrest⟩ := hmeets u hu
    obtain ⟨hIu, hle, hdouble⟩ := hstep s e u hs hok hu
    refine le_trans ?_ (ih hIu hrest hrun)
    simp only [tally, hu, Option.elim_some]
    split
    · rw [pow_add, pow_one, ← Nat.mul_assoc]
      exact Nat.mul_le_mul_right _ (hdouble ‹_›)
    · rw [Nat.zero_add]
      exact Nat.mul_le_mul_right _ hle

/-- A measure that some further run lowers whenever it is not zero is brought down to zero by some
further run. -/
theorem exists_exec_eq_zero {p : ε → Prop} {f : σ → ℕ}
    (hlower : ∀ s, I s → f s ≠ 0 →
      ∃ es t, (∀ e ∈ es, p e) ∧ exec step s es = some t ∧ I t ∧ f t < f s)
    {s : σ} (hs : I s) :
    ∃ es t, (∀ e ∈ es, p e) ∧ exec step s es = some t ∧ I t ∧ f t = 0 := by
  induction hn : f s using Nat.strong_induction_on generalizing s with
  | _ n ih =>
    by_cases hzero : f s = 0
    · exact ⟨[], s, fun _ he => absurd he List.not_mem_nil, rfl, hs, hzero⟩
    · obtain ⟨es, u, hes, hu, hIu, hless⟩ := hlower s hs hzero
      obtain ⟨fs, t, hfs, ht, hIt, hdone⟩ := ih (f u) (hn ▸ hless) hIu rfl
      refine ⟨es ++ fs, t, fun e he => ?_, ?_, hIt, hdone⟩
      · exact (List.mem_append.mp he).elim (hes e) (hfs e)
      · rw [exec_append, hu, Option.bind_some, ht]

/-- Suppose the steps that meet the condition preserve an invariant that implies `P`, and every
other step from a state with the invariant breaks `P`.  Then the runs in which `P` never fails
are exactly the runs whose steps all meet the condition. -/
theorem always_iff_meets
    (hstep : ∀ s e t, I s → ok s e → step s e = some t → I t)
    (hP : ∀ s, I s → P s)
    (hbad : ∀ s e t, I s → ¬ ok s e → step s e = some t → ¬ P t)
    {s : σ} {es : List ε} (hs : I s) : Always step P s es ↔ Meets step ok s es := by
  induction es generalizing s with
  | nil => exact ⟨fun _ => trivial, fun _ => hP s hs⟩
  | cons e es ih =>
    constructor
    · rintro ⟨-, hrest⟩ t ht
      have hPt : P t := by
        cases es with
        | nil => exact hrest t ht
        | cons => exact (hrest t ht).1
      have hok : ok s e := by
        by_contra hnot
        exact hbad s e t hs hnot ht hPt
      exact ⟨hok, (ih (hstep s e t hs hok ht)).mp (hrest t ht)⟩
    · intro hmeets
      refine ⟨hP s hs, fun t ht => ?_⟩
      obtain ⟨hok, hrest⟩ := hmeets t ht
      exact (ih (hstep s e t hs hok ht)).mpr hrest

end Invariants

/-! ## Refinement -/

section Refinement

variable {step : σ → ε → Option σ} {astep : τ → δ → Option τ} {ok : σ → ε → Prop}
  {I : σ → Prop} {abs : σ → τ} {events : σ → ε → List δ}

/-- If every step that meets the condition is matched, through the abstraction function `abs`, by
some abstract events, then so is every run whose steps all meet it. -/
theorem simulates_of_meets
    (hstep : ∀ s e t, I s → ok s e → step s e = some t →
      I t ∧ ∃ fs, exec astep (abs s) fs = some (abs t))
    {s t : σ} {es : List ε} (hs : I s) (hmeets : Meets step ok s es)
    (hrun : exec step s es = some t) : ∃ fs, exec astep (abs s) fs = some (abs t) := by
  induction es generalizing s with
  | nil =>
    obtain rfl : s = t := by simpa using hrun
    exact ⟨[], rfl⟩
  | cons e es ih =>
    obtain ⟨u, hu, hrun⟩ := exec_cons_eq_some.mp hrun
    obtain ⟨hok, hrest⟩ := hmeets u hu
    obtain ⟨hIu, gs, habs⟩ := hstep s e u hs hok hu
    obtain ⟨fs, hfs⟩ := ih hIu hrest hrun
    refine ⟨gs ++ fs, ?_⟩
    rw [exec_append, habs, Option.bind_some, hfs]

/-- The same when the matching events `events s e` are known beforehand. -/
theorem refines_of_meets
    (hstep : ∀ s e t, I s → ok s e → step s e = some t →
      I t ∧ exec astep (abs s) (events s e) = some (abs t))
    {s t : σ} {es : List ε} (hs : I s) (hmeets : Meets step ok s es)
    (hrun : exec step s es = some t) : ∃ fs, exec astep (abs s) fs = some (abs t) :=
  simulates_of_meets (fun s e t hI hok he => (hstep s e t hI hok he).imp_right fun h => ⟨_, h⟩) hs
    hmeets hrun

end Refinement

end SimpleMuduo
