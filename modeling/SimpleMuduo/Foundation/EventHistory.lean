import Mathlib.Data.List.Basic
import Mathlib.Data.List.Count
import Mathlib.Data.List.Infix
import Mathlib.Tactic.Lemma

/-!
# Event histories

A history is the list of the events a system has produced so far, the newest one first, so that
recording an event is consing it.  This file collects what is needed to state temporal
properties of a run by its history: `Whenever p Q h` says that the history satisfied `Q` each
time an event with `p` was recorded, `NeverAfter p q h` that no event with `q` was recorded after
one with `p`, `Extends q h h'` that `h` has grown to `h'` by events with `q`, and `collect f h`
concatenates the contributions `f e` of the events of `h` in the order in which they happened.
-/

namespace SimpleMuduo

variable {ε β : Type*}

/-- Whenever an event with `p` was recorded, the history up to then satisfied `Q`. -/
def Whenever (p : ε → Prop) (Q : List ε → Prop) : List ε → Prop
  | [] => True
  | e :: h => (p e → Q h) ∧ Whenever p Q h

/-- No event with `q` was recorded after an event with `p`. -/
def NeverAfter (p q : ε → Prop) (h : List ε) : Prop := Whenever q (fun past => ∀ d ∈ past, ¬ p d) h

section Whenever

variable {p q : ε → Prop} {Q : List ε → Prop}

@[simp] lemma whenever_nil : Whenever p Q [] := trivial

@[simp] lemma whenever_cons {e : ε} {h : List ε} :
    Whenever p Q (e :: h) ↔ (p e → Q h) ∧ Whenever p Q h := Iff.rfl

/-- The property speaks about every moment of the history. -/
theorem whenever_iff {h : List ε} :
    Whenever p Q h ↔ ∀ e past, e :: past <:+ h → p e → Q past := by
  induction h with
  | nil => simp
  | cons d h ih =>
    rw [whenever_cons, ih]
    constructor
    · rintro ⟨hd, hh⟩ e past hs
      rcases List.suffix_cons_iff.mp hs with heq | hs
      · obtain ⟨rfl, rfl⟩ := List.cons.inj heq
        exact hd
      · exact hh e past hs
    · intro hall
      refine ⟨hall d h List.suffix_rfl, fun e past hs => ?_⟩
      exact hall e past (hs.trans (List.suffix_cons d h))

instance Whenever.decidable [DecidablePred p] [DecidablePred Q] :
    (h : List ε) → Decidable (Whenever p Q h)
  | [] => isTrue trivial
  | e :: h =>
    have : Decidable (Whenever p Q h) := Whenever.decidable h
    inferInstanceAs (Decidable ((p e → Q h) ∧ Whenever p Q h))

instance [DecidablePred p] [DecidablePred q] (h : List ε) : Decidable (NeverAfter p q h) :=
  inferInstanceAs (Decidable (Whenever q (fun past => ∀ d ∈ past, ¬ p d) h))

/-- Events without `p` recorded on top of a history do not matter. -/
lemma whenever_append {es h : List ε} (hes : ∀ e ∈ es, ¬ p e) :
    Whenever p Q (es ++ h) ↔ Whenever p Q h := by
  induction es with
  | nil => rfl
  | cons e es ih =>
    have he : ¬ p e := hes e List.mem_cons_self
    have hrest := ih fun d hd => hes d (List.mem_cons_of_mem e hd)
    simp [he, hrest]

@[simp] lemma neverAfter_nil : NeverAfter p q [] := trivial

@[simp] lemma neverAfter_cons {e : ε} {h : List ε} :
    NeverAfter p q (e :: h) ↔ (q e → ∀ d ∈ h, ¬ p d) ∧ NeverAfter p q h := Iff.rfl

/-- Without an event with `p` there is no event after one. -/
lemma neverAfter_of_forall_not {h : List ε} (hh : ∀ d ∈ h, ¬ p d) : NeverAfter p q h := by
  refine whenever_iff.mpr fun e past hs _ d hd => hh d ?_
  exact hs.subset (List.mem_cons_of_mem e hd)

/-- An event with `q` on top of a history with one with `p` comes after it. -/
lemma not_neverAfter_append {es h : List ε} {d e : ε} (hd : d ∈ h) (hpd : p d) (he : e ∈ es)
    (hqe : q e) : ¬ NeverAfter p q (es ++ h) := by
  intro hnever
  obtain ⟨later, earlier, rfl⟩ := List.append_of_mem he
  refine whenever_iff.mp hnever e (earlier ++ h) ⟨later, by simp⟩ hqe d ?_ hpd
  exact List.mem_append_right earlier hd

end Whenever

/-- The history `h` has grown to `h'` by events with `q`. -/
def Extends (q : ε → Prop) (h h' : List ε) : Prop := ∃ es, (∀ e ∈ es, q e) ∧ h' = es ++ h

namespace Extends

variable {p q : ε → Prop} {h h₁ h₂ : List ε} {e : ε}

lemma refl (h : List ε) : Extends q h h := ⟨[], by simp, rfl⟩

lemma cons (he : q e) : Extends q h (e :: h) := ⟨[e], by simpa using he, rfl⟩

lemma trans (h₁₂ : Extends q h h₁) (h₂₃ : Extends q h₁ h₂) : Extends q h h₂ := by
  obtain ⟨es, hes, rfl⟩ := h₁₂
  obtain ⟨fs, hfs, rfl⟩ := h₂₃
  refine ⟨fs ++ es, fun e he => ?_, (List.append_assoc _ _ _).symm⟩
  exact (List.mem_append.mp he).elim (hfs e) (hes e)

lemma mono (hqp : ∀ e, q e → p e) (hext : Extends q h h₁) : Extends p h h₁ := by
  obtain ⟨es, hes, heq⟩ := hext
  exact ⟨es, fun e he => hqp e (hes e he), heq⟩

lemma suffix (hext : Extends q h h₁) : h <:+ h₁ := by
  obtain ⟨es, -, rfl⟩ := hext
  exact List.suffix_append es h

/-- An event without `q` has been recorded when it had been before. -/
lemma mem_iff (hext : Extends q h h₁) (he : ¬ q e) : e ∈ h₁ ↔ e ∈ h := by
  obtain ⟨es, hes, rfl⟩ := hext
  have hnone : e ∉ es := fun hmem => he (hes e hmem)
  simp [hnone]

/-- An event without `q` has been recorded as often as before. -/
lemma count_eq [DecidableEq ε] (hext : Extends q h h₁) (he : ¬ q e) : h₁.count e = h.count e := by
  obtain ⟨es, hes, rfl⟩ := hext
  have hnone : e ∉ es := fun hmem => he (hes e hmem)
  rw [List.count_append, List.count_eq_zero_of_not_mem hnone, Nat.zero_add]

lemma countP_eq {p : ε → Bool} (hext : Extends q h h₁) (hqp : ∀ e, q e → ¬ p e = true) :
    h₁.countP p = h.countP p := by
  obtain ⟨es, hes, rfl⟩ := hext
  have hnone : es.countP p = 0 := List.countP_eq_zero.mpr fun e he => hqp e (hes e he)
  rw [List.countP_append, hnone, Nat.zero_add]

lemma whenever_iff {Q : List ε → Prop} (hext : Extends q h h₁) (hqp : ∀ e, q e → ¬ p e) :
    Whenever p Q h₁ ↔ Whenever p Q h := by
  obtain ⟨es, hes, rfl⟩ := hext
  exact whenever_append fun e he => hqp e (hes e he)

end Extends

/-- The contributions of the recorded events, concatenated in the order in which they happened. -/
def collect (f : ε → List β) : List ε → List β
  | [] => []
  | e :: h => collect f h ++ f e

section Collect

variable {f : ε → List β}

/-- Nothing is collected from the empty history. -/
@[simp] lemma collect_nil : collect f [] = [] := rfl

/-- The newest event contributes last. -/
@[simp] lemma collect_cons (e : ε) (h : List ε) : collect f (e :: h) = collect f h ++ f e := rfl

/-- What is collected from a history that has grown. -/
lemma collect_append (es h : List ε) : collect f (es ++ h) = collect f h ++ collect f es := by
  induction es with
  | nil => simp
  | cons e es ih => rw [List.cons_append, collect_cons, ih, List.append_assoc, collect_cons]

/-- Events that contribute nothing do not matter. -/
lemma collect_append_of_nil {es h : List ε} (hes : ∀ e ∈ es, f e = []) :
    collect f (es ++ h) = collect f h := by
  induction es with
  | nil => rfl
  | cons e es ih =>
    have he : f e = [] := hes e List.mem_cons_self
    rw [List.cons_append, collect_cons, he, List.append_nil]
    exact ih fun d hd => hes d (List.mem_cons_of_mem e hd)

lemma Extends.collect_eq {q : ε → Prop} {h h₁ : List ε} (hext : Extends q h h₁)
    (hqf : ∀ e, q e → f e = []) : collect f h₁ = collect f h := by
  obtain ⟨es, hes, rfl⟩ := hext
  exact collect_append_of_nil fun e he => hqf e (hes e he)

end Collect

end SimpleMuduo
