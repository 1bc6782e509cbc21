import RoboBaton.Library.System
import Mathlib.Algebra.BigOperators.Group.Finset.Basic
import Mathlib.Algebra.Group.Basic
import Mathlib.Algebra.Order.Group.Nat
import Mathlib.Tactic.Linarith
import Mathlib.Tactic.Abel

/-! Threads with private states over one shared state, interleaved at their atomic steps. -/

namespace Transition

@[ext]
structure Config (ι S : Type*) (L : ι → Type*) where
  shared : S
  locals : ∀ i, L i

structure Threads (ι S : Type*) (L A : ι → Type*) where
  shared : S
  locals : ∀ i, L i
  step : ∀ i, A i → S → L i → Option (S × L i)

theorem sum_update {ι : Type*} {L : ι → Type*} [DecidableEq ι] [Fintype ι] {M : Type*}
    [AddCommMonoid M] (c : ∀ i, L i → M) (l : ∀ i, L i) (i : ι) (x : L i) :
    ∑ j, c j (Function.update l i x j) + c i (l i) = ∑ j, c j (l j) + c i x := by
  have hrest : ∑ j ∈ Finset.univ.erase i, c j (Function.update l i x j) =
      ∑ j ∈ Finset.univ.erase i, c j (l j) :=
    Finset.sum_congr rfl fun j hj => by
      rw [Function.update_of_ne (Finset.ne_of_mem_erase hj)]
  rw [← Finset.add_sum_erase _ _ (Finset.mem_univ i), hrest, Function.update_self,
    ← Finset.add_sum_erase _ (fun j => c j (l j)) (Finset.mem_univ i)]
  abel

namespace Threads
variable {ι S : Type*} {L A : ι → Type*} [DecidableEq ι] (T : Threads ι S L A)

def next (e : Σ i, A i) (s : Config ι S L) : Option (Config ι S L) :=
  (T.step e.1 e.2 s.shared (s.locals e.1)).map fun r =>
    ⟨r.1, Function.update s.locals e.1 r.2⟩

def toSystem : System (Config ι S L) (Σ i, A i) where
  start := ⟨T.shared, T.locals⟩
  next := T.next

abbrev Reachable : Config ι S L → Prop := T.toSystem.Reachable

variable {T}

theorem next_eq_some {i : ι} {a : A i} {s t : Config ι S L} (h : T.next ⟨i, a⟩ s = some t) :
    ∃ s' l', T.step i a s.shared (s.locals i) = some (s', l') ∧
      t = ⟨s', Function.update s.locals i l'⟩ := by
  obtain ⟨⟨s', l'⟩, hs, ht⟩ := Option.map_eq_some_iff.mp h
  exact ⟨s', l', hs, ht.symm⟩

/-- The proof rule for interference: a shared invariant and one assertion for each thread,
kept by that thread's own steps and left true by the steps of the others. -/
theorem Reachable.outline {I : S → Prop} {J : ∀ i, S → L i → Prop}
    (h0 : I T.shared ∧ ∀ i, J i T.shared (T.locals i))
    (own : ∀ (s : Config ι S L) i a s' l', T.Reachable s → I s.shared →
      J i s.shared (s.locals i) → T.step i a s.shared (s.locals i) = some (s', l') →
      I s' ∧ J i s' l')
    (others : ∀ (s : Config ι S L) i a s' l', T.Reachable s → I s.shared →
      J i s.shared (s.locals i) → T.step i a s.shared (s.locals i) = some (s', l') →
      ∀ j, j ≠ i → J j s.shared (s.locals j) → J j s' (s.locals j))
    {s : Config ι S L} (h : T.Reachable s) : I s.shared ∧ ∀ i, J i s.shared (s.locals i) := by
  refine System.Reachable.invariant (M := T.toSystem)
    (P := fun s => I s.shared ∧ ∀ i, J i s.shared (s.locals i)) h0 ?_ h
  rintro s ⟨i, a⟩ t hs ⟨hI, hJ⟩ hn
  obtain ⟨s', l', hst, rfl⟩ := next_eq_some hn
  obtain ⟨hI', hJ'⟩ := own s i a s' l' hs hI (hJ i) hst
  refine ⟨hI', fun j => ?_⟩
  by_cases hj : j = i
  · subst hj
    simpa only [Function.update_self] using hJ'
  · simpa only [Function.update_of_ne hj] using others s i a s' l' hs hI (hJ i) hst j hj (hJ j)

theorem Reachable.sharedInvariant {I : S → Prop} (h0 : I T.shared)
    (hstep : ∀ (s : Config ι S L) i a s' l', T.Reachable s → I s.shared →
      T.step i a s.shared (s.locals i) = some (s', l') → I s')
    {s : Config ι S L} (h : T.Reachable s) : I s.shared :=
  (Reachable.outline (J := fun _ _ _ => True) ⟨h0, fun _ => trivial⟩
    (fun s i a s' l' hs hI _ hst => ⟨hstep s i a s' l' hs hI hst, trivial⟩)
    (fun _ _ _ _ _ _ _ _ _ _ _ _ => trivial) h).1

theorem Reachable.focus {i : ι} {J : S → L i → Prop} (h0 : J T.shared (T.locals i))
    (own : ∀ (s : Config ι S L) a s' l', T.Reachable s → J s.shared (s.locals i) →
      T.step i a s.shared (s.locals i) = some (s', l') → J s' l')
    (others : ∀ (s : Config ι S L) j a s' l', j ≠ i → T.Reachable s → J s.shared (s.locals i) →
      T.step j a s.shared (s.locals j) = some (s', l') → J s' (s.locals i))
    {s : Config ι S L} (h : T.Reachable s) : J s.shared (s.locals i) := by
  refine System.Reachable.invariant (M := T.toSystem) (P := fun s => J s.shared (s.locals i)) h0 ?_ h
  rintro s ⟨j, a⟩ t hs hJ hn
  obtain ⟨s', l', hst, rfl⟩ := next_eq_some hn
  by_cases hj : j = i
  · subst hj
    simpa only [Function.update_self] using own s a s' l' hs hJ hst
  · simpa only [Function.update_of_ne (Ne.symm hj)] using others s j a s' l' hj hs hJ hst

/-- Bookkeeping: a quantity of the shared state that is covered by another one and by the
contributions of the threads, and a step changes both sides alike. -/
theorem Reachable.balance [Fintype ι] (credit debit : S → ℕ) (c : ∀ i, L i → ℕ)
    (h0 : credit T.shared = debit T.shared + ∑ i, c i (T.locals i))
    (hstep : ∀ (s : Config ι S L) i a s' l', T.Reachable s →
      T.step i a s.shared (s.locals i) = some (s', l') →
      credit s' + debit s.shared + c i (s.locals i) = credit s.shared + debit s' + c i l')
    {s : Config ι S L} (h : T.Reachable s) :
    credit s.shared = debit s.shared + ∑ i, c i (s.locals i) := by
  refine System.Reachable.invariant (M := T.toSystem)
    (P := fun s => credit s.shared = debit s.shared + ∑ i, c i (s.locals i)) h0 ?_ h
  rintro s ⟨i, a⟩ t hs ih hn
  obtain ⟨s', l', hst, rfl⟩ := next_eq_some hn
  have hsum := sum_update c s.locals i l'
  have hbooks := hstep s i a s' l' hs hst
  have hcovered : credit s.shared = debit s.shared + ∑ j, c j (s.locals j) := ih
  show credit s' = debit s' + ∑ j, c j (Function.update s.locals i l' j)
  omega

/-- A quantity of the shared state and of the threads that no step raises, for as long as a
condition lasts that no step restores. -/
theorem Reachable.potential_le [Fintype ι] (on : S → Prop) (q : S → ℤ) (c : ∀ i, L i → ℤ)
    (hstep : ∀ (s : Config ι S L) i a s' l', T.Reachable s → on s' →
      T.step i a s.shared (s.locals i) = some (s', l') →
      on s.shared ∧ q s' + c i l' ≤ q s.shared + c i (s.locals i))
    {s : Config ι S L} (h : T.Reachable s) (hon : on s.shared) :
    q s.shared + ∑ i, c i (s.locals i) ≤ q T.shared + ∑ i, c i (T.locals i) := by
  revert hon
  refine System.Reachable.invariant (M := T.toSystem)
    (P := fun s => on s.shared → q s.shared + ∑ i, c i (s.locals i) ≤
      q T.shared + ∑ i, c i (T.locals i)) (fun _ => le_refl _) ?_ h
  rintro s ⟨i, a⟩ t hs ih hn hon
  obtain ⟨s', l', hst, rfl⟩ := next_eq_some hn
  obtain ⟨hon', hle⟩ := hstep s i a s' l' hs hon hst
  have hsum := sum_update c s.locals i l'
  have hbefore : q s.shared + ∑ j, c j (s.locals j) ≤ q T.shared + ∑ j, c j (T.locals j) :=
    ih hon'
  show q s' + ∑ j, c j (Function.update s.locals i l' j) ≤ _
  linarith

end Threads
end Transition
