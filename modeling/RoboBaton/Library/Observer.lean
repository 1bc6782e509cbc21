import RoboBaton.Library.System
import Mathlib.Order.Nat

/-! Observers: a second party that reads the state of a running system without changing it,
at its own steps, between those of the system. -/

namespace Transition

/-- `watch` follows the actions of the system, `act` is a step of the observer's own. -/
structure Observer (σ α ω β : Type*) where
  start : ω
  watch : α → σ → ω → ω
  act : β → σ → ω → Option ω

namespace System
variable {σ α ω β : Type*}

def observed (M : System σ α) (O : Observer σ α ω β) : System (σ × ω) (α ⊕ β) where
  start := (M.start, O.start)
  next
    | .inl a, s => (M.next a s.1).map fun t => (t, O.watch a s.1 s.2)
    | .inr b, s => (O.act b s.1 s.2).map fun w => (s.1, w)

variable {M : System σ α} {O : Observer σ α ω β}

theorem observed_reachable {s : σ × ω} (h : (M.observed O).Reachable s) : M.Reachable s.1 := by
  refine h.project Prod.fst rfl ?_
  rintro s (a | b) t - hn
  · obtain ⟨u, hu, rfl⟩ := Option.map_eq_some_iff.mp hn
    exact .inr ⟨a, hu⟩
  · obtain ⟨w, -, rfl⟩ := Option.map_eq_some_iff.mp hn
    exact .inl rfl

/-- The invariant rule for what an observer knows. The condition `Q` is never restored, so
that it may be assumed of every state before the last. -/
theorem Reachable.observe {Q : σ → Prop} {P : σ → ω → Prop} (h0 : P M.start O.start)
    (hQ : ∀ s a t, M.Reachable s → M.next a s = some t → Q t → Q s)
    (hstep : ∀ s a t w, M.Reachable s → M.next a s = some t → Q t → P s w →
      P t (O.watch a s w))
    (hact : ∀ s b w w', M.Reachable s → O.act b s w = some w' → Q s → P s w → P s w')
    {s : σ × ω} (h : (M.observed O).Reachable s) (hs : Q s.1) : P s.1 s.2 := by
  revert hs
  refine h.invariant (P := fun s => Q s.1 → P s.1 s.2) (fun _ => h0) ?_
  rintro s (a | b) t hr ih hn ht
  · obtain ⟨u, hu, rfl⟩ := Option.map_eq_some_iff.mp hn
    have hs := observed_reachable hr
    exact hstep _ a _ _ hs hu ht (ih (hQ _ a _ hs hu ht))
  · obtain ⟨w, hw, rfl⟩ := Option.map_eq_some_iff.mp hn
    have hs := observed_reachable hr
    exact hact _ b _ _ hs hw ht (ih ht)

end System

/-! ### Sampling -/

section Sampling
variable {α ι β : Type*} [Preorder β]

/-- A list of instructions that each may copy one cell. The cells that nothing in `todo` is
going to copy any more hold a value that was current at some time since `low`. -/
def Sampled (target : α → Option ι) (low value now : ι → β) (todo : List α) : Prop :=
  ∀ i, (∀ a ∈ todo, target a ≠ some i) → low i ≤ value i ∧ value i ≤ now i

variable {target : α → Option ι} {low value value' now now' : ι → β} {a : α} {todo : List α}

theorem sampled_start (h : ∀ i, ∃ a ∈ todo, target a = some i) :
    Sampled target low value now todo := by
  intro i hi
  obtain ⟨a, ha, ht⟩ := h i
  exact absurd ht (hi a ha)

theorem Sampled.mono (h : Sampled target low value now todo) (hnow : now ≤ now') :
    Sampled target low value now' todo :=
  fun i hi => ⟨(h i hi).1, (h i hi).2.trans (hnow i)⟩

theorem Sampled.step (h : Sampled target low value now (a :: todo)) (hlow : low ≤ now)
    (hframe : ∀ i, target a ≠ some i → value' i = value i)
    (hcopy : ∀ i, target a = some i → (∀ b ∈ todo, target b ≠ some i) → value' i = now i) :
    Sampled target low value' now todo := by
  intro i hi
  by_cases ha : target a = some i
  · rw [hcopy i ha hi]
    exact ⟨hlow i, le_rfl⟩
  · rw [hframe i ha]
    exact h i (List.forall_mem_cons.mpr ⟨ha, hi⟩)

theorem Sampled.done (h : Sampled target low value now []) : low ≤ value ∧ value ≤ now :=
  ⟨fun i => (h i (by simp)).1, fun i => (h i (by simp)).2⟩

end Sampling
end Transition
