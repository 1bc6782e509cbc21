import Mathlib.Logic.Relation

/-! Partial-step transition systems: an action either is disabled in a state or leads to
exactly one next state. Nondeterminism is in the choice of the action. -/

namespace Transition

structure System (σ α : Type*) where
  start : σ
  next : α → σ → Option σ

namespace System
variable {σ α τ β : Type*} (M : System σ α)

def run : List α → σ → Option σ
  | [], s => some s
  | a :: as, s => (M.next a s).bind (run as)

inductive Reachable : σ → Prop where
  | start : Reachable M.start
  | next {s t : σ} {a : α} : Reachable s → M.next a s = some t → Reachable t

inductive Later (s : σ) : σ → Prop where
  | refl : Later s s
  | next {t u : σ} {a : α} : Later s t → M.next a t = some u → Later s u

variable {M}

theorem Later.trans {s t u : σ} (hst : M.Later s t) (htu : M.Later t u) : M.Later s u := by
  induction htu with
  | refl => exact hst
  | next _ h ih => exact ih.next h

theorem Later.reachable {s t : σ} (hs : M.Reachable s) (h : M.Later s t) : M.Reachable t := by
  induction h with
  | refl => exact hs
  | next _ h ih => exact ih.next h

theorem later_of_run {as : List α} {s t : σ} (h : M.run as s = some t) : M.Later s t := by
  induction as generalizing s with
  | nil => exact Option.some.inj h ▸ .refl
  | cons a as ih =>
    obtain ⟨u, hu, ht⟩ := Option.bind_eq_some_iff.mp h
    exact (Later.refl.next hu).trans (ih ht)

theorem reachable_of_run {as : List α} {s : σ} (h : M.run as M.start = some s) :
    M.Reachable s := (later_of_run h).reachable .start

theorem reachable_get {as : List α} (h : (M.run as M.start).isSome = true) :
    M.Reachable ((M.run as M.start).get h) := reachable_of_run (Option.some_get h).symm

/-- The invariant rule. The step premise may use whatever is already known of reachable
states, so that invariants can be proved in layers. -/
theorem Reachable.invariant {P : σ → Prop} (h0 : P M.start)
    (hstep : ∀ s a t, M.Reachable s → P s → M.next a s = some t → P t)
    {s : σ} (h : M.Reachable s) : P s := by
  induction h with
  | start => exact h0
  | next hs hn ih => exact hstep _ _ _ hs ih hn

/-- What one step preserves from a reachable state on, every continuation preserves. -/
theorem Later.stable {P : σ → Prop}
    (hstep : ∀ s a t, M.Reachable s → P s → M.next a s = some t → P t)
    {s t : σ} (hs : M.Reachable s) (hP : P s) (h : M.Later s t) : P t := by
  induction h with
  | refl => exact hP
  | next hst hn ih => exact hstep _ _ _ (hst.reachable hs) ih hn

theorem run_stable {P : σ → Prop} {as : List α}
    (hstep : ∀ a ∈ as, ∀ s t, M.Reachable s → P s → M.next a s = some t → P t)
    {s t : σ} (hs : M.Reachable s) (hP : P s) (h : M.run as s = some t) : P t := by
  induction as generalizing s with
  | nil => exact Option.some.inj h ▸ hP
  | cons a as ih =>
    obtain ⟨u, hu, ht⟩ := Option.bind_eq_some_iff.mp h
    have hPu : P u := hstep a List.mem_cons_self s u hs hP hu
    exact ih (fun b hb => hstep b (List.mem_cons_of_mem _ hb)) (hs.next hu) hPu ht

/-- A system all of whose steps are, seen through `f`, steps of `N` or stutters, reaches
only states whose images `N` reaches. -/
theorem Reachable.project {N : System τ β} (f : σ → τ) (h0 : f M.start = N.start)
    (hstep : ∀ s a t, M.Reachable s → M.next a s = some t →
      f t = f s ∨ ∃ b, N.next b (f s) = some (f t))
    {s : σ} (h : M.Reachable s) : N.Reachable (f s) := by
  induction h with
  | start => exact h0 ▸ .start
  | next hs hn ih =>
    obtain he | ⟨b, hb⟩ := hstep _ _ _ hs hn
    · exact he ▸ ih
    · exact ih.next hb

end System
end Transition
