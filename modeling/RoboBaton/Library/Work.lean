import RoboBaton.Library.Threads

/-! The work that is left in a state: a number from which every step pays its cost, but for what
the step brings in. A system whose steps pay cannot run for ever on its own, and where a step
that costs is enabled until a goal is reached, such steps lead to the goal. -/

namespace Transition
namespace System
variable {σ α : Type*} {M : System σ α}

def spent (M : System σ α) (w : σ → α → ℕ) : List α → σ → ℕ
  | [], _ => 0
  | a :: as, s => w s a + (M.next a s).elim 0 (M.spent w as)

theorem spent_cons {w : σ → α → ℕ} {a : α} {as : List α} {s t : σ} (h : M.next a s = some t) :
    M.spent w (a :: as) s = w s a + M.spent w as t := by rw [spent, h, Option.elim_some]

theorem spent_const (w : α → ℕ) {as : List α} {s t : σ} (h : M.run as s = some t) :
    M.spent (fun _ => w) as s = (as.map w).sum := by
  induction as generalizing s with
  | nil => rfl
  | cons a as ih =>
    obtain ⟨u, hu, ht⟩ := Option.bind_eq_some_iff.mp h
    rw [spent_cons hu, ih ht, List.map_cons, List.sum_cons]

theorem spent_countP (k : ℕ) (p : α → Bool) {as : List α} {s t : σ} (h : M.run as s = some t) :
    M.spent (fun _ a => k * if p a then 1 else 0) as s = k * as.countP p := by
  rw [spent_const _ h]
  clear h
  induction as with
  | nil => rfl
  | cons a as ih =>
    rw [List.map_cons, List.sum_cons, ih, List.countP_cons, Nat.mul_add, Nat.add_comm]

theorem spent_add (w v : σ → α → ℕ) (as : List α) (s : σ) :
    M.spent (fun s a => w s a + v s a) as s = M.spent w as s + M.spent v as s := by
  induction as generalizing s with
  | nil => rfl
  | cons a as ih =>
    simp only [spent]
    cases M.next a s with
    | none => rfl
    | some t =>
      rw [Option.elim_some, Option.elim_some, Option.elim_some, ih]
      omega

variable (left : σ → ℕ) (cost gain : σ → α → ℕ)

/-- The work rule: what every step pays for, a run pays for. -/
theorem spent_le {I : σ → Prop} (hkeep : ∀ s a t, I s → M.next a s = some t → I t)
    (hstep : ∀ s a t, I s → M.next a s = some t → left t + cost s a ≤ left s + gain s a)
    {as : List α} {s t : σ} (hs : I s) (h : M.run as s = some t) :
    left t + M.spent cost as s ≤ left s + M.spent gain as s := by
  induction as generalizing s with
  | nil =>
    obtain rfl := Option.some.inj h
    exact le_rfl
  | cons a as ih =>
    obtain ⟨u, hu, ht⟩ := Option.bind_eq_some_iff.mp h
    have hone := hstep s a u hs hu
    have hrest := ih (hkeep s a u hs hu) ht
    rw [spent_cons hu, spent_cons hu]
    omega

/-- A goal is attained by steps of a kind that cost and bring nothing in, if one of them is
enabled for as long as the goal is not reached. -/
theorem attains {I : σ → Prop} (goal : σ → Prop) (kind : α → Prop)
    (hkeep : ∀ s a t, I s → M.next a s = some t → I t)
    (hstep : ∀ s a t, I s → M.next a s = some t → left t + cost s a ≤ left s + gain s a)
    (henabled : ∀ s, I s → ¬ goal s →
      ∃ a t, kind a ∧ M.next a s = some t ∧ 0 < cost s a ∧ gain s a = 0)
    {s : σ} (hs : I s) :
    ∃ as t, (∀ a ∈ as, kind a) ∧ M.run as s = some t ∧ goal t ∧ as.length ≤ left s := by
  -- on the work that is left
  induction hn : left s using Nat.strong_induction_on generalizing s with
  | _ n ih =>
    by_cases hgoal : goal s
    · exact ⟨[], s, nofun, rfl, hgoal, Nat.zero_le _⟩
    obtain ⟨a, t, hkind, ht, hcost, hgain⟩ := henabled s hs hgoal
    have hpaid := hstep s a t hs ht
    obtain ⟨as, u, hkinds, hu, hreached, hlength⟩ :=
      ih (left t) (by omega) (hkeep s a t hs ht) rfl
    refine ⟨a :: as, u, List.forall_mem_cons.mpr ⟨hkind, hkinds⟩, ?_, hreached, ?_⟩
    · rw [run, ht]
      exact hu
    · rw [List.length_cons]
      omega

theorem Reachable.spent_le
    (hstep : ∀ s a t, M.Reachable s → M.next a s = some t → left t + cost s a ≤ left s + gain s a)
    {as : List α} {s t : σ} (hs : M.Reachable s) (h : M.run as s = some t) :
    left t + M.spent cost as s ≤ left s + M.spent gain as s :=
  System.spent_le left cost gain (fun _ _ _ hs h => hs.next h) hstep hs h

theorem Reachable.attains (goal : σ → Prop) (kind : α → Prop)
    (hstep : ∀ s a t, M.Reachable s → M.next a s = some t → left t + cost s a ≤ left s + gain s a)
    (henabled : ∀ s, M.Reachable s → ¬ goal s →
      ∃ a t, kind a ∧ M.next a s = some t ∧ 0 < cost s a ∧ gain s a = 0)
    {s : σ} (hs : M.Reachable s) :
    ∃ as t, (∀ a ∈ as, kind a) ∧ M.run as s = some t ∧ goal t ∧ as.length ≤ left s :=
  System.attains left cost gain goal kind (fun _ _ _ hs h => hs.next h) hstep henabled hs

/-! ### Some of the actions -/

def only (M : System σ α) (kind : α → Prop) [DecidablePred kind] : System σ α where
  start := M.start
  next a s := if kind a then M.next a s else none

theorem only_eq_some {kind : α → Prop} [DecidablePred kind] {a : α} {s t : σ} :
    (M.only kind).next a s = some t ↔ kind a ∧ M.next a s = some t := by
  rw [only, Option.ite_none_right_eq_some]

theorem run_of_only {kind : α → Prop} [DecidablePred kind] {as : List α} {s t : σ}
    (h : (M.only kind).run as s = some t) : (∀ a ∈ as, kind a) ∧ M.run as s = some t := by
  induction as generalizing s with
  | nil => exact ⟨nofun, h⟩
  | cons a as ih =>
    obtain ⟨u, hu, ht⟩ := Option.bind_eq_some_iff.mp h
    obtain ⟨hkind, hnext⟩ := only_eq_some.mp hu
    obtain ⟨hkinds, hrun⟩ := ih ht
    refine ⟨List.forall_mem_cons.mpr ⟨hkind, hkinds⟩, ?_⟩
    rw [run, hnext]
    exact hrun

end System

namespace Threads
variable {ι S : Type*} {L A : ι → Type*} [DecidableEq ι] [Fintype ι] {T : Threads ι S L A}

def workOf (shared : S → ℕ) (c : ∀ i, L i → ℕ) (s : Config ι S L) : ℕ :=
  shared s.shared + ∑ i, c i (s.locals i)

theorem workOf_step {shared : S → ℕ} {c : ∀ i, L i → ℕ} {s t : Config ι S L} {i : ι} {a : A i}
    {cost gain : ℕ}
    (hstep : ∀ s' l', T.step i a s.shared (s.locals i) = some (s', l') →
      shared s' + c i l' + cost ≤ shared s.shared + c i (s.locals i) + gain)
    (h : T.next ⟨i, a⟩ s = some t) :
    workOf shared c t + cost ≤ workOf shared c s + gain := by
  obtain ⟨s', l', hst, rfl⟩ := next_eq_some h
  have hpaid := hstep s' l' hst
  have hsum := sum_update c s.locals i l'
  simp only [workOf]
  omega

end Threads
end Transition
