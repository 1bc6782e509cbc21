import Mathlib.Order.Basic

/-! Straight-line programs whose instructions need facts, establish facts and destroy facts.
A program is safe from a set of known facts when every instruction finds what it needs in
what is then still known, and the end of the program what it promises. -/

namespace Discipline

structure Contract (Fact : Type*) where
  needs : List Fact := []
  gives : List Fact := []
  loses : List Fact := []

structure Rules (Op Fact : Type*) where
  contract : Op → Contract Fact
  ends : List Fact

namespace Rules
variable {Op Fact : Type*} (R : Rules Op Fact)

@[simp] def after (known : Fact → Prop) (op : Op) : Fact → Prop := fun f =>
  (known f ∧ f ∉ (R.contract op).loses) ∨ f ∈ (R.contract op).gives

def Safe : (Fact → Prop) → List Op → Prop
  | known, [] => ∀ f ∈ R.ends, known f
  | known, op :: ops => (∀ f ∈ (R.contract op).needs, known f) ∧ Safe (R.after known op) ops

variable {R}

@[simp] theorem safe_nil (known : Fact → Prop) :
    R.Safe known [] ↔ ∀ f ∈ R.ends, known f := Iff.rfl

@[simp] theorem safe_cons (known : Fact → Prop) (op : Op) (ops : List Op) :
    R.Safe known (op :: ops) ↔
      (∀ f ∈ (R.contract op).needs, known f) ∧ R.Safe (R.after known op) ops := Iff.rfl

theorem Safe.mono {known known' : Fact → Prop} {ops : List Op} (h : R.Safe known ops)
    (hsub : ∀ f, known f → known' f) : R.Safe known' ops := by
  induction ops generalizing known known' with
  | nil => exact fun f hf => hsub f (h f hf)
  | cons op ops ih =>
    exact ⟨fun f hf => hsub f (h.1 f hf), ih h.2 fun f hf => hf.imp_left (And.imp_left (hsub f))⟩

/-- What is known after the first instruction keeps the rest of the program safe. -/
theorem Safe.tail {known known' : Fact → Prop} {op : Op} {ops : List Op}
    (h : R.Safe known (op :: ops))
    (hkeep : ∀ f, known f → f ∉ (R.contract op).loses → known' f)
    (hgive : ∀ f ∈ (R.contract op).gives, known' f) : R.Safe known' ops :=
  h.2.mono fun f hf => hf.elim (fun hk => hkeep f hk.1 hk.2) (hgive f)

theorem Safe.known {known : Fact → Prop} {post : List Op} {op : Op} (pre : List Op) (f : Fact)
    (h : R.Safe known (pre ++ op :: post)) (hneeds : f ∈ (R.contract op).needs)
    (hpre : ∀ o ∈ pre, f ∉ (R.contract o).gives) : known f := by
  induction pre generalizing known with
  | nil => exact h.1 f hneeds
  | cons o pre ih =>
    rcases ih h.2 fun o' ho' => hpre o' (List.mem_cons_of_mem _ ho') with ⟨hknown, -⟩ | hgiven
    · exact hknown
    · exact absurd hgiven (hpre o List.mem_cons_self)

theorem Safe.prepend {known : Fact → Prop} {ops rest : List Op} (h : R.Safe known rest)
    (hfree : ∀ op ∈ ops, (∀ f ∈ (R.contract op).needs, known f) ∧ (R.contract op).loses = []) :
    R.Safe known (ops ++ rest) := by
  induction ops generalizing known with
  | nil => exact h
  | cons op ops ih =>
    obtain ⟨hneeds, hloses⟩ := hfree op List.mem_cons_self
    have hkept : ∀ f, known f → R.after known op f := fun f hf => .inl ⟨hf, by simp [hloses]⟩
    refine ⟨hneeds, ih (h.mono hkept) fun op' hop' => ?_⟩
    exact (hfree op' (List.mem_cons_of_mem _ hop')).imp_left fun hn f hf => hkept f (hn f hf)

end Rules

/-! ### The end of a program -/

section Blocks
variable {Op : Type*} {body exit : Op → Bool} {op : Op} {ops : List Op}

/-- What is left of a program: instructions of its body, and one at which it is over. -/
def block (body exit : Op → Bool) : List Op → Bool
  | [] => false
  | [op] => exit op
  | op :: op' :: ops => body op && block body exit (op' :: ops)

theorem block_head (h : block body exit (op :: ops) = true) : body op = true ∨ exit op = true := by
  cases ops with
  | nil => exact .inr h
  | cons op' ops => exact .inl (Bool.and_eq_true_iff.mp h).1

theorem block_rest (h : block body exit (op :: ops) = true) (hop : exit op = false) :
    block body exit ops = true := by
  cases ops with
  | nil => exact absurd (h.symm.trans hop) (by decide)
  | cons op' ops => exact (Bool.and_eq_true_iff.mp h).2

theorem block_end (h : block body exit (op :: ops) = true) (hop : body op = false) : ops = [] := by
  cases ops with
  | nil => rfl
  | cons op' ops => exact absurd ((Bool.and_eq_true_iff.mp h).1.symm.trans hop) (by decide)

theorem block_prepend {ins : List Op} (h : block body exit ops = true)
    (hins : ∀ op ∈ ins, body op = true) : block body exit (ins ++ ops) = true := by
  induction ins with
  | nil => exact h
  | cons op ins ih =>
    obtain ⟨hop, hins⟩ := List.forall_mem_cons.mp hins
    have hrest := ih hins
    revert hrest
    rw [List.cons_append]
    cases ins ++ ops with
    | nil => exact fun hrest => absurd hrest (by simp [block])
    | cons op' ops => exact fun hrest => Bool.and_eq_true_iff.mpr ⟨hop, hrest⟩

end Blocks
end Discipline
