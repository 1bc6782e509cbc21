import Mathlib

/-! The adjacent pairs of a list, and folds that compare each element with the one before. -/

namespace Adjacent
variable {α β σ : Type*}

def pairs (l : List α) : List (α × α) := l.zip l.tail

@[simp] theorem pairs_nil : pairs ([] : List α) = [] := rfl

@[simp] theorem pairs_singleton (a : α) : pairs [a] = [] := rfl

@[simp] theorem pairs_cons_cons (a b : α) (l : List α) :
    pairs (a :: b :: l) = (a, b) :: pairs (b :: l) := rfl

theorem pairs_map (f : α → β) (l : List α) : pairs (l.map f) = (pairs l).map (Prod.map f f) := by
  induction l with
  | nil => rfl
  | cons a l ih =>
    cases l with
    | nil => rfl
    | cons b l => simpa using ih

theorem mem_of_mem_pairs {l : List α} {x : α × α} (h : x ∈ pairs l) : x.1 ∈ l ∧ x.2 ∈ l :=
  ⟨(List.of_mem_zip h).1, List.mem_of_mem_tail (List.of_mem_zip h).2⟩

theorem pairs_concat {l : List α} {a : α} (h : l.getLast? = some a) (b : α) :
    pairs (l ++ [b]) = pairs l ++ [(a, b)] := by
  induction l with
  | nil => cases h
  | cons c l ih =>
    cases l with
    | nil =>
      obtain rfl : c = a := by simpa using h
      rfl
    | cons d l =>
      have hl := ih (by simpa only [List.getLast?_cons_cons] using h)
      simp only [List.cons_append, pairs_cons_cons] at hl ⊢
      rw [hl]

theorem sum_pairs_sub (f : α → ℕ) {l : List α} {a b : α} (h : ∀ x ∈ pairs l, f x.1 ≤ f x.2)
    (ha : l.head? = some a) (hb : l.getLast? = some b) :
    ((pairs l).map fun x => f x.2 - f x.1).sum + f a = f b := by
  induction l generalizing a with
  | nil => cases ha
  | cons c l ih =>
    obtain rfl : c = a := by simpa using ha
    cases l with
    | nil =>
      obtain rfl : c = b := by simpa using hb
      simp
    | cons d l =>
      rw [pairs_cons_cons] at h ⊢
      obtain ⟨hcd, hrest⟩ := List.forall_mem_cons.mp h
      have hsum := ih hrest rfl (by simpa only [List.getLast?_cons_cons] using hb)
      have hcd : f c ≤ f d := hcd
      rw [List.map_cons, List.sum_cons]
      dsimp only
      omega

/-- A state that remembers the last element and counts the steps related to it by `p` has
counted the adjacent pairs related by `p`. -/
theorem count_foldl {g : σ → α → σ} {R : σ → Prop} {q : σ → β} {c : σ → ℕ} {f : α → β}
    {p : β → β → Prop} [DecidableRel p] (hready : ∀ s a, R s → R (g s a))
    (hlast : ∀ s a, R s → q (g s a) = f a)
    (hcount : ∀ s a, R s → c (g s a) = c s + if p (q s) (f a) then 1 else 0)
    (l : List α) (s : σ) (hs : R s) :
    c (l.foldl g s) = c s + (pairs (q s :: l.map f)).countP fun x => p x.1 x.2 := by
  induction l generalizing s with
  | nil => simp
  | cons a l ih =>
    rw [List.foldl_cons, ih _ (hready s a hs), hcount s a hs, hlast s a hs, List.map_cons,
      pairs_cons_cons, List.countP_cons]
    simp only [decide_eq_true_eq]
    omega

theorem countP_add {p q r : α → Bool} {l : List α}
    (h : ∀ a ∈ l, (if p a then 1 else 0) = (if q a then 1 else 0) + if r a then 1 else 0) :
    l.countP p = l.countP q + l.countP r := by
  induction l with
  | nil => rfl
  | cons a l ih =>
    have ha := h a List.mem_cons_self
    have hl := ih fun b hb => h b (List.mem_cons_of_mem _ hb)
    rw [List.countP_cons, List.countP_cons, List.countP_cons, hl, ha]
    omega

end Adjacent
