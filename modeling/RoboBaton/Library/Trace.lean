import Mathlib.Data.List.Induction

/-! Histories in which what may happen depends on what has happened before. -/

namespace Trace
variable {ε : Type*}

def Ordered (ok : List ε → ε → Prop) (es : List ε) : Prop :=
  ∀ pre e post, es = pre ++ e :: post → ok pre e

variable {ok : List ε → ε → Prop} {es : List ε}

theorem ordered_nil : Ordered ok [] := by
  intro pre e post h
  simp at h

theorem Ordered.append_singleton {e : ε} (h : Ordered ok es) (he : ok es e) :
    Ordered ok (es ++ [e]) := by
  intro pre e' post hsplit
  rcases List.eq_nil_or_concat post with rfl | ⟨post', last, rfl⟩
  · obtain ⟨rfl, hlast⟩ := List.append_inj' hsplit rfl
    exact List.head_eq_of_cons_eq hlast ▸ he
  · rw [List.concat_eq_append, ← List.cons_append, ← List.append_assoc] at hsplit
    exact h pre e' post' (List.append_inj' hsplit rfl).1

theorem Ordered.filter_length_le_one {p : ε → Bool} (h : Ordered ok es)
    (hp : ∀ pre e, p e = true → ok pre e → ∀ x ∈ pre, p x = false) :
    (es.filter p).length ≤ 1 := by
  induction es using List.reverseRecOn with
  | nil => simp
  | append_singleton es e ih =>
    have hes : Ordered ok es := fun pre e' post hsplit =>
      h pre e' (post ++ [e]) (by rw [hsplit, List.append_assoc, List.cons_append])
    have he : ok es e := h es e [] rfl
    cases hpe : p e with
    | false => simpa [List.filter_append, hpe] using ih hes
    | true =>
      have hnone : es.filter p = [] := List.filter_eq_nil_iff.mpr fun x hx => by
        simp [hp es e hpe he x hx]
      simp [List.filter_append, hpe, hnone]

theorem Ordered.filter_length_eq_one {p : ε → Bool} (h : Ordered ok es)
    (hp : ∀ pre e, p e = true → ok pre e → ∀ x ∈ pre, p x = false) {e : ε} (he : e ∈ es)
    (hpe : p e = true) : (es.filter p).length = 1 := by
  have hle := h.filter_length_le_one hp
  have hpos := List.length_pos_of_mem (List.mem_filter.mpr ⟨he, hpe⟩)
  omega

theorem Ordered.unique {p : ε → Bool} (h : Ordered ok es)
    (hp : ∀ pre e, p e = true → ok pre e → ∀ x ∈ pre, p x = false) {x y : ε} (hx : x ∈ es)
    (hy : y ∈ es) (hpx : p x = true) (hpy : p y = true) : x = y := by
  have hle := h.filter_length_le_one hp
  have hx' := List.mem_filter.mpr ⟨hx, hpx⟩
  have hy' := List.mem_filter.mpr ⟨hy, hpy⟩
  rcases hf : es.filter p with _ | ⟨a, _ | ⟨b, rest⟩⟩
  · simp [hf] at hx'
  · rw [hf, List.mem_singleton] at hx' hy'
    rw [hx', hy']
  · simp [hf] at hle

end Trace
