import RoboBaton.Library.System

/-! What a system puts out on its way, step by step. -/

namespace Transition.System
variable {σ α ω : Type*} (M : System σ α)

def outputs (out : σ → α → List ω) : List α → σ → List ω
  | [], _ => []
  | a :: as, s => out s a ++ (M.next a s).elim [] (outputs out as)

variable {M} (out : σ → α → List ω) {P : List ω → σ → Prop}
  (hstep : ∀ os s a t, M.Reachable s → P os s → M.next a s = some t → P (os ++ out s a) t)
include hstep

theorem outputs_from {as : List α} {os : List ω} {s t : σ} (hs : M.Reachable s) (hP : P os s)
    (h : M.run as s = some t) : P (os ++ M.outputs out as s) t := by
  induction as generalizing os s with
  | nil =>
    obtain rfl := Option.some.inj h
    rwa [outputs, List.append_nil]
  | cons a as ih =>
    obtain ⟨u, hu, ht⟩ := Option.bind_eq_some_iff.mp h
    have hrest := ih (hs.next hu) (hstep os s a u hs hP hu) ht
    rw [List.append_assoc] at hrest
    rw [outputs, hu, Option.elim_some]
    exact hrest

theorem outputs_invariant {as : List α} {s t : σ} (hs : M.Reachable s) (hP : P [] s)
    (h : M.run as s = some t) : P (M.outputs out as s) t := by
  have hall := outputs_from out hstep hs hP h
  rwa [List.nil_append] at hall

end Transition.System

namespace Transition
variable {τ ω μ : Type*} {render : τ → List ω} {jobs : List τ} {out : List ω}

/-- All but the last of the jobs have been put out in full, and of the last one a beginning. -/
structure Cut (render : τ → List ω) (jobs : List τ) (out : List ω) : Prop where
  beginning : out <+: jobs.flatMap render
  complete : jobs.dropLast.flatMap render <+: out

theorem cut_full (render : τ → List ω) (jobs : List τ) : Cut render jobs (jobs.flatMap render) := by
  refine ⟨List.prefix_refl _, ?_⟩
  obtain ⟨rest, hrest⟩ := List.dropLast_prefix jobs
  rw [← hrest, List.flatMap_append, hrest]
  exact List.prefix_append _ _

theorem cut_concat (jobs : List τ) (job : τ) (h : out <+: render job) :
    Cut render (jobs ++ [job]) (jobs.flatMap render ++ out) := by
  constructor
  · rw [List.flatMap_append, List.flatMap_singleton]
    exact (List.prefix_append_right_inj _).mpr h
  · rw [List.dropLast_concat]
    exact List.prefix_append _ _

theorem Cut.filterMap {message : ω → Option μ} (h : Cut render jobs out) :
    Cut (fun job => (render job).filterMap message) jobs (out.filterMap message) := by
  constructor
  · rw [← List.filterMap_flatMap]
    exact h.beginning.filterMap message
  · rw [← List.filterMap_flatMap]
    exact h.complete.filterMap message

end Transition
