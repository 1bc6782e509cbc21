import Mathlib.Tactic.Common

/-! Triples for stateful programs that may throw, where the state survives the throw: a
precondition, a postcondition for the result and one for the exception. -/

namespace Throwing
variable {ε σ α β : Type} {P P' : σ → Prop} {Q Q' : α → σ → Prop} {R : β → σ → Prop}
  {E E' : ε → σ → Prop}

def final : EStateM.Result ε σ α → σ
  | .ok _ s => s
  | .error _ s => s

def Ends (Q : α → σ → Prop) (E : ε → σ → Prop) : EStateM.Result ε σ α → Prop
  | .ok a s => Q a s
  | .error e s => E e s

def Triple (P : σ → Prop) (x : EStateM ε σ α) (Q : α → σ → Prop) (E : ε → σ → Prop) : Prop :=
  ∀ s, P s → Ends Q E (x s)

theorem triple_pure {a : α} (h : ∀ s, P s → Q a s) : Triple P (pure a : EStateM ε σ α) Q E := h

theorem triple_throw {e : ε} (h : ∀ s, P s → E e s) :
    Triple P (throw e : EStateM ε σ α) Q E := h

theorem triple_get {Q : σ → σ → Prop} (h : ∀ s, P s → Q s s) :
    Triple P (get : EStateM ε σ σ) Q E := h

theorem triple_modify {Q : PUnit → σ → Prop} {f : σ → σ} (h : ∀ s, P s → Q ⟨⟩ (f s)) :
    Triple P (modify f : EStateM ε σ PUnit) Q E := h

theorem triple_liftExcept {r : Except ε α} (hok : ∀ a, r = .ok a → ∀ s, P s → Q a s)
    (herror : ∀ e, r = .error e → ∀ s, P s → E e s) :
    Triple P (MonadExcept.ofExcept r : EStateM ε σ α) Q E := by
  cases r with
  | ok a => exact hok a rfl
  | error e => exact herror e rfl

theorem Triple.bind {x : EStateM ε σ β} {f : β → EStateM ε σ α} (hx : Triple P x R E)
    (hf : ∀ b, Triple (R b) (f b) Q E) : Triple P (x >>= f) Q E := by
  intro s hs
  have hr := hx s hs
  show Ends Q E (match x s with
    | .ok b t => f b t
    | .error e t => .error e t)
  cases hxs : x s with
  | ok b t =>
    rw [hxs] at hr
    exact hf b t hr
  | error e t =>
    rw [hxs] at hr
    exact hr

theorem Triple.tryCatch {x : EStateM ε σ α} {handler : ε → EStateM ε σ α}
    (hx : Triple P x Q E') (hh : ∀ e, Triple (E' e) (handler e) Q E) :
    Triple P (MonadExcept.tryCatch x handler) Q E := by
  intro s hs
  have hr := hx s hs
  have hcatch : MonadExcept.tryCatch x handler s = EStateM.tryCatch x handler s := rfl
  rw [hcatch, EStateM.tryCatch]
  cases hxs : x s with
  | ok a t =>
    rw [hxs] at hr
    exact hr
  | error e t =>
    rw [hxs] at hr
    exact hh e t hr

theorem Triple.ite {c : Prop} [Decidable c] {x y : EStateM ε σ α}
    (hx : c → Triple P x Q E) (hy : ¬ c → Triple P y Q E) :
    Triple P (if c then x else y) Q E := by
  split
  · exact hx ‹c›
  · exact hy ‹¬ c›

theorem Triple.pre {x : EStateM ε σ α} (hx : Triple P' x Q E) (h : ∀ s, P s → P' s) :
    Triple P x Q E := fun s hs => hx s (h s hs)

theorem Triple.post {x : EStateM ε σ α} (hx : Triple P x Q' E')
    (hq : ∀ a s, Q' a s → Q a s) (he : ∀ e s, E' e s → E e s) : Triple P x Q E := by
  intro s hs
  have hr := hx s hs
  cases hxs : x s with
  | ok a t =>
    rw [hxs] at hr
    exact hq a t hr
  | error e t =>
    rw [hxs] at hr
    exact he e t hr

theorem Triple.final {x : EStateM ε σ α} {I : σ → Prop} {s : σ}
    (hx : Triple P x (fun _ => I) fun _ => I) (hs : P s) : I (final (x s)) := by
  have hr := hx s hs
  cases hxs : x s with
  | ok a t =>
    rw [hxs] at hr
    exact hr
  | error e t =>
    rw [hxs] at hr
    exact hr

/-! ### Calls with an expected result -/

theorem bind_of_ok {x : EStateM ε σ β} {f : β → EStateM ε σ α} {s t : σ} {b : β}
    (h : x s = .ok b t) : (x >>= f) s = f b t := by
  change EStateM.bind x f s = _
  rw [EStateM.bind, h]

theorem bind_of_error {x : EStateM ε σ β} {f : β → EStateM ε σ α} {s t : σ} {e : ε}
    (h : x s = .error e t) : (x >>= f) s = .error e t := by
  change EStateM.bind x f s = _
  rw [EStateM.bind, h]

theorem bind_eq_ok {x : EStateM ε σ β} {f : β → EStateM ε σ α} {s u : σ} {a : α} :
    (x >>= f) s = .ok a u ↔ ∃ b t, x s = .ok b t ∧ f b t = .ok a u := by
  cases hx : x s with
  | ok b t =>
    rw [bind_of_ok hx]
    refine ⟨fun h => ⟨b, t, rfl, h⟩, ?_⟩
    rintro ⟨_, _, ⟨⟩, h⟩
    exact h
  | error e t =>
    rw [bind_of_error hx]
    refine ⟨fun h => (by cases h), ?_⟩
    rintro ⟨_, _, ⟨⟩, -⟩

/-- A call that returns has the expected result, and leaves a state with `P`. Where it is safe, it
returns if there is a result to expect. -/
structure Settles (safe : Prop) (r : EStateM.Result ε σ α) (value : Option α) (P : σ → Prop) :
    Prop where
  sound : ∀ a s, r = .ok a s → value = some a ∧ P s
  returns : safe → ∀ a, value = some a → ∃ s, r = .ok a s

section Settles
variable {safe safe' : Prop} {r : EStateM.Result ε σ α} {value : Option α} {s : σ}

theorem Settles.ok {a : α} (h : r = .ok a s) (hs : P s) : Settles safe r (some a) P where
  sound a' s' h' := by
    obtain ⟨rfl, rfl⟩ := EStateM.Result.ok.inj (h.symm.trans h')
    exact ⟨rfl, hs⟩
  returns _ a' h' := ⟨s, Option.some.inj h' ▸ h⟩

theorem Settles.error {e : ε} (h : r = .error e s) : Settles safe r none P where
  sound a' s' h' := by
    rw [h] at h'
    cases h'
  returns _ a' h' := by cases h'

theorem Settles.mono (h : Settles safe r value P) (hsafe : safe' → safe)
    (hP : ∀ s, P s → P' s) : Settles safe' r value P' :=
  ⟨fun a s hr => (h.sound a s hr).imp_right (hP s), fun hs => h.returns (hsafe hs)⟩

theorem Settles.bind {x : EStateM ε σ β} {f : β → EStateM ε σ α} {v : Option β}
    {w : β → Option α} (hx : Settles safe (x s) v P)
    (hf : ∀ b t, v = some b → P t → Settles safe (f b t) (w b) P') :
    Settles safe ((x >>= f) s) (v.bind w) P' where
  sound a u h := by
    obtain ⟨b, t, hb, hu⟩ := bind_eq_ok.mp h
    obtain ⟨hv, ht⟩ := hx.sound b t hb
    obtain ⟨hw, hP⟩ := (hf b t hv ht).sound a u hu
    exact ⟨Option.bind_eq_some_iff.mpr ⟨b, hv, hw⟩, hP⟩
  returns hsafe a h := by
    obtain ⟨b, hv, hw⟩ := Option.bind_eq_some_iff.mp h
    obtain ⟨t, hb⟩ := hx.returns hsafe b hv
    obtain ⟨u, hu⟩ := (hf b t hv (hx.sound b t hb).2).returns hsafe a hw
    exact ⟨u, bind_eq_ok.mpr ⟨b, t, hb, hu⟩⟩

end Settles

end Throwing
