import RoboBaton.Library.Threads
import Mathlib.Data.Finset.Basic

/-! Monitors: a mutex with condition variables over some data. The threads run programs that
lock, read, wait, write, unlock and notify, one action at a time, in any interleaving and
with spurious wake-ups. If every write that may make an awaited condition true is followed
by a notification, no waiting thread misses it. -/

namespace Monitor
open Transition

inductive Phase
  | testing
  | parking
  | parked
  | relocking
  deriving DecidableEq, Repr

inductive Code (σ κ ρ : Type)
  | done (result : ρ)
  | lock (rest : Code σ κ ρ)
  | read (rest : σ → Code σ κ ρ)
  | allocate (rest failed : Code σ κ ρ)
  | wait (phase : Phase) (c : κ) (p : σ → Bool) (rest : Code σ κ ρ)
  | write (f : σ → σ) (rest : σ → Code σ κ ρ)
  | unlock (rest : Code σ κ ρ)
  | notifyOne (c : κ) (rest : Code σ κ ρ)
  | notifyAll (c : κ) (rest : Code σ κ ρ)

structure Shared (σ ι κ : Type) where
  data : σ
  holder : Option ι
  waiting : κ → Finset ι

inductive Act (ι γ : Type)
  | call (op : γ)
  | step
  | fails
  | spurious
  | wake (i : ι)

variable {σ ι κ ρ γ : Type}

section Semantics
variable [DecidableEq ι] [DecidableEq κ]

/-- `wait` gives up the mutex when it parks, and tests again once it has it back. A
notification takes a thread out of `waiting`; without one it may still wake up. -/
def step (ops : γ → Code σ κ ρ) (i : ι) :
    Act ι γ → Shared σ ι κ → Code σ κ ρ → Option (Shared σ ι κ × Code σ κ ρ)
  | .call op, s, .done _ => some (s, ops op)
  | .step, s, .lock rest =>
    if s.holder = none then some ({ s with holder := some i }, rest) else none
  | .step, s, .read rest => some (s, rest s.data)
  | .step, s, .allocate rest _ => some (s, rest)
  | .fails, s, .allocate _ failed => some (s, failed)
  -- the predicate is tested with the mutex
  | .step, s, .wait .testing c p rest =>
    some (s, if p s.data then rest else .wait .parking c p rest)
  | .step, s, .wait .parking c p rest =>
    some ({ s with
      holder := none, waiting := Function.update s.waiting c (insert i (s.waiting c)) },
      .wait .parked c p rest)
  | .step, s, .wait .parked c p rest =>
    if i ∈ s.waiting c then none else some (s, .wait .relocking c p rest)
  | .spurious, s, .wait .parked c p rest =>
    some ({ s with waiting := Function.update s.waiting c ((s.waiting c).erase i) },
      .wait .relocking c p rest)
  | .step, s, .wait .relocking c p rest =>
    if s.holder = none then some ({ s with holder := some i }, .wait .testing c p rest) else none
  | .step, s, .write f rest => some ({ s with data := f s.data }, rest s.data)
  | .step, s, .unlock rest => some ({ s with holder := none }, rest)
  -- without a waiter the notification is lost
  | .step, s, .notifyOne c rest => if s.waiting c = ∅ then some (s, rest) else none
  | .wake j, s, .notifyOne c rest =>
    if j ∈ s.waiting c then
      some ({ s with waiting := Function.update s.waiting c ((s.waiting c).erase j) }, rest)
    else none
  | .step, s, .notifyAll c rest =>
    some ({ s with waiting := Function.update s.waiting c ∅ }, rest)
  | _, _, _ => none

def threads (data : σ) (idle : ρ) (γ : ι → Type) (ops : ∀ i, γ i → Code σ κ ρ) :
    Threads ι (Shared σ ι κ) (fun _ => Code σ κ ρ) fun i => Act ι (γ i) where
  shared := ⟨data, none, fun _ => ∅⟩
  locals _ := .done idle
  step i := step (ops i) i

end Semantics

/-! ### The discipline -/

namespace Code

def held : Code σ κ ρ → Bool
  | .read _ | .allocate .. | .write .. | .unlock _ => true
  | .wait .testing .. | .wait .parking .. => true
  | _ => false

/-- A notification of `c` that is issued after the mutex is released, with nothing but other
notifications before it. -/
def owes (c : κ) : Code σ κ ρ → Prop
  | .unlock rest => rest.owes c
  | .notifyOne c' rest | .notifyAll c' rest => c' = c ∨ rest.owes c
  | _ => False

end Code

/-- The data invariant, the changes that each thread may make, and what is awaited on each
condition variable, by which thread. -/
structure Scheme (σ ι κ : Type) where
  holds : σ → Prop
  writes : ι → σ → σ → Prop
  awaited : κ → σ → Bool
  waiter : κ → ι

/-- Code of thread `i` that keeps the scheme, run from data `s`: it writes and waits with the
mutex only, and a write that may end a wait is followed by a notification. -/
def Scheme.Sound (R : Scheme σ ι κ) (i : ι) : σ → Code σ κ ρ → Prop
  | _, .done _ => True
  | _, .lock rest => rest.held = true ∧ ∀ t, R.holds t → R.Sound i t rest
  | s, .read rest => (rest s).held = true ∧ R.Sound i s (rest s)
  | s, .allocate rest failed =>
    (rest.held = true ∧ R.Sound i s rest) ∧ failed.held = true ∧ R.Sound i s failed
  | s, .wait phase c p rest => (p = R.awaited c ∧ i = R.waiter c) ∧ rest.held = true ∧
    (phase = .parking → R.awaited c s = false) ∧
    ∀ t, R.holds t → R.awaited c t = true → R.Sound i t rest
  | s, .write f rest => (rest s).held = true ∧ (R.writes i s (f s) ∧ R.holds (f s)) ∧
    (∀ c, R.awaited c (f s) = true → R.awaited c s = true ∨ (rest s).owes c) ∧
    R.Sound i (f s) (rest s)
  | s, .unlock rest | s, .notifyOne _ rest | s, .notifyAll _ rest =>
    rest.held = false ∧ R.Sound i s rest

variable {R : Scheme σ ι κ}

theorem Scheme.sound_ite {i : ι} {s : σ} {b : Prop} [Decidable b] {yes no : Code σ κ ρ}
    (hyes : b → yes.held = true ∧ R.Sound i s yes) (hno : ¬ b → no.held = true ∧ R.Sound i s no) :
    (if b then yes else no).held = true ∧ R.Sound i s (if b then yes else no) := by
  split
  · exact hyes ‹_›
  · exact hno ‹_›

theorem Scheme.Sound.congr {i : ι} {s t : σ} {code : Code σ κ ρ} (h : R.Sound i s code)
    (hheld : code.held = false) : R.Sound i t code := by
  induction code with
  | done => trivial
  | lock => exact h
  | wait phase c p rest =>
    refine ⟨h.1, h.2.1, ?_, h.2.2.2⟩
    rintro rfl
    cases hheld
  | notifyOne c rest ih => exact ⟨h.1, ih h.2 h.1⟩
  | notifyAll c rest ih => exact ⟨h.1, ih h.2 h.1⟩
  | read => cases hheld
  | allocate => cases hheld
  | write => cases hheld
  | unlock => cases hheld

/-! ### The invariant -/

abbrev State (σ ι κ ρ : Type) := Config ι (Shared σ ι κ) fun _ => Code σ κ ρ

/-- `covered`: a waiter whose condition has come true is owed a notification, unless it has
been delivered. -/
structure Ok (R : Scheme σ ι κ) (x : State σ ι κ ρ) : Prop where
  exclusive : ∀ i, (x.locals i).held = true ↔ x.shared.holder = some i
  data : R.holds x.shared.data
  sound : ∀ i, R.Sound i x.shared.data (x.locals i)
  waiting : ∀ c, ∀ i ∈ x.shared.waiting c,
    i = R.waiter c ∧ ∃ p rest, x.locals i = .wait .parked c p rest
  covered : ∀ c, R.waiter c ∈ x.shared.waiting c → R.awaited c x.shared.data = true →
    ∃ j, (x.locals j).owes c

theorem Ok.others {x : State σ ι κ ρ} {i : ι} (h : Ok R x)
    (hne : ∀ c p rest, x.locals i ≠ .wait .parked c p rest) {c : κ} {j : ι}
    (hj : j ∈ x.shared.waiting c) : j ≠ i := by
  rintro rfl
  obtain ⟨-, p, rest, hcode⟩ := h.waiting c j hj
  exact hne c p rest hcode

theorem others_holder {i j : ι} (hj : j ≠ i) : some i = some j ↔ none = some j := by
  simp [hj.symm]

theorem mem_of_mem_update [DecidableEq κ] {waiting : κ → Finset ι} {c d : κ} {left : Finset ι}
    {j : ι} (hleft : left ⊆ waiting c) (hj : j ∈ Function.update waiting c left d) :
    j ∈ waiting d := by
  by_cases hd : d = c
  · subst hd
    rw [Function.update_self] at hj
    exact hleft hj
  · rwa [Function.update_of_ne hd] at hj

section Steps
variable [DecidableEq ι]
variable {x : State σ ι κ ρ} {i : ι} {s' : Shared σ ι κ} {l' : Code σ κ ρ}

theorem Ok.move (h : Ok R x) (hheld : l'.held = true ↔ s'.holder = some i)
    (hholder : ∀ j, j ≠ i → (s'.holder = some j ↔ x.shared.holder = some j))
    (hdata : R.holds s'.data) (hsound : R.Sound i s'.data l')
    (hwrite : s'.data = x.shared.data ∨ x.shared.holder = some i)
    (hwaiting : ∀ c, ∀ j ∈ s'.waiting c, j ≠ i ∧ j ∈ x.shared.waiting c ∨
      j = i ∧ i = R.waiter c ∧ ∃ p rest, l' = .wait .parked c p rest)
    (hcovered : ∀ c, R.waiter c ∈ s'.waiting c → R.awaited c s'.data = true → l'.owes c ∨
      (R.waiter c ∈ x.shared.waiting c ∧ R.awaited c x.shared.data = true ∧
        ¬ (x.locals i).owes c)) :
    Ok R ⟨s', Function.update x.locals i l'⟩ := by
  constructor
  case exclusive =>
    intro j
    show (Function.update x.locals i l' j).held = true ↔ s'.holder = some j
    by_cases hj : j = i
    · subst hj
      rwa [Function.update_self]
    · rw [Function.update_of_ne hj, hholder j hj]
      exact h.exclusive j
  case data => exact hdata
  case sound =>
    intro j
    show R.Sound j s'.data (Function.update x.locals i l' j)
    by_cases hj : j = i
    · subst hj
      rwa [Function.update_self]
    · rw [Function.update_of_ne hj]
      obtain heq | hholds := hwrite
      · exact heq ▸ h.sound j
      · refine (h.sound j).congr (Bool.eq_false_iff.mpr fun hh => hj ?_)
        exact Option.some.inj (((h.exclusive j).mp hh).symm.trans hholds)
  case waiting =>
    intro c j hmem
    show _ ∧ ∃ p rest, Function.update x.locals i l' j = _
    obtain ⟨hj, hold⟩ | ⟨rfl, hw, hl⟩ := hwaiting c j hmem
    · rw [Function.update_of_ne hj]
      exact h.waiting c j hold
    · rw [Function.update_self]
      exact ⟨hw, hl⟩
  case covered =>
    intro c hmem hawaited
    show ∃ j, (Function.update x.locals i l' j).owes c
    obtain howes | ⟨hold, hawaited', hnot⟩ := hcovered c hmem hawaited
    · exact ⟨i, by rwa [Function.update_self]⟩
    · obtain ⟨j, hj⟩ := h.covered c hold hawaited'
      have hne : j ≠ i := by
        rintro rfl
        exact hnot hj
      exact ⟨j, by rwa [Function.update_of_ne hne]⟩

theorem Ok.quiet (h : Ok R x) {holder : Option ι} {l' : Code σ κ ρ}
    (hnot : ∀ c p rest, x.locals i ≠ .wait .parked c p rest)
    (howes : ∀ c, (x.locals i).owes c → l'.owes c)
    (hheld : l'.held = true ↔ holder = some i)
    (hholder : ∀ j, j ≠ i → (holder = some j ↔ x.shared.holder = some j))
    (hsound : R.Sound i x.shared.data l') :
    Ok R ⟨{ x.shared with holder }, Function.update x.locals i l'⟩ := by
  refine h.move hheld hholder h.data hsound (.inl rfl)
    (fun c j hj => .inl ⟨h.others hnot hj, hj⟩) fun c hw ha => ?_
  by_cases hc : (x.locals i).owes c
  · exact .inl (howes c hc)
  · exact .inr ⟨hw, ha, hc⟩

theorem Ok.notify (h : Ok R x) (c : κ) {rest : Code σ κ ρ} {waiting : κ → Finset ι}
    (hnot : ∀ c p rest, x.locals i ≠ .wait .parked c p rest) (hheld : (x.locals i).held = false)
    (howes : ∀ d, (x.locals i).owes d → c = d ∨ rest.owes d)
    (hsound : rest.held = false ∧ R.Sound i x.shared.data rest)
    (hsub : ∀ d j, j ∈ waiting d → j ∈ x.shared.waiting d) (hgone : R.waiter c ∉ waiting c) :
    Ok R ⟨{ x.shared with waiting }, Function.update x.locals i rest⟩ := by
  refine h.move ?_ (fun _ _ => .rfl) h.data hsound.2 (.inl rfl)
    (fun d j hj => .inl ⟨h.others hnot (hsub d j hj), hsub d j hj⟩) fun d hw ha => ?_
  · rw [hsound.1, ← hheld]
    exact h.exclusive i
  · by_cases hd : (x.locals i).owes d
    · obtain rfl | hrest := howes d hd
      · exact absurd hw hgone
      · exact .inl hrest
    · exact .inr ⟨hsub d _ hw, ha, hd⟩

variable [DecidableEq κ]

theorem Ok.stepWait {ops : γ → Code σ κ ρ} {a : Act ι γ} {phase : Phase} {c : κ} {p : σ → Bool}
    {rest : Code σ κ ρ} (h : Ok R x) (hcode : x.locals i = .wait phase c p rest)
    (hstep : Monitor.step ops i a x.shared (.wait phase c p rest) = some (s', l')) :
    Ok R ⟨s', Function.update x.locals i l'⟩ := by
  have hexcl := h.exclusive i
  have hsound := h.sound i
  rw [hcode] at hexcl hsound
  obtain ⟨⟨rfl, rfl⟩, hrest, hfalse, hall⟩ := hsound
  cases phase with
  | testing =>
    cases a <;> cases hstep
    have hnext : ∀ b, R.awaited c x.shared.data = b → (if b then rest else
        .wait .parking c (R.awaited c) rest).held = true ∧ R.Sound (R.waiter c) x.shared.data
          (if b then rest else .wait .parking c (R.awaited c) rest) := by
      intro b hb
      cases b with
      | true => exact ⟨hrest, hall _ h.data hb⟩
      | false => exact ⟨rfl, ⟨rfl, rfl⟩, hrest, fun _ => hb, hall⟩
    obtain ⟨hheld, hsound⟩ := hnext _ rfl
    refine h.quiet (by simp [hcode]) (by simp [hcode, Code.owes]) ?_ (fun _ _ => .rfl) hsound
    rw [hheld]
    exact hexcl
  | parking =>
    cases a <;> cases hstep
    have hholds : x.shared.holder = some (R.waiter c) := hexcl.mp rfl
    refine h.move (by simp [Code.held]) (fun j hj => ?_) h.data ⟨⟨rfl, rfl⟩, hrest, nofun, hall⟩
      (.inl rfl) (fun d j hj => ?_) fun d hw ha => ?_
    · rw [hholds]
      exact (others_holder hj).symm
    · by_cases hd : d = c
      · subst hd
        simp only [Function.update_self, Finset.mem_insert] at hj
        obtain rfl | hj := hj
        · exact .inr ⟨rfl, rfl, _, _, rfl⟩
        · exact .inl ⟨h.others (by simp [hcode]) hj, hj⟩
      · simp only [Function.update_of_ne hd] at hj
        exact .inl ⟨h.others (by simp [hcode]) hj, hj⟩
    · by_cases hd : d = c
      · -- nothing has changed since the test
        subst hd
        exact absurd (ha.symm.trans (hfalse rfl)) (by decide)
      · simp only [Function.update_of_ne hd] at hw
        exact .inr ⟨hw, ha, by simp [hcode, Code.owes]⟩
  | parked =>
    have hrelock : ∀ waiting : κ → Finset ι,
        (∀ d j, j ∈ waiting d → j ∈ x.shared.waiting d) → R.waiter c ∉ waiting c →
        Ok R ⟨{ x.shared with waiting }, Function.update x.locals (R.waiter c)
          (.wait .relocking c (R.awaited c) rest)⟩ := by
      intro waiting hsub hgone
      refine h.move hexcl (fun _ _ => .rfl) h.data ⟨⟨rfl, rfl⟩, hrest, nofun, hall⟩ (.inl rfl)
        (fun d j hj => .inl ⟨?_, hsub d j hj⟩) fun d hw ha =>
          .inr ⟨hsub d _ hw, ha, by simp [hcode, Code.owes]⟩
      rintro rfl
      obtain ⟨-, p, rest', heq⟩ := h.waiting d _ (hsub d _ hj)
      cases hcode.symm.trans heq
      exact hgone hj
    cases a <;> try cases hstep
    · obtain ⟨hgone, hstep⟩ := Option.ite_none_left_eq_some.mp hstep
      cases hstep
      exact hrelock _ (fun _ _ hj => hj) hgone
    · exact hrelock _ (fun d j hj => mem_of_mem_update (Finset.erase_subset _ _) hj) (by simp)
  | relocking =>
    cases a <;> try cases hstep
    obtain ⟨hfree, hstep⟩ := Option.ite_none_right_eq_some.mp hstep
    cases hstep
    refine h.quiet (by simp [hcode]) (by simp [hcode, Code.owes]) (by simp [Code.held])
      (fun j hj => ?_) ⟨⟨rfl, rfl⟩, hrest, nofun, hall⟩
    rw [hfree]
    exact others_holder hj

theorem Ok.step {ops : γ → Code σ κ ρ} {a : Act ι γ} (h : Ok R x)
    (hops : ∀ op, (ops op).held = false ∧ ∀ s, R.holds s → R.Sound i s (ops op))
    (hstep : Monitor.step ops i a x.shared (x.locals i) = some (s', l')) :
    Ok R ⟨s', Function.update x.locals i l'⟩ := by
  have hexcl := h.exclusive i
  have hsound := h.sound i
  cases hcode : x.locals i with
  | done result =>
    rw [hcode] at hstep hexcl
    cases a <;> cases hstep
    rename_i op
    obtain ⟨hheld, hall⟩ := hops op
    refine h.quiet (by simp [hcode]) (by simp [hcode, Code.owes]) ?_ (fun _ _ => .rfl)
      (hall _ h.data)
    rw [hheld]
    exact hexcl
  | lock rest =>
    rw [hcode] at hstep hexcl hsound
    cases a <;> try cases hstep
    obtain ⟨hfree, hstep⟩ := Option.ite_none_right_eq_some.mp hstep
    cases hstep
    refine h.quiet (by simp [hcode]) (by simp [hcode, Code.owes]) (by simp [hsound.1])
      (fun j hj => ?_) (hsound.2 _ h.data)
    rw [hfree]
    exact others_holder hj
  | read rest =>
    rw [hcode] at hstep hexcl hsound
    cases a <;> cases hstep
    refine h.quiet (by simp [hcode]) (by simp [hcode, Code.owes]) ?_ (fun _ _ => .rfl) hsound.2
    rw [hsound.1]
    exact hexcl
  | allocate rest failed =>
    rw [hcode] at hstep hexcl hsound
    cases a <;> cases hstep
    · refine h.quiet (by simp [hcode]) (by simp [hcode, Code.owes]) ?_ (fun _ _ => .rfl)
        hsound.1.2
      rw [hsound.1.1]
      exact hexcl
    · refine h.quiet (by simp [hcode]) (by simp [hcode, Code.owes]) ?_ (fun _ _ => .rfl)
        hsound.2.2
      rw [hsound.2.1]
      exact hexcl
  | wait phase c p rest =>
    rw [hcode] at hstep
    exact h.stepWait hcode hstep
  | write f rest =>
    rw [hcode] at hstep hexcl hsound
    cases a <;> cases hstep
    have hholds : x.shared.holder = some i := hexcl.mp rfl
    obtain ⟨hheld, hdata, hnotified, hrest⟩ := hsound
    refine h.move (by rw [hheld]; exact hexcl) (fun _ _ => .rfl) hdata.2 hrest (.inr hholds)
      (fun c j hj => .inl ⟨h.others (by simp [hcode]) hj, hj⟩) fun c hw ha => ?_
    exact (hnotified c ha).elim (fun hold => .inr ⟨hw, hold, by simp [hcode, Code.owes]⟩) .inl
  | unlock rest =>
    rw [hcode] at hstep hexcl hsound
    cases a <;> cases hstep
    have hholds : x.shared.holder = some i := hexcl.mp rfl
    refine h.quiet (by simp [hcode]) (fun c hc => by rwa [hcode] at hc) (by simp [hsound.1])
      (fun j hj => ?_) hsound.2
    rw [hholds]
    exact (others_holder hj).symm
  | notifyOne c rest =>
    rw [hcode] at hstep hsound
    have hnotify : ∀ waiting : κ → Finset ι, (∀ d j, j ∈ waiting d → j ∈ x.shared.waiting d) →
        R.waiter c ∉ waiting c → Ok R ⟨{ x.shared with waiting }, Function.update x.locals i rest⟩ :=
      fun _ => h.notify c (by simp [hcode]) (by rw [hcode]; rfl)
        (fun d hd => by rwa [hcode] at hd) hsound
    cases a <;> try cases hstep
    · obtain ⟨hnone, hstep⟩ := Option.ite_none_right_eq_some.mp hstep
      cases hstep
      exact hnotify _ (fun _ _ hj => hj) (by simp [hnone])
    · rename_i k
      obtain ⟨hk, hstep⟩ := Option.ite_none_right_eq_some.mp hstep
      cases hstep
      obtain rfl := (h.waiting c k hk).1
      exact hnotify _ (fun d j hj => mem_of_mem_update (Finset.erase_subset _ _) hj) (by simp)
  | notifyAll c rest =>
    rw [hcode] at hstep hsound
    cases a <;> cases hstep
    refine h.notify c (by simp [hcode]) (by rw [hcode]; rfl)
      (fun d hd => by rwa [hcode] at hd) hsound (fun d j hj => ?_) (by simp)
    exact mem_of_mem_update (Finset.empty_subset _) hj

theorem Ok.write {ops : γ → Code σ κ ρ} {a : Act ι γ} (h : Ok R x)
    (hstep : Monitor.step ops i a x.shared (x.locals i) = some (s', l')) :
    s'.data = x.shared.data ∨ R.writes i x.shared.data s'.data := by
  have hsound := h.sound i
  cases hcode : x.locals i with
  | write f rest =>
    rw [hcode] at hstep hsound
    cases a <;> cases hstep
    exact .inr hsound.2.1.1
  | wait phase c p rest =>
    rw [hcode] at hstep
    cases phase <;> cases a <;> try cases hstep
    all_goals first
      | exact .inl rfl
      | (obtain ⟨-, heq⟩ := Option.ite_none_left_eq_some.mp hstep; cases heq; exact .inl rfl)
      | (obtain ⟨-, heq⟩ := Option.ite_none_right_eq_some.mp hstep; cases heq; exact .inl rfl)
  | done | read | allocate | unlock | notifyAll =>
    rw [hcode] at hstep
    cases a <;> cases hstep
    all_goals exact .inl rfl
  | lock | notifyOne =>
    rw [hcode] at hstep
    cases a <;> try cases hstep
    all_goals
      obtain ⟨-, heq⟩ := Option.ite_none_right_eq_some.mp hstep
      cases heq
      exact .inl rfl

end Steps

/-! ### Waiting threads -/

section Waiting
variable {x : State σ ι κ ρ} {i j : ι} {c : κ}

def Parked (x : State σ ι κ ρ) (i : ι) (c : κ) : Prop :=
  ∃ p rest, x.locals i = .wait .parked c p rest

def Owed (x : State σ ι κ ρ) (c : κ) : Prop := ∃ j, (x.locals j).owes c

def Delivered (x : State σ ι κ ρ) (i : ι) (c : κ) : Prop := i ∉ x.shared.waiting c

theorem Ok.parked (h : Ok R x) (hp : Parked x i c) : i = R.waiter c := by
  obtain ⟨p, rest, hcode⟩ := hp
  have hsound := h.sound i
  rw [hcode] at hsound
  exact hsound.1.2

theorem Ok.awaited (h : Ok R x) (hp : Parked x i c)
    (hc : R.awaited c x.shared.data = true) : Delivered x i c ∨ Owed x c := by
  obtain rfl := h.parked hp
  by_cases hw : R.waiter c ∈ x.shared.waiting c
  · exact .inr (h.covered c hw hc)
  · exact .inl hw

theorem Ok.leaving (h : Ok R x) (ho : (x.locals j).owes c)
    (hj : x.shared.holder = some j) : ∃ rest, x.locals j = .unlock rest := by
  have hheld := (h.exclusive j).mpr hj
  cases hcode : x.locals j <;> rw [hcode] at ho hheld <;> first
    | exact ⟨_, rfl⟩
    | exact ho.elim
    | cases hheld

end Waiting

/-! ### Whole runs -/

section Reached
variable [DecidableEq ι] [DecidableEq κ] {data : σ} {idle : ρ} {γ : ι → Type}
  {ops : ∀ i, γ i → Code σ κ ρ} {x : State σ ι κ ρ}

theorem reachable_ok (hdata : R.holds data)
    (hops : ∀ i op, (ops i op).held = false ∧ ∀ s, R.holds s → R.Sound i s (ops i op))
    (h : (threads data idle γ ops).Reachable x) : Ok R x := by
  refine System.Reachable.invariant (M := (threads data idle γ ops).toSystem) (P := Ok R) ?_ ?_ h
  · exact ⟨fun _ => ⟨nofun, nofun⟩, hdata, fun _ => trivial, fun _ _ hi => absurd hi (by
      simp [threads, Threads.toSystem]), fun _ hw => absurd hw (by simp [threads, Threads.toSystem])⟩
  · rintro x ⟨i, a⟩ u - hok hn
    obtain ⟨s', l', hst, rfl⟩ := Threads.next_eq_some (T := threads data idle γ ops) hn
    exact hok.step (hops i) hst

theorem reachable_data {α : Type} {N : System σ α} (hstart : N.start = data)
    (hN : ∀ i s t, R.writes i s t → ∃ a, N.next a s = some t) (hdata : R.holds data)
    (hops : ∀ i op, (ops i op).held = false ∧ ∀ s, R.holds s → R.Sound i s (ops i op))
    (h : (threads data idle γ ops).Reachable x) : N.Reachable x.shared.data := by
  refine h.project (fun x => x.shared.data) hstart.symm ?_
  rintro x ⟨i, a⟩ u hx hn
  obtain ⟨s', l', hst, rfl⟩ := Threads.next_eq_some (T := threads data idle γ ops) hn
  exact ((reachable_ok hdata hops hx).write hst).imp_right (hN i _ _)

theorem Delivered.wakes {i : ι} {c : κ} (hd : Delivered x i c) (hp : Parked x i c) :
    ∃ u, (threads data idle γ ops).next ⟨i, .step⟩ x = some u ∧ ¬ Parked u i c := by
  obtain ⟨p, rest, hcode⟩ := hp
  refine ⟨⟨x.shared, Function.update x.locals i (.wait .relocking c p rest)⟩, ?_, ?_⟩
  · have hstep : Monitor.step (ops i) i .step x.shared (x.locals i) =
        some (x.shared, .wait .relocking c p rest) := by
      rw [hcode]
      exact if_neg hd
    simp only [Threads.next, threads, hstep, Option.map_some]
  · rintro ⟨p', rest', heq⟩
    simp at heq

end Reached
end Monitor
