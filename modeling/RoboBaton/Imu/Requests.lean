import RoboBaton.Imu.Lifecycle

/-! The configuration of the acquisition: only the first `Start` creates a handle, and with the
configuration that it was called with. -/

namespace RoboBaton.Imu
open Trace Transition
variable {P : Type} {C : CoreConfig → Prop} {s s' : Core P}

def OwnerOp.Of (C : CoreConfig → Prop) : OwnerOp → Prop
  | .startGuard config .. => C config
  | .create config => C config
  | _ => True

def Event.Of (C : CoreConfig → Prop) : Event → Prop
  | .create config .. => C config
  | _ => True

def Event.isDriverCall : Event → Bool
  | .create .. | .setCallback .. | .start _ | .stop _ | .destroy _ => true
  | _ => false

theorem Ledger.silent (hL : Ledger s) (h : s.startClaimed = false) :
    ∀ e ∈ s.events, e.isDriverCall = false := by
  obtain ⟨-, -, -, hnone⟩ := hL.unclaimed h
  intro e he
  obtain ⟨pre, post, hsplit⟩ := List.append_of_mem he
  have hallowed : Allowed pre e := hL.ordered pre e post hsplit
  have husable : ∀ handle, ¬ Usable pre handle := by
    rintro handle ⟨k, -, ⟨config, status, hcreated⟩, -⟩
    refine hnone config status (some k) ?_
    rw [hsplit]
    exact List.mem_append_left _ hcreated
  cases e with
  | create config status handle => exact absurd he (hnone config status handle)
  | setCallback handle | start handle | stop handle | destroy handle =>
    exact absurd hallowed.1 (husable handle)
  | _ => rfl

structure Fixed (C : CoreConfig → Prop) (s : State P) : Prop where
  entry : ∀ op ∈ (s.locals .owner : OwnerLocal).ops, op.Of C
  created : ∀ e ∈ s.shared.events, e.Of C
  claimed : s.shared.startClaimed = true → ∃ config, C config

def Calls (C : CoreConfig → Prop) (e : Σ i, Act P i) : Prop :=
  ∀ config sink notifier, e = ⟨.owner, (.start config sink notifier : OwnerAct)⟩ → C config

theorem of_afterStop (site : StopSite) (status : Status) :
    ∀ op ∈ afterStop site status, op.Of C := by
  cases site <;> by_cases h : status = statusOk <;>
    simp [afterStop, startFailureTail, stopTail, finishPublisher, recordFailure, OwnerOp.Of, h]

theorem of_events {es : List Event} {e : Event} (h : ∀ e ∈ es, e.Of C) (he : e.Of C) :
    ∀ e' ∈ es ++ [e], e'.Of C := by
  intro e' hmem
  rcases List.mem_append.mp hmem with hmem | hmem
  · exact h e' hmem
  · rw [List.mem_singleton.mp hmem]
    exact he

theorem exec_fixed {op : OwnerOp} {rest ops : List OwnerOp} {r : Reply}
    (hentry : ∀ o ∈ op :: rest, o.Of C) (hevents : ∀ e ∈ s.events, e.Of C)
    (hclaimed : s.startClaimed = true → ∃ config, C config)
    (h : op.exec s rest r = some (s', ops)) :
    (∀ o ∈ ops, o.Of C) ∧ (∀ e ∈ s'.events, e.Of C) ∧
      (s'.startClaimed = true → ∃ config, C config) := by
  have hop : op.Of C := hentry op List.mem_cons_self
  have hrest : ∀ o ∈ rest, o.Of C := fun o ho => hentry o (List.mem_cons_of_mem _ ho)
  cases exec_step h with
  | claim config sink notifier =>
    exact ⟨by simpa [OwnerOp.Of] using hop, hevents, fun _ => ⟨config, hop⟩⟩
  | rejected => exact ⟨by simp [OwnerOp.Of], hevents, hclaimed⟩
  | noHandle | badStatus =>
    exact ⟨by simp [OwnerOp.Of, recordFailure], of_events hevents hop, hclaimed⟩
  | created => exact ⟨by simp [OwnerOp.Of], of_events hevents hop, hclaimed⟩
  | callbackSet | spawned | driverStart | returnStart | returnStop =>
    exact ⟨by simp [OwnerOp.Of], of_events hevents trivial, hclaimed⟩
  | callbackRefused | notSpawned =>
    exact ⟨by simp [OwnerOp.Of, abandonStart, recordFailure], of_events hevents trivial, hclaimed⟩
  | started | notStarted | stopped | stopDriver => exact ⟨by simp [OwnerOp.Of], hevents, hclaimed⟩
  | stopIdle => exact ⟨of_afterStop .stop statusOk, hevents, hclaimed⟩
  | driverStopped site | driverStopFailed site =>
    exact ⟨of_afterStop site _, of_events hevents trivial, hclaimed⟩
  | notify =>
    refine ⟨fun o ho => ?_, hevents, hclaimed⟩
    rcases List.mem_cons.mp ho with rfl | ho
    · trivial
    · exact hrest o ho
  | destroyCandidate | driverStop | joined | destroyHandle | clearSink | clearNotifier =>
    exact ⟨hrest, of_events hevents trivial, hclaimed⟩
  | _ => exact ⟨hrest, hevents, hclaimed⟩

theorem next_fixed [Inhabited P] {temperature : Bool} {s t : State P} {e : Σ i, Act P i}
    (hF : Fixed C s) (hcalls : Calls C e) (h : (threads P temperature).next e s = some t) :
    Fixed C t := by
  obtain ⟨i, a⟩ := e
  obtain ⟨s', l', hst, rfl⟩ := Threads.next_eq_some h
  by_cases hi : i = .owner
  · subst hi
    have hlocal : Function.update s.locals .owner l' .owner = l' := Function.update_self ..
    suffices hsuff : (∀ op ∈ (l' : OwnerLocal).ops, op.Of C) ∧ (∀ e ∈ s'.events, e.Of C) ∧
        (s'.startClaimed = true → ∃ config, C config) by
      exact ⟨hlocal.symm ▸ hsuff.1, hsuff.2.1, hsuff.2.2⟩
    rcases ownerStep_cases hst with ⟨rfl, hops, hdes, hl'⟩ | ⟨op, ops, r, hops, hexec, -⟩
    · refine ⟨?_, hF.created, hF.claimed⟩
      change ownerStep a s.shared (s.locals .owner) = some (s.shared, l') at hst
      generalize (s.locals .owner : OwnerLocal) = l at hst hops hdes
      obtain ⟨ops, destructed⟩ := l
      obtain rfl : ops = [] := hops
      obtain rfl : destructed = false := hdes
      cases (a : OwnerAct) with
      | start config sink notifier =>
        cases hst
        have hconfig : C config := hcalls config sink notifier rfl
        simpa [OwnerOp.Of] using hconfig
      | stop =>
        cases hst
        simp [OwnerOp.Of]
      | destruct =>
        cases hst
        simp [OwnerOp.Of]
      | reply r => cases hst
    · have hentry := hF.entry
      rw [hops] at hentry
      exact exec_fixed hentry hF.created hF.claimed hexec
  · have hlocal : Function.update s.locals i l' .owner = s.locals .owner :=
      Function.update_of_ne (Ne.symm hi) ..
    have hframe : OwnerFrame s.shared s' := by
      cases i with
      | owner => exact absurd rfl hi
      | producer => exact (sampleTrampoline_frame hst).1
      | publisher => exact (publisher_step_running hst).1
    refine ⟨?_, ?_, ?_⟩
    · show ∀ op ∈ (Function.update s.locals i l' .owner : OwnerLocal).ops, op.Of C
      rw [hlocal]
      exact hF.entry
    · show ∀ e ∈ s'.events, e.Of C
      rw [hframe.events]
      exact hF.created
    · show s'.startClaimed = true → ∃ config, C config
      rw [hframe.startClaimed]
      exact hF.claimed

end RoboBaton.Imu
