import RoboBaton.Camera.Owner

/-! Every instruction keeps the ledger and leaves code behind that finds what it relies on. -/

namespace RoboBaton.Camera
open Trace Discipline
variable {D : Type} {s s' : Core D}

def Survive (lost : List Fact) (s s' : Core D) : Prop :=
  ∀ f, Holds s f → f ∉ lost → Holds s' f

/-! ### Queues, incidents and notices -/

section Parts
variable {c : CameraId} {q q' : FrameQueue}

theorem Holds.setQueue (hq : s.queues c = some q) (hlive : q.stopped = false) :
    Survive [] s (s.setQueue c q') := by
  intro f hf _
  have hne : ∀ c' x, (s.setQueue c q').queues c' = some x →
      (∀ y, s.queues c' = some y → y.stopped = true) → s.queues c' = some x := by
    intro c' x hx hall
    by_cases hc : c' = c
    · subst hc
      exact absurd (hall q hq) (by simp [hlive])
    · rwa [s.setQueue_of_ne q' hc] at hx
  cases f with
  | done op =>
    cases op with
    | closeQueue c' =>
      intro x hx
      exact hf x (hne c' x hx hf)
    | _ => exact hf
  | emptied c' =>
    intro x hx
    exact hf x (hne c' x hx fun y hy => (hf y hy).1)
  | noQueue c' =>
    have hc : c' ≠ c := by
      rintro rfl
      exact absurd (hf.symm.trans hq) (by simp)
    exact (s.setQueue_of_ne q' hc).trans hf
  | _ => exact hf

theorem Ledger.setQueue (hL : Ledger s) (hq : s.queues c = some q) (hlive : q.stopped = false)
    (hlive' : q'.stopped = false) : Ledger (s.setQueue c q') where
  unclaimed h := absurd (hq.symm.trans ((hL.unclaimed h).2.2.2.1 c)) (by simp)
  accepting := hL.accepting
  workers := hL.workers
  stoppedQueue c' x hx hstopped := by
    have hc : c' ≠ c := by
      rintro rfl
      obtain rfl := Option.some.inj ((s.setQueue_self c' q').symm.trans hx)
      rw [hlive'] at hstopped
      cases hstopped
    rw [s.setQueue_of_ne q' hc] at hx
    exact hL.stoppedQueue c' x hx hstopped
  stop h := ⟨(hL.stop h).1, fun f hf => Holds.setQueue hq hlive f ((hL.stop h).2 f hf) (by simp)⟩
  stopReturned := hL.stopReturned
  complete := hL.complete
  returned := hL.returned
  startReturned := hL.startReturned
  startFailed := hL.startFailed
  handled h :=
    ⟨(hL.handled h).1, fun op hop =>
      Holds.setQueue hq hlive (.done op) ((hL.handled h).2 op hop) (by simp)⟩
  spawned := hL.spawned
  joined := hL.joined
  failed := hL.failed
  ordered := hL.ordered

theorem Holds.incident (i : Incident D) : Survive [.recorded] s (s.incident i) := by
  intro f hf hlost
  cases f with
  | blamed => exact List.append_ne_nil_of_left_ne_nil hf _
  | recorded => simp at hlost
  | done op => cases op <;> exact hf
  | _ => exact hf

theorem Ledger.incident (hL : Ledger s) (i : Incident D) : Ledger (s.incident i) :=
  { hL with
    stop := fun h => by
      refine ⟨(hL.stop h).1, fun f hf => Holds.incident i f ((hL.stop h).2 f hf) ?_⟩
      rw [List.mem_singleton]
      rintro rfl
      simp [closed] at hf
    handled := fun h =>
      ⟨(hL.handled h).1, fun op hop => Holds.incident i (.done op) ((hL.handled h).2 op hop) (by simp)⟩
    failed := fun h => List.append_ne_nil_of_left_ne_nil (hL.failed h) _ }

theorem Holds.emit (e : Event) (he : ∀ producer cameraMask, e ≠ .startFrameSet producer cameraMask) :
    Survive [] s (s.emit e) := by
  intro f hf _
  cases f with
  | done op => cases op <;> exact hf
  | unstarted =>
    intro producer cameraMask hmem
    rcases Core.mem_emit.mp hmem with hmem | heq
    · exact hf producer cameraMask hmem
    · exact he producer cameraMask heq.symm
  | stopCalled => exact List.mem_append_left _ hf
  | stopped => exact List.mem_append_left _ hf
  | finished => exact hf.imp_right fun ⟨c, hc⟩ => ⟨c, List.mem_append_left _ hc⟩
  | _ => exact hf

theorem Finished.emit (e : Event) (h : Finished s) : Finished (s.emit e) :=
  h.imp_right fun ⟨c, hc⟩ => ⟨c, List.mem_append_left _ hc⟩

theorem Holds.emit_closed (e : Event) {f : Fact} (hf : f ∈ closed) (h : Holds s f) :
    Holds (s.emit e) f := by
  simp only [closed, cameras, List.mem_append, List.mem_cons, List.mem_map, List.not_mem_nil,
    or_false] at hf
  rcases hf with ((rfl | rfl | rfl) | ⟨c, -, rfl⟩) | ⟨c, -, rfl⟩ <;> exact h

theorem CommonOp.Done.emit (e : Event) {op : CommonOp} (h : op.Done s) : op.Done (s.emit e) := by
  cases op <;> exact h

theorem Ledger.emit (hL : Ledger s) {e : Event} (hsupported : Supported s e)
    (hallowed : Allowed s.events e) : Ledger (s.emit e) where
  unclaimed h := by
    obtain ⟨h1, h2, h3, h4, h5, h6, h7⟩ := hL.unclaimed h
    refine ⟨h1, h2, h3, h4, h5, fun producer cameraMask hmem => ?_, h7⟩
    rcases Core.mem_emit.mp hmem with hmem | rfl
    · exact h6 producer cameraMask hmem
    · exact absurd (h.symm.trans hsupported) (by simp)
  accepting := hL.accepting
  workers := hL.workers
  stoppedQueue := hL.stoppedQueue
  stop h := by
    rcases Core.mem_emit.mp h with h | rfl
    · exact ⟨(hL.stop h).1, fun f hf => ((hL.stop h).2 f hf).emit_closed e hf⟩
    · exact ⟨hsupported.1, fun f hf => (hsupported.2 f hf).emit_closed _ hf⟩
  stopReturned h := by
    rcases Core.mem_emit.mp h with h | rfl
    · exact List.mem_append_left _ (hL.stopReturned h)
    · exact List.mem_append_left _ hsupported
  complete h := ⟨List.mem_append_left _ (hL.complete h).1, (hL.complete h).2⟩
  returned h := by
    rcases Core.mem_emit.mp h with h | rfl
    · exact hL.returned h
    · exact hsupported rfl rfl
  startReturned r h := by
    rcases Core.mem_emit.mp h with h | rfl
    · exact hL.startReturned r h
    · exact hsupported.1
  startFailed h := by
    rcases Core.mem_emit.mp h with h | rfl
    · exact ⟨(hL.startFailed h).1, (hL.startFailed h).2.emit e⟩
    · exact ⟨(hsupported.2 rfl).1, (hsupported.2 rfl).2.emit _⟩
  handled h := by
    have hall : s.admissionOpened = true ∧ ∀ op ∈ failureOps, op.Done s := by
      rcases h with h | ⟨c, h⟩
      · rcases Core.mem_emit.mp h with h | rfl
        · exact hL.handled (.inl h)
        · exact hsupported
      · rcases Core.mem_emit.mp h with h | rfl
        · exact hL.handled (.inr ⟨c, h⟩)
        · exact hsupported
    exact ⟨hall.1, fun op hop => (hall.2 op hop).emit e⟩
  spawned c h := by
    rcases Core.mem_emit.mp h with h | rfl
    · exact hL.spawned c h
    · exact hsupported rfl
  joined c h := List.mem_append_left _ (hL.joined c h)
  failed := hL.failed
  ordered := hL.ordered.append_singleton hallowed

theorem Holds.setWorker (status : WorkerStatus) :
    Survive [.noWorker c, .joined c] s (s.setWorker c status) := by
  intro f hf hlost
  cases f with
  | done op => cases op <;> exact hf
  | noWorker c' =>
    have hc : c' ≠ c := by
      rintro rfl
      simp at hlost
    exact (s.setWorker_of_ne status hc).trans hf
  | joined c' =>
    have hc : c' ≠ c := by
      rintro rfl
      simp at hlost
    have hw := s.setWorker_of_ne status hc
    exact hf.imp hw.trans hw.trans
  | _ => exact hf

theorem Ledger.setWorker (hL : Ledger s) {status : WorkerStatus}
    (hopened : s.admissionOpened = true) (hnone : status ≠ .none)
    (hstop : .stop ∈ s.events → status = .joined)
    (hjoin : status = .joined → .joinWorker c true ∈ s.events) : Ledger (s.setWorker c status) :=
  { hL with
    unclaimed := fun h => absurd hopened (by simp [(hL.unclaimed h).1])
    workers := fun _ _ => hopened
    stop := fun h => by
      refine ⟨(hL.stop h).1, fun f hf => ?_⟩
      by_cases hc : f = .joined c
      · rw [hc, hstop h]
        exact .inr (s.setWorker_self c .joined)
      · refine Holds.setWorker status f ((hL.stop h).2 f hf) ?_
        have : f ≠ .noWorker c := by
          rintro rfl
          simp [closed] at hf
        simp [hc, this]
    handled := fun h => ⟨hopened, fun op hop =>
      Holds.setWorker status (.done op) ((hL.handled h).2 op hop) (by simp)⟩
    spawned := fun c' h => by
      by_cases hc : c' = c
      · rwa [hc, s.setWorker_self]
      · rw [s.setWorker_of_ne _ hc]
        exact hL.spawned c' h
    joined := fun c' h => by
      by_cases hc : c' = c
      · rw [hc, s.setWorker_self] at h
        exact hc ▸ hjoin h
      · rw [s.setWorker_of_ne _ hc] at h
        exact hL.joined c' h }

theorem Holds.finishWorker (hrunning : s.workers c = .running) :
    Survive [] s (s.setWorker c .finished) := by
  intro f hf _
  refine Holds.setWorker .finished f hf ?_
  simp only [List.mem_cons, List.not_mem_nil, or_false]
  rintro (rfl | rfl)
  · exact absurd (hrunning.symm.trans hf) (by simp)
  · rcases hf with hf | hf <;> exact absurd (hrunning.symm.trans hf) (by simp)

theorem Ledger.finishWorker (hL : Ledger s) (hrunning : s.workers c = .running) :
    Ledger (s.setWorker c .finished) := by
  refine hL.setWorker (hL.workers c (by simp [hrunning])) (by simp) (fun h => ?_) (by simp)
  -- `sc132_stop` is called when every worker is joined
  have hjoined : Joined s c := (hL.stop h).2 (.joined c) (by simp [closed, cameras])
  rcases hjoined with hw | hw <;> exact absurd (hrunning.symm.trans hw) (by simp)

end Parts

/-! ### Common code -/

def Core.closeQueue (s : Core D) (c : CameraId) : Core D :=
  (CommonOp.exec false s (.closeQueue c)).1

theorem closeQueue_some {c c' : CameraId} {x : FrameQueue}
    (h : (s.closeQueue c).queues c' = some x) : ∃ y, s.queues c' = some y ∧ x.queue = y.queue ∧
      (y.stopped = true ∨ c' = c ↔ x.stopped = true) := by
  change Function.update s.queues c ((s.queues c).map FrameQueue.closeAdmission) c' = some x at h
  by_cases hc : c' = c
  · rw [hc, Function.update_self] at h
    obtain ⟨y, hy, rfl⟩ := Option.map_eq_some_iff.mp h
    exact ⟨y, hc ▸ hy, rfl, by simp [hc, FrameQueue.closeAdmission]⟩
  · rw [Function.update_of_ne hc] at h
    exact ⟨x, h, rfl, by simp [hc]⟩

theorem Holds.closeQueue (c : CameraId) : Survive [] s (s.closeQueue c) := by
  intro f hf _
  cases f with
  | done op =>
    cases op with
    | closeQueue c' =>
      intro x hx
      obtain ⟨y, hy, -, hstopped⟩ := closeQueue_some hx
      exact hstopped.mp (.inl (hf y hy))
    | _ => exact hf
  | emptied c' =>
    intro x hx
    obtain ⟨y, hy, hqueue, hstopped⟩ := closeQueue_some hx
    obtain ⟨hy1, hy2⟩ := hf y hy
    exact ⟨hstopped.mp (.inl hy1), hqueue.trans hy2⟩
  | noQueue c' =>
    rcases hx : (s.closeQueue c).queues c' with _ | x
    · exact hx
    · obtain ⟨y, hy, -⟩ := closeQueue_some hx
      exact absurd (hy.symm.trans hf) (by simp)
  | _ => exact hf

theorem done_closeQueue (c : CameraId) : (CommonOp.closeQueue c).Done (s.closeQueue c) := by
  intro x hx
  obtain ⟨y, -, -, hstopped⟩ := closeQueue_some hx
  exact hstopped.mp (.inr rfl)

/-- What an instruction of common code leaves of the facts, and adds to them. -/
theorem common_holds (spurious : Bool) (op : CommonOp) :
    Survive (commonContract op).loses s (op.exec spurious s).1 ∧
      ∀ f ∈ (commonContract op).gives, Holds (op.exec spurious s).1 f := by
  cases op with
  | requestStop => exact ⟨Holds.emit _ (by simp), by simp⟩
  | closeQueue c =>
    refine ⟨Holds.closeQueue c, fun f hf => ?_⟩
    obtain rfl : f = .done (.closeQueue c) := by simpa using hf
    exact done_closeQueue c
  -- the counters and the number of notices are in no fact
  | access | callNotifier =>
    refine ⟨fun f hf _ => ?_, by simp⟩
    cases f with
    | done op => cases op <;> exact hf
    | _ => exact hf
  | storeAccepting =>
    refine ⟨fun f hf hlost => ?_, by simp [CommonOp.exec, Holds, CommonOp.Done]⟩
    cases f with
    | done op => cases op <;> first | exact hf | rfl
    | virgin => simp at hlost
    | _ => exact hf
  -- each sets one flag, and never clears it
  | exchangeClosed | exchangeStop | exchangeFailed =>
    refine ⟨fun f hf _ => ?_, by simp [CommonOp.exec, Holds, CommonOp.Done]⟩
    cases f with
    | done op => cases op <;> first | exact hf | rfl
    | recorded => first | exact hf | exact fun _ _ _ => rfl
    | _ => exact hf

theorem kept_closed (op : CommonOp) {f : Fact} (hf : f ∈ closed) :
    f ∉ (commonContract op).loses := by
  have hvirgin : f ≠ .virgin := by
    rintro rfl
    simp [closed] at hf
  cases op <;> simp [hvirgin]

theorem common_ledger (hL : Ledger s) (spurious : Bool) (op : CommonOp)
    (hneeds : ∀ f ∈ (commonContract op).needs, Holds s f) : Ledger (op.exec spurious s).1 := by
  have hholds := (common_holds (s := s) spurious op).1
  have hstop : .stop ∈ s.events → s.startClaimed = true ∧
      ∀ f ∈ closed, Holds (op.exec spurious s).1 f := fun h =>
    ⟨(hL.stop h).1, fun f hf => hholds f ((hL.stop h).2 f hf) (kept_closed op hf)⟩
  have hhandled : (.callbackFailed ∈ s.events ∨ ∃ c, .workerFailed c ∈ s.events) →
      s.admissionOpened = true ∧ ∀ o ∈ failureOps, o.Done (op.exec spurious s).1 := fun h =>
    ⟨(hL.handled h).1, fun o ho => hholds (.done o) ((hL.handled h).2 o ho) (by
      cases op <;> simp)⟩
  cases op with
  | requestStop => exact hL.emit trivial trivial
  | access | callNotifier | exchangeClosed =>
    exact { hL with stop := hstop, handled := hhandled }
  | storeAccepting =>
    have hclaimed : s.startClaimed = true := hneeds .claimed (by simp)
    exact { hL with
      unclaimed := fun h => absurd (h.symm.trans hclaimed) (by simp)
      accepting := nofun
      stop := hstop, handled := hhandled }
  | exchangeStop =>
    have hclaimed : s.startClaimed = true := hneeds .claimed (by simp)
    exact { hL with
      unclaimed := fun h => absurd (h.symm.trans hclaimed) (by simp)
      stoppedQueue := fun _ _ _ _ => rfl
      stop := hstop, handled := hhandled }
  | exchangeFailed =>
    exact { hL with
      failed := fun _ => hneeds .blamed (by simp)
      stop := hstop, handled := hhandled }
  | closeQueue c =>
    have hrequested : s.stopRequested = true := hneeds (.done .exchangeStop) (by simp)
    exact { hL with
      unclaimed := fun h => absurd hrequested (by simp [(hL.unclaimed h).2.2.1])
      stoppedQueue := fun _ _ _ _ => hrequested
      stop := hstop, handled := hhandled }

end RoboBaton.Camera
