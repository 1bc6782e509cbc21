import RoboBaton.Camera.Plan

/-! What the core asks of libsc132, and which threads it starts: in one run all of this has the
values of one configuration, the one of the first `Start`. -/

namespace RoboBaton.Camera
open Trace Discipline Transition
variable {D : Type} {s s' : Core D}

def Event.isRequest : Event → Bool
  | .setFps .. | .setOutputRotation .. | .spawnWorker .. | .startFrameSet .. => true
  | .requestStop | .stop => true
  | _ => false

def Event.Of (config : CameraCoreConfig) : Event → Prop
  | .setFps fps _ => fps = config.fps
  | .setOutputRotation rotation _ => rotation = config.rotation
  | .spawnWorker c _ => config.cameraEnabled c = true
  | .startFrameSet producer cameraMask =>
    producer = config.producer ∧ cameraMask = config.cameraMask
  | _ => True

def Asked (s : Core D) : Prop :=
  ∀ e ∈ s.events, e.isRequest = true → s.startClaimed = true ∧ e.Of s.config

theorem Asked.emit (h : Asked s) {e : Event}
    (he : e.isRequest = true → s.startClaimed = true ∧ e.Of s.config) : Asked (s.emit e) := by
  intro e' hmem hrequest
  rcases Core.mem_emit.mp hmem with hmem | rfl
  · exact h e' hmem hrequest
  · exact he hrequest

theorem Asked.of_eq (h : Asked s) (hevents : s'.events = s.events)
    (hclaimed : s'.startClaimed = s.startClaimed) (hconfig : s'.config = s.config) :
    Asked s' := by
  intro e hmem hrequest
  rw [hevents] at hmem
  rw [hclaimed, hconfig]
  exact h e hmem hrequest

theorem requested_common (h : Asked s) (spurious : Bool) {op : CommonOp}
    (hclaimed : Fact.claimed ∈ (commonContract op).needs → s.startClaimed = true) :
    Asked (op.exec spurious s).1 := by
  cases op with
  | requestStop => exact h.emit fun _ => ⟨hclaimed (by simp), trivial⟩
  | _ => exact h.of_eq rfl rfl rfl

theorem claimed_pending {ends : List Fact} {op : CommonOp} {ops : List CommonOp}
    (hS : (commonRules ends).Safe (Known s) (op :: ops))
    (h : Fact.claimed ∈ (commonContract op).needs) : s.startClaimed = true :=
  (hS.1 .claimed h).2

theorem callback_asked [DecidableEq D] {d : D} {l l' : Code CallbackPc} (h : Asked s)
    (hok : CallbackOk s d l) (hst : CallbackStep d s l s' l') : Asked s' := by
  cases hst with
  | common spurious op => exact requested_common h spurious (claimed_pending hok.safe)
  | leave failed =>
    cases failed with
    | false => exact h.of_eq rfl rfl rfl
    | true =>
      have hemit := h.emit (e := .callbackFailed) (fun hrequest => by cases hrequest)
      exact hemit.of_eq rfl rfl rfl
  | _ => exact h.of_eq rfl rfl rfl

theorem worker_asked {cameraInfo : Bool} {c : CameraId} {l l' : Code WorkerPc} (h : Asked s)
    (hok : WorkerOk s c l) (hst : WorkerStep cameraInfo c s l s' l') : Asked s' := by
  cases hst with
  | common spurious op => exact requested_common h spurious (claimed_pending hok.safe)
  | finish failed =>
    cases failed with
    | false => exact h.of_eq rfl rfl rfl
    | true =>
      have hemit := h.emit (e := .workerFailed c) (fun hrequest => by cases hrequest)
      exact hemit.of_eq rfl rfl rfl
  | _ => exact h.of_eq rfl rfl rfl

theorem owner_asked [Fintype D] {op : OwnerOp} {rest : List OwnerOp}
    {detached : List RetainedFrameJob} {l : OwnerLocal} (h : Asked s)
    (hS : rules.Safe (Holds s) (op :: rest)) (hst : OwnerStep s detached rest op s' l) :
    Asked s' := by
  have hclaimed : Fact.claimed ∈ (rules.contract op).needs → s.startClaimed = true := fun hf =>
    hS.1 .claimed hf
  cases hst with
  | common op => exact requested_common h false hclaimed
  | claim config sink notifier hclaim =>
    intro e hmem hrequest
    have := (h e hmem hrequest).1
    rw [hclaim] at this
    cases this
  | setFps => exact h.emit fun _ => ⟨hclaimed (by simp), rfl⟩
  | fpsRefused code =>
    have hemit := h.emit (e := .setFps s.config.fps code) fun _ => ⟨hclaimed (by simp), rfl⟩
    exact hemit.of_eq rfl rfl rfl
  | setOutputRotation => exact h.emit fun _ => ⟨hclaimed (by simp), rfl⟩
  | rotationRefused code =>
    have hemit := h.emit (e := .setOutputRotation s.config.rotation code)
      fun _ => ⟨hclaimed (by simp), rfl⟩
    exact hemit.of_eq rfl rfl rfl
  | spawnWorker c henabled =>
    have hemit := h.emit (e := .spawnWorker c true) fun _ => ⟨hclaimed (by simp), henabled⟩
    exact hemit.of_eq rfl rfl rfl
  | throwSpawn c henabled =>
    have hemit := h.emit (e := .spawnWorker c false) fun _ => ⟨hclaimed (by simp), henabled⟩
    exact hemit.of_eq rfl rfl rfl
  | startFrameSet =>
    have hemit := h.emit (e := .startFrameSet s.config.producer s.config.cameraMask)
      fun _ => ⟨hclaimed (by simp), rfl, rfl⟩
    exact hemit.of_eq rfl rfl rfl
  | joinWorker site c =>
    have hemit := h.emit (e := .joinWorker c true) (fun hrequest => by cases hrequest)
    exact hemit.of_eq rfl rfl rfl
  | throwJoin site c =>
    have hemit := h.emit (e := .joinWorker c false) (fun hrequest => by cases hrequest)
    exact hemit.of_eq rfl rfl rfl
  | stop => exact h.emit fun _ => ⟨hclaimed (by simp), trivial⟩
  | stopReturn | returnStart | returnCleanup => exact h.emit (fun hrequest => by cases hrequest)
  | _ => exact h.of_eq rfl rfl rfl

variable [Fintype D] [DecidableEq D] {cameraInfo : Bool}

theorem reachable_asked {s : State D} (h : (threads D cameraInfo).Reachable s) :
    Asked s.shared := by
  refine Threads.Reachable.sharedInvariant (T := threads D cameraInfo) (I := Asked) ?_ ?_ h
  · intro e hmem
    cases hmem
  · intro s i a s' l' hs hR hst
    have hthreads := (reachable_core hs).2
    cases i with
    | owner =>
      rcases ownerStep_cases hst with ⟨rfl, -⟩ | ⟨op, rest, hops, hexec⟩
      · exact hR
      · have hsafe := (hthreads .owner : OwnerOk s.shared (s.locals .owner)).safe
        rw [hops] at hsafe
        exact owner_asked hR hsafe (exec_step hexec)
    | dispatcher d =>
      exact callback_asked hR (hthreads (.dispatcher d)) (frameSetTrampoline_step hst)
    | worker c => exact worker_asked hR (hthreads (.worker c)) (workerLoop_step hst).2

structure Follows (config : CameraCoreConfig) (s : Core D) : Prop where
  fixed : s.startClaimed = true → s.config = config
  requests : ∀ e ∈ s.events, e.isRequest = true → e.Of config
  queues : ∀ c q, s.queues c = some q → QueueOk config c q
  threads : ∀ c, s.workers c ≠ .none → config.cameraEnabled c = true

/-- A run keeps to the configuration that its first `Start` has fixed. -/
theorem reachable_follows {s : State D} (h : (threads D cameraInfo).Reachable s)
    {config : CameraCoreConfig} (hfixed : s.shared.startClaimed = true → s.shared.config = config) :
    Follows config s.shared := by
  obtain ⟨hL, -⟩ := reachable_core h
  have hA := reachable_asked h
  -- a queue or a worker shows that the configuration is fixed
  have hclaimed : (∃ c, s.shared.queues c ≠ none ∨ s.shared.workers c ≠ .none) →
      s.shared.config = config := by
    rintro ⟨c, hc⟩
    apply hfixed
    by_contra hne
    obtain ⟨-, -, -, hqueues, hworkers, -⟩ := hL.unclaimed (Bool.eq_false_of_not_eq_true hne)
    rcases hc with hc | hc
    · exact hc (hqueues c)
    · exact hc (hworkers c)
  refine ⟨hfixed, fun e he hrequest => ?_, fun c q hq => ?_, fun c hc => ?_⟩
  · obtain ⟨hfirst, hof⟩ := hA e he hrequest
    rw [← hfixed hfirst]
    exact hof
  · rw [← hclaimed ⟨c, .inl (by simp [hq])⟩]
    exact (reachable_routed h).1 c q hq
  · rw [← hclaimed ⟨c, .inr hc⟩]
    exact (reachable_planned h).1.manned c hc

/-! ### The configurations of the calls -/

structure Fixed (C : CameraCoreConfig → Prop) (s : State D) : Prop where
  entry : ∀ config sink notifier,
    .startGuard config sink notifier ∈ (s.locals .owner : OwnerLocal).ops → C config
  claimed : s.shared.startClaimed = true → C s.shared.config

def Calls (C : CameraCoreConfig → Prop) (e : Σ i : Thread D, Act i) : Prop :=
  ∀ config sink notifier, e = ⟨.owner, (.start config sink notifier : OwnerAct)⟩ → C config

omit [Fintype D] [DecidableEq D] in
theorem claim_common (spurious : Bool) (s : Core D) (op : CommonOp) :
    (op.exec spurious s).1.startClaimed = s.startClaimed ∧ (op.exec spurious s).1.config = s.config := by
  cases op <;> exact ⟨rfl, rfl⟩

theorem others_claim {i : Thread D} (hi : i ≠ .owner) {a : Act i} {l l' : Local i}
    (h : (threads D cameraInfo).step i a s l = some (s', l')) :
    s'.startClaimed = s.startClaimed ∧ s'.config = s.config := by
  cases i with
  | owner => exact absurd rfl hi
  | dispatcher d =>
    cases frameSetTrampoline_step h with
    | common spurious op => exact claim_common spurious s op
    | leave failed => cases failed <;> exact ⟨rfl, rfl⟩
    | _ => exact ⟨rfl, rfl⟩
  | worker c =>
    cases (workerLoop_step h).2 with
    | common spurious op => exact claim_common spurious s op
    | finish failed => cases failed <;> exact ⟨rfl, rfl⟩
    | _ => exact ⟨rfl, rfl⟩

omit [DecidableEq D] in
theorem exec_fixed {C : CameraCoreConfig → Prop} {op : OwnerOp} {rest : List OwnerOp} {a : OwnerAct}
    {detached : List RetainedFrameJob} {l : OwnerLocal}
    (hentry : ∀ config sink notifier, .startGuard config sink notifier ∈ op :: rest → C config)
    (hclaimed : s.startClaimed = true → C s.config)
    (h : op.exec s detached rest a = some (s', l)) :
    (∀ config sink notifier, .startGuard config sink notifier ∈ l.ops → C config) ∧
      (s'.startClaimed = true → C s'.config) := by
  constructor
  · intro config sink notifier hmem
    rcases exec_ops h with ⟨o, -, -, hl⟩ | ⟨-, hl | hl | hl⟩
    · rw [hl] at hmem
      obtain hmem | hmem := List.mem_append.mp hmem
      · simp at hmem
      · exact hentry config sink notifier (List.mem_cons_of_mem _ hmem)
    · exact hentry config sink notifier (List.mem_cons_of_mem _ (hl ▸ hmem))
    · exact hentry config sink notifier (hl ▸ hmem)
    · have hno := programs_entry _ hl _ hmem
      cases hno
  · have heffect := exec_effect h
    generalize l.detached = detached' at heffect
    cases heffect with
    | quiet _ _ hq =>
      rw [hq.startClaimed, hq.config]
      exact hclaimed
    | common o =>
      rw [(claim_common false s o).1, (claim_common false s o).2]
      exact hclaimed
    | claim config sink notifier => exact fun _ => hentry config sink notifier List.mem_cons_self
    | _ => exact hclaimed

theorem next_fixed {C : CameraCoreConfig → Prop} {s t : State D} {e : Σ i : Thread D, Act i}
    (hF : Fixed C s) (hcalls : Calls C e) (h : (threads D cameraInfo).next e s = some t) :
    Fixed C t := by
  obtain ⟨i, a⟩ := e
  obtain ⟨s', l', hst, rfl⟩ := Threads.next_eq_some h
  by_cases hi : i = .owner
  · subst hi
    have hlocal : Function.update s.locals .owner l' .owner = l' := Function.update_self ..
    suffices hsuff : (∀ config sink notifier,
        .startGuard config sink notifier ∈ (l' : OwnerLocal).ops → C config) ∧
          (s'.startClaimed = true → C s'.config) by
      exact ⟨hlocal.symm ▸ hsuff.1, hsuff.2⟩
    have hentry := hF.entry
    change ownerStep a s.shared (s.locals .owner) = some (s', l') at hst
    generalize hl : (s.locals .owner : OwnerLocal) = l at hst hentry
    obtain ⟨_ | ⟨op, rest⟩, detached⟩ := l
    · cases (a : OwnerAct) with
      | start config sink notifier =>
        cases hst
        refine ⟨fun config' sink' notifier' hmem => ?_, hF.claimed⟩
        cases List.mem_singleton.mp hmem
        exact hcalls config sink notifier rfl
      | cleanup =>
        cases hst
        exact ⟨by simp, hF.claimed⟩
      | step => cases hst
      | status code => cases hst
      | throws => cases hst
    · exact exec_fixed hentry hF.claimed hst
  · have hlocal : Function.update s.locals i l' .owner = s.locals .owner :=
      Function.update_of_ne (Ne.symm hi) ..
    obtain ⟨hclaimed, hconfig⟩ := others_claim hi hst
    refine ⟨?_, ?_⟩
    · show ∀ config sink notifier,
        .startGuard config sink notifier ∈ (Function.update s.locals i l' .owner : OwnerLocal).ops → _
      rw [hlocal]
      exact hF.entry
    · show s'.startClaimed = true → C s'.config
      rw [hclaimed, hconfig]
      exact hF.claimed

end RoboBaton.Camera
