import RoboBaton.Camera.Contract

/-! What becomes of a failure of the camera core: what `Start` and `Cleanup` answer after it, and
what `failed_` tells once nothing runs any more. -/

namespace RoboBaton.Camera
open Trace Discipline Transition
variable {D : Type} {cameraInfo : Bool} {s s' : Core D}

/-! ### The answers of `Start` and `Cleanup` -/

/-- What the call is going to answer as things are, if it is a `Start`. -/
def course : List OwnerOp → Option StartResult
  | [] => none
  | .startGuard .. :: _ => none
  | .validateConfig :: _ => some .started
  | .cleanupGuard site :: _ => if site = .start then some .failed else none
  | .returnStart result :: _ => some result
  | .returnCleanup _ :: _ => none
  | _ :: ops => course ops

def OwnerOp.within : OwnerOp → Option (Option StartResult)
  | .validateConfig => some (some .started)
  | .makeQueue _ => some (some .started)
  | .setFps => some (some .started)
  | .setOutputRotation => some (some .started)
  | .spawnWorker _ => some (some .started)
  | .startFrameSetReturn => some (some .started)
  | .joinWorker .start _ => some (some .failed)
  | .joinWorker .cleanup _ => some none
  | _ => none

/-- Only one `Start` is not rejected, and its answer tells whether it failed. -/
structure AnswerOk (s : Core D) (ops : List OwnerOp) : Prop where
  within : ∀ op ∈ ops, ∀ r, op.within = some r → course ops = r
  first : ∀ r, course ops = some r → r ≠ .rejected →
    ∀ r', .returnStart r' ∈ s.events → r' = .rejected
  startFailed : .startFailed ∈ s.incidents →
    course ops = some .failed ∨ .returnStart .failed ∈ s.events
  once : .returnStart .failed ∈ s.events → .returnStart .started ∉ s.events
  joinFailed : .returnCleanup false ∈ ops ∨ (∃ claimed, .returnCleanup claimed false ∈ s.events) →
    .joinFailed ∈ s.incidents

structure Unanswered (s s' : Core D) : Prop where
  starts : ∀ r, .returnStart r ∈ s'.events ↔ .returnStart r ∈ s.events
  cleanups : ∀ claimed r, .returnCleanup claimed r ∈ s'.events ↔ .returnCleanup claimed r ∈ s.events
  startFailed : .startFailed ∈ s'.incidents ↔ .startFailed ∈ s.incidents
  joinFailed : .joinFailed ∈ s'.incidents ↔ .joinFailed ∈ s.incidents

theorem unanswered_of_eq (hevents : s'.events = s.events) (hincidents : s'.incidents = s.incidents) :
    Unanswered s s' := by
  constructor <;> simp [hevents, hincidents]

namespace AnswerOk
variable {op : OwnerOp} {ops rest : List OwnerOp}

theorem congr (h : AnswerOk s ops) (hs : Unanswered s s') : AnswerOk s' ops := by
  constructor
  case within => exact h.within
  case first => simpa only [hs.starts] using h.first
  case startFailed => simpa only [hs.starts, hs.startFailed] using h.startFailed
  case once => simpa only [hs.starts] using h.once
  case joinFailed => simpa only [hs.cleanups, hs.joinFailed] using h.joinFailed

theorem goto (h : AnswerOk s ops) {ops' : List OwnerOp} (hcourse : course ops' = course ops)
    (hwithin : ∀ op ∈ ops', ∀ r, op.within = some r → op ∈ ops ∨ course ops' = r)
    (hcleanup : .returnCleanup false ∈ ops' → .returnCleanup false ∈ ops) : AnswerOk s ops' where
  within op hop r hr := by
    rcases hwithin op hop r hr with hmem | hstarted
    · exact hcourse.trans (h.within op hmem r hr)
    · exact hstarted
  first := by
    rw [hcourse]
    exact h.first
  startFailed := by
    rw [hcourse]
    exact h.startFailed
  once := h.once
  joinFailed hmem := h.joinFailed (hmem.imp_left hcleanup)

theorem tail (h : AnswerOk s (op :: rest)) (hcourse : course rest = course (op :: rest)) :
    AnswerOk s rest :=
  h.goto hcourse (fun _ hop _ _ => .inl (List.mem_cons_of_mem _ hop)) (List.mem_cons_of_mem _)

theorem jump (h : AnswerOk s ops) {ops' : List OwnerOp} (hcourse : course ops' = course ops)
    (hwithin : ∀ op ∈ ops', ∀ r, op.within = some r → course ops' = r)
    (hcleanup : .returnCleanup false ∉ ops') : AnswerOk s ops' :=
  h.goto hcourse (fun op hop r hr => .inr (hwithin op hop r hr)) fun hmem => absurd hmem hcleanup

theorem fail (h : AnswerOk s (op :: rest)) (hop : op.within = some (some .started)) :
    AnswerOk (s.incident .startFailed) startFailure := by
  have hstarted := h.within op List.mem_cons_self _ hop
  constructor
  case within => simp [startFailure, recordFailure, OwnerOp.within]
  case first => exact fun _ _ _ r' hr' => h.first _ hstarted (by decide) r' hr'
  case startFailed => exact fun _ => .inl rfl
  case once => exact h.once
  case joinFailed =>
    intro hmem
    refine List.mem_append_left _ (h.joinFailed (.inr ?_))
    exact hmem.resolve_left (by simp [startFailure, recordFailure])

end AnswerOk

theorem unanswered_emit (s : Core D) {e : Event} (hstart : ∀ r, e ≠ .returnStart r)
    (hcleanup : ∀ claimed r, e ≠ .returnCleanup claimed r) : Unanswered s (s.emit e) := by
  constructor
  case starts =>
    intro r
    simp [Core.emit, (hstart r).symm]
  case cleanups =>
    intro claimed r
    simp [Core.emit, (hcleanup claimed r).symm]
  case startFailed => exact Iff.rfl
  case joinFailed => exact Iff.rfl

theorem unanswered_common (spurious : Bool) (s : Core D) (op : CommonOp) :
    Unanswered s (op.exec spurious s).1 := by
  cases op with
  | requestStop => exact unanswered_emit s (by simp) (by simp)
  | _ => exact unanswered_of_eq rfl rfl

theorem course_common (ops : List CommonOp) (rest : List OwnerOp) :
    course (ops.map .common ++ rest) = course rest := by
  induction ops with
  | nil => rfl
  | cons op ops ih => exact ih

theorem unanswered_incident (s : Core D) {i : Incident D} (hstart : i ≠ .startFailed)
    (hjoin : i ≠ .joinFailed) : Unanswered s (s.incident i) := by
  constructor
  case starts => exact fun _ => Iff.rfl
  case cleanups => exact fun _ _ => Iff.rfl
  case startFailed => simp [Core.incident, hstart.symm]
  case joinFailed => simp [Core.incident, hjoin.symm]

section Exec
variable {op : OwnerOp} {rest : List OwnerOp}

theorem answer_common {op : CommonOp} (h : AnswerOk s (.common op :: rest)) (spurious : Bool) :
    AnswerOk (op.exec spurious s).1 ((op.exec spurious s).2.map .common ++ rest) := by
  refine AnswerOk.congr ?_ (unanswered_common spurious s op)
  refine h.goto (course_common _ rest) (fun o ho r hr => ?_) fun hmem => ?_
  · rcases List.mem_append.mp ho with ho | ho
    · obtain ⟨o', -, rfl⟩ := List.mem_map.mp ho
      cases hr
    · exact .inl (List.mem_cons_of_mem _ ho)
  · rcases List.mem_append.mp hmem with hmem | hmem
    · obtain ⟨o', -, ho'⟩ := List.mem_map.mp hmem
      cases ho'
    · exact List.mem_cons_of_mem _ hmem

theorem answer_claim {config : CameraCoreConfig} {sink notifier : Bool} (hL : Ledger s)
    (hunclaimed : s.startClaimed = false) (h : AnswerOk s (.startGuard config sink notifier :: rest)) :
    AnswerOk { s with startClaimed := true, config := config, sink := sink, notifier := notifier }
      [.validateConfig] := by
  have hnone : ∀ r, .returnStart r ∉ s.events := fun r hr =>
    absurd (hunclaimed.symm.trans (hL.startReturned r hr)) (by decide)
  have hfresh : .startFailed ∉ s.incidents := fun hmem =>
    (h.startFailed hmem).elim (fun hc => by cases hc) (hnone _)
  refine ⟨by simp [OwnerOp.within, course], fun _ _ _ r' hr' => absurd hr' (hnone r'),
    fun hmem => absurd hmem hfresh, h.once, fun hmem => ?_⟩
  exact h.joinFailed (.inr (hmem.resolve_left (by simp)))

theorem answer_returnStart {result : StartResult} (h : AnswerOk s (.returnStart result :: rest)) :
    AnswerOk (s.emit (.returnStart result)) [] := by
  constructor
  case within => exact fun _ ho => by cases ho
  case first => exact fun _ hr => by cases hr
  case startFailed =>
    intro hmem
    rcases h.startFailed hmem with hc | hmem
    · cases hc
      exact .inr (by simp [Core.emit])
    · exact .inr (List.mem_append_left _ hmem)
  case once =>
    intro hmem
    simp only [Core.emit, List.mem_append, List.mem_singleton, Event.returnStart.injEq] at hmem ⊢
    rintro (hstarted | rfl)
    · rcases hmem with hmem | rfl
      · exact h.once hmem hstarted
      · exact absurd (h.first _ rfl (by decide) _ hstarted) (by decide)
    · rcases hmem with hmem | hmem
      · exact absurd (h.first _ rfl (by decide) _ hmem) (by decide)
      · cases hmem
  case joinFailed =>
    rintro (hmem | ⟨claimed, hmem⟩)
    · cases hmem
    · exact h.joinFailed (.inr ⟨claimed, by simpa [Core.emit] using hmem⟩)

theorem answer_returnCleanup {result : Bool} (h : AnswerOk s (.returnCleanup result :: rest)) :
    AnswerOk (s.emit (.returnCleanup s.startClaimed result)) [] := by
  constructor
  case within => exact fun _ ho => by cases ho
  case first => exact fun _ hr => by cases hr
  case startFailed =>
    intro hmem
    rcases h.startFailed hmem with hc | hmem
    · cases hc
    · exact .inr (List.mem_append_left _ hmem)
  case once =>
    intro hmem
    simp only [Core.emit, List.mem_append, List.mem_singleton, reduceCtorEq, or_false] at hmem ⊢
    exact h.once hmem
  case joinFailed =>
    rintro (hmem | ⟨claimed, hmem⟩)
    · cases hmem
    · rcases Core.mem_emit.mp hmem with hmem | heq
      · exact h.joinFailed (.inr ⟨claimed, hmem⟩)
      · cases heq
        exact h.joinFailed (.inl List.mem_cons_self)

theorem AnswerOk.program {ops ops' : List OwnerOp} (h : AnswerOk s ops)
    (hops : course ops' = course ops ∧
      (ops'.all fun op => op.within.all fun r => decide (course ops' = r)) = true ∧
      .returnCleanup false ∉ ops') : AnswerOk s ops' := by
  obtain ⟨hcourse, hwithin, hcleanup⟩ := hops
  refine h.jump hcourse (fun op hop r hr => ?_) hcleanup
  have hop' := List.all_eq_true.mp hwithin op hop
  simpa [hr] using hop'

theorem answer_cleanupGuard {site : CleanupSite} (h : AnswerOk s (.cleanupGuard site :: rest)) :
    AnswerOk s (cleanupBody site) ∧ AnswerOk s (returnFrom site true) := by
  cases site with
  | start => exact ⟨h.program ⟨rfl, by decide⟩, h.program ⟨rfl, by decide⟩⟩
  | cleanup => exact ⟨h.program ⟨rfl, by decide⟩, h.program ⟨rfl, by decide⟩⟩

theorem answer_rejected {config : CameraCoreConfig} {sink notifier : Bool}
    (h : AnswerOk s (.startGuard config sink notifier :: rest)) :
    AnswerOk s [.returnStart .rejected] := by
  refine ⟨by simp [OwnerOp.within], fun r hr hne => ?_, fun hmem => .inr ?_, h.once, fun hmem => ?_⟩
  · exact absurd (Option.some.inj hr).symm hne
  · exact (h.startFailed hmem).resolve_left (by simp [course])
  · exact h.joinFailed (.inr (hmem.resolve_left (by simp)))

theorem answer_joinFailure {site : CleanupSite} {c : CameraId}
    (h : AnswerOk s (.joinWorker site c :: rest)) :
    AnswerOk ((s.emit (.joinWorker c false)).incident .joinFailed) (joinFailure site) := by
  have hcourse : course (joinFailure site) = course (.joinWorker site c :: rest) := by
    cases site with
    | start => exact (h.within _ List.mem_cons_self _ rfl).symm
    | cleanup => exact (h.within _ List.mem_cons_self _ rfl).symm
  constructor
  case within =>
    cases site <;> simp [joinFailure, recordFailure, returnFrom, OwnerOp.within]
  case first =>
    rw [hcourse]
    intro r hr hne r' hr'
    exact h.first r hr hne r' (by simpa [Core.emit, Core.incident] using hr')
  case startFailed =>
    rw [hcourse]
    intro hmem
    refine (h.startFailed (by simpa [Core.emit, Core.incident] using hmem)).imp_right fun hr => ?_
    exact List.mem_append_left _ hr
  case once =>
    intro hmem hmem'
    exact h.once (by simpa [Core.emit, Core.incident] using hmem)
      (by simpa [Core.emit, Core.incident] using hmem')
  case joinFailed => exact fun _ => by simp [Core.incident]

theorem exec_answer [Fintype D] {a : OwnerAct} {l : OwnerLocal} {detached : List RetainedFrameJob}
    (hL : Ledger s) (hok : AnswerOk s (op :: rest))
    (h : op.exec s detached rest a = some (s', l)) : AnswerOk s' l.ops := by
  have hemit : ∀ {e : Event}, (∀ r, e ≠ .returnStart r) → (∀ claimed r, e ≠ .returnCleanup claimed r) →
      AnswerOk (s.emit e) (op :: rest) := fun hstart hcleanup =>
    hok.congr (unanswered_emit s hstart hcleanup)
  cases exec_step h with
  | common op => exact answer_common hok false
  | rejected => exact answer_rejected hok
  | claim config sink notifier hclaim => exact answer_claim hL hclaim hok
  | valid =>
    show AnswerOk s startBody
    exact hok.program ⟨rfl, by decide⟩
  | invalid | throwQueue | notStarted => exact hok.fail rfl
  | fpsRefused | rotationRefused | throwSpawn => exact (hemit (by simp) (by simp)).fail rfl
  | unclaimed site => exact (answer_cleanupGuard hok).2
  | cleaned site hclaim hcomplete =>
    rw [(hL.complete hcomplete).2]
    exact (answer_cleanupGuard hok).2
  | cleanup site => exact (answer_cleanupGuard hok).1
  | clearBatch => exact hok.congr (unanswered_of_eq rfl rfl)
  | throwJoin site c => exact answer_joinFailure hok
  | returnStart result => exact answer_returnStart hok
  | returnCleanup result => exact answer_returnCleanup hok
  -- the rest of the call follows
  | setFps | setOutputRotation | stop | stopReturn => exact (hemit (by simp) (by simp)).tail rfl
  | spawnWorker | joinWorker | startFrameSet =>
    exact ((hemit (by simp) (by simp)).tail rfl).congr (unanswered_of_eq rfl rfl)
  | makeQueue | openAdmission | setRunning | setTerminal | detachQueue | storeUnquiesced
  | finishCleanup | clearSink | clearNotifier =>
    exact (hok.tail rfl).congr (unanswered_of_eq rfl rfl)
  | _ => exact hok.tail rfl

end Exec

theorem callback_unanswered [DecidableEq D] {d : D} {l l' : Code CallbackPc}
    (h : CallbackStep d s l s' l') : Unanswered s s' := by
  cases h with
  | common spurious op => exact unanswered_common spurious s op
  | throwHeader set => exact unanswered_incident s (by simp) (by simp)
  | throwItem scan => exact unanswered_incident s (by simp) (by simp)
  | throwRetain scan c frame info => exact unanswered_incident s (by simp) (by simp)
  | throwPush scan c job q q' hq hp => exact unanswered_incident s (by simp) (by simp)
  | leave failed =>
    cases failed with
    | false => exact unanswered_of_eq rfl rfl
    | true =>
      have hemit := unanswered_emit s (e := .callbackFailed) (by simp) (by simp)
      exact ⟨hemit.starts, hemit.cleanups, hemit.startFailed, hemit.joinFailed⟩
  | _ => exact unanswered_of_eq rfl rfl

theorem worker_unanswered {c : CameraId} {l l' : Code WorkerPc}
    (h : WorkerStep cameraInfo c s l s' l') : Unanswered s s' := by
  cases h with
  | common spurious op => exact unanswered_common spurious s op
  | throwCall job => exact unanswered_incident s (by simp) (by simp)
  | throwImage job => exact unanswered_incident s (by simp) (by simp)
  | throwInfo job => exact unanswered_incident s (by simp) (by simp)
  | finish failed =>
    cases failed with
    | false => exact unanswered_of_eq rfl rfl
    | true =>
      have hemit := unanswered_emit s (e := .workerFailed c) (by simp) (by simp)
      exact ⟨hemit.starts, hemit.cleanups, hemit.startFailed, hemit.joinFailed⟩
  | _ => exact unanswered_of_eq rfl rfl

variable [Fintype D] [DecidableEq D]

theorem reachable_answer {s : State D} (h : (threads D cameraInfo).Reachable s) :
    AnswerOk s.shared (s.locals .owner : OwnerLocal).ops := by
  refine Threads.Reachable.focus (T := threads D cameraInfo) (i := .owner)
    (J := fun s (l : OwnerLocal) => AnswerOk s l.ops) ?_ ?_ ?_ h
  · constructor <;> simp [threads, Core.init, course]
  · intro s a s' l' hs hanswer hst
    obtain ⟨rfl, hops, -, hcall⟩ | ⟨op, rest, hops, he⟩ := ownerStep_cases hst
    · rw [hops] at hanswer
      rcases hcall with ⟨config, sink, notifier, hcall⟩ | hcall <;> rw [hcall]
      · exact hanswer.jump rfl (by simp [OwnerOp.within]) (by simp)
      · exact hanswer.program ⟨rfl, by decide⟩
    · rw [hops] at hanswer
      exact exec_answer (reachable_core hs).1 hanswer he
  · intro s j a s' l' hj _ hanswer hst
    refine AnswerOk.congr hanswer ?_
    cases j with
    | owner => exact absurd rfl hj
    | dispatcher d => exact callback_unanswered (frameSetTrampoline_step hst)
    | worker c => exact worker_unanswered (workerLoop_step hst).2

/-! ### The notifier -/

structure NoticeOk (s : Core D) (due : Prop) : Prop where
  called : 0 < s.notifications → s.failed = true
  pending : due → s.failed = true

section Notices
omit [Fintype D] [DecidableEq D]
variable {due due' : Prop}

theorem NoticeOk.other (h : NoticeOk s due) (hnotifications : s'.notifications = s.notifications)
    (hfailed : s'.failed = s.failed) (hdue : due' → due) : NoticeOk s' due' := by
  refine ⟨fun hcalled => ?_, fun hmem => hfailed.trans (h.pending (hdue hmem))⟩
  rw [hfailed]
  exact h.called (hnotifications ▸ hcalled)

theorem notice_common {op : CommonOp} {ops : List CommonOp}
    (h : NoticeOk s (.callNotifier ∈ op :: ops)) (spurious : Bool) :
    NoticeOk (op.exec spurious s).1 (.callNotifier ∈ (op.exec spurious s).2 ++ ops) := by
  have hrest : .callNotifier ∈ ops → s.failed = true := fun hmem =>
    h.pending (List.mem_cons_of_mem _ hmem)
  cases op with
  | callNotifier => exact ⟨fun _ => h.pending List.mem_cons_self, hrest⟩
  | exchangeFailed => exact ⟨fun _ => rfl, fun _ => rfl⟩
  | exchangeStop =>
    refine ⟨h.called, fun hmem => hrest ?_⟩
    simp only [CommonOp.exec] at hmem
    split at hmem <;> simpa using hmem
  | access c a => exact ⟨h.called, fun hmem => hrest (by simpa [CommonOp.exec] using hmem)⟩
  | _ => exact ⟨h.called, hrest⟩

theorem record_quiet (s : Core D) (c : CameraId) (as : List Metrics.Access) :
    .callNotifier ∉ record s c as := by
  unfold record
  split <;> simp

theorem recordJob_quiet (s : Core D) (job : RetainedFrameJob) (as : List Metrics.Access) :
    .callNotifier ∉ recordJob s job as := by
  unfold recordJob
  split
  · exact record_quiet _ _ _
  · simp

theorem callback_notice [DecidableEq D] {d : D} {l l' : Code CallbackPc}
    (h : NoticeOk s (.callNotifier ∈ l.pending))
    (hst : CallbackStep d s l s' l') : NoticeOk s' (.callNotifier ∈ l'.pending) := by
  cases hst with
  | common spurious op ops pc => exact notice_common h spurious
  | info scan c frame status info nowNs => exact h.other rfl rfl (absurd · (record_quiet _ _ _))
  | dropped scan c job => exact h.other rfl rfl (absurd · (record_quiet _ _ _))
  | leave failed => cases failed <;> exact h.other rfl rfl nofun
  | _ => exact h.other rfl rfl (absurd · (by first | decide | simp [Code.of]))

theorem worker_notice {c : CameraId} {l l' : Code WorkerPc}
    (h : NoticeOk s (.callNotifier ∈ l.pending))
    (hst : WorkerStep cameraInfo c s l s' l') : NoticeOk s' (.callNotifier ∈ l'.pending) := by
  cases hst with
  | common spurious op ops pc => exact notice_common h spurious
  | published job latencyNs => exact h.other rfl rfl (absurd · (recordJob_quiet _ _ _))
  | throwImage job => exact h.other rfl rfl (absurd · (recordJob_quiet _ _ _))
  | throwInfo job => exact h.other rfl rfl (absurd · (recordJob_quiet _ _ _))
  | publishedInfo job =>
    refine h.other rfl rfl fun hmem => absurd hmem ?_
    dsimp only
    split
    · exact recordJob_quiet _ _ _
    · simp
  | finish failed => cases failed <;> exact h.other rfl rfl nofun
  | _ => exact h.other rfl rfl (absurd · (by first | decide | simp [Code.of]))

theorem exec_notifications [Fintype D] {op : OwnerOp} {rest : List OwnerOp} {a : OwnerAct}
    {l : OwnerLocal} {detached : List RetainedFrameJob} (hop : ∀ o, op ≠ .common o)
    (h : op.exec s detached rest a = some (s', l)) :
    s'.notifications = s.notifications ∧ s'.failed = s.failed := by
  cases exec_step h with
  | common op => exact absurd rfl (hop op)
  | _ => exact ⟨rfl, rfl⟩

theorem owner_notice [Fintype D] {op : OwnerOp} {rest : List OwnerOp} {a : OwnerAct}
    {l : OwnerLocal} {detached : List RetainedFrameJob}
    (h : NoticeOk s (.common .callNotifier ∈ op :: rest))
    (hst : op.exec s detached rest a = some (s', l)) :
    NoticeOk s' (.common .callNotifier ∈ l.ops) := by
  obtain ⟨o, rfl, rfl, hops⟩ | ⟨hop, hops⟩ := exec_ops hst
  · have hone : NoticeOk s (.callNotifier ∈ [o]) :=
      h.other rfl rfl fun hmem => by simp [List.mem_singleton.mp hmem]
    have hinserted := notice_common hone false
    refine ⟨hinserted.called, fun hmem => ?_⟩
    rw [hops] at hmem
    rcases List.mem_append.mp hmem with hmem | hmem
    · exact hinserted.pending (by simpa using hmem)
    · exact (onward_common false s o).failed (h.pending (List.mem_cons_of_mem _ hmem))
  · obtain ⟨hnotifications, hfailed⟩ := exec_notifications hop hst
    refine h.other hnotifications hfailed fun hmem => ?_
    rcases hops with hops | hops | hops
    · rw [hops] at hmem
      exact List.mem_cons_of_mem _ hmem
    · rwa [hops] at hmem
    · have hquiet : ∀ p ∈ programs, .common .callNotifier ∉ p := by decide
      exact absurd hmem (hquiet _ hops)

end Notices

def Due : ∀ i : Thread D, Local i → Prop
  | .owner, (l : OwnerLocal) => .common .callNotifier ∈ l.ops
  | .dispatcher _, (l : Code CallbackPc) => .callNotifier ∈ l.pending
  | .worker _, (l : Code WorkerPc) => .callNotifier ∈ l.pending

theorem step_notice {i : Thread D} {a : Act i} {l l' : Local i} (h : NoticeOk s (Due i l))
    (hst : (threads D cameraInfo).step i a s l = some (s', l')) : NoticeOk s' (Due i l') := by
  cases i with
  | dispatcher d => exact callback_notice h (frameSetTrampoline_step hst)
  | worker c => exact worker_notice h (workerLoop_step hst).2
  | owner =>
    obtain ⟨rfl, -, -, hcall⟩ | ⟨op, rest, hops, he⟩ := ownerStep_cases hst
    · refine h.other rfl rfl fun hmem =>
        absurd (show .common .callNotifier ∈ (l' : OwnerLocal).ops from hmem) ?_
      rcases hcall with ⟨config, sink, notifier, hcall⟩ | hcall <;> rw [hcall] <;> simp
    · obtain ⟨ops, detached⟩ := l
      cases hops
      exact owner_notice h he

theorem reachable_notice {s : State D} (h : (threads D cameraInfo).Reachable s) :
    0 < s.shared.notifications → s.shared.failed = true := by
  refine (Threads.Reachable.outline (T := threads D cameraInfo)
    (I := fun s => 0 < s.notifications → s.failed = true)
    (J := fun i s l => Due i l → s.failed = true) ⟨nofun, ?_⟩ ?_ ?_ h).1
  · rintro (_ | d | c) <;> exact nofun
  · intro s i a s' l' _ hI hJ hst
    obtain ⟨hcalled, hpending⟩ := step_notice ⟨hI, hJ⟩ hst
    exact ⟨hcalled, hpending⟩
  · intro s i a s' l' _ _ _ hst j _ hother hdue
    exact (step_onward hst).failed (hother hdue)

/-! ### When nothing runs any more -/

/-- Not started, or cleaned up. -/
def Closed (s : Core D) : Prop := s.startClaimed = false ∨ s.cleanupComplete = true

section Closed
variable {s : State D}

theorem closed_outside (h : (threads D cameraInfo).Reachable s) (hclosed : Closed s.shared) (d : D) :
    Outside (s.locals (.dispatcher d)) := by
  obtain ⟨hL, hok⟩ := reachable_core h
  have hcallback : CallbackOk s.shared d (s.locals (.dispatcher d)) := hok (.dispatcher d)
  rcases hclosed with hunclaimed | hcomplete
  · exact hcallback.inside.resolve_right (by simp [(hL.unclaimed hunclaimed).1])
  · exact hcallback.quiesced (hL.complete hcomplete).1

theorem closed_joined (h : (threads D cameraInfo).Reachable s) (hclosed : Closed s.shared)
    (c : CameraId) : Joined s.shared c := by
  obtain ⟨hL, -⟩ := reachable_core h
  rcases hclosed with hunclaimed | hcomplete
  · exact .inl ((hL.unclaimed hunclaimed).2.2.2.2.1 c)
  · exact (hL.stop (hL.stopReturned (hL.complete hcomplete).1)).2 (.joined c)
      (by simp [closed, cameras])

theorem closed_recorded (h : (threads D cameraInfo).Reachable s) (hclosed : Closed s.shared)
    (hidle : (s.locals .owner : OwnerLocal).ops = []) (hincidents : s.shared.incidents ≠ []) :
    s.shared.failed = true := by
  obtain ⟨i, hi⟩ := List.exists_mem_of_ne_nil _ hincidents
  obtain ⟨hL, hok⟩ := reachable_core h
  have hrecorded : Holds s.shared .recorded := by
    have hsafe := (hok .owner : OwnerOk s.shared (s.locals .owner)).safe
    rw [hidle] at hsafe
    exact hsafe .recorded (by simp)
  cases i with
  | startFailed => exact hrecorded _ hi rfl
  | joinFailed => exact hrecorded _ hi rfl
  | callbackException d =>
    refine ((hok (.dispatcher d) : CallbackOk s.shared d _).blamed hi).resolve_right ?_
    rcases closed_outside h hclosed d with hl | ⟨set, hl⟩ | hl <;> rw [hl] <;>
      simp [CallbackFailing, Code.of]
  | sinkException c =>
    have hworker : WorkerOk s.shared c (s.locals (.worker c)) := hok (.worker c)
    refine (hworker.blamed hi).resolve_right ?_
    rcases closed_joined h hclosed c with hnone | hjoined
    · rw [hworker.unborn hnone]
      simp [WorkerFailing, Code.of]
    · rw [hworker.ended (.inr hjoined)]
      simp [WorkerFailing, Code.of]

theorem closed_step (h : (threads D cameraInfo).Reachable s) (hclosed : Closed s.shared)
    {i : Thread D} (hi : i ≠ .owner) {a : Act i} {s' : Core D} {l' : Local i}
    (hst : (threads D cameraInfo).step i a s.shared (s.locals i) = some (s', l')) :
    s'.failed = s.shared.failed ∧ s'.startClaimed = s.shared.startClaimed ∧
      s'.cleanupComplete = s.shared.cleanupComplete := by
  cases i with
  | owner => exact absurd rfl hi
  | dispatcher d =>
    have hstep := frameSetTrampoline_step hst
    rcases closed_outside h hclosed d with hl | ⟨set, hl⟩ | hl <;> rw [hl] at hstep <;>
      cases hstep <;> exact ⟨rfl, rfl, rfl⟩
  | worker c =>
    have hrunning := (workerLoop_step hst).1
    rcases closed_joined h hclosed c with hw | hw <;> simp [hw] at hrunning

end Closed

end RoboBaton.Camera
