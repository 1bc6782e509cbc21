import RoboBaton.Camera.Plan
import RoboBaton.Camera.Work

/-! The core never gets stuck: as long as a call of `Start` or `Cleanup` or a callback is under
way, or a frame waits in a queue, some thread can take a step. With the work that is left this
bounds everything that happens after the last call and the last callback. -/

namespace RoboBaton.Camera
open Trace Discipline Transition
variable {D : Type} {s s' : Core D}

/-! ### What a thread waits for -/

/-- Steps that begin nothing, and in which nothing outside the core throws. -/
def isPlain : (Σ i : Thread D, Act i) → Bool
  | ⟨.owner, a⟩ =>
    match (a : OwnerAct) with
    | .step => true
    | .status _ => true
    | _ => false
  | ⟨.dispatcher _, a⟩ =>
    match (a : CallbackAct) with
    | .step => true
    | .info .. => true
    | .retained _ => true
    | _ => false
  | ⟨.worker _, a⟩ =>
    match (a : WorkerAct) with
    | .step => true
    | .returns _ => true
    | _ => false

theorem isPlain_paid {e : Σ i : Thread D, Act i} (h : isPlain e = true) :
    cost e = 1 ∧ gain e = 0 := by
  obtain ⟨i | d | c, a⟩ := e
  · cases (a : OwnerAct) <;> first | exact ⟨rfl, rfl⟩ | cases h
  · cases (a : CallbackAct) <;> first | exact ⟨rfl, rfl⟩ | cases h
  · cases (a : WorkerAct) <;> first | exact ⟨rfl, rfl⟩ | cases h

theorem callback_moves [DecidableEq D] (d : D) (s : Core D) (l : Code CallbackPc) :
    (∃ a, isPlain ⟨.dispatcher d, a⟩ = true ∧ (frameSetTrampoline d a s l).isSome) ∨
      l = .of .idle ∨ ∃ scan c job, l = .of (.push scan c job) ∧
        ∀ q, s.queues c = some q → q.push job = .blocked := by
  obtain ⟨_ | ⟨op, ops⟩, pc⟩ := l
  · cases pc with
    | idle => exact .inr (.inl rfl)
    | loadAccepting set => exact .inl ⟨.step, rfl, rfl⟩
    | checkHeader set =>
      refine .inl ⟨.step, rfl, ?_⟩
      cases set with
      | none => rfl
      | some set =>
        simp only [frameSetTrampoline, CallbackPc.exec]
        split <;> rfl
    | item scan =>
      by_cases hindex : scan.index < scan.set.cameraCount.toNat
      · cases hcheck : scan.check s.config with
        | none =>
          refine .inl ⟨.step, rfl, ?_⟩
          simp [frameSetTrampoline, CallbackPc.exec, handleItem, hindex, hcheck, throwCallback]
        | some item =>
          -- whatever libsc132 answers
          refine .inl ⟨.info statusOk sampleInfo 0, rfl, ?_⟩
          obtain ⟨c, frame⟩ := item
          simp only [frameSetTrampoline, CallbackPc.exec, handleItem, if_pos hindex, hcheck]
          split <;> rfl
      · refine .inl ⟨.step, rfl, ?_⟩
        simp [frameSetTrampoline, CallbackPc.exec, handleItem, hindex]
    | retain scan c frame info => exact .inl ⟨.retained statusOk, rfl, rfl⟩
    | push scan c job =>
      by_cases hblocked : ∀ q, s.queues c = some q → q.push job = .blocked
      · exact .inr (.inr ⟨scan, c, job, rfl, hblocked⟩)
      · obtain ⟨q, hq, hpush⟩ : ∃ q, s.queues c = some q ∧ q.push job ≠ .blocked := by
          simpa using hblocked
        refine .inl ⟨.step, rfl, ?_⟩
        simp only [frameSetTrampoline, CallbackPc.exec, hq, Option.bind_some, handlePush]
        split
        · rfl
        · rfl
        · exact absurd ‹_› hpush
    | rejected scan c job => exact .inl ⟨.step, rfl, rfl⟩
    | unwind job => exact .inl ⟨.step, rfl, rfl⟩
    | leave failed => exact .inl ⟨.step, rfl, rfl⟩
  · exact .inl ⟨.step, rfl, rfl⟩

theorem worker_moves (cameraInfo : Bool) (c : CameraId) {s : Core D} (hrunning : s.workers c = .running)
    (l : Code WorkerPc) :
    (∃ a, isPlain (D := D) ⟨.worker c, a⟩ = true ∧ (workerLoop cameraInfo c a s l).isSome) ∨
      l.pc = .finished ∨ l = .of .pop ∧ ∀ q, s.queues c = some q → q.pop = .blocked := by
  obtain ⟨_ | ⟨op, ops⟩, pc⟩ := l
  · cases pc with
    | pop =>
      by_cases hblocked : ∀ q, s.queues c = some q → q.pop = .blocked
      · exact .inr (.inr ⟨rfl, hblocked⟩)
      · obtain ⟨q, hq, hpop⟩ : ∃ q, s.queues c = some q ∧ q.pop ≠ .blocked := by
          simpa using hblocked
        refine .inl ⟨.step, rfl, ?_⟩
        simp only [workerLoop, hrunning, if_true, WorkerPc.exec, hq, Option.bind_some, handlePop]
        split
        · rfl
        · rfl
        · exact absurd ‹_› hpop
    | callSink job =>
      refine .inl ⟨.step, rfl, ?_⟩
      simp only [workerLoop, hrunning, if_true, WorkerPc.exec]
      split <;> rfl
    | publishImage job =>
      exact .inl ⟨.returns 0, rfl, by simp [workerLoop, hrunning, WorkerPc.exec]⟩
    | finished => exact .inr (.inl rfl)
    | _ => exact .inl ⟨.step, rfl, by simp [workerLoop, hrunning, WorkerPc.exec]⟩
  · exact .inl ⟨.step, rfl, by simp [workerLoop, hrunning]⟩

theorem owner_moves [Fintype D] (s : Core D) (l : OwnerLocal) :
    (∃ a, isPlain (D := D) ⟨.owner, a⟩ = true ∧ (ownerStep a s l).isSome) ∨ l.ops = [] ∨
      (∃ site c rest, l.ops = .joinWorker site c :: rest ∧ s.workers c = .running) ∨
      ∃ rest d, l.ops = .stopReturn :: rest ∧ s.inCallback d = true := by
  obtain ⟨_ | ⟨op, rest⟩, detached⟩ := l
  · exact .inr (.inl rfl)
  · cases op with
    | setFps | setOutputRotation | startFrameSetReturn =>
      exact .inl ⟨.status statusOk, rfl, rfl⟩
    | startGuard | validateConfig | makeQueue | spawnWorker | detachQueue =>
      refine .inl ⟨.step, rfl, ?_⟩
      simp only [ownerStep, OwnerOp.exec]
      split <;> rfl
    | cleanupGuard site =>
      refine .inl ⟨.step, rfl, ?_⟩
      simp only [ownerStep, OwnerOp.exec]
      split
      · rfl
      · split <;> rfl
    | clearBatches => cases detached <;> exact .inl ⟨.step, rfl, rfl⟩
    | joinWorker site c =>
      by_cases hrunning : s.workers c = .running
      · exact .inr (.inr (.inl ⟨site, c, rest, rfl, hrunning⟩))
      · refine .inl ⟨.step, rfl, ?_⟩
        simp only [ownerStep, OwnerOp.exec]
        split
        · exact absurd ‹_› hrunning
        · rfl
        · rfl
        · rfl
    | stopReturn =>
      by_cases hidle : ∀ d, s.inCallback d = false
      · exact .inl ⟨.step, rfl, by simp [ownerStep, OwnerOp.exec, hidle]⟩
      · obtain ⟨d, hd⟩ : ∃ d, s.inCallback d = true := by simpa using hidle
        exact .inr (.inr (.inr ⟨rest, d, rfl, hd⟩))
    | _ => exact .inl ⟨.step, rfl, rfl⟩

/-! ### Rest -/

structure AtRest (s : State D) : Prop where
  owner : (s.locals .owner : OwnerLocal).ops = []
  callbacks : ∀ d, (s.locals (.dispatcher d) : Code CallbackPc) = .of .idle
  workers : ∀ c, s.shared.workers c = .running →
    (s.locals (.worker c) : Code WorkerPc) = .of .pop ∧
      ∃ q, s.shared.queues c = some q ∧ q.stopped = false ∧ q.queue = []

theorem FrameQueue.push_blocked {q : FrameQueue} {job : RetainedFrameJob}
    (h : q.push job = .blocked) : q.stopped = false ∧ q.capacity ≤ q.queue.length := by
  unfold FrameQueue.push at h
  split at h
  · cases h
  · rename_i hlive
    split at h
    · cases h
    · split at h
      · cases h
      · exact ⟨Bool.eq_false_of_not_eq_true hlive, Nat.le_of_not_lt ‹_›⟩

theorem FrameQueue.pop_blocked {q : FrameQueue} (h : q.pop = .blocked) :
    q.stopped = false ∧ q.queue = [] := by
  unfold FrameQueue.pop at h
  split at h
  · cases h
  · rename_i hlive
    split at h
    · exact ⟨Bool.eq_false_of_not_eq_true hlive, ‹_›⟩
    · cases h

section Reached
variable [Fintype D] [DecidableEq D] {cameraInfo : Bool} {s : State D}

def Stuck (cameraInfo : Bool) (s : State D) : Prop :=
  ∀ i (a : Act i), isPlain ⟨i, a⟩ = true →
    (threads D cameraInfo).step i a s.shared (s.locals i) = none

theorem not_moves {i : Thread D} (hstuck : Stuck cameraInfo s) {P : Prop}
    (h : (∃ a : Act i, isPlain ⟨i, a⟩ = true ∧
      ((threads D cameraInfo).step i a s.shared (s.locals i)).isSome) ∨ P) : P := by
  refine h.resolve_left ?_
  rintro ⟨a, hplain, hsome⟩
  rw [hstuck i a hplain] at hsome
  cases hsome

theorem stuck_worker (hs : (threads D cameraInfo).Reachable s) (hstuck : Stuck cameraInfo s)
    {c : CameraId} (hrunning : s.shared.workers c = .running) :
    (s.locals (.worker c) : Code WorkerPc) = .of .pop ∧
      ∃ q, s.shared.queues c = some q ∧ q.stopped = false ∧ q.queue = [] := by
  obtain ⟨hB, hplan⟩ := reachable_planned hs
  have hborn : s.shared.workers c ≠ .none := by simp [hrunning]
  rcases not_moves hstuck (worker_moves cameraInfo c hrunning _) with hpc | ⟨hl, hblocked⟩
  · exact absurd hrunning ((hplan (.worker c)).1 hpc)
  · obtain ⟨q, hq⟩ := Option.ne_none_iff_exists'.mp
      (hB.made ((reachable_core hs).1.workers c hborn) c (hB.manned c hborn))
    exact ⟨hl, q, hq, q.pop_blocked (hblocked q hq)⟩

theorem push_queue (hs : (threads D cameraInfo).Reachable s) {d : D} {scan : Scan} {c : CameraId}
    {job : RetainedFrameJob}
    (hl : (s.locals (.dispatcher d) : Code CallbackPc) = .of (.push scan c job)) :
    ∃ q, s.shared.queues c = some q := by
  obtain ⟨hB, hplan⟩ := reachable_planned hs
  obtain ⟨hL, hok⟩ := reachable_core hs
  have hcamera := (hplan (.dispatcher d)).2 c (by rw [hl]; rfl)
  have hopened := (hok (.dispatcher d) : CallbackOk s.shared d _).inside.resolve_left (by
    rw [hl]
    rintro (h | ⟨set, h⟩ | h) <;> cases h)
  exact Option.ne_none_iff_exists'.mp (hB.made hopened c hcamera)

theorem stuck_callback (hs : (threads D cameraInfo).Reachable s) (hstuck : Stuck cameraInfo s)
    (d : D) : (s.locals (.dispatcher d) : Code CallbackPc) = .of .idle ∨
      ∃ c q, s.shared.queues c = some q ∧ q.stopped = false ∧ q.queue ≠ [] := by
  rcases not_moves hstuck (callback_moves d s.shared (s.locals (.dispatcher d))) with
    hidle | ⟨scan, c, job, hl, hblocked⟩
  · exact .inl hidle
  · obtain ⟨q, hq⟩ := push_queue hs hl
    obtain ⟨hlive, hfull⟩ := q.push_blocked (hblocked q hq)
    refine .inr ⟨c, q, hq, hlive, fun hempty => ?_⟩
    -- a valid configuration has queues with at least one slot
    have hvalid := (reachable_planned hs).1.valid c (by simp [hq])
    have hcapacity := ((reachable_routed hs).1 c q hq).capacity
    simp only [CameraCoreConfig.valid, Bool.and_eq_true, decide_eq_true_eq] at hvalid
    rw [hempty, List.length_nil] at hfull
    omega

theorem gives_emptied {op : OwnerOp} {c : CameraId} (h : .emptied c ∈ (rules.contract op).gives) :
    op = .detachQueue c := by
  cases op with
  | common o => cases o <;> simp at h
  | detachQueue c' =>
    obtain rfl : c = c' := by simpa using h
    rfl
  | returnStart result => cases result <;> simp at h
  | cleanupGuard site => cases site <;> simp at h
  | _ => simp at h

def stopFollows : List OwnerOp → Bool
  | .joinWorker .. :: rest => .stop ∈ rest && cameras.all fun c => .detachQueue c ∉ rest
  | _ => true

theorem join_emptied {site : CleanupSite} {c : CameraId} {rest : List OwnerOp}
    (hs : (threads D cameraInfo).Reachable s)
    (hops : (s.locals .owner : OwnerLocal).ops = .joinWorker site c :: rest) (c' : CameraId) :
    Emptied s.shared c' := by
  have hsafe := ((reachable_core hs).2 .owner : OwnerOk s.shared (s.locals .owner)).safe
  have hshaped := ((reachable_planned hs).2 .owner :
    Planned s.shared (s.locals .owner : OwnerLocal).ops).shaped
  rw [hops] at hsafe hshaped
  have hplace := hshaped.check (P := stopFollows) (by simp) (by simp) (by decide)
  simp only [stopFollows, Bool.and_eq_true, decide_eq_true_eq, List.all_eq_true] at hplace
  obtain ⟨pre, post, rfl⟩ := List.append_of_mem hplace.1
  refine Rules.Safe.known (.joinWorker site c :: pre) (.emptied c') hsafe
    (by simp [closed, cameras]) fun o ho hgives => ?_
  obtain rfl := gives_emptied hgives
  have hmem : .detachQueue c' ∈ pre := by simpa using ho
  exact hplace.2 c' (by simp [cameras]) (List.mem_append_left _ hmem)

theorem stop_emptied {rest : List OwnerOp} (hs : (threads D cameraInfo).Reachable s)
    (hops : (s.locals .owner : OwnerLocal).ops = .stopReturn :: rest) (c : CameraId) :
    Emptied s.shared c := by
  obtain ⟨hL, hok⟩ := reachable_core hs
  have hsafe := (hok .owner : OwnerOk s.shared (s.locals .owner)).safe
  rw [hops] at hsafe
  exact (hL.stop (hsafe.1 .stopCalled (by simp))).2 (.emptied c) (by simp [closed, cameras])

/-- A call that cannot go on is over: what it would wait for can still move. -/
theorem stuck_owner (hs : (threads D cameraInfo).Reachable s) (hstuck : Stuck cameraInfo s) :
    (s.locals .owner : OwnerLocal).ops = [] := by
  rcases not_moves hstuck (owner_moves s.shared (s.locals .owner)) with
    hops | ⟨site, c, rest, hops, hrunning⟩ | ⟨rest, d, hops, hinside⟩
  · exact hops
  · obtain ⟨-, q, hq, hlive, -⟩ := stuck_worker hs hstuck hrunning
    exact absurd ((join_emptied hs hops c q hq).1.symm.trans hlive) (by simp)
  · rcases stuck_callback hs hstuck d with hl | ⟨c, q, hq, hlive, -⟩
    · have hidle := ((reachable_planned hs).2 (.dispatcher d)).1 (by rw [hl]; rfl)
      exact absurd (hidle.symm.trans hinside) (by simp)
    · exact absurd ((stop_emptied hs hops c q hq).1.symm.trans hlive) (by simp)

theorem idle_running (hs : (threads D cameraInfo).Reachable s)
    (hops : (s.locals .owner : OwnerLocal).ops = []) {c : CameraId} {q : FrameQueue}
    (hq : s.shared.queues c = some q) (hlive : q.stopped = false) :
    s.shared.workers c = .running := by
  obtain ⟨-, hplan⟩ := reachable_planned hs
  have hserved := (hplan .owner : Planned s.shared (s.locals .owner : OwnerLocal).ops).served c q hq
    hlive
  rw [hops] at hserved
  have hended := ((reachable_core hs).2 (.worker c) : WorkerOk s.shared c _).ended
  -- a worker that has finished leaves its queue closed
  have hopen : ¬ (s.shared.workers c = .finished ∨ s.shared.workers c = .joined) := by
    intro hw
    have hclosed := (hplan (.worker c)).2 (.inr (by rw [hended hw]; rfl)) q hq
    exact absurd (hclosed.symm.trans hlive) (by simp)
  cases hw : s.shared.workers c with
  | none => exact absurd hw (hserved.resolve_right (by simp [Serves]))
  | running => rfl
  | finished => exact absurd (.inl hw) hopen
  | joined => exact absurd (.inr hw) hopen

theorem atRest_of_stuck (hs : (threads D cameraInfo).Reachable s) (hstuck : Stuck cameraInfo s) :
    AtRest s := by
  have hops := stuck_owner hs hstuck
  refine ⟨hops, fun d => ?_, fun c => stuck_worker hs hstuck⟩
  refine (stuck_callback hs hstuck d).resolve_right ?_
  rintro ⟨c, q, hq, hlive, hfull⟩
  obtain ⟨-, q', hq', -, hempty⟩ := stuck_worker hs hstuck (idle_running hs hops hq hlive)
  obtain rfl := Option.some.inj (hq.symm.trans hq')
  exact hfull hempty

theorem moves (hs : (threads D cameraInfo).Reachable s) (hrest : ¬ AtRest s) :
    ∃ e t, isPlain e = true ∧ (threads D cameraInfo).next e s = some t := by
  by_contra hnone
  refine hrest (atRest_of_stuck hs fun i a hplain => ?_)
  cases hstep : (threads D cameraInfo).step i a s.shared (s.locals i) with
  | none => rfl
  | some r => exact absurd ⟨⟨i, a⟩, _, hplain, by rw [Threads.next, hstep]; rfl⟩ hnone

/-! ### Everything comes to an end -/

/-- What is under way can go on, and is over after no more plain steps than there is work. -/
structure Settles (cameraInfo : Bool) (s : State D) : Prop where
  moves : ¬ AtRest s → ∃ e t, isPlain e = true ∧ (threads D cameraInfo).next e s = some t
  attains : ∃ as t, (∀ e ∈ as, isPlain e = true) ∧
    (threads D cameraInfo).toSystem.run as s = some t ∧ AtRest t ∧ as.length ≤ left s

/-- The core is never stuck: in whatever state its threads have brought it, it can come to rest
without any new call or callback. -/
theorem settles (hs : (threads D cameraInfo).Reachable s) : Settles cameraInfo s where
  moves := moves hs
  attains := System.Reachable.attains (M := (threads D cameraInfo).toSystem) left
    (fun _ => cost) (fun _ => gain) AtRest (fun e => isPlain e = true)
    (fun _ _ _ hs h => step_paid hs h)
    (fun u hu hrest => by
      obtain ⟨e, t, hplain, ht⟩ := Camera.moves hu hrest
      obtain ⟨hcost, hgain⟩ := isPlain_paid hplain
      exact ⟨e, t, hplain, ht, by omega, hgain⟩) hs

theorem left_start :
    left ((threads D cameraInfo).toSystem.start : State D) = 8 := by
  have hsum : ∑ _c : CameraId, 2 = ∑ i : Thread D,
      threadWork i ((threads D cameraInfo).toSystem.start.locals i) := by
    refine Finset.sum_of_injOn Thread.worker (fun _ _ _ _ h => Thread.worker.inj h)
      (fun _ _ => Finset.mem_coe.mpr (Finset.mem_univ _)) (fun i _ hi => ?_) fun _ _ => rfl
    cases i with
    | owner => rfl
    | dispatcher d => rfl
    | worker c => exact absurd ⟨c, by simp, rfl⟩ hi
  show queueWork Core.init + _ = 8
  rw [← hsum]
  simp [queueWork, Core.init, jobsOf, kMaxCameras]

/-- However its threads interleave, the core takes a bounded number of steps for each callback
of libsc132 and for each call of `Start` and `Cleanup`. -/
theorem steps_bounded {as : List (Σ i : Thread D, Act i)} {t : State D}
    (h : (threads D cameraInfo).toSystem.run as (threads D cameraInfo).toSystem.start = some t) :
    as.countP isStep ≤
      8 + 118 * as.countP isCallback + 512 * as.countP isStart + 43 * as.countP isCleanup := by
  have hpaid := run_paid (System.Reachable.start (M := (threads D cameraInfo).toSystem)) h
  rw [left_start] at hpaid
  omega

end Reached

theorem steps_bounded_delivered : deliveredRun.countP isCallback = 1 ∧
    deliveredRun.countP isStep ≤ 8 + 118 * deliveredRun.countP isCallback +
      512 * deliveredRun.countP isStart + 43 * deliveredRun.countP isCleanup :=
  ⟨by decide, @steps_bounded Unit _ _ false _ deliveredEnd (Option.some_get _).symm⟩

def blockedRun : List (Σ i : Thread Unit, Act i) :=
  startRun { CameraCoreConfig.default with queueCapacity := 1 } ++ queueFrame 7 ++
    dispatcherDoes () [.callback (some (sampleSet 8)), .step, .step, .info statusOk sampleInfo 9,
      .retained statusOk] ++ ownerDoes [.cleanup]

def blockedEnd : State Unit :=
  ((threads Unit false).toSystem.run blockedRun (threads Unit false).toSystem.start).get rfl

theorem settles_blocked : ¬ AtRest blockedEnd ∧ Settles false blockedEnd :=
  ⟨fun h => (nomatch h.callbacks ()), settles (System.reachable_get _)⟩

end RoboBaton.Camera
