import RoboBaton.Camera.Retries
import RoboBaton.Library.Work

/-! How much the threads of the core have left to do. Every step of them is paid from it, so the
core works only on what its callers and libsc132 bring in: it never runs for ever by itself. -/

namespace RoboBaton.Camera
open Metrics Transition
variable {D : Type} {cameraInfo : Bool} {s s' : Core D}

/-! ### The work of common code -/

def CommonOp.work : CommonOp → ℕ
  | .access _ a => a.work
  | .exchangeStop => 2
  | .exchangeFailed => 2
  | _ => 1

def opsWork (ops : List CommonOp) : ℕ := (ops.map CommonOp.work).sum

@[simp] theorem opsWork_nil : opsWork [] = 0 := rfl

@[simp] theorem opsWork_cons (op : CommonOp) (ops : List CommonOp) :
    opsWork (op :: ops) = op.work + opsWork ops := by simp [opsWork]

@[simp] theorem opsWork_append (ops ops' : List CommonOp) :
    opsWork (ops ++ ops') = opsWork ops + opsWork ops' := by simp [opsWork]

theorem opsWork_access (c : CameraId) (as : List Access) :
    opsWork (as.map (.access c)) = accessWork as := by
  rw [opsWork, List.map_map]
  rfl

theorem record_work (s : Core D) (c : CameraId) (as : List Access) :
    opsWork (record s c as) ≤ accessWork as := by
  unfold record
  split
  · exact (opsWork_access c as).le
  · exact Nat.zero_le _

theorem recordJob_work (s : Core D) (job : RetainedFrameJob) (as : List Access) :
    opsWork (recordJob s job as) ≤ accessWork as := by
  unfold recordJob
  split
  · exact record_work s _ as
  · exact Nat.zero_le _

theorem common_work (spurious : Bool) (op : CommonOp)
    (hfresh : ∀ c a, op = .access c a → a.Fresh (s.metrics c)) :
    opsWork (op.exec spurious s).2 + (if spurious then 0 else 1) ≤ op.work := by
  cases op with
  | access c a =>
    simp only [CommonOp.exec, opsWork_access]
    exact exec_work spurious (hfresh c a rfl)
  | exchangeStop | exchangeFailed =>
    simp only [CommonOp.exec]
    cases spurious <;> split <;> simp [CommonOp.work]
  | _ => cases spurious <;> simp [CommonOp.exec, CommonOp.work]

/-! ### Frames that wait in the queues -/

def jobWork : ℕ := 20

def queueWork (s : Core D) : ℕ := ∑ c, jobWork * (jobsOf (s.queues c)).length

theorem queueWork_setQueue (s : Core D) (c : CameraId) (q : FrameQueue) :
    queueWork (s.setQueue c q) + jobWork * (jobsOf (s.queues c)).length =
      queueWork s + jobWork * q.queue.length :=
  sum_update (fun _ q => jobWork * (jobsOf q).length) s.queues c (some q)

theorem jobsOf_some {c : CameraId} {q : FrameQueue} (hq : s.queues c = some q) :
    jobsOf (s.queues c) = q.queue := by rw [hq]; rfl

theorem queueWork_common (spurious : Bool) (s : Core D) (op : CommonOp) :
    queueWork (op.exec spurious s).1 = queueWork s := by
  simp only [queueWork]
  exact Finset.sum_congr rfl fun c _ => by rw [(common_jobs spurious s op).2.2 c]

/-! ### Callbacks -/

def itemWork : ℕ := 26

def Scan.work (scan : Scan) : ℕ := 12 + itemWork * (scan.set.cameraCount.toNat - scan.index)

def CallbackPc.work : CallbackPc → ℕ
  | .idle => 0
  | .loadAccepting _ => 118
  | .checkHeader _ => 117
  | .item scan => scan.work
  | .retain scan .. => 22 + scan.next.work
  | .push scan .. => 21 + scan.next.work
  | .rejected scan .. => 2 + scan.work
  | .unwind _ => 12
  | .leave _ => 1

def callbackWork (l : Code CallbackPc) : ℕ := opsWork l.pending + l.pc.work

/-- A retry of `compare_exchange_weak` that failed for no reason is not counted, and a new
callback is work that libsc132 brings in. -/
def CallbackAct.cost : CallbackAct → ℕ
  | .callback _ => 0
  | .spurious => 0
  | _ => 1

def CallbackAct.gain : CallbackAct → ℕ
  | .callback _ => 118
  | _ => 0

theorem Scan.work_next {scan : Scan} (h : scan.index < scan.set.cameraCount.toNat) :
    scan.work = itemWork + scan.next.work := by
  simp only [Scan.work, Scan.next, itemWork]
  omega

theorem callbackFailure_work : callbackWork callbackFailure = 11 := by decide

theorem callback_paid [DecidableEq D] {d : D} {l l' : Code CallbackPc} (h : CallbackStep d s l s' l')
    (hpending : l.pending = []) (hpc : l.pc ≠ .idle) :
    queueWork s' + callbackWork l' + 1 ≤ queueWork s + l.pc.work := by
  have hfailure := callbackFailure_work
  cases h with
  | common => cases hpending
  | enter => exact absurd rfl hpc
  | refused set hclosed =>
    show queueWork s + (0 + 1) + 1 ≤ queueWork s + 118
    omega
  | accepted set hopen => exact Nat.le_refl _
  | header set hheader =>
    -- a valid header announces at most four items
    have hcount : set.cameraCount.toNat ≤ kMaxCameras := by
      simp only [headerOk, Bool.and_eq_true, decide_eq_true_eq] at hheader
      exact hheader.2
    have : (Scan.start set).work ≤ 116 := by
      simp only [Scan.work, Scan.start, itemWork, kMaxCameras] at hcount ⊢
      omega
    show queueWork s + (0 + (Scan.start set).work) + 1 ≤ queueWork s + 117
    omega
  | throwHeader | throwRetain | unwind =>
    rw [hfailure]
    show queueWork s + 11 + 1 ≤ queueWork s + _
    simp only [Code.of, CallbackPc.work]
    omega
  | complete scan hend =>
    show queueWork s + (0 + 1) + 1 ≤ queueWork s + scan.work
    simp only [Scan.work]
    omega
  | throwItem scan =>
    rw [hfailure]
    show queueWork s + 11 + 1 ≤ queueWork s + scan.work
    simp only [Scan.work]
    omega
  | info scan c frame status info nowNs hindex =>
    have hrecord := (record_work s c (recordSource info.sequence info.timestampNs nowNs)).trans
      (recordSource_work info.sequence info.timestampNs nowNs)
    have hnext := Scan.work_next hindex
    show queueWork s + (opsWork (record s c (recordSource info.sequence info.timestampNs nowNs)) +
      (22 + scan.next.work)) + 1 ≤ queueWork s + scan.work
    simp only [itemWork] at hnext
    omega
  | retain scan c frame info =>
    show queueWork s + (0 + (21 + scan.next.work)) + 1 ≤ queueWork s + (22 + scan.next.work)
    omega
  | pushed scan c job q q' hq hp =>
    obtain ⟨-, -, rfl⟩ := FrameQueue.push_eq_pushed.mp hp
    have hqueue := queueWork_setQueue (s.arrive c job .admitted q.queue.length) c
      { q with queue := q.queue ++ [job] }
    have hold : jobsOf ((s.arrive c job .admitted q.queue.length).queues c) = q.queue :=
      jobsOf_some hq
    have hsame : queueWork (s.arrive c job .admitted q.queue.length) = queueWork s := rfl
    rw [hold, hsame] at hqueue
    show _ + (0 + scan.next.work) + 1 ≤ queueWork s + (21 + scan.next.work)
    simp only [List.length_append, List.length_singleton, jobWork] at hqueue
    omega
  | rejected scan c job =>
    show queueWork s + (0 + (2 + scan.next.work)) + 1 ≤ queueWork s + (21 + scan.next.work)
    omega
  | throwPush scan c job =>
    show queueWork s + (0 + 12) + 1 ≤ queueWork s + (21 + scan.next.work)
    omega
  | dropped scan c job =>
    have hrecord : opsWork (record s c recordDrop) ≤ 1 := record_work s c recordDrop
    show queueWork s + (opsWork (record s c recordDrop) + scan.work) + 1 ≤
      queueWork s + (2 + scan.work)
    omega
  | leave failed => cases failed <;> exact Nat.le_refl _

theorem callback_work [DecidableEq D] {d : D} {a : CallbackAct} {l l' : Code CallbackPc}
    (hspares : ∀ c, Spares c l.pending) (h : frameSetTrampoline d a s l = some (s', l')) :
    queueWork s' + callbackWork l' + a.cost ≤ queueWork s + callbackWork l + a.gain := by
  obtain ⟨_ | ⟨op, ops⟩, pc⟩ := l
  · by_cases hidle : pc = .idle
    · subst hidle
      cases a <;> cases h
      exact le_rfl
    · have hpaid := callback_paid (exec_callbackStep h) rfl hidle
      have hcost : a.cost ≤ 1 := by cases a <;> simp [CallbackAct.cost]
      show _ + _ + a.cost ≤ queueWork s + (0 + pc.work) + a.gain
      have : (Code.of pc).pc.work = pc.work := rfl
      omega
  · have hcommon : ∀ spurious, queueWork (op.exec spurious s).1 +
        (opsWork ((op.exec spurious s).2 ++ ops) + pc.work) + (if spurious then 0 else 1) ≤
        queueWork s + (opsWork (op :: ops) + pc.work) := by
      intro spurious
      have hwork := common_work (s := s) spurious op fun c a hop =>
        fresh_of_not_retries (hspares c a (hop ▸ List.mem_cons_self))
      rw [queueWork_common, opsWork_append, opsWork_cons]
      omega
    cases a with
    | step =>
      cases h
      exact hcommon false
    | spurious =>
      cases h
      exact hcommon true
    | _ => cases h

/-! ### Workers -/

def WorkerPc.work : WorkerPc → ℕ
  | .pop => 2
  | .callSink _ => 21
  | .publishImage _ => 20
  | .publishInfo _ => 14
  | .reset _ => 3
  | .unwind _ => 12
  | .finish _ => 1
  | .finished => 0

def workerWork (l : Code WorkerPc) : ℕ := opsWork l.pending + l.pc.work

def WorkerAct.cost : WorkerAct → ℕ
  | .spurious => 0
  | _ => 1

theorem workerFailure_work : workerWork workerFailure = 11 := by decide

theorem worker_paid {c : CameraId} {l l' : Code WorkerPc} (h : WorkerStep cameraInfo c s l s' l')
    (hpending : l.pending = []) : queueWork s' + workerWork l' + 1 ≤ queueWork s + l.pc.work := by
  have hfailure := workerFailure_work
  -- what the record functions of a job take, at most
  have hrecord : ∀ (job : RetainedFrameJob) (as : List Access) (n : ℕ), accessWork as ≤ n →
      opsWork (recordJob s job as) ≤ n := fun job as n h => (recordJob_work s job as).trans h
  cases h with
  | common => cases hpending
  | popped q job q' hq hp =>
    obtain ⟨-, rest, hqueue, rfl⟩ := FrameQueue.pop_eq_popped.mp hp
    have hset := queueWork_setQueue s c { q with queue := rest }
    rw [jobsOf_some hq, hqueue, List.length_cons] at hset
    show queueWork (s.setQueue c { q with queue := rest }) + (0 + 21) + 1 ≤ queueWork s + 2
    simp only [jobWork] at hset
    omega
  | stopped => exact Nat.le_refl _
  | callSink | throwCall | reset =>
    show queueWork s + (0 + _) + 1 ≤ queueWork s + _
    simp only [Code.of, WorkerPc.work]
    omega
  | published job latencyNs =>
    have := hrecord job (recordPublishSuccess latencyNs) 5 le_rfl
    show queueWork s + (opsWork (recordJob s job (recordPublishSuccess latencyNs)) + 14) + 1 ≤
      queueWork s + 20
    omega
  | throwImage job =>
    have := hrecord job recordPublishFailure 1 le_rfl
    show queueWork s + (opsWork (recordJob s job recordPublishFailure) + 12) + 1 ≤ queueWork s + 20
    omega
  | publishedInfo job =>
    have := hrecord job recordAuxiliaryPublishSuccess 1 le_rfl
    have : opsWork (if cameraInfo then recordJob s job recordAuxiliaryPublishSuccess else []) ≤ 1 := by
      split
      · exact this
      · exact Nat.zero_le _
    show queueWork s + (opsWork (if cameraInfo then recordJob s job recordAuxiliaryPublishSuccess
      else []) + 3) + 1 ≤ queueWork s + 14
    omega
  | throwInfo job =>
    have := hrecord job recordPublishFailure 1 le_rfl
    show queueWork s + (opsWork (recordJob s job recordPublishFailure) + 12) + 1 ≤ queueWork s + 14
    omega
  | unwind job =>
    rw [hfailure]
    show queueWork s + 11 + 1 ≤ queueWork s + 12
    omega
  | finish failed => cases failed <;> exact Nat.le_refl _

theorem worker_work {c : CameraId} {a : WorkerAct} {l l' : Code WorkerPc}
    (hmax : MaxOk s (.worker c) l) (h : workerLoop cameraInfo c a s l = some (s', l')) :
    queueWork s' + workerWork l' + a.cost ≤ queueWork s + workerWork l := by
  obtain ⟨-, h⟩ := Option.ite_none_right_eq_some.mp h
  obtain ⟨_ | ⟨op, ops⟩, pc⟩ := l
  · have hpaid := worker_paid (exec_workerStep h) rfl
    have hcost : a.cost ≤ 1 := by cases a <;> simp [WorkerAct.cost]
    show _ + _ + a.cost ≤ queueWork s + (0 + pc.work)
    have : (Code.of pc).pc.work = pc.work := rfl
    omega
  · have hfresh : ∀ c' a, op = .access c' a → a.Fresh (s.metrics c') := by
      rintro c' a rfl
      by_cases hc : c' = c
      · subst hc
        exact hmax.1.fresh a (mem_accesses.mpr List.mem_cons_self)
      · exact fresh_of_not_retries (hmax.2 c' hc a List.mem_cons_self)
    have hcommon : ∀ spurious, queueWork (op.exec spurious s).1 +
        (opsWork ((op.exec spurious s).2 ++ ops) + pc.work) + (if spurious then 0 else 1) ≤
        queueWork s + (opsWork (op :: ops) + pc.work) := by
      intro spurious
      have hwork := common_work (s := s) spurious op hfresh
      rw [queueWork_common, opsWork_append, opsWork_cons]
      omega
    cases a with
    | step =>
      cases h
      exact hcommon false
    | spurious =>
      cases h
      exact hcommon true
    | _ => cases h

/-! ### Start and Cleanup -/

def OwnerOp.work : OwnerOp → ℕ
  | .common op => op.work
  | .startGuard .. => 512
  | .validateConfig => 511
  | .makeQueue _ => 46
  | .setFps => 46
  | .setOutputRotation => 46
  | .spawnWorker _ => 46
  | .startFrameSetReturn => 46
  | .cleanupGuard _ => 43
  | .joinWorker .. => 5
  | _ => 1

def ownerOpsWork (ops : List OwnerOp) : ℕ := (ops.map OwnerOp.work).sum

@[simp] theorem ownerOpsWork_cons (op : OwnerOp) (ops : List OwnerOp) :
    ownerOpsWork (op :: ops) = op.work + ownerOpsWork ops := by simp [ownerOpsWork]

@[simp] theorem ownerOpsWork_append (ops ops' : List OwnerOp) :
    ownerOpsWork (ops ++ ops') = ownerOpsWork ops + ownerOpsWork ops' := by simp [ownerOpsWork]

theorem ownerOpsWork_common (ops : List CommonOp) :
    ownerOpsWork (ops.map .common) = opsWork ops := by
  rw [ownerOpsWork, List.map_map]
  rfl

def ownerWork (l : OwnerLocal) : ℕ := ownerOpsWork l.ops + l.detached.length

def OwnerAct.cost : OwnerAct → ℕ
  | .start .. => 0
  | .cleanup => 0
  | _ => 1

def OwnerAct.gain : OwnerAct → ℕ
  | .start .. => 512
  | .cleanup => 43
  | _ => 0

theorem programs_work : ownerOpsWork startBody = 510 ∧ ownerOpsWork startFailure = 45 ∧
    ∀ site, ownerOpsWork (cleanupBody site) = 42 ∧ ownerOpsWork (joinFailure site) = 4 ∧
      ∀ result, ownerOpsWork (returnFrom site result) = 1 := by
  refine ⟨by decide, by decide, fun site => ?_⟩
  cases site <;> exact ⟨by decide, by decide, by decide⟩

theorem owner_paid {op : OwnerOp} {rest : List OwnerOp} {detached : List RetainedFrameJob}
    {l : OwnerLocal} (h : OwnerStep s detached rest op s' l)
    (hmetrics : ∀ c a, op ≠ .common (.access c a)) :
    queueWork s' + ownerWork l + 1 ≤
      queueWork s + (op.work + ownerOpsWork rest + detached.length) := by
  obtain ⟨hbody, hfailure, hsite⟩ := programs_work
  cases h with
  | common op =>
    have hwork := common_work (s := s) false op fun c a hop => absurd (hop ▸ rfl) (hmetrics c a)
    rw [queueWork_common, ownerWork]
    simp only [ownerOpsWork_append, ownerOpsWork_common, OwnerOp.work]
    simp only [Bool.false_eq_true, if_false] at hwork
    omega
  | makeQueue c henabled =>
    have hset := queueWork_setQueue s c (.new s.config.queueCapacity s.config.dropNewest)
    simp only [FrameQueue.new, List.length_nil, mul_zero, add_zero] at hset
    simp only [ownerWork, OwnerOp.work, FrameQueue.new]
    omega
  | detachQueue c q hq =>
    have hset := queueWork_setQueue s c q.stopAndDetach
    rw [jobsOf_some hq] at hset
    simp only [FrameQueue.stopAndDetach, List.length_nil, mul_zero, add_zero, jobWork] at hset
    simp only [ownerWork, OwnerOp.work, List.length_append, FrameQueue.stopAndDetach]
    omega
  | clearBatch job more hjob =>
    rw [hjob]
    simp only [ownerWork, ownerOpsWork_cons, List.length_cons]
    show queueWork s + _ + 1 ≤ _
    omega
  | batchesCleared hempty =>
    simp only [ownerWork, OwnerOp.work, hempty]
    show queueWork s + _ + 1 ≤ _
    omega
  -- what branches to other code
  | valid | invalid | throwQueue | fpsRefused | rotationRefused | throwSpawn | notStarted =>
    simp only [ownerWork, hbody, hfailure, OwnerOp.work]
    show queueWork s + _ + 1 ≤ _
    omega
  | unclaimed site | cleaned site | cleanup site | throwJoin site =>
    simp only [ownerWork, (hsite site).1, (hsite site).2.1, (hsite site).2.2, OwnerOp.work]
    show queueWork s + _ + 1 ≤ _
    omega
  | rejected | claim =>
    simp only [ownerWork, ownerOpsWork_cons, OwnerOp.work]
    show queueWork s + _ + 1 ≤ _
    simp [ownerOpsWork]
    omega
  | returnStart | returnCleanup =>
    show queueWork s + (0 + detached.length) + 1 ≤ queueWork s + (1 + _ + detached.length)
    omega
  | _ =>
    simp only [ownerWork, OwnerOp.work]
    show queueWork s + _ + 1 ≤ _
    omega

variable [Fintype D]

theorem owner_work {a : OwnerAct} {l l' : OwnerLocal} (hops : OpsOk l.ops)
    (h : ownerStep a s l = some (s', l')) :
    queueWork s' + ownerWork l' + a.cost ≤ queueWork s + ownerWork l + a.gain := by
  unfold ownerStep at h
  split at h
  · rename_i hidle
    split at h <;> cases h <;>
      simp [ownerWork, ownerOpsWork, hidle, OwnerOp.work, OwnerAct.cost, OwnerAct.gain]
    all_goals omega
  · rename_i op rest hrest
    have hpaid := owner_paid (exec_step h) fun c a heq =>
      hops.metrics c a (hrest ▸ heq ▸ List.mem_cons_self)
    have hcost : a.cost ≤ 1 := by cases a <;> simp [OwnerAct.cost]
    have hl : ownerWork l = op.work + ownerOpsWork rest + l.detached.length := by
      rw [ownerWork, hrest, ownerOpsWork_cons]
    omega

/-! ### Whole runs -/

def threadWork : ∀ i : Thread D, Local i → ℕ
  | .owner, (l : OwnerLocal) => ownerWork l
  | .dispatcher _, (l : Code CallbackPc) => callbackWork l
  | .worker _, (l : Code WorkerPc) => workerWork l

def cost : (Σ i : Thread D, Act i) → ℕ
  | ⟨.owner, a⟩ => OwnerAct.cost a
  | ⟨.dispatcher _, a⟩ => CallbackAct.cost a
  | ⟨.worker _, a⟩ => WorkerAct.cost a

def gain : (Σ i : Thread D, Act i) → ℕ
  | ⟨.owner, a⟩ => OwnerAct.gain a
  | ⟨.dispatcher _, a⟩ => CallbackAct.gain a
  | ⟨.worker _, _⟩ => 0

variable [DecidableEq D]

def left (s : State D) : ℕ := Threads.workOf queueWork threadWork s

theorem step_paid {s t : State D} (hs : (threads D cameraInfo).Reachable s)
    {e : Σ i : Thread D, Act i} (h : (threads D cameraInfo).next e s = some t) :
    left t + cost e ≤ left s + gain e := by
  obtain ⟨i, a⟩ := e
  refine Threads.workOf_step (fun s' l' hst => ?_) h
  have hmax := reachable_maxOk hs i
  cases i with
  | owner => exact owner_work (reachable_ops hs) hst
  | dispatcher d => exact callback_work hmax hst
  | worker c => exact worker_work hmax hst

/-! ### Counting -/

/-- Everything but a new call, a new callback, and a `compare_exchange_weak` that fails for no
reason. -/
def isStep (e : Σ i : Thread D, Act i) : Bool := cost e == 1

def isCallback : (Σ i : Thread D, Act i) → Bool
  | ⟨.dispatcher _, .callback _⟩ => true
  | _ => false

def isStart : (Σ i : Thread D, Act i) → Bool
  | ⟨.owner, .start ..⟩ => true
  | _ => false

def isCleanup : (Σ i : Thread D, Act i) → Bool
  | ⟨.owner, .cleanup⟩ => true
  | _ => false

theorem run_paid {s t : State D} {as : List (Σ i : Thread D, Act i)}
    (hs : (threads D cameraInfo).Reachable s)
    (h : (threads D cameraInfo).toSystem.run as s = some t) :
    left t + as.countP isStep ≤
      left s + (118 * as.countP isCallback + 512 * as.countP isStart + 43 * as.countP isCleanup) := by
  have hpaid := System.Reachable.spent_le (M := (threads D cameraInfo).toSystem) left
    (fun _ => cost) (fun _ => gain) (fun _ _ _ hs h => step_paid hs h) hs h
  have hcost : (cost : (Σ i : Thread D, Act i) → ℕ) = fun e => 1 * if isStep e then 1 else 0 := by
    funext ⟨i, a⟩
    cases i with
    | owner => cases (a : OwnerAct) <;> rfl
    | dispatcher d => cases (a : CallbackAct) <;> rfl
    | worker c => cases (a : WorkerAct) <;> rfl
  have hgain : (gain : (Σ i : Thread D, Act i) → ℕ) = fun e =>
      (118 * (if isCallback e then 1 else 0) + 512 * (if isStart e then 1 else 0)) +
        43 * (if isCleanup e then 1 else 0) := by
    funext ⟨i, a⟩
    cases i with
    | owner => cases (a : OwnerAct) <;> rfl
    | dispatcher d => cases (a : CallbackAct) <;> rfl
    | worker c => cases (a : WorkerAct) <;> rfl
  rw [hcost, hgain, System.spent_add, System.spent_add, System.spent_countP _ _ h,
    System.spent_countP _ _ h, System.spent_countP _ _ h, System.spent_countP _ _ h] at hpaid
  rwa [one_mul] at hpaid

end RoboBaton.Camera
