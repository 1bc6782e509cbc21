import RoboBaton.Camera.Routing
import RoboBaton.Camera.References
import RoboBaton.Metrics.Tally
import Mathlib.Tactic.Ring

/-! The counters of a camera against the frames: a weighted count of what is in the counters,
in the queue and in the hands of the threads, which no step raises. -/

namespace RoboBaton.Camera
open Trace Discipline Transition Metrics
variable {D : Type} {s s' : Core D}

/-! ### Counters and pending accesses -/

def weigh (w : Tally → ℤ) (n : Tally → ℕ) : ℤ :=
  w .source * n .source + w .publish * n .publish + w .auxiliary * n .auxiliary +
    w .drop * n .drop + w .failure * n .failure

def pending (c : CameraId) (ops : List CommonOp) (t : Tally) : ℕ := ops.count (.access c t.access)

theorem weigh_add (w : Tally → ℤ) (n k : Tally → ℕ) :
    weigh w (fun t => n t + k t) = weigh w n + weigh w k := by
  simp only [weigh, Nat.cast_add]
  ring

@[simp] theorem weigh_zero (w : Tally → ℤ) : weigh w (fun _ => 0) = 0 := by simp [weigh]

theorem pending_append (c : CameraId) (ops ops' : List CommonOp) (t : Tally) :
    pending c (ops ++ ops') t = pending c ops t + pending c ops' t := List.count_append

theorem pending_cons (c : CameraId) (op : CommonOp) (ops : List CommonOp) (t : Tally) :
    pending c (op :: ops) t = pending c [op] t + pending c ops t := pending_append c [op] ops t

theorem pending_access (c c' : CameraId) (as : List Access) (t : Tally) :
    pending c (as.map (.access c')) t = if c' = c then as.count t.access else 0 := by
  unfold pending
  split
  · rename_i hc
    subst hc
    exact List.count_map_of_injective as (CommonOp.access c') (fun _ _ h => by cases h; rfl) _
  · rename_i hc
    refine List.count_eq_zero.mpr fun hmem => ?_
    obtain ⟨a, -, ha⟩ := List.mem_map.mp hmem
    cases ha
    exact hc rfl

theorem pending_eq_zero (c : CameraId) {ops : List CommonOp} (h : ∀ a, .access c a ∉ ops)
    (t : Tally) : pending c ops t = 0 := List.count_eq_zero.mpr (h _)

theorem common_tally (spurious : Bool) (s : Core D) (c : CameraId) (op : CommonOp)
    (ops : List CommonOp) (t : Tally) :
    t.total ((op.exec spurious s).1.metrics c) + pending c ((op.exec spurious s).2 ++ ops) t =
      t.total (s.metrics c) + pending c (op :: ops) t := by
  rw [pending_append, pending_cons]
  by_cases hop : ∃ c' a, op = .access c' a
  · obtain ⟨c', a, rfl⟩ := hop
    obtain ⟨htotal, hnone⟩ := total_exec spurious (s.metrics c') a t
    have hhead : pending c [.access c' a] t = if c' = c then [a].count t.access else 0 :=
      pending_access c c' [a] t
    have hins : pending c (CommonOp.exec spurious s (.access c' a)).2 t = 0 := by
      refine (pending_access c c' _ t).trans ?_
      rw [hnone, ite_self]
    rw [hhead, hins]
    show t.total (Function.update s.metrics c' _ c) + _ = _
    by_cases hc : c' = c
    · subst hc
      rw [Function.update_self, htotal, if_pos rfl]
      omega
    · rw [Function.update_of_ne (Ne.symm hc), if_neg hc]
  · have hop' : ∀ c' a, op ≠ .access c' a := fun c' a h => hop ⟨c', a, h⟩
    obtain ⟨hmetrics, hnone⟩ := common_metrics spurious s hop'
    rw [hmetrics, pending_eq_zero c (hnone c),
      pending_eq_zero c fun a h => hop' c a (List.mem_singleton.mp h).symm]

theorem pending_record (s : Core D) (c c' : CameraId) (as : List Access) (t : Tally) :
    pending c (record s c' as) t =
      if s.config.rateMetricsEnabled = true ∧ c' = c then as.count t.access else 0 := by
  unfold record
  by_cases henabled : s.config.rateMetricsEnabled = true
  · rw [if_pos henabled, pending_access]
    simp [henabled]
  · rw [if_neg henabled]
    simp [henabled, pending]

theorem recordJob_of_routed {c : CameraId} {job : RetainedFrameJob} (h : JobOf c job)
    (as : List Access) : recordJob s job as = record s c as := by
  have hlt : job.info.cameraId.toNat < kMaxCameras := h ▸ c.isLt
  rw [recordJob, dif_pos hlt]
  exact congrArg (record s · as) (Fin.ext h)

theorem count_recordSource (sequence timestampNs nowNs : UInt64) (t : Tally) :
    (recordSource sequence timestampNs nowNs).count t.access = if t = .source then 1 else 0 := by
  unfold recordSource setFirstMonotonic
  split <;> cases t <;> rfl

theorem count_recordPublishSuccess (latencyNs : UInt64) (t : Tally) :
    (recordPublishSuccess latencyNs).count t.access = if t = .publish then 1 else 0 := by
  cases t <;> rfl

theorem count_recordAuxiliary (t : Tally) :
    recordAuxiliaryPublishSuccess.count t.access = if t = .auxiliary then 1 else 0 := by
  cases t <;> rfl

theorem count_recordDrop (t : Tally) :
    recordDrop.count t.access = if t = .drop then 1 else 0 := by
  cases t <;> rfl

theorem count_recordFailure (t : Tally) :
    recordPublishFailure.count t.access = if t = .failure then 1 else 0 := by
  cases t <;> rfl

theorem weigh_single (w : Tally → ℤ) (t : Tally) :
    weigh w (fun t' => if t' = t then 1 else 0) = w t := by
  cases t <;> simp [weigh]

/-! ### Laws -/

/-- Where a callback is, as one camera sees it. -/
inductive CallbackStage
  | away
  | holding
  | refused
  | failing
  deriving DecidableEq

def CallbackPc.stage (c : CameraId) : CallbackPc → CallbackStage
  | .retain _ c' _ _ => if c' = c then .holding else .away
  | .push _ c' _ => if c' = c then .holding else .away
  | .rejected _ c' _ => if c' = c then .refused else .away
  | .unwind _ => .failing
  | .leave true => .failing
  | _ => .away

inductive WorkerStage
  | away
  | holding
  | published
  | failing
  | ended
  deriving DecidableEq

def WorkerPc.stage : WorkerPc → WorkerStage
  | .pop => .away
  | .callSink _ => .holding
  | .publishImage _ => .holding
  | .publishInfo _ => .published
  | .reset _ => .away
  | .unwind _ => .failing
  | .finish true => .failing
  | .finish false => .ended
  | .finished => .ended

/-- What a count of the counter, a queued frame and a frame in the hands of a thread weigh.
A calm law is about the time before the first recorded failure or stop, a blocking law about
the block policy. -/
structure Law where
  weight : Tally → ℤ
  queued : ℤ
  callback : CallbackStage → ℤ
  worker : WorkerStage → ℤ
  calm : Bool
  blocking : Bool

namespace Law

/-- No move of a frame and no failure raises the total. -/
structure Sound (L : Law) (cameraInfo : Bool) : Prop where
  away : L.callback .away = 0
  source : L.callback .holding + L.weight .source ≤ 0
  push : L.queued ≤ L.callback .holding
  refuse : (L.calm = true ∧ L.blocking = true) ∨ L.callback .refused ≤ L.callback .holding
  drop : L.weight .drop ≤ L.callback .refused
  throwHolding : L.callback .failing ≤ L.callback .holding
  throwAway : L.callback .failing ≤ 0
  leave : L.calm = true ∨ 0 ≤ L.callback .failing
  detach : L.calm = true ∨ 0 ≤ L.queued
  pop : L.worker .holding ≤ L.worker .away + L.queued
  publish : L.worker .published + L.weight .publish ≤ L.worker .holding
  publishInfo : L.worker .away + (if cameraInfo then L.weight .auxiliary else 0) ≤
    L.worker .published
  stop : L.worker .ended ≤ L.worker .away
  throwSink : L.worker .failing ≤ L.worker .holding
  throwImage : L.worker .failing + L.weight .failure ≤ L.worker .holding
  throwInfo : L.worker .failing + L.weight .failure ≤ L.worker .published
  finish : L.worker .ended ≤ L.worker .failing

def value (L : Law) (c : CameraId) (s : Core D) : ℤ :=
  weigh L.weight (fun t => t.total (s.metrics c)) + L.queued * (jobsOf (s.queues c)).length

def callbackShare (L : Law) (c : CameraId) (l : Code CallbackPc) : ℤ :=
  L.callback (l.pc.stage c) + weigh L.weight (pending c l.pending)

def workerShare (L : Law) (c c' : CameraId) (l : Code WorkerPc) : ℤ :=
  (if c' = c then L.worker l.pc.stage else 0) + weigh L.weight (pending c l.pending)

def share (L : Law) (c : CameraId) : ∀ i : Thread D, Local i → ℤ
  | .owner, _ => 0
  | .dispatcher _, (l : Code CallbackPc) => L.callbackShare c l
  | .worker c', (l : Code WorkerPc) => L.workerShare c c' l

structure On (L : Law) (s : Core D) : Prop where
  enabled : s.startClaimed = true → s.config.rateMetricsEnabled = true
  calm : L.calm = true → s.failed = false ∧ s.stopRequested = false
  blocking : L.blocking = true → s.startClaimed = true → s.config.dropNewest = false

variable {L : Law} {c : CameraId}

theorem value_congr (hm : s'.metrics = s.metrics) (hq : s'.queues = s.queues) :
    L.value c s' = L.value c s := by rw [value, value, hm, hq]

theorem value_common (L : Law) (c : CameraId) (spurious : Bool) (s : Core D) (op : CommonOp)
    (ops : List CommonOp) :
    L.value c (op.exec spurious s).1 + weigh L.weight (pending c ((op.exec spurious s).2 ++ ops)) =
      L.value c s + weigh L.weight (pending c (op :: ops)) := by
  have hweigh := congrArg (weigh L.weight) (funext (common_tally spurious s c op ops))
  rw [weigh_add, weigh_add] at hweigh
  rw [value, value, (common_jobs spurious s op).2.2 c]
  linarith

theorem callbackShare_of (L : Law) (c : CameraId) (pc : CallbackPc) :
    L.callbackShare c (.of pc) = L.callback (pc.stage c) := by
  have hnone : pending c (Code.of pc).pending = fun _ => 0 := rfl
  rw [callbackShare, hnone, weigh_zero, add_zero]
  rfl

theorem callbackShare_failure (L : Law) (c : CameraId) :
    L.callbackShare c callbackFailure = L.callback .failing := by
  have hnone : pending c callbackFailure.pending = fun _ => 0 :=
    funext fun t => pending_eq_zero c (by
      simp [callbackFailure, closeAdmissionAndRequestStop, recordFailure]) t
  rw [callbackShare, hnone, weigh_zero, add_zero]
  rfl

theorem weigh_record (w : Tally → ℤ) (s : Core D) (c c' : CameraId) {as : List Access} {t₀ : Tally}
    (has : ∀ t : Tally, as.count t.access = if t = t₀ then 1 else 0) :
    weigh w (pending c (record s c' as)) =
      if s.config.rateMetricsEnabled = true ∧ c' = c then w t₀ else 0 := by
  rw [funext (pending_record s c c' as)]
  split
  · rw [funext has, weigh_single]
  · exact weigh_zero w

theorem value_setQueue (L : Law) (c c' : CameraId) {q q' : FrameQueue} (hq : s.queues c' = some q)
    (hm : s'.metrics = s.metrics) (hs : s'.queues = Function.update s.queues c' (some q')) :
    L.value c s' = L.value c s +
      if c' = c then L.queued * ((q'.queue.length : ℤ) - q.queue.length) else 0 := by
  rw [value, value, hm, hs]
  by_cases hc : c' = c
  · subst hc
    rw [Function.update_self, if_pos rfl, hq]
    show _ + L.queued * (q'.queue.length : ℤ) = _ + L.queued * (q.queue.length : ℤ) + _
    ring
  · rw [Function.update_of_ne (Ne.symm hc), if_neg hc, add_zero]

/-! ### One step -/

section Steps
variable {cameraInfo : Bool} {d : D} {l l' : Code CallbackPc}

theorem callback_le [DecidableEq D] (hS : L.Sound cameraInfo) (hL : Ledger s) (hQ : QueuesOk s)
    (hok : CallbackOk s d l) (hon : L.On s) (h : CallbackStep d s l s' l') :
    L.value c s' + L.callbackShare c l' ≤ L.value c s + L.callbackShare c l := by
  have haway := hS.away
  have hclaimed : ¬ Outside l → s.startClaimed = true := fun hin =>
    hL.claimed (hok.inside.resolve_left hin)
  cases h with
  | common spurious op ops pc =>
    have hvalue := value_common L c spurious s op ops
    simp only [callbackShare]
    linarith
  | info scan c' frame status info nowNs hindex hcheck hinfo =>
    have henabled := hon.enabled (hclaimed (by simp [Outside, Code.of]))
    have hsource := hS.source
    rw [callbackShare_of, callbackShare, weigh_record _ _ _ _ (count_recordSource _ _ _)]
    by_cases hc : c' = c
    · simp only [CallbackPc.stage, hc, henabled, and_self, if_true]
      linarith
    · simp only [CallbackPc.stage, hc, and_false, if_false]
      linarith
  | pushed scan c' job q q' hq hp =>
    obtain ⟨-, -, rfl⟩ := FrameQueue.push_eq_pushed.mp hp
    have hpush := hS.push
    have hvalue : L.value c ((s.arrive c' job .admitted q.queue.length).setQueue c'
        { q with queue := q.queue ++ [job] }) = _ := value_setQueue L c c' hq rfl rfl
    rw [hvalue, callbackShare_of, callbackShare_of]
    by_cases hc : c' = c
    · simp only [CallbackPc.stage, hc, if_true, List.length_append, List.length_singleton,
        Nat.cast_add, Nat.cast_one]
      linarith
    · simp only [CallbackPc.stage, hc, if_false]
      linarith
  | rejected scan c' job q outcome hq hp =>
    have hrefuse : L.callback .refused ≤ L.callback .holding := by
      refine hS.refuse.resolve_left fun hboth => ?_
      obtain ⟨hcalm, hblocking⟩ := hboth
      -- a queue that is open and blocks rejects nothing
      rcases FrameQueue.push_eq_rejected.mp hp with ⟨hstopped, -⟩ | ⟨-, hdrop, -⟩
      · have hrequested := hL.stoppedQueue c' q hq hstopped
        rw [(hon.calm hcalm).2] at hrequested
        cases hrequested
      · rw [(hQ c' q hq).dropNewest,
          hon.blocking hblocking (hclaimed (by simp [Outside, Code.of]))] at hdrop
        cases hdrop
    rw [callbackShare_of, callbackShare_of]
    show L.value c s + _ ≤ _
    by_cases hc : c' = c
    · simp only [CallbackPc.stage, hc, if_true]
      linarith
    · simp only [CallbackPc.stage, hc, if_false]
      exact le_refl _
  | dropped scan c' job =>
    have henabled := hon.enabled (hclaimed (by simp [Outside, Code.of]))
    have hdrop := hS.drop
    rw [callbackShare_of, callbackShare, weigh_record _ _ _ _ count_recordDrop]
    show L.value c s + _ ≤ _
    by_cases hc : c' = c
    · simp only [CallbackPc.stage, hc, henabled, and_self, if_true]
      linarith
    · simp only [CallbackPc.stage, hc, and_false, if_false]
      linarith
  | throwHeader set =>
    rw [callbackShare_of, callbackShare_failure]
    show L.value c s + _ ≤ _ + L.callback .away
    linarith [hS.throwAway]
  | throwItem scan =>
    rw [callbackShare_of, callbackShare_failure]
    show L.value c s + _ ≤ _ + L.callback .away
    linarith [hS.throwAway]
  | throwRetain scan c' frame info =>
    rw [callbackShare_of, callbackShare_failure]
    show L.value c s + _ ≤ _ + L.callback (if _ then _ else _)
    split <;> linarith [hS.throwAway, hS.throwHolding]
  | throwPush scan c' job q q' hq hp =>
    rw [callbackShare_of, callbackShare_of]
    show L.value c s + L.callback .failing ≤ _ + L.callback (if _ then _ else _)
    split <;> linarith [hS.throwAway, hS.throwHolding]
  | unwind job =>
    rw [callbackShare_of, callbackShare_failure]
    exact le_refl _
  | leave failed =>
    cases failed with
    | false => exact le_refl _
    | true =>
      -- the handler is done, and has requested the stop
      have hleave : 0 ≤ L.callback .failing := by
        refine hS.leave.resolve_left fun hcalm => ?_
        have hstopped : s.stopRequested = true := (hok.safe (.done .exchangeStop) (by
          simp [Code.of, handled, failureOps, closeAdmissionAndRequestStop])).2
        rw [(hon.calm hcalm).2] at hstopped
        cases hstopped
      rw [callbackShare_of, callbackShare_of]
      show L.value c s + L.callback .away ≤ _ + L.callback .failing
      linarith
  | _ => exact le_refl _

theorem workerShare_of (L : Law) (c c' : CameraId) (pc : WorkerPc) :
    L.workerShare c c' (.of pc) = if c' = c then L.worker pc.stage else 0 := by
  have hnone : pending c (Code.of pc).pending = fun _ => 0 := rfl
  rw [workerShare, hnone, weigh_zero, add_zero]
  rfl

theorem workerShare_failure (L : Law) (c c' : CameraId) :
    L.workerShare c c' workerFailure = if c' = c then L.worker .failing else 0 := by
  have hnone : pending c workerFailure.pending = fun _ => 0 :=
    funext fun t => pending_eq_zero c (by
      simp [workerFailure, closeAdmissionAndRequestStop, recordFailure]) t
  rw [workerShare, hnone, weigh_zero, add_zero]
  rfl

theorem workerShare_record (L : Law) (c c' : CameraId) {job : RetainedFrameJob}
    (hjob : JobOf c' job) (henabled : s.config.rateMetricsEnabled = true) {as : List Access}
    {t₀ : Tally} (has : ∀ t : Tally, as.count t.access = if t = t₀ then 1 else 0)
    (pc : WorkerPc) : L.workerShare c c' ⟨recordJob s job as, pc⟩ =
      if c' = c then L.worker pc.stage + L.weight t₀ else 0 := by
  rw [workerShare, recordJob_of_routed hjob, weigh_record _ _ _ _ has]
  by_cases hc : c' = c
  · simp only [hc, henabled, and_self, if_true]
  · simp only [hc, and_false, if_false, add_zero]

theorem worker_le {c' : CameraId} {l l' : Code WorkerPc} (hS : L.Sound cameraInfo)
    (hL : Ledger s) (hok : WorkerOk s c' l) (hrouted : WorkerRouted c' l) (hon : L.On s)
    (hrunning : s.workers c' = .running) (h : WorkerStep cameraInfo c' s l s' l') :
    L.value c s' + L.workerShare c c' l' ≤ L.value c s + L.workerShare c c' l := by
  have henabled := hon.enabled (hL.claimed (hL.workers c' (by simp [hrunning])))
  cases h with
  | common spurious op ops pc =>
    have hvalue := value_common L c spurious s op ops
    simp only [workerShare]
    linarith
  | popped q job q' hq hp =>
    obtain ⟨-, rest, hqueue, rfl⟩ := FrameQueue.pop_eq_popped.mp hp
    have hpop := hS.pop
    have hvalue : L.value c { s.setQueue c' { q with queue := rest } with
        popped := Function.update s.popped c' (s.popped c' ++ [job]) } = _ :=
      value_setQueue L c c' hq rfl rfl
    rw [hvalue, workerShare_of, workerShare_of, hqueue]
    by_cases hc : c' = c
    · simp only [WorkerPc.stage, hc, if_true, List.length_cons, Nat.cast_add, Nat.cast_one]
      linarith
    · simp only [hc, if_false]
      linarith
  | stopped q hq hp =>
    rw [workerShare_of, workerShare_of]
    show _ + (if _ then L.worker .ended else _) ≤ _ + if _ then L.worker .away else _
    split <;> linarith [hS.stop]
  | callSink job =>
    rw [workerShare_of, workerShare_of]
    exact le_refl _
  | throwCall job =>
    rw [workerShare_of, workerShare_of]
    show L.value c s + (if _ then L.worker .failing else _) ≤
      _ + if _ then L.worker .holding else _
    split <;> linarith [hS.throwSink]
  | published job latencyNs =>
    have hjob : JobOf c' job := hrouted job (List.mem_singleton_self _)
    rw [workerShare_of, workerShare_record L c c' hjob henabled (count_recordPublishSuccess _)]
    show _ + (if _ then L.worker .published + _ else _) ≤ _ + if _ then L.worker .holding else _
    split <;> linarith [hS.publish]
  | throwImage job =>
    have hjob : JobOf c' job := hrouted job (List.mem_singleton_self _)
    rw [workerShare_of, workerShare_record L c c' hjob henabled count_recordFailure]
    show L.value c s + (if _ then L.worker .failing + _ else _) ≤
      _ + if _ then L.worker .holding else _
    split <;> linarith [hS.throwImage]
  | publishedInfo job =>
    have hjob : JobOf c' job := hrouted job (List.mem_singleton_self _)
    have hinfo := hS.publishInfo
    rw [workerShare_of]
    cases cameraInfo with
    | true =>
      rw [if_pos rfl] at hinfo ⊢
      rw [workerShare_record L c c' hjob henabled count_recordAuxiliary]
      show _ + (if _ then L.worker .away + _ else _) ≤ _ + if _ then L.worker .published else _
      split <;> linarith
    | false =>
      rw [if_neg (by simp)] at hinfo ⊢
      show _ + L.workerShare c c' (.of (.reset job)) ≤ _ + if _ then L.worker .published else _
      rw [workerShare_of]
      show _ + (if _ then L.worker .away else _) ≤ _
      split <;> linarith
  | throwInfo job =>
    have hjob : JobOf c' job := hrouted job (List.mem_singleton_self _)
    rw [workerShare_of, workerShare_record L c c' hjob henabled count_recordFailure]
    show L.value c s + (if _ then L.worker .failing + _ else _) ≤
      _ + if _ then L.worker .published else _
    split <;> linarith [hS.throwInfo]
  | reset job => exact le_refl _
  | unwind job =>
    rw [workerShare_of, workerShare_failure]
    exact le_refl _
  | finish failed =>
    cases failed with
    | false => exact le_refl _
    | true =>
      rw [workerShare_of, workerShare_of]
      show L.value c s + (if _ then L.worker .ended else _) ≤
        _ + if _ then L.worker .failing else _
      split <;> linarith [hS.finish]

theorem owner_le {op : OwnerOp} {rest : List OwnerOp} {detached detached' : List RetainedFrameJob}
    (hS : L.Sound cameraInfo) (hsafe : rules.Safe (Holds s) (op :: rest)) (hon : L.On s)
    (hmetrics : ∀ c a, op ≠ .common (.access c a)) (h : OwnerEffect s detached op s' detached') :
    L.value c s' ≤ L.value c s := by
  cases h with
  | quiet _ _ hq => exact le_of_eq (value_congr hq.metrics hq.queues)
  | common op =>
    have hop : ∀ c a, op ≠ .access c a := fun c a ho => hmetrics c a (by rw [ho])
    obtain ⟨hm, -⟩ := common_metrics false s hop
    rw [value, value, hm, (common_jobs false s op).2.2 c]
  -- an empty queue where there was none
  | makeQueue c' henabled =>
    have hnone : s.queues c' = none := hsafe.1 (.noQueue c') (by simp)
    show _ + L.queued * _ ≤ _ + L.queued * _
    by_cases hc : c' = c
    · subst hc
      rw [(s.setQueue_self c' _), hnone]
      exact le_refl _
    · rw [s.setQueue_of_ne _ (Ne.symm hc)]
      exact le_refl _
  | detach c' q hq =>
    -- a calm law has nothing to say once the stop is requested
    have hdetach : 0 ≤ L.queued := by
      refine hS.detach.resolve_left fun hcalm => ?_
      have hstopped : s.stopRequested = true := hsafe.1 (.done .exchangeStop) (by simp)
      rw [(hon.calm hcalm).2] at hstopped
      cases hstopped
    have hvalue : L.value c (s.setQueue c' q.stopAndDetach) = _ :=
      value_setQueue L c c' hq rfl rfl
    rw [hvalue]
    split
    · have hlength : (0 : ℤ) ≤ L.queued * q.queue.length :=
        mul_nonneg hdetach (Int.natCast_nonneg _)
      show _ + L.queued * ((([] : List RetainedFrameJob).length : ℤ) - _) ≤ _
      rw [List.length_nil, Nat.cast_zero, zero_sub, mul_neg]
      linarith
    · linarith
  | _ => exact le_refl _

end Steps
end Law

end RoboBaton.Camera
